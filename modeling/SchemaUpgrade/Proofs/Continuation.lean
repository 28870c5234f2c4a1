import SchemaUpgrade.Proofs.Mismatch
/-!
# When keys continue a history

Ascending keys continue a history exactly when the history is a beginning of them, and then the
resume point is the last key of the history (`History.resumePoint_eq_ok_iff`).  A history in
ascending order is never called unsorted (`History.resumePoint_ne_unsorted`), whatever the keys.
`History.resumePoint_classifies` says of every answer of the check when it is given.

A key is still to be applied when it is greater than the last recorded one, so among ascending keys
those still to be applied come last (`History.filter_pending`), and none of them is recorded
(`History.not_mem_of_isPending`).  A key that is neither recorded nor greater is in the way of any
continuation (`History.exists_mismatch_of_late`).

## Main definitions

* `History.Classified`: when each answer of the check is given.
-/

namespace SchemaUpgrade.History

variable {given recorded : List String} {resume : Option String}

theorem le_of_getLast? {keys : List String} {key last : String} (hsorted : keys.Pairwise (· ≤ ·))
    (hmem : key ∈ keys) (hlast : keys.getLast? = some last) : key ≤ last := by
  obtain ⟨front, rfl⟩ := List.getLast?_eq_some_iff.1 hlast
  rcases List.mem_append.1 hmem with hfront | hself
  · exact (List.pairwise_append.1 hsorted).2.2 key hfront last List.mem_cons_self
  · exact List.eq_of_mem_singleton hself ▸ String.le_refl key

/-! ## The check -/

theorem resumePoint_of_starts (hsorted : given.Pairwise (· ≤ ·)) (hstarts : recorded <+: given) :
    resumePoint given recorded = .ok recorded.getLast? := by
  cases hlast : recorded.getLast? with
  | none => rw [resumePoint, hlast]
  | some last =>
    have hascending : recorded.Pairwise (· ≤ ·) := hsorted.sublist hstarts.sublist
    have hlength := hstarts.length_le
    have hmem : last ∈ given := hstarts.subset (List.mem_of_getLast? hlast)
    have hbound : ¬ lastGiven given < last := by
      rw [lastGiven]
      cases hgiven : given.getLast? with
      | none => exact absurd (List.getLast?_eq_none_iff.1 hgiven) (List.ne_nil_of_mem hmem)
      | some other => exact String.not_lt.2 (le_of_getLast? hsorted hmem hgiven)
    rw [resumePoint_of_ascending hascending hlast, if_neg hbound, if_neg (Nat.not_lt.2 hlength),
      (firstMismatch?_eq_none_iff hlength).2 hstarts]

/-- A resume point that was found is the last recorded key, and the given keys start with the
recorded ones. -/
theorem resumePoint_eq_ok (h : resumePoint given recorded = .ok resume) :
    resume = recorded.getLast? ∧ recorded <+: given := by
  have hfinding := finding_resumePoint given recorded
  rw [h] at hfinding
  cases hfinding with
  | nothing hnone =>
    subst hnone
    exact ⟨rfl, List.nil_prefix⟩
  | continued hlast hstarts => exact ⟨hlast.symm, hstarts⟩

/-- Ascending keys continue exactly the histories that they start with. -/
theorem resumePoint_eq_ok_iff (hsorted : given.Pairwise (· ≤ ·)) :
    resumePoint given recorded = .ok resume ↔ resume = recorded.getLast? ∧ recorded <+: given :=
  ⟨resumePoint_eq_ok, fun ⟨hresume, hstarts⟩ =>
    hresume ▸ resumePoint_of_starts hsorted hstarts⟩

theorem resumePoint_ne_unsorted (h : recorded.Pairwise (· ≤ ·)) (previous next : String) :
    resumePoint given recorded ≠ .error (.unsorted previous next) := by
  rw [ne_eq, resumePoint_eq_unsorted_iff, ← firstDescent?_eq_some_iff,
    firstDescent?_eq_none_iff.2 h]
  simp

/-! ## The classification -/

/-- When the check of a history gives each of its answers. -/
structure Classified (given recorded : List String)
    (answer : Except HistoryError (Option String)) : Prop where
  /-- The history is accepted exactly if it is a beginning of the given keys, and then its last key
  is the point from which to resume. -/
  accepted : ∀ resume, answer = .ok resume ↔ recorded <+: given ∧ resume = recorded.getLast?
  /-- There is no such point exactly if nothing was recorded. -/
  start : answer = .ok none ↔ recorded = []
  /-- The point from which to resume is the greatest recorded key. -/
  greatest : ∀ last, answer = .ok (some last) → last ∈ recorded ∧ ∀ key ∈ recorded, key ≤ last
  /-- A history out of order is told with its first descent. -/
  unsorted : ∀ previous next,
    answer = .error (.unsorted previous next) ↔ FirstDescent recorded previous next
  /-- A history is called unsorted exactly if it does not ascend. -/
  outOfOrder : (∃ previous next, answer = .error (.unsorted previous next)) ↔
    ¬ recorded.Pairwise (· ≤ ·)
  /-- Of a history in order, it is looked first whether the given keys reach its last one. -/
  tooOld : ∀ pending applied, answer = .error (.tooOld pending applied) ↔
    recorded.Pairwise (· ≤ ·) ∧ recorded.getLast? = some applied ∧
      pending = lastGiven given ∧ pending < applied
  /-- Of the keys that reach it, it is told how many are missing, or else where they differ. -/
  unrelated : ∀ reason, answer = .error (.unrelated reason) ↔
    recorded.Pairwise (· ≤ ·) ∧
      (∀ last, recorded.getLast? = some last → last ≤ lastGiven given) ∧
      Unrelated given recorded reason

/-- The check of a history against ascending keys accepts exactly the beginnings of the keys, and
tells of any other history the first reason that applies. -/
theorem resumePoint_classifies (hsorted : given.Pairwise (· ≤ ·)) :
    Classified given recorded (resumePoint given recorded) where
  accepted resume := by
    rw [resumePoint_eq_ok_iff hsorted, and_comm]
  start := by
    rw [resumePoint_eq_ok_iff hsorted]
    constructor
    · rintro ⟨hnone, -⟩
      exact List.getLast?_eq_none_iff.1 hnone.symm
    · rintro rfl
      exact ⟨rfl, List.nil_prefix⟩
  greatest last h := by
    obtain ⟨hlast, hstarts⟩ := resumePoint_eq_ok h
    exact ⟨List.mem_of_getLast? hlast.symm, fun key hmem =>
      le_of_getLast? (hsorted.sublist hstarts.sublist) hmem hlast.symm⟩
  unsorted previous next := resumePoint_eq_unsorted_iff
  outOfOrder := by
    rw [← firstDescent?_eq_none_iff]
    cases hdescent : firstDescent? recorded with
    | none =>
      refine iff_of_false ?_ (by simp)
      rintro ⟨previous, next, h⟩
      rw [resumePoint_eq_unsorted_iff, ← firstDescent?_eq_some_iff, hdescent] at h
      simp at h
    | some pair =>
      refine iff_of_true ⟨pair.1, pair.2, ?_⟩ (by simp)
      rw [resumePoint_eq_unsorted_iff, ← firstDescent?_eq_some_iff, hdescent]
  tooOld pending applied := resumePoint_eq_tooOld_iff
  unrelated reason := resumePoint_eq_unrelated_iff

/-- Keys that end as the history does, and differ from it in the middle. -/
theorem resumePoint_classifies_otherMiddle :
    ["01", "02", "02", "04"].Pairwise (· ≤ ·) ∧
      Classified ["01", "02", "02", "04"] ["01", "02", "03", "04"]
        (.error (.unrelated "migration #2 is '02' but '03' was applied")) := by
  have hsorted : ["01", "02", "02", "04"].Pairwise (· ≤ ·) := by decide
  have hanswer : resumePoint ["01", "02", "02", "04"] ["01", "02", "03", "04"]
      = .error (.unrelated "migration #2 is '02' but '03' was applied") := rfl
  exact ⟨hsorted, hanswer ▸ resumePoint_classifies hsorted⟩

/-! ## Pending keys -/

theorem isPending_getLast?_iff {key : String} :
    isPending recorded.getLast? key = true
      ↔ ∀ last, recorded.getLast? = some last → last < key := by
  cases recorded.getLast? with
  | none => simp [isPending]
  | some last => simp [isPending]

theorem isPending_mono {a b : String} (hab : a ≤ b) (h : isPending resume a = true) :
    isPending resume b = true := by
  cases resume with
  | none => rfl
  | some last =>
    have hlast : last < a := of_decide_eq_true h
    exact decide_eq_true (Std.lt_of_lt_of_le hlast hab)

/-- Where the keys ascend strictly and start with the recorded ones, these are the keys that are not
to be applied any more. -/
theorem filter_not_isPending (hascending : given.Pairwise (· < ·)) (hstarts : recorded <+: given) :
    given.filter (fun key => !isPending recorded.getLast? key) = recorded := by
  obtain ⟨rest, rfl⟩ := hstarts
  obtain ⟨hrecorded, -, habove⟩ := List.pairwise_append.1 hascending
  have hle : recorded.Pairwise (· ≤ ·) := hrecorded.imp fun hlt => Std.le_of_lt hlt
  have hold : ∀ key ∈ recorded, (!isPending recorded.getLast? key) = true := by
    intro key hmem
    cases hlast : recorded.getLast? with
    | none => exact absurd (List.getLast?_eq_none_iff.1 hlast) (List.ne_nil_of_mem hmem)
    | some last =>
      have hbelow := le_of_getLast? hle hmem hlast
      have hsettled : isPending (some last) key = false := decide_eq_false (String.not_lt.2 hbelow)
      rw [hsettled]
      rfl
  have hnew : ∀ key ∈ rest, ¬ (!isPending recorded.getLast? key) = true := by
    intro key hmem
    have hpending : isPending recorded.getLast? key = true :=
      isPending_getLast?_iff.2 fun last hlast => habove last (List.mem_of_getLast? hlast) key hmem
    rw [hpending]
    decide
  rw [List.filter_append, List.filter_eq_self.2 hold, List.filter_eq_nil_iff.2 hnew,
    List.append_nil]

/-- Where the keys continue the history, no recorded key is still to be applied. -/
theorem not_mem_of_isPending {key : String} (hsorted : given.Pairwise (· ≤ ·))
    (hresume : resumePoint given recorded = .ok resume) (hpending : isPending resume key = true) :
    key ∉ recorded := by
  intro hmem
  obtain ⟨rfl, hstarts⟩ := resumePoint_eq_ok hresume
  cases hlast : recorded.getLast? with
  | none => exact absurd (List.getLast?_eq_none_iff.1 hlast) (List.ne_nil_of_mem hmem)
  | some last =>
    have hbelow := le_of_getLast? (hsorted.sublist hstarts.sublist) hmem hlast
    exact hbelow (isPending_getLast?_iff.1 hpending last hlast)

/-- The last key of all is the point after which nothing is left. -/
theorem isPending_getLast?_of_mem {key : String} (hsorted : given.Pairwise (· ≤ ·))
    (hmem : key ∈ given) : isPending given.getLast? key = false := by
  have hresume := resumePoint_of_starts hsorted (List.prefix_refl given)
  exact Bool.eq_false_iff.2 fun hpending => not_mem_of_isPending hsorted hresume hpending hmem

/-- Ascending keys do not continue a history that has passed over one of them: a key that is not
recorded although it does not come after the last recorded one. -/
theorem exists_mismatch_of_late {key last : String} (hsorted : given.Pairwise (· ≤ ·))
    (hlast : recorded.getLast? = some last) (hgiven : key ∈ given) (hnew : key ∉ recorded)
    (hlate : ¬ last < key) : ∃ mismatch, resumePoint given recorded = .error mismatch := by
  cases hresume : resumePoint given recorded with
  | error mismatch => exact ⟨mismatch, rfl⟩
  | ok resume =>
    obtain ⟨-, rest, rfl⟩ := resumePoint_eq_ok hresume
    have hrest : key ∈ rest := (List.mem_append.1 hgiven).resolve_left hnew
    have hrecorded : last ∈ recorded := List.mem_of_getLast? hlast
    have habove : last ≤ key := (List.pairwise_append.1 hsorted).2.2 last hrecorded key hrest
    have hsame : key = last := String.le_antisymm (String.not_lt.1 hlate) habove
    exact absurd (hsame ▸ hrecorded) hnew

/-- Among elements in the order of their keys, those still to be applied come last. -/
theorem filter_pending {α : Type} {key : α → String} {elements : List α}
    (hsorted : elements.Pairwise fun a b => key a ≤ key b) :
    (elements.filter fun a => !isPending resume (key a))
        ++ elements.filter (fun a => isPending resume (key a)) = elements := by
  induction elements with
  | nil => rfl
  | cons a rest ih =>
    obtain ⟨hfirst, hrest⟩ := List.pairwise_cons.1 hsorted
    cases ha : isPending resume (key a) with
    | false =>
      rw [List.filter_cons_of_pos (by simp [ha]), List.filter_cons_of_neg (by simp [ha]),
        List.cons_append, ih hrest]
    | true =>
      have hall : ∀ b ∈ a :: rest, isPending resume (key b) = true := by
        intro b hb
        rcases List.mem_cons.1 hb with rfl | hb
        · exact ha
        · exact isPending_mono (hfirst b hb) ha
      rw [List.filter_eq_nil_iff.2 fun b hb => by simp [hall b hb], List.nil_append,
        List.filter_eq_self.2 hall]

end SchemaUpgrade.History
