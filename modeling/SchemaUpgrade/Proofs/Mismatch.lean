import SchemaUpgrade.History
/-!
# Why keys do not continue a history

A history that the given keys do not continue is refused, and the refusal names one of three
reasons: the history is not in ascending order, the given keys end too early, or the keys are others
than those recorded.  Each reason is said here without the check (`History.FirstDescent`,
`History.FirstDifference`, `History.Unrelated`).

The rules of the check are asked in order, so a reason that comes later holds only where those
before it do not.  `History.finding_resumePoint` is the one place where the check is taken apart:
whatever it answers, its rules found it.  That the last rule finds a difference whenever the history
is no beginning of the keys is what makes the rules cover everything.

## Main definitions

* `History.FirstDescent`: the first key that is greater than its successor.
* `History.FirstDifference`: the first place where two lists hold different keys.
* `History.Finding`: what the rules can find, with the answer to it.
-/

namespace SchemaUpgrade.History

variable {given recorded : List String}

/-! ## Keys out of order -/

/-- No key is greater than its successor exactly when the keys are in ascending order. -/
theorem firstDescent?_eq_none_iff {keys : List String} :
    firstDescent? keys = none ↔ keys.Pairwise (· ≤ ·) := by
  induction keys with
  | nil => simp [firstDescent?]
  | cons a rest ih =>
    cases rest with
    | nil => simp [firstDescent?]
    | cons b rest =>
      rw [firstDescent?]
      by_cases h : b < a
      · rw [if_pos h]
        refine iff_of_false (by simp) fun hsorted => ?_
        have hab : a ≤ b := (List.pairwise_cons.1 hsorted).1 b List.mem_cons_self
        exact hab h
      · rw [if_neg h, ih]
        refine ⟨fun hsorted => List.pairwise_cons.2 ⟨fun c hc => ?_, hsorted⟩,
          List.Pairwise.of_cons⟩
        have hab : a ≤ b := h
        rcases List.mem_cons.1 hc with rfl | hc
        · exact hab
        · exact String.le_trans hab ((List.pairwise_cons.1 hsorted).1 c hc)

/-- `previous` stands just before `next` although it is greater, and up to it the keys ascend. -/
def FirstDescent (keys : List String) (previous next : String) : Prop :=
  ∃ front back, keys = front ++ previous :: next :: back ∧
    (front ++ [previous]).Pairwise (· ≤ ·) ∧ next < previous

/-- A first key that is not greater than its successor is passed over. -/
theorem firstDescent_cons_iff {a b previous next : String} {rest : List String} (hab : a ≤ b) :
    FirstDescent (a :: b :: rest) previous next ↔ FirstDescent (b :: rest) previous next := by
  constructor
  · rintro ⟨front, back, hsplit, hfront, hdescent⟩
    cases front with
    | nil =>
      obtain ⟨rfl, hrest⟩ := List.cons.inj hsplit
      obtain ⟨rfl, -⟩ := List.cons.inj hrest
      exact absurd hdescent hab
    | cons first front =>
      obtain ⟨-, hrest⟩ := List.cons.inj hsplit
      exact ⟨front, back, hrest, hfront.of_cons, hdescent⟩
  · rintro ⟨front, back, hsplit, hfront, hdescent⟩
    have hfirst : (front ++ [previous]).head? = some b := by
      cases front <;> simp_all
    obtain ⟨others, hothers⟩ := List.head?_eq_some_iff.1 hfirst
    refine ⟨a :: front, back, by rw [hsplit]; rfl, ?_, hdescent⟩
    rw [hothers] at hfront
    rw [List.cons_append, hothers]
    refine List.pairwise_cons.2 ⟨fun key hmem => ?_, hfront⟩
    rcases List.mem_cons.1 hmem with rfl | hother
    · exact hab
    · exact String.le_trans hab ((List.pairwise_cons.1 hfront).1 key hother)

theorem firstDescent?_eq_some_iff {keys : List String} {previous next : String} :
    firstDescent? keys = some (previous, next) ↔ FirstDescent keys previous next := by
  induction keys with
  | nil => simp [firstDescent?, FirstDescent]
  | cons a rest ih =>
    cases rest with
    | nil =>
      refine iff_of_false (by simp [firstDescent?]) ?_
      rintro ⟨front, back, hsplit, -⟩
      have hlength := congrArg List.length hsplit
      simp only [List.length_append, List.length_cons, List.length_nil] at hlength
      omega
    | cons b rest =>
      rw [firstDescent?]
      by_cases hba : b < a
      · rw [if_pos hba]
        constructor
        · intro h
          obtain ⟨rfl, rfl⟩ := Prod.mk.inj (Option.some.inj h)
          exact ⟨[], rest, rfl, List.pairwise_singleton _ _, hba⟩
        · rintro ⟨front, back, hsplit, hfront, -⟩
          cases front with
          | nil =>
            obtain ⟨rfl, hrest⟩ := List.cons.inj hsplit
            obtain ⟨rfl, -⟩ := List.cons.inj hrest
            rfl
          | cons first front =>
            obtain ⟨rfl, hrest⟩ := List.cons.inj hsplit
            have hmem : b ∈ front ++ [previous] := by
              cases front <;> simp_all
            exact absurd hba ((List.pairwise_cons.1 hfront).1 b hmem)
      · rw [if_neg hba, ih]
        exact (firstDescent_cons_iff (String.not_lt.1 hba)).symm

/-! ## Other keys -/

/-- Two lists that hold the same keys as far as both go, with the second no longer than the first:
the first starts with the second. -/
theorem firstMismatch?_eq_none_iff {index : Nat} (hlength : recorded.length ≤ given.length) :
    firstMismatch? index given recorded = none ↔ recorded <+: given := by
  induction recorded generalizing index given with
  | nil => simp [firstMismatch?]
  | cons r recorded ih =>
    cases given with
    | nil => exact absurd hlength (by simp)
    | cons g given =>
      rw [List.length_cons, List.length_cons, Nat.add_le_add_iff_right] at hlength
      rw [firstMismatch?, List.cons_prefix_cons]
      by_cases h : g = r
      · rw [if_pos h, ih hlength]
        exact ⟨fun hstarts => ⟨h.symm, hstarts⟩, And.right⟩
      · rw [if_neg h]
        exact iff_of_false (by simp) fun hstarts => h hstarts.1.symm

/-- At `index` the two lists hold the keys `g` and `r`, which differ, and before it they agree. -/
structure FirstDifference (given recorded : List String) (index : Nat) (g r : String) : Prop where
  before : given.take index = recorded.take index
  given : given[index]? = some g
  recorded : recorded[index]? = some r
  differ : g ≠ r

theorem firstDifference_cons_iff {a b g r : String} {index : Nat} :
    FirstDifference (a :: given) (b :: recorded) index g r ↔
      (a ≠ b ∧ index = 0 ∧ g = a ∧ r = b) ∨
        (a = b ∧ ∃ later, index = later + 1 ∧ FirstDifference given recorded later g r) := by
  constructor
  · rintro ⟨hbefore, hgiven, hrecorded, hdiffer⟩
    cases index with
    | zero =>
      obtain rfl := Option.some.inj hgiven
      obtain rfl := Option.some.inj hrecorded
      exact .inl ⟨hdiffer, rfl, rfl, rfl⟩
    | succ later =>
      obtain ⟨hfirst, hrest⟩ := List.cons.inj hbefore
      exact .inr ⟨hfirst, later, rfl, hrest, hgiven, hrecorded, hdiffer⟩
  · rintro (⟨hab, rfl, rfl, rfl⟩ | ⟨rfl, later, rfl, hbefore, hgiven, hrecorded, hdiffer⟩)
    · exact ⟨rfl, rfl, rfl, hab⟩
    · exact ⟨congrArg (a :: ·) hbefore, hgiven, hrecorded, hdiffer⟩

theorem firstMismatch?_eq_some_iff {start place : Nat} {g r : String} :
    firstMismatch? start given recorded = some (place, g, r) ↔
      ∃ index, place = start + index ∧ FirstDifference given recorded index g r := by
  induction given generalizing start recorded with
  | nil =>
    refine iff_of_false (by simp [firstMismatch?]) ?_
    rintro ⟨index, -, h⟩
    simpa using h.given
  | cons a given ih =>
    cases recorded with
    | nil =>
      refine iff_of_false (by simp [firstMismatch?]) ?_
      rintro ⟨index, -, h⟩
      simpa using h.recorded
    | cons b recorded =>
      rw [firstMismatch?]
      by_cases hab : a = b
      · rw [if_pos hab, ih]
        constructor
        · rintro ⟨index, rfl, h⟩
          exact ⟨index + 1, by omega, firstDifference_cons_iff.2 (.inr ⟨hab, index, rfl, h⟩)⟩
        · rintro ⟨index, rfl, h⟩
          rcases firstDifference_cons_iff.1 h with ⟨hne, -⟩ | ⟨-, later, rfl, hlater⟩
          · exact absurd hab hne
          · exact ⟨later, by omega, hlater⟩
      · rw [if_neg hab]
        constructor
        · intro h
          simp only [Option.some.injEq, Prod.mk.injEq] at h
          obtain ⟨rfl, rfl, rfl⟩ := h
          exact ⟨0, rfl, firstDifference_cons_iff.2 (.inl ⟨hab, rfl, rfl, rfl⟩)⟩
        · rintro ⟨index, rfl, h⟩
          rcases firstDifference_cons_iff.1 h with ⟨-, rfl, rfl, rfl⟩ | ⟨heq, -⟩
          · rfl
          · exact absurd heq hab

/-- Why the given keys are unrelated to the history: they are fewer, or one differs. -/
inductive Unrelated (given recorded : List String) : String → Prop where
  | fewer (h : given.length < recorded.length) :
      Unrelated given recorded (tooFewReason recorded.length given.length)
  | other {index : Nat} {g r : String} (hlength : recorded.length ≤ given.length)
      (h : FirstDifference given recorded index g r) :
      Unrelated given recorded (mismatchReason index g r)

/-! ## The rules -/

/-- The last of the given keys; the empty key stands for the last of none. -/
def lastGiven (given : List String) : String :=
  given.getLast?.getD ""

/-- The answers of the check, each with what the rules found. -/
inductive Finding (given recorded : List String) : Except HistoryError (Option String) → Prop where
  | nothing (hnone : recorded = []) : Finding given recorded (.ok none)
  | unsorted {previous next : String} (h : FirstDescent recorded previous next) :
      Finding given recorded (.error (.unsorted previous next))
  | tooOld {last : String} (hascending : recorded.Pairwise (· ≤ ·))
      (hlast : recorded.getLast? = some last) (hold : lastGiven given < last) :
      Finding given recorded (.error (.tooOld (lastGiven given) last))
  | unrelated {last reason : String} (hascending : recorded.Pairwise (· ≤ ·))
      (hlast : recorded.getLast? = some last) (hreaches : last ≤ lastGiven given)
      (h : Unrelated given recorded reason) :
      Finding given recorded (.error (.unrelated reason))
  | continued {last : String} (hlast : recorded.getLast? = some last)
      (hstarts : recorded <+: given) : Finding given recorded (.ok (some last))

/-- What the check does with a history in ascending order that is not empty. -/
theorem resumePoint_of_ascending {last : String} (hascending : recorded.Pairwise (· ≤ ·))
    (hlast : recorded.getLast? = some last) :
    resumePoint given recorded =
      if lastGiven given < last then .error (.tooOld (lastGiven given) last)
      else if given.length < recorded.length then
        .error (.unrelated (tooFewReason recorded.length given.length))
      else match firstMismatch? 0 given recorded with
        | some (index, g, r) => .error (.unrelated (mismatchReason index g r))
        | none => .ok (some last) := by
  simp only [resumePoint, hlast, firstDescent?_eq_none_iff.2 hascending]
  rfl

/-- Whatever the check answers, the rules found it. -/
theorem finding_resumePoint (given recorded : List String) :
    Finding given recorded (resumePoint given recorded) := by
  cases hlast : recorded.getLast? with
  | none =>
    rw [resumePoint, hlast]
    exact .nothing (List.getLast?_eq_none_iff.1 hlast)
  | some last =>
    cases hdescent : firstDescent? recorded with
    | some pair =>
      simp only [resumePoint, hlast, hdescent]
      exact .unsorted (firstDescent?_eq_some_iff.1 hdescent)
    | none =>
      have hascending := firstDescent?_eq_none_iff.1 hdescent
      rw [resumePoint_of_ascending hascending hlast]
      by_cases hold : lastGiven given < last
      · rw [if_pos hold]
        exact .tooOld hascending hlast hold
      · have hreaches := String.not_lt.1 hold
        rw [if_neg hold]
        by_cases hfew : given.length < recorded.length
        · rw [if_pos hfew]
          exact .unrelated hascending hlast hreaches (.fewer hfew)
        · have hlength := Nat.not_lt.1 hfew
          rw [if_neg hfew]
          cases hmismatch : firstMismatch? 0 given recorded with
          | none => exact .continued hlast ((firstMismatch?_eq_none_iff hlength).1 hmismatch)
          | some place =>
            obtain ⟨start, g, r⟩ := place
            obtain ⟨index, hindex, h⟩ := firstMismatch?_eq_some_iff.1 hmismatch
            obtain rfl : start = index := by omega
            exact .unrelated hascending hlast hreaches (.other hlength h)

theorem resumePoint_eq_unsorted_iff {previous next : String} :
    resumePoint given recorded = .error (.unsorted previous next) ↔
      FirstDescent recorded previous next := by
  constructor
  · intro h
    have hfinding := finding_resumePoint given recorded
    rw [h] at hfinding
    cases hfinding
    assumption
  · intro h
    have hdescent := firstDescent?_eq_some_iff.2 h
    cases hlast : recorded.getLast? with
    | none =>
      rw [List.getLast?_eq_none_iff.1 hlast] at hdescent
      simp [firstDescent?] at hdescent
    | some last => simp only [resumePoint, hlast, hdescent]

theorem resumePoint_eq_tooOld_iff {pending applied : String} :
    resumePoint given recorded = .error (.tooOld pending applied) ↔
      recorded.Pairwise (· ≤ ·) ∧ recorded.getLast? = some applied ∧
        pending = lastGiven given ∧ pending < applied := by
  constructor
  · intro h
    have hfinding := finding_resumePoint given recorded
    rw [h] at hfinding
    cases hfinding with
    | tooOld hascending hlast hold => exact ⟨hascending, hlast, rfl, hold⟩
  · rintro ⟨hascending, hlast, rfl, hold⟩
    rw [resumePoint_of_ascending hascending hlast, if_pos hold]

theorem resumePoint_eq_unrelated_iff {reason : String} :
    resumePoint given recorded = .error (.unrelated reason) ↔
      recorded.Pairwise (· ≤ ·) ∧
        (∀ last, recorded.getLast? = some last → last ≤ lastGiven given) ∧
        Unrelated given recorded reason := by
  constructor
  · intro h
    have hfinding := finding_resumePoint given recorded
    rw [h] at hfinding
    cases hfinding with
    | unrelated hascending hlast hreaches h =>
      refine ⟨hascending, fun last hlast' => ?_, h⟩
      obtain rfl := Option.some.inj (hlast.symm.trans hlast')
      exact hreaches
  · rintro ⟨hascending, hreaches, hunrelated⟩
    -- In both cases something is recorded that the given keys do not have in its place.
    have hrecorded : recorded ≠ [] := by
      rintro rfl
      cases hunrelated with
      | fewer h => simp at h
      | other _ h => simpa using h.recorded
    cases hlast : recorded.getLast? with
    | none => exact absurd (List.getLast?_eq_none_iff.1 hlast) hrecorded
    | some last =>
      rw [resumePoint_of_ascending hascending hlast,
        if_neg (String.not_lt.2 (hreaches last hlast))]
      cases hunrelated with
      | fewer h => rw [if_pos h]
      | @other index g r hlength h =>
        have hmismatch : firstMismatch? 0 given recorded = some (index, g, r) :=
          firstMismatch?_eq_some_iff.2 ⟨index, by omega, h⟩
        rw [if_neg (Nat.not_lt.2 hlength), hmismatch]

end SchemaUpgrade.History
