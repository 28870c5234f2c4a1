/-!
# Finding a text inside another

Plain search for one sequence of characters inside another, from the left.

Main definitions: `occursIn`, `afterFirst?` (what follows the first occurrence) and `splitLast?`
(the two sides of the last occurrence of a character).
-/

namespace SchemaUpgrade.Text

/-- What follows `front` in `text`, if `text` starts with it. -/
def stripFront? : (front text : List Char) → Option (List Char)
  | [], text => some text
  | _ :: _, [] => none
  | f :: front, c :: text => if f = c then stripFront? front text else none

/-- What follows the first occurrence of `needle` in `text`. -/
def afterFirst? (needle : List Char) : (text : List Char) → Option (List Char)
  | [] => stripFront? needle []
  | c :: text =>
    match stripFront? needle (c :: text) with
    | some rest => some rest
    | none => afterFirst? needle text

/-- Whether `needle` occurs somewhere in `text`; the empty text occurs everywhere. -/
def occursIn (needle text : String) : Bool :=
  (afterFirst? needle.toList text.toList).isSome

/-- The parts of `text` before and after the last occurrence of `mark`. -/
def splitLast? (mark : Char) (text : List Char) : Option (List Char × List Char) :=
  match text.reverse.dropWhile (· != mark) with
  | [] => none
  | _ :: front => some (front.reverse, (text.reverse.takeWhile (· != mark)).reverse)

theorem stripFront?_eq_some {front text rest : List Char} :
    stripFront? front text = some rest ↔ text = front ++ rest := by
  induction front generalizing text with
  | nil => simp [stripFront?]
  | cons f front ih =>
    cases text with
    | nil => simp [stripFront?]
    | cons c text =>
      by_cases h : f = c
      · simp [stripFront?, h, ih]
      · simp [stripFront?, h, Ne.symm h]

/-- The first occurrence is an occurrence: what precedes it and what follows it make the text. -/
theorem exists_eq_of_afterFirst? {needle text rest : List Char}
    (h : afterFirst? needle text = some rest) : ∃ before, text = before ++ needle ++ rest := by
  fun_induction afterFirst? needle text with
  | case1 => exact ⟨[], by simpa using stripFront?_eq_some.1 h⟩
  | case2 c text found hfound =>
    obtain rfl : found = rest := by simpa using h
    exact ⟨[], by simpa using stripFront?_eq_some.1 hfound⟩
  | case3 c text hnone ih =>
    obtain ⟨before, hbefore⟩ := ih h
    exact ⟨c :: before, by simp [hbefore]⟩

/-- A text that has the needle somewhere has a first occurrence of it. -/
theorem afterFirst?_isSome (needle before rest : List Char) :
    (afterFirst? needle (before ++ needle ++ rest)).isSome := by
  induction before with
  | nil =>
    cases h : needle ++ rest with
    | nil =>
      obtain ⟨rfl, rfl⟩ := List.append_eq_nil_iff.1 h
      simp [afterFirst?, stripFront?]
    | cons c text =>
      have : stripFront? needle (c :: text) = some rest := stripFront?_eq_some.2 h.symm
      simp [h, afterFirst?, this]
  | cons c before ih =>
    simp only [List.cons_append, afterFirst?]
    split
    · rfl
    · exact ih

/-- A text occurs in another exactly when its characters stand there in a row. -/
theorem occursIn_iff {needle text : String} :
    occursIn needle text = true ↔ needle.toList <:+: text.toList := by
  rw [occursIn]
  constructor
  · intro h
    obtain ⟨rest, hrest⟩ := Option.isSome_iff_exists.1 h
    obtain ⟨before, hbefore⟩ := exists_eq_of_afterFirst? hrest
    exact ⟨before, rest, hbefore.symm⟩
  · rintro ⟨before, rest, h⟩
    rw [← h]
    exact afterFirst?_isSome needle.toList before rest

@[simp] theorem occursIn_self (text : String) : occursIn text text = true :=
  occursIn_iff.2 List.infix_rfl

theorem occursIn_append_left {needle front : String} (rest : String)
    (h : occursIn needle front = true) : occursIn needle (front ++ rest) = true := by
  rw [occursIn_iff] at h ⊢
  rw [String.toList_append]
  exact List.infix_append_of_infix_left h

theorem occursIn_append_right {needle rest : String} (front : String)
    (h : occursIn needle rest = true) : occursIn needle (front ++ rest) = true := by
  rw [occursIn_iff] at h ⊢
  rw [String.toList_append]
  exact List.infix_append_of_infix_right h

end SchemaUpgrade.Text
