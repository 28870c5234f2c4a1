import SchemaUpgrade.UpgradeError
/-!
# Joins keep the cause and every text

Whatever outcomes of rollbacks are joined onto an error, one after another, it goes back to the same
cause as before, is the same mismatch with the history, if it was one, and tells what it told
before and then each rollback that failed, in order (`joins_keep_cause`).

An error that is a join already is no special case: it is its root with some failed rollbacks joined
onto it (`UpgradeError.joinAll_rollbacks`), and more outcomes only make that list longer
(`UpgradeError.rollbacks_joinAll`).  The list also tells when nothing was joined at all.

The joins of database errors are trees, as the error of a rollback may be a join itself.  Their
messages tell the errors at the leaves, from left to right (`DatabaseError.inOrder_causes`).

## Main definitions

* `Text.InOrder`: texts that stand in another one behind the other.
* `UpgradeError.joinAll`, `UpgradeError.rollbacks`: the outcomes of several rollbacks, and the
  failed ones that an error tells.
* `DatabaseError.causes`: the errors that a join is made of.
-/

namespace SchemaUpgrade

/-! ## Texts one behind the other -/

namespace Text

/-- The parts stand in the text one behind the other, with anything before, between and behind
them. -/
inductive InOrder : (parts : List String) → (text : String) → Prop where
  | nil (text : String) : InOrder [] text
  | cons (front part : String) {parts : List String} {rest : String} (h : InOrder parts rest) :
    InOrder (part :: parts) (front ++ part ++ rest)

namespace InOrder

variable {parts more : List String} {text rest : String}

theorem self (text : String) : InOrder [text] text := by
  simpa using cons "" text (nil "")

theorem append_left (front : String) (h : InOrder parts text) : InOrder parts (front ++ text) := by
  cases h with
  | nil => exact nil _
  | cons before part h => simpa only [String.append_assoc] using cons (front ++ before) part h

theorem append (h : InOrder parts text) (h' : InOrder more rest) :
    InOrder (parts ++ more) (text ++ rest) := by
  induction h with
  | nil text => exact h'.append_left text
  | cons front part h ih =>
    simpa only [List.cons_append, String.append_assoc] using cons front part ih

theorem append_right (h : InOrder parts text) (rest : String) : InOrder parts (text ++ rest) := by
  simpa using h.append (nil rest)

end InOrder

end Text

open Text (InOrder)

/-! ## Outcomes of several rollbacks -/

/-- The rollbacks that failed, in order. -/
def failedAmong (outcomes : List (Except DatabaseError Unit)) : List DatabaseError :=
  outcomes.filterMap fun
    | .ok () => none
    | .error cause => some cause

section Failed

variable (outcomes : List (Except DatabaseError Unit))

@[simp] theorem failedAmong_nil : failedAmong [] = [] := rfl

@[simp] theorem failedAmong_cons_ok : failedAmong (.ok () :: outcomes) = failedAmong outcomes := rfl

@[simp] theorem failedAmong_cons_error (cause : DatabaseError) :
    failedAmong (.error cause :: outcomes) = cause :: failedAmong outcomes := rfl

theorem failedAmong_append (more : List (Except DatabaseError Unit)) :
    failedAmong (outcomes ++ more) = failedAmong outcomes ++ failedAmong more :=
  List.filterMap_append

theorem failedAmong_map_error (causes : List DatabaseError) :
    failedAmong (causes.map .error) = causes := by
  induction causes with
  | nil => rfl
  | cons cause rest ih => rw [List.map_cons, failedAmong_cons_error, ih]

theorem failedAmong_eq_nil_iff :
    failedAmong outcomes = [] ↔ ∀ outcome ∈ outcomes, outcome = .ok () := by
  rw [failedAmong, List.filterMap_eq_nil_iff]
  refine forall₂_congr fun outcome _ => ?_
  cases outcome <;> simp

end Failed

/-! ## Errors of an upgrade -/

namespace UpgradeError

variable {error : UpgradeError}

/-- The error together with the outcomes of several rollbacks, joined onto it one after another. -/
def joinAll (error : UpgradeError) (outcomes : List (Except DatabaseError Unit)) : UpgradeError :=
  outcomes.foldl joinRollback error

/-- The failed rollbacks that an error tells, in the order in which they were joined onto it. -/
def rollbacks : UpgradeError → List DatabaseError
  | .rollbackFailed error rollback => error.rollbacks ++ [rollback]
  | _ => []

@[simp] theorem joinAll_nil (error : UpgradeError) : error.joinAll [] = error := rfl

@[simp] theorem joinAll_cons (error : UpgradeError) (outcome : Except DatabaseError Unit)
    (rest : List (Except DatabaseError Unit)) :
    error.joinAll (outcome :: rest) = (error.joinRollback outcome).joinAll rest := rfl

/-- A failed rollback does not change what an error goes back to. -/
theorem root_joinRollback (error : UpgradeError) (outcome : Except DatabaseError Unit) :
    (error.joinRollback outcome).root = error.root := by
  cases outcome <;> rfl

theorem root_joinAll (error : UpgradeError) (outcomes : List (Except DatabaseError Unit)) :
    (error.joinAll outcomes).root = error.root := by
  induction outcomes generalizing error with
  | nil => rfl
  | cons outcome rest ih => rw [joinAll_cons, ih, root_joinRollback]

/-- What an error goes back to is no join. -/
theorem root_ne_rollbackFailed (error inner : UpgradeError) (rollback : DatabaseError) :
    error.root ≠ .rollbackFailed inner rollback := by
  induction error with
  | rollbackFailed error _ ih => exact ih
  | _ => exact UpgradeError.noConfusion

theorem rollbacks_joinAll (error : UpgradeError) (outcomes : List (Except DatabaseError Unit)) :
    (error.joinAll outcomes).rollbacks = error.rollbacks ++ failedAmong outcomes := by
  induction outcomes generalizing error with
  | nil => exact (List.append_nil _).symm
  | cons outcome rest ih =>
    cases outcome with
    | ok _ => exact ih error
    | error cause =>
      have hrest := ih (.rollbackFailed error cause)
      rw [rollbacks, List.append_assoc] at hrest
      exact hrest

theorem joinAll_append (error : UpgradeError) (outcomes more : List (Except DatabaseError Unit)) :
    error.joinAll (outcomes ++ more) = (error.joinAll outcomes).joinAll more :=
  List.foldl_append

/-- An error is its root with the failed rollbacks that it tells joined onto it. -/
theorem joinAll_rollbacks (error : UpgradeError) :
    error.root.joinAll (error.rollbacks.map .error) = error := by
  induction error with
  | rollbackFailed error rollback ih =>
    rw [root, rollbacks, List.map_append, joinAll_append, ih]
    rfl
  | _ => rfl

/-- Joining leaves an error as it is exactly if there is nothing to tell. -/
theorem joinAll_eq_self_iff (error : UpgradeError) (outcomes : List (Except DatabaseError Unit)) :
    error.joinAll outcomes = error ↔ ∀ outcome ∈ outcomes, outcome = .ok () := by
  rw [← failedAmong_eq_nil_iff]
  constructor
  · intro hsame
    have hrollbacks := error.rollbacks_joinAll outcomes
    rw [hsame] at hrollbacks
    exact List.self_eq_append_right.1 hrollbacks
  · intro hnone
    -- The two errors have the same root and tell the same rollbacks.
    have hrollbacks := error.rollbacks_joinAll outcomes
    rw [hnone, List.append_nil] at hrollbacks
    rw [← (error.joinAll outcomes).joinAll_rollbacks, root_joinAll, hrollbacks, joinAll_rollbacks]

/-- Joining outcomes adds to what an error tells the rollbacks that failed, in order. -/
theorem inOrder_joinAll {parts : List String} (h : InOrder parts error.message)
    (outcomes : List (Except DatabaseError Unit)) :
    InOrder (parts ++ (failedAmong outcomes).map DatabaseError.message)
      (error.joinAll outcomes).message := by
  induction outcomes generalizing error parts with
  | nil => simpa using h
  | cons outcome rest ih =>
    cases outcome with
    | ok _ => exact ih h
    | error cause =>
      have hjoined : InOrder (parts ++ [cause.message])
          (error.joinRollback (.error cause)).message :=
        ((h.append_left "[M011] ").append_right "; rollback also failed: ").append
          (.self cause.message)
      simpa using ih hjoined

/-- What an error keeps when outcomes of rollbacks are joined onto it. -/
structure Keeps (error : UpgradeError) (outcomes : List (Except DatabaseError Unit))
    (joined : UpgradeError) : Prop where
  root : joined.root = error.root
  /-- The root is never a join. -/
  cause : ∀ inner rollback, joined.root ≠ .rollbackFailed inner rollback
  history : joined.historyError? = error.historyError?
  same_iff : joined = error ↔ ∀ outcome ∈ outcomes, outcome = .ok ()
  /-- The message of the error and then those of the failed rollbacks. -/
  told : InOrder (error.message :: (failedAmong outcomes).map DatabaseError.message) joined.message
  /-- The same for the rollbacks that the error told already. -/
  told_before : InOrder
    (error.root.message :: (error.rollbacks ++ failedAmong outcomes).map DatabaseError.message)
    joined.message

theorem keeps_joinAll (error : UpgradeError) (outcomes : List (Except DatabaseError Unit)) :
    error.Keeps outcomes (error.joinAll outcomes) := by
  have hroot := error.root_joinAll outcomes
  refine {
    root := hroot
    cause := (error.joinAll outcomes).root_ne_rollbackFailed
    history := by rw [historyError?, historyError?, hroot]
    same_iff := error.joinAll_eq_self_iff outcomes
    told := inOrder_joinAll (.self error.message) outcomes
    told_before := ?_ }
  have hwhole := inOrder_joinAll (.self error.root.message) (error.rollbacks.map .error ++ outcomes)
  rwa [failedAmong_append, failedAmong_map_error, joinAll_append, joinAll_rollbacks] at hwhole

end UpgradeError

/-! ## Errors of a database -/

namespace DatabaseError

/-- The errors that a join is made of, from left to right. -/
def causes : DatabaseError → List DatabaseError
  | .rollbackFailed error rollback => error.causes ++ rollback.causes
  | error => [error]

theorem inOrder_joinRollback {error rollback : DatabaseError} {parts more : List String}
    (h : InOrder parts error.message) (h' : InOrder more rollback.message) :
    InOrder (parts ++ more) (error.joinRollback (.error rollback)).message :=
  ((h.append_left "[D005] ").append_right "; rollback also failed: ").append h'

/-- However deep joins are nested, the message tells all that they are made of. -/
theorem inOrder_causes (error : DatabaseError) :
    InOrder (error.causes.map message) error.message := by
  induction error with
  | rollbackFailed error rollback iherror ihrollback =>
    rw [causes, List.map_append]
    exact inOrder_joinRollback iherror ihrollback
  | _ => exact .self _

/-- What an error keeps when the outcome of a rollback is joined onto it. -/
structure Keeps (error : DatabaseError) : Prop where
  ok : error.joinRollback (.ok ()) = error
  told : ∀ rollback : DatabaseError, InOrder [error.message, rollback.message]
    (error.joinRollback (.error rollback)).message
  /-- The same for all errors that the two are made of. -/
  told_causes : ∀ rollback : DatabaseError, InOrder ((error.causes ++ rollback.causes).map message)
    (error.joinRollback (.error rollback)).message

theorem keeps (error : DatabaseError) : error.Keeps where
  ok := rfl
  told _ := inOrder_joinRollback (.self _) (.self _)
  told_causes rollback := (error.joinRollback (.error rollback)).inOrder_causes

end DatabaseError

/-- An error onto which outcomes of rollbacks are joined goes back to the same cause, and tells all
that it told before and then the rollbacks that failed. -/
theorem joins_keep_cause (error : UpgradeError) (outcomes : List (Except DatabaseError Unit))
    (cause : DatabaseError) : error.Keeps outcomes (error.joinAll outcomes) ∧ cause.Keeps :=
  ⟨error.keeps_joinAll outcomes, cause.keeps⟩

end SchemaUpgrade
