/-!
# The history of a database

The keys that a bookkeeping table lists, in the order in which they were applied, are the history
of the database.  A sorted list of keys can continue a history when the history is a beginning of
it; then the last recorded key is the point from which to resume.  Otherwise the first of these
rules that is broken names the mismatch:

1. the history is itself in ascending order;
2. the last given key is not less than the last recorded one;
3. at least as many keys are given as are recorded;
4. the given keys start with the recorded ones.

Keys are compared character by character, by code point.
-/

namespace SchemaUpgrade

/-- Why the given keys do not continue the history. -/
inductive HistoryError where
  /-- `previous` was applied just before `next` although it is greater. -/
  | unsorted (previous next : String)
  /-- The last given key is less than the last recorded one. -/
  | tooOld (pending applied : String)
  /-- The given keys do not start with the recorded ones. -/
  | unrelated (reason : String)
  deriving DecidableEq, Repr, Inhabited

/-- The sentence that describes the mismatch. -/
def HistoryError.message : HistoryError → String
  | .unsorted previous next =>
    "[H001] Applied migrations are unsorted: '" ++ previous ++ "' was applied before '" ++ next
      ++ "'"
  | .tooOld pending applied =>
    "[H002] Migrations too old: newest pending '" ++ pending
      ++ "' is older than newest applied '" ++ applied ++ "'"
  | .unrelated reason => "[H003] Migrations unrelated: " ++ reason

namespace History

/-- The first key of the list that is greater than its successor, with that successor. -/
def firstDescent? : List String → Option (String × String)
  | a :: b :: rest => if b < a then some (a, b) else firstDescent? (b :: rest)
  | _ => none

/-- The first position from `index` on at which the two lists hold different keys. -/
def firstMismatch? (index : Nat) : (given recorded : List String) → Option (Nat × String × String)
  | g :: given, r :: recorded =>
    if g = r then firstMismatch? (index + 1) given recorded else some (index, g, r)
  | _, _ => none

/-- The reason given when there are fewer keys than recorded ones. -/
def tooFewReason (recorded given : Nat) : String :=
  toString recorded ++ " migration(s) applied but only " ++ toString given ++ " given"

/-- The reason given when a key differs from the one recorded in its place. -/
def mismatchReason (index : Nat) (given recorded : String) : String :=
  "migration #" ++ toString index ++ " is '" ++ given ++ "' but '" ++ recorded ++ "' was applied"

/-- The key from which to resume when `given` continues `recorded`; `none` when nothing was
applied yet. -/
def resumePoint (given recorded : List String) : Except HistoryError (Option String) :=
  match recorded.getLast? with
  | none => .ok none
  | some lastRecorded =>
    match firstDescent? recorded with
    | some (previous, next) => .error (.unsorted previous next)
    | none =>
      let lastGiven := given.getLast?.getD ""
      if lastGiven < lastRecorded then .error (.tooOld lastGiven lastRecorded)
      else if given.length < recorded.length then
        .error (.unrelated (tooFewReason recorded.length given.length))
      else match firstMismatch? 0 given recorded with
        | some (index, g, r) => .error (.unrelated (mismatchReason index g r))
        | none => .ok (some lastRecorded)

/-- Whether a key still has to be applied when resuming from `resume`. -/
def isPending (resume : Option String) (key : String) : Bool :=
  match resume with
  | none => true
  | some last => decide (last < key)

end History

end SchemaUpgrade
