import SchemaUpgrade.Engine.Call
import SchemaUpgrade.Log
/-!
# Work and its journal

A piece of work starts in a state and ends, with a result or an error, in another; on its way it
writes a journal.  The journal holds, in the order in which they happened, every call to the
engine, with the message of its failure if it failed, and every log event.  A piece of work that
fails keeps the state and the journal up to its failure.

The journal is an output: it starts empty, nothing reads it, and the journal of two pieces of work
done one after the other is the first journal followed by the second.

## Main definitions

* `Work`: a function from a state to a `Finished` record.
* `Work.attempt`: the outcome of a piece of work as a result, so that the caller decides.
* `Journal.calls`, `Journal.events`, `Journal.failures`: the parts of a journal.
-/

namespace SchemaUpgrade

open Engine (Call)

/-- A line of the journal. -/
inductive Entry where
  /-- A call to the engine, and the message of its failure if it failed. -/
  | called (call : Call) (failure : Option String)
  /-- An event that reached its sink. -/
  | logged (event : Log.Event)
  deriving DecidableEq, Repr, Inhabited

/-- What happened, in order. -/
abbrev Journal := List Entry

namespace Entry

/-- The call of an entry, if it is one. -/
def call? : Entry → Option Call
  | .called call _ => some call
  | .logged _ => none

/-- The event of an entry, if it is one. -/
def event? : Entry → Option Log.Event
  | .called _ _ => none
  | .logged event => some event

/-- The message of the failed call of an entry, if it is one. -/
def failure? : Entry → Option String
  | .called _ failure => failure
  | .logged _ => none

end Entry

namespace Journal

/-- The calls to the engine. -/
def calls (journal : Journal) : List Call := journal.filterMap Entry.call?

/-- The log events. -/
def events (journal : Journal) : List Log.Event := journal.filterMap Entry.event?

/-- The messages of the calls that failed. -/
def failures (journal : Journal) : List String := journal.filterMap Entry.failure?

@[simp] theorem calls_nil : calls [] = [] := rfl

@[simp] theorem calls_append (a b : Journal) : calls (a ++ b) = calls a ++ calls b := by
  simp [calls]

@[simp] theorem calls_logged (events : List Log.Event) : calls (events.map .logged) = [] := by
  simp [calls, List.filterMap_map, Entry.call?, Function.comp_def]

@[simp] theorem events_nil : events [] = [] := rfl

@[simp] theorem events_append (a b : Journal) : events (a ++ b) = events a ++ events b := by
  simp [events]

@[simp] theorem failures_nil : failures [] = [] := rfl

@[simp] theorem failures_append (a b : Journal) :
    failures (a ++ b) = failures a ++ failures b := by
  simp [failures]

@[simp] theorem failures_logged (events : List Log.Event) : failures (events.map .logged) = [] := by
  simp [failures, List.filterMap_map, Entry.failure?, Function.comp_def]

end Journal

/-- How a piece of work ended. -/
structure Finished (σ ε α : Type) where
  outcome : Except ε α
  state : σ
  journal : Journal

/-- A piece of work on a state `σ` that yields an `α` or fails with an `ε`. -/
def Work (σ ε α : Type) := σ → Finished σ ε α

namespace Work

variable {σ ε ε' α β : Type}

/-- The work that does nothing and yields `a`. -/
protected def pure (a : α) : Work σ ε α := fun s => ⟨.ok a, s, []⟩

/-- The work that fails with `e` and does nothing else. -/
def fail (e : ε) : Work σ ε α := fun s => ⟨.error e, s, []⟩

/-- Does `work` and, if it succeeded, goes on with `next`. -/
protected def bind (work : Work σ ε α) (next : α → Work σ ε β) : Work σ ε β := fun s =>
  let first := work s
  match first.outcome with
  | .error e => ⟨.error e, first.state, first.journal⟩
  | .ok a =>
    let second := next a first.state
    ⟨second.outcome, second.state, first.journal ++ second.journal⟩

instance : Monad (Work σ ε) where
  pure := Work.pure
  bind := Work.bind

/-- Does `work` and answers how it ended; never fails itself. -/
def attempt (work : Work σ ε α) : Work σ ε' (Except ε α) := fun s =>
  let done := work s
  ⟨.ok done.outcome, done.state, done.journal⟩

/-- Does `work` and, if it failed, fails with `f` of its error. -/
def mapError (f : ε → ε') (work : Work σ ε α) : Work σ ε' α := fun s =>
  let done := work s
  ⟨done.outcome.mapError f, done.state, done.journal⟩

/-- Goes on with a result, or fails with its error. -/
def ofExcept : Except ε α → Work σ ε α
  | .ok a => Work.pure a
  | .error e => fail e

/-- The present state. -/
def state : Work σ ε σ := fun s => ⟨.ok s, s, []⟩

/-- Changes the state. -/
def modify (f : σ → σ) : Work σ ε Unit := fun s => ⟨.ok (), f s, []⟩

/-- Writes entries into the journal. -/
def write (entries : Journal) : Work σ ε Unit := fun s => ⟨.ok (), s, entries⟩

/-! ## What each operation does to a state -/

variable (s : σ)

@[simp] theorem pure_apply (a : α) : (pure a : Work σ ε α) s = ⟨.ok a, s, []⟩ := rfl

@[simp] theorem fail_apply (e : ε) : (fail e : Work σ ε α) s = ⟨.error e, s, []⟩ := rfl

theorem bind_apply (work : Work σ ε α) (next : α → Work σ ε β) :
    (work >>= next) s =
      match (work s).outcome with
      | .error e => ⟨.error e, (work s).state, (work s).journal⟩
      | .ok a => ⟨(next a (work s).state).outcome, (next a (work s).state).state,
          (work s).journal ++ (next a (work s).state).journal⟩ := by
  cases h : (work s).outcome <;> simp [bind, Work.bind, h]

@[simp] theorem attempt_apply (work : Work σ ε α) :
    (attempt work : Work σ ε' (Except ε α)) s
      = ⟨.ok (work s).outcome, (work s).state, (work s).journal⟩ := rfl

@[simp] theorem mapError_apply (f : ε → ε') (work : Work σ ε α) :
    (mapError f work) s
      = ⟨(work s).outcome.mapError f, (work s).state, (work s).journal⟩ := rfl

@[simp] theorem ofExcept_ok (a : α) : (ofExcept (.ok a) : Work σ ε α) = pure a := rfl

@[simp] theorem ofExcept_error (e : ε) : (ofExcept (.error e) : Work σ ε α) = fail e := rfl

@[simp] theorem state_apply : (state : Work σ ε σ) s = ⟨.ok s, s, []⟩ := rfl

@[simp] theorem modify_apply (f : σ → σ) :
    (modify f : Work σ ε Unit) s = ⟨.ok (), f s, []⟩ := rfl

@[simp] theorem write_apply (entries : Journal) :
    (write entries : Work σ ε Unit) s = ⟨.ok (), s, entries⟩ := rfl

end Work

end SchemaUpgrade
