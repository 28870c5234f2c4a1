import SchemaUpgrade.Proofs.RollbackJoins
import SchemaUpgrade.Proofs.Transaction
/-!
# The course of a piece of work

Much of what is known of a plan or a run holds because it holds of the calls that it consists of and
is kept up by the way they are put together: that nothing depends on the log, that no cancel flag is
read, that no failure is swallowed, and which call an error blames.  Such facts need a walk through
all operations, from the opening of a transaction up to a run.  This walk is made once.

Two pieces of work take the same *course* if they are put together in the same way from the same
pieces, and differ at most in the routes on which they tell something (`Course`).  The course also
says which calls they have to make and in what order, and that their errors tell what the engine
said.  What else they may do, the *terms*, is left open: which notices they tell on which routes,
which flags they set, and whether they look at a flag or panic.

Each operation is shown once to take a course; each of the facts above is an induction on the course
and mentions no operation.  Where the outcome of a piece of work is caught, the error that follows
has to keep what the caught one told and blamed (`Passing`).  That is the one rule by which work is
put together: passing on an error as it is, or as a function of it, is the simplest way of catching
it (`Course.handled`).

## Main definitions

* `DatabaseError.Tells`, `UpgradeError.Tells`, `Halt.Tells`: the message of an error has a text.
* `Errand`, `Schedule`: the calls that work has to make, and the errors that blame them.
* `Terms`, `Course`: what work may do, and how it is put together.
-/

namespace SchemaUpgrade

open Engine

/-! ## Errors that tell a text -/

/-- The message of the error has this text. -/
def DatabaseError.Tells (error : DatabaseError) (text : String) : Prop :=
  Text.occursIn text error.message = true

/-- The message of the error has this text. -/
def UpgradeError.Tells (error : UpgradeError) (text : String) : Prop :=
  Text.occursIn text error.message = true

/-- Work ended with an error that has this text in its message. -/
def Halt.Tells : Halt UpgradeError → String → Prop
  | .failure error, text => error.Tells text
  | .panic, _ => False

section Tells

variable {text : String}

namespace DatabaseError

theorem tells_ofEngine (text : String) : (ofEngine text).Tells text := by
  rw [ofEngine]
  split <;> exact Text.occursIn_append_right _ (Text.occursIn_self text)

/-- The error of a statement that opens or ends a transaction tells what the engine said. -/
theorem tells_transaction (front text : String) : (transaction (front ++ text)).Tells text :=
  Text.occursIn_append_right _ (Text.occursIn_append_right _ (Text.occursIn_self text))

theorem Tells.joinRollback {error : DatabaseError} (h : error.Tells text)
    (rollback : Except DatabaseError Unit) : (error.joinRollback rollback).Tells text := by
  cases rollback with
  | ok _ => exact h
  | error cause =>
    exact Text.occursIn_append_left _ (Text.occursIn_append_left _ (Text.occursIn_append_right _ h))

theorem tells_joinRollback (error : DatabaseError) {cause : DatabaseError} (h : cause.Tells text) :
    (error.joinRollback (.error cause)).Tells text :=
  Text.occursIn_append_right _ h

end DatabaseError

namespace UpgradeError

theorem Tells.joinRollback {error : UpgradeError} (h : error.Tells text)
    (rollback : Except DatabaseError Unit) : (error.joinRollback rollback).Tells text := by
  cases rollback with
  | ok _ => exact h
  | error cause =>
    exact Text.occursIn_append_left _ (Text.occursIn_append_left _ (Text.occursIn_append_right _ h))

theorem tells_joinRollback (error : UpgradeError) {cause : DatabaseError} (h : cause.Tells text) :
    (error.joinRollback (.error cause)).Tells text :=
  Text.occursIn_append_right _ h

theorem tells_backend (phase : Phase) {cause : DatabaseError} (h : cause.Tells text) :
    (backend phase cause).Tells text :=
  Text.occursIn_append_right _ h

end UpgradeError

/-- Whoever sent a statement, the error tells what the database said. -/
theorem Sender.tells_error (sender : Sender) {cause : DatabaseError} (h : cause.Tells text) :
    (Sender.error cause sender).Tells text := by
  cases sender <;> exact Text.occursIn_append_right _ h

end Tells

/-! ## Attempts -/

/-- The call of an entry, if it is one and no rollback, and the message of its failure if it
failed. -/
def Entry.attempt? : Entry → Option (Call × Option String)
  | .called call failure => if call = .batch rollbackText then none else some (call, failure)
  | .logged _ => none

namespace Journal

/-- The calls other than rollbacks, in order. -/
def attempts (journal : Journal) : List (Call × Option String) :=
  journal.filterMap Entry.attempt?

/-- A commit that the engine carried out, among the attempts. -/
def commit : Call × Option String := (.batch commitText, none)

/-- The number of commits that the engine carried out. -/
def commits (journal : Journal) : Nat := journal.attempts.count commit

@[simp] theorem attempts_nil : attempts [] = [] := rfl

@[simp] theorem attempts_append (a b : Journal) : attempts (a ++ b) = attempts a ++ attempts b := by
  simp [attempts]

@[simp] theorem attempts_logged (events : List Log.Event) : attempts (events.map .logged) = [] := by
  simp [attempts, List.filterMap_map, Entry.attempt?, Function.comp_def]

theorem attempts_call {call : Call} (h : call ≠ .batch rollbackText) (failure : Option String) :
    attempts [.called call failure] = [(call, failure)] := by
  simp [attempts, Entry.attempt?, h]

@[simp] theorem attempts_rollback (failure : Option String) :
    attempts [.called (.batch rollbackText) failure] = [] := rfl

theorem mem_failures_of_mem_attempts {journal : Journal} {call : Call} {message : String}
    (h : (call, some message) ∈ journal.attempts) : message ∈ journal.failures := by
  obtain ⟨entry, hmem, hentry⟩ := List.mem_filterMap.1 h
  refine List.mem_filterMap.2 ⟨entry, hmem, ?_⟩
  cases entry with
  | logged event => exact absurd hentry (by simp [Entry.attempt?])
  | called request failure =>
    rw [Entry.attempt?] at hentry
    split at hentry
    · exact absurd hentry (by simp)
    · exact congrArg Prod.snd (Option.some.inj hentry)

end Journal

/-! ## Errands -/

variable {ε ε' α β : Type}

/-- A call that work has to make. -/
structure Errand (ε : Type) where
  call : Call
  /-- The errors that blame the call for a failure with a message. -/
  blames : ε → String → Prop

namespace Errand

/-- An errand as an attempt that succeeded. -/
def carriedOut (errand : Errand ε) : Call × Option String := (errand.call, none)

/-- A call that is blamed by the errors that tell its message. -/
def telling (call : Call) : Errand DatabaseError := ⟨call, DatabaseError.Tells⟩

/-- A call that is blamed by the errors with this root. -/
def naming (root : DatabaseError → UpgradeError) (call : Call) : Errand UpgradeError where
  call := call
  blames error message := ∃ cause, error.root = root cause ∧ cause.Tells message

/-- An errand of work that can panic. -/
def halting (errand : Errand UpgradeError) : Errand (Halt UpgradeError) where
  call := errand.call
  blames halt message := ∃ error, halt = .failure error ∧ errand.blames error message

/-- What is carried out does not depend on the errors that would blame it. -/
theorem map_carriedOut_map {g : Errand ε → Errand ε'}
    (hcall : ∀ errand, (g errand).call = errand.call) (errands : List (Errand ε)) :
    (errands.map g).map carriedOut = errands.map carriedOut := by
  rw [List.map_map]
  exact List.map_congr_left fun errand _ => Prod.ext (hcall errand) rfl

theorem map_carriedOut_halting (errands : List (Errand UpgradeError)) :
    (errands.map halting).map carriedOut = errands.map carriedOut :=
  map_carriedOut_map (g := halting) (fun _ => rfl) errands

end Errand

/-- What work has to do: its errands in order, and the errors with which it then fails of itself, or
`none` if it then succeeds. -/
structure Schedule (ε : Type) where
  errands : List (Errand ε) := []
  own : Option (ε → Prop) := none

/-! ## Passing errors on -/

/-- How an error that is caught is passed on, as an error that tells what it told and blames the
calls that it blamed. -/
structure Passing (tells : ε → String → Prop) (tells' : ε' → String → Prop)
    (schedule : Option (Schedule ε)) where
  becomes : ε → ε' → Prop
  errand : Errand ε → Errand ε'
  call : ∀ given, (errand given).call = given.call
  keeps : ∀ {e e' text}, becomes e e' → tells e text → tells' e' text
  blames : ∀ {given e e' message}, given ∈ schedule.elim [] Schedule.errands → becomes e e' →
    given.blames e message → (errand given).blames e' message

namespace Passing

variable {tells : ε → String → Prop} {tells' : ε' → String → Prop}

/-- The schedule of work of which the first piece is caught.  If that one is not foreseen to fail,
the second one follows. -/
def schedule {first : Option (Schedule ε)} (passing : Passing tells tells' first)
    (second : Option (Schedule ε')) : Option (Schedule ε') :=
  match first, second with
  | some ⟨errands, none⟩, some ⟨later, own⟩ => some ⟨errands.map passing.errand ++ later, own⟩
  | some ⟨errands, some foreseen⟩, _ =>
    some ⟨errands.map passing.errand, some fun e' => ∃ e, foreseen e ∧ passing.becomes e e'⟩
  | _, _ => none

/-- Of work that has a schedule, the first piece has one, and so has the second one unless the first
is foreseen to fail. -/
theorem schedule_eq_some {first : Option (Schedule ε)} {second : Option (Schedule ε')}
    {passing : Passing tells tells' first} {errands : List (Errand ε')} {own : Option (ε' → Prop)}
    (h : passing.schedule second = some ⟨errands, own⟩) :
    ∃ given foreseen later, first = some ⟨given, foreseen⟩ ∧
      errands = given.map passing.errand ++ later ∧
      match (foreseen : Option (ε → Prop)) with
      | none => second = some ⟨later, own⟩
      | some foreseen =>
        later = [] ∧ own = some fun e' => ∃ e, foreseen e ∧ passing.becomes e e' := by
  match first, second with
  | some ⟨given, none⟩, some ⟨later, _⟩ =>
    obtain ⟨rfl, rfl⟩ := Schedule.mk.inj (Option.some.inj h)
    exact ⟨given, none, later, rfl, rfl, rfl⟩
  | some ⟨given, some foreseen⟩, _ =>
    obtain ⟨rfl, rfl⟩ := Schedule.mk.inj (Option.some.inj h)
    exact ⟨given, some foreseen, [], rfl, (List.append_nil _).symm, rfl, rfl⟩
  | some ⟨_, none⟩, none => exact absurd h (by simp [schedule])
  | none, _ => exact absurd h (by simp [schedule])

/-- An error of work without a schedule is joined with the outcome of a rollback. -/
def unscheduled (join : ε → Except DatabaseError Unit → ε')
    (keeps : ∀ e outcome text, tells e text → tells' (join e outcome) text) :
    Passing tells tells' none where
  becomes e e' := ∃ outcome, e' = join e outcome
  errand given := ⟨given.call, fun _ _ => False⟩
  call _ := rfl
  keeps := by
    rintro e _ text ⟨outcome, rfl⟩
    exact keeps e outcome text
  blames hgiven := absurd hgiven List.not_mem_nil

/-- An error is joined with the outcome of a rollback. -/
def joining {errands : List (Errand ε)} {own : Option (ε → Prop)}
    (join : ε → Except DatabaseError Unit → ε') (errand : Errand ε → Errand ε')
    (call : ∀ given, (errand given).call = given.call)
    (keeps : ∀ e outcome text, tells e text → tells' (join e outcome) text)
    (blames : ∀ given ∈ errands, ∀ e outcome message, given.blames e message →
      (errand given).blames (join e outcome) message) :
    Passing tells tells' (some ⟨errands, own⟩) where
  becomes e e' := ∃ outcome, e' = join e outcome
  errand := errand
  call := call
  keeps := by
    rintro e _ text ⟨outcome, rfl⟩
    exact keeps e outcome text
  blames := by
    rintro given e _ message hgiven ⟨outcome, rfl⟩
    exact blames given hgiven e outcome message

/-- Work that is foreseen to fail does so with the outcome of a rollback, and nothing else is left
to do. -/
theorem schedule_joining {errands : List (Errand ε)} {own : Option (ε → Prop)}
    {join : ε → Except DatabaseError Unit → ε'} {errand : Errand ε → Errand ε'}
    (call : ∀ given, (errand given).call = given.call)
    (keeps : ∀ e outcome text, tells e text → tells' (join e outcome) text)
    (blames : ∀ given ∈ errands, ∀ e outcome message, given.blames e message →
      (errand given).blames (join e outcome) message) (later : List (Errand ε')) :
    (joining join errand call keeps blames : Passing tells tells' (some ⟨errands, own⟩)).schedule
        (some ⟨later, none⟩)
      = some ⟨errands.map errand ++ own.elim later fun _ => [],
          own.map fun foreseen e' => ∃ e, foreseen e ∧ ∃ outcome, e' = join e outcome⟩ := by
  cases own with
  | none => rfl
  | some foreseen =>
    rw [Option.elim_some, List.append_nil]
    rfl

end Passing

/-- Whatever the site, the work fails as was foreseen, and calls nothing for it but rollbacks. -/
def Work.Surrenders (foreseen : ε → Prop) (work : Work Site ε α) : Prop :=
  ∀ site, (∃ e, (work site).outcome = .error e ∧ foreseen e) ∧ (work site).journal.attempts = []

theorem Work.surrenders_fail {foreseen : ε → Prop} {e : ε} (h : foreseen e) :
    (Work.fail e : Work Site ε α).Surrenders foreseen :=
  fun _ => ⟨⟨e, rfl, h⟩, rfl⟩

/-- A rollback and a failure after it. -/
theorem Transaction.surrenders_rolledBack (join : Except DatabaseError Unit → ε) :
    (rollback.attempt >>= fun outcome => (Work.fail (join outcome) : Work Site ε α)).Surrenders
      fun e => ∃ outcome, e = join outcome := by
  intro site
  obtain ⟨outcome, after, failure, hall, -⟩ := rollback_then_fail_call (α := α) join site
  rw [hall]
  exact ⟨⟨_, rfl, outcome, rfl⟩, Journal.attempts_rollback failure⟩

/-! ## Courses -/

/-- What work may do besides calling the engine. -/
structure Terms where
  /-- The files that scripts are read from; what the directories list is of no account. -/
  files : Files
  /-- The notices that may be told, on the route of the one side and on that of the other. -/
  tells : Log.Route → Log.Route → Log.Notice → Prop
  /-- The flags that may be set. -/
  raises : CancelFlag → Prop
  /-- Whether flags may be looked at. -/
  looks : Prop
  /-- Whether it may panic and leave a transaction behind, of which nobody is told but the logger of
  the process. -/
  panics : Prop
  lost : panics → ∀ message, tells .ofProcess .ofProcess (.rollbackLost message)

/-- The scripts are read at this site as the terms say. -/
def Terms.At (terms : Terms) (site : Site) : Prop := site.files.read = terms.files.read

theorem Terms.At.of_surroundings {terms : Terms} {site after : Site} (h : terms.At site)
    (haround : after.toSurroundings = site.toSurroundings) : terms.At after := by
  rw [Terms.At, haround]
  exact h

/-- The work can end with this error. -/
def Terms.Reaches (terms : Terms) (work : Work Site ε α) (e : ε) : Prop :=
  ∃ site, terms.At site ∧ (work site).outcome = .error e

/-- Two pieces of work take the same course.  Their errors tell what is given as `tells`, and they
have this schedule, if they have one. -/
inductive Course (terms : Terms) : {ε α : Type} → (tells : ε → String → Prop) →
    Option (Schedule ε) → Work Site ε α → Work Site ε α → Prop
  | pure {ε α : Type} {tells : ε → String → Prop} (a : α) :
      Course terms tells (some {}) (pure a) (pure a)
  | fail {ε α : Type} {tells : ε → String → Prop} (e : ε) :
      Course terms tells (some { own := some (· = e) }) (Work.fail e : Work Site ε α) (Work.fail e)
  /-- A piece of work, what is done after it succeeded, and what is done about its errors. -/
  | caught {ε ε' α β : Type} {tells : ε → String → Prop} {tells' : ε' → String → Prop}
      {first : Option (Schedule ε)} {second : Option (Schedule ε')} {work other : Work Site ε α}
      {next next' : Except ε α → Work Site ε' β} (passing : Passing tells tells' first)
      (h : Course terms tells first work other)
      (hok : ∀ a, Course terms tells' second (next (.ok a)) (next' (.ok a)))
      (herror : ∀ e, terms.Reaches work e →
        Course terms tells' none (next (.error e)) (next' (.error e)))
      (hpasses : ¬terms.panics → ∀ e, terms.Reaches work e →
        (next (.error e)).Surrenders (passing.becomes e)) :
      Course terms tells' (passing.schedule second) (work.attempt >>= next)
        (other.attempt >>= next')
  | call {α : Type} (request : Call) (act : Database → Except String (α × Database)) :
      Course terms (· = ·) (some { errands := [⟨request, (· = ·)⟩] }) (Site.call request act)
        (Site.call request act)
  | readColumn (sql : String) :
      Course terms (· = ·) (some { errands := [⟨.column sql, (· = ·)⟩] }) (Site.readColumn sql)
        (Site.readColumn sql)
  | lock : Course terms DatabaseError.Tells (some {}) Connection.lock Connection.lock
  | log {ε : Type} {tells : ε → String → Prop} {route route' : Log.Route} {notice : Log.Notice}
      (h : terms.tells route route' notice) :
      Course terms tells (some {}) (Site.log route notice) (Site.log route' notice)
  | raise {ε : Type} {tells : ε → String → Prop} {flag : CancelFlag} (h : terms.raises flag) :
      Course terms tells (some {}) (Site.raise flag) (Site.raise flag)
  | look {ε : Type} {tells : ε → String → Prop} (h : terms.looks) (flag : CancelFlag) :
      Course terms tells (some {}) (Site.look flag) (Site.look flag)
  | poison {ε : Type} {tells : ε → String → Prop} (h : terms.panics) :
      Course terms tells none (Connection.poison : Work Site ε Unit) Connection.poison
  | unscheduled {ε α : Type} {tells : ε → String → Prop} {schedule : Option (Schedule ε)}
      {work other : Work Site ε α} (h : Course terms tells schedule work other) :
      Course terms tells none work other
  /-- Work that does the same where scripts are read as the terms say. -/
  | congr {ε α : Type} {tells : ε → String → Prop} {schedule : Option (Schedule ε)}
      {work other work' other' : Work Site ε α} (hwork : ∀ site, terms.At site →
        work site = work' site) (hother : ∀ site, terms.At site → other site = other' site)
      (h : Course terms tells schedule work' other') : Course terms tells schedule work other

namespace Course

variable {terms : Terms} {tells : ε → String → Prop} {tells' : ε' → String → Prop}

/-! ### What is left alone -/

/-- Nobody changes the surroundings, and only a panic shuts the connection. -/
theorem keeps {schedule : Option (Schedule ε)} {work other : Work Site ε α}
    (h : Course terms tells schedule work other) {site : Site} (hsite : terms.At site) :
    (work site).state.toSurroundings = site.toSurroundings ∧
      (¬terms.panics → (work site).state.poisoned = site.poisoned) := by
  induction h generalizing site with
  | pure | fail | log | raise | look => exact ⟨rfl, fun _ => rfl⟩
  | @caught ε ε' α β tells tells' first second work other next next' passing h hok herror hpasses
      ih ihok iherror =>
    obtain ⟨haround, hstill⟩ := ih hsite
    have hmid := hsite.of_surroundings haround
    rw [Work.bind_of_ok (Work.attempt_apply site work)]
    cases houtcome : (work site).outcome with
    | ok a =>
      obtain ⟨haround', hstill'⟩ := ihok a hmid
      exact ⟨haround'.trans haround, fun hpanics => (hstill' hpanics).trans (hstill hpanics)⟩
    | error e =>
      obtain ⟨haround', hstill'⟩ := iherror e ⟨site, hsite, houtcome⟩ hmid
      exact ⟨haround'.trans haround, fun hpanics => (hstill' hpanics).trans (hstill hpanics)⟩
  | call request act =>
    rcases Site.call_cases request act site with
      ⟨message, faults, hcall⟩ | ⟨answer, database, faults, -, hcall⟩ <;> rw [hcall] <;>
    exact ⟨rfl, fun _ => rfl⟩
  | readColumn sql =>
    rcases Site.readColumn_cases sql site with ⟨message, faults, hread⟩ | ⟨faults, hread⟩ <;>
      rw [hread] <;>
    exact ⟨rfl, fun _ => rfl⟩
  | lock =>
    rw [Connection.lock_apply]
    exact ⟨rfl, fun _ => rfl⟩
  | poison hpanics => exact ⟨rfl, fun hnone => absurd hpanics hnone⟩
  | unscheduled _ ih => exact ih hsite
  | congr hwork _ _ ih =>
    rw [hwork site hsite]
    exact ih hsite

/-! ### Putting courses together -/

section Handled

variable {first second : List (Errand ε)} {later : List (Errand ε')} {own : Option (ε' → Prop)}
  {work other : Work Site ε α}

/-- Goes on after a success, and fails with a function of an error. -/
theorem handled {f : ε → ε'} {next next' : α → Work Site ε' β} (errand : Errand ε → Errand ε')
    (hcall : ∀ given, (errand given).call = given.call)
    (htells : ∀ e text, tells e text → tells' (f e) text)
    (hblames : ∀ given ∈ first, ∀ e message, given.blames e message →
      (errand given).blames (f e) message)
    (h : Course terms tells (some ⟨first, none⟩) work other)
    (hnext : ∀ a, Course terms tells' (some ⟨later, own⟩) (next a) (next' a)) :
    Course terms tells' (some ⟨first.map errand ++ later, own⟩)
      (work.attempt >>= Work.handle f next) (other.attempt >>= Work.handle f next') := by
  let passing : Passing tells tells' (some ⟨first, none⟩) := .joining (fun e _ => f e) errand hcall
    (fun e _ => htells e) fun given hgiven e _ => hblames given hgiven e
  show Course terms tells' (passing.schedule (some ⟨later, own⟩)) _ _
  exact .caught passing h hnext (fun e _ => .unscheduled (.fail (f e))) fun _ _ _ =>
    Work.surrenders_fail ⟨.ok (), rfl⟩

theorem handled_unscheduled {schedule : Option (Schedule ε)} {f : ε → ε'}
    {next next' : α → Work Site ε' β} (htells : ∀ e text, tells e text → tells' (f e) text)
    (h : Course terms tells schedule work other)
    (hnext : ∀ a, Course terms tells' none (next a) (next' a)) :
    Course terms tells' none (work.attempt >>= Work.handle f next)
      (other.attempt >>= Work.handle f next') := by
  let passing : Passing tells tells' none := .unscheduled (fun e _ => f e) fun e _ => htells e
  show Course terms tells' (passing.schedule none) _ _
  exact .caught passing h.unscheduled hnext (fun e _ => .unscheduled (.fail (f e))) fun _ _ _ =>
    Work.surrenders_fail ⟨.ok (), rfl⟩

end Handled

section Bind

variable {work other : Work Site ε α} {next next' : α → Work Site ε β}

/-- Two pieces of work in a row have the errands of the first and then those of the second. -/
theorem bind {first second : List (Errand ε)} {own : Option (ε → Prop)}
    (h : Course terms tells (some ⟨first, none⟩) work other)
    (hnext : ∀ a, Course terms tells (some ⟨second, own⟩) (next a) (next' a)) :
    Course terms tells (some ⟨first ++ second, own⟩) (work >>= next) (other >>= next') := by
  rw [Work.bind_eq_handle work next, Work.bind_eq_handle other next']
  have hall := handled (f := id) id (fun _ => rfl) (fun _ _ => id) (fun _ _ _ _ => id) h hnext
  rwa [List.map_id] at hall

/-- Two pieces of work in a row, of which the second has no schedule. -/
theorem andThen {first : Option (Schedule ε)} (h : Course terms tells first work other)
    (hnext : ∀ a, Course terms tells none (next a) (next' a)) :
    Course terms tells none (work >>= next) (other >>= next') := by
  rw [Work.bind_eq_handle work next, Work.bind_eq_handle other next']
  exact handled_unscheduled (f := id) (fun _ _ => id) h hnext

end Bind

section MapError

variable {f : ε → ε'} {work other : Work Site ε α}

/-- Errors that are renamed have to tell and to blame the same. -/
theorem mapError {errands : List (Errand ε)} (errand : Errand ε → Errand ε')
    (hcall : ∀ given, (errand given).call = given.call)
    (htells : ∀ e text, tells e text → tells' (f e) text)
    (hblames : ∀ given ∈ errands, ∀ e message, given.blames e message →
      (errand given).blames (f e) message)
    (h : Course terms tells (some ⟨errands, none⟩) work other) :
    Course terms tells' (some ⟨errands.map errand, none⟩) (work.mapError f)
      (other.mapError f) := by
  rw [Work.mapError_eq_handle, Work.mapError_eq_handle]
  have hall := handled errand hcall htells hblames h fun a => .pure a
  rwa [List.append_nil] at hall

theorem mapError_single {given : Errand ε} {errand : Errand ε'} (hcall : errand.call = given.call)
    (htells : ∀ e text, tells e text → tells' (f e) text)
    (hblames : ∀ e message, given.blames e message → errand.blames (f e) message)
    (h : Course terms tells (some ⟨[given], none⟩) work other) :
    Course terms tells' (some ⟨[errand], none⟩) (work.mapError f) (other.mapError f) := by
  obtain ⟨call, blames⟩ := errand
  obtain rfl : call = given.call := hcall
  exact mapError (fun given => ⟨given.call, blames⟩) (fun _ => rfl) htells
    (List.forall_mem_singleton.2 hblames) h

theorem mapError_unscheduled {schedule : Option (Schedule ε)}
    (htells : ∀ e text, tells e text → tells' (f e) text)
    (h : Course terms tells schedule work other) :
    Course terms tells' none (work.mapError f) (other.mapError f) := by
  rw [Work.mapError_eq_handle, Work.mapError_eq_handle]
  exact handled_unscheduled htells h fun a => .unscheduled (.pure a)

end MapError

end Course

end SchemaUpgrade
