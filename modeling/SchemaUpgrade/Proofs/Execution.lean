import SchemaUpgrade.Proofs.Instruction
import SchemaUpgrade.Proofs.Segments
/-!
# Executing a script

A script is executed batch by batch.  What the engine makes of a batch is known once the batches
before it are: `Script.refusalAt` is the message with which batch number `i` is refused when it and
those before it are sent, and it says nothing about the execution.  Against it the execution is
described (`Script.Executed`): the batches are sent in order up to and including the first that is
refused, or all of them; each is told just before it is sent, under its number among the batches;
and how the execution ends depends on the first refusal, or on how the stream ended if there was
none. Every stream is executed in this way (`Script.execute_batches_in_order`).

A refusal and a break of the stream race by their place only.  Behind a refused batch it does not
matter how the stream goes on, and a break counts once every batch before it was accepted
(`Script.executeItems_cases`, by induction on the batches).

## Main definitions

* `Site.refusal`, `Site.afterBatches`: what the engine makes of a batch, and the site after batches.
* `Script.FirstRefused`: which batch is the first to be refused.
* `Script.stepJournal`: the journal of the first batches.
* `Script.Executed`: what it means that a script was executed up to its first refused batch.
-/

namespace SchemaUpgrade

open Text

/-! ## Telling a notice -/

namespace Log

/-- Who receives what is told on a route; `none` is the logger of the process. -/
def Route.receiver : Route → Option String
  | .ofProcess => none
  | .toSink sink => some sink.name

/-- Whether what is told on a route is admitted there. -/
def Settings.admitsOn (settings : Settings) (route : Route) (level : Level) (target : String) :
    Bool :=
  match route with
  | .ofProcess => settings.maxLevel.admits level && settings.enabled level target
  | .toSink sink => sink.enabled level target

theorem Settings.deliver_eq (settings : Settings) (route : Route) (notice : Notice) :
    settings.deliver route notice
      = if settings.admitsOn route notice.level notice.target then some ⟨route.receiver, notice⟩
        else none := by
  cases route <;> rfl

end Log

/-- Telling a notice is one event, if it is admitted, and nothing else. -/
theorem Site.log_apply {ε : Type} (route : Log.Route) (notice : Log.Notice) (site : Site) :
    (Site.log route notice : Work Site ε Unit) site = ⟨.ok (), site,
      if site.logging.admitsOn route notice.level notice.target then
        [.logged ⟨route.receiver, notice⟩]
      else []⟩ := by
  rw [Site.log, Log.Settings.deliver_eq]
  split <;> rfl

/-! ## Sending batches -/

namespace Site

/-- The message with which the engine refuses a batch, if it does. -/
def refusal (site : Site) (batch : String) : Option String :=
  match (Site.batch batch site).outcome with
  | .ok () => none
  | .error message => some message

/-- The site after batches were sent one after another, whatever the engine made of them. -/
def afterBatches (site : Site) (batches : List String) : Site :=
  batches.foldl (fun site batch => (Site.batch batch site).state) site

variable (site : Site) (batch : String)

/-- What sending a batch amounts to. -/
theorem batch_apply :
    Site.batch batch site = ⟨match site.refusal batch with
        | none => .ok ()
        | some message => .error message,
      site.afterBatches [batch], [.called (.batch batch) (site.refusal batch)]⟩ := by
  have hstate : site.afterBatches [batch] = (Site.batch batch site).state := rfl
  rw [hstate, refusal]
  rcases Site.call_cases (.batch batch) (Engine.Database.batch batch) site with
    ⟨message, faults, hcall⟩ | ⟨⟨⟩, database, faults, -, hcall⟩ <;>
  · rw [Site.batch, hcall]

theorem logging_afterBatches : (site.afterBatches [batch]).logging = site.logging := by
  have hframe := (Statement.batch batch).send_frame site
  exact congrArg Surroundings.logging hframe.surroundings

end Site

namespace Script

/-- The message with which batch number `i` is refused when it and those before it are sent; `none`
if it is carried out, or if there is no such batch. -/
def refusalAt (batches : List String) (site : Site) (i : Nat) : Option String :=
  batches[i]?.bind (site.afterBatches (batches.take i)).refusal

/-- Batch number `i` is refused, and those before it are not. -/
def FirstRefused (batches : List String) (site : Site) (i : Nat) (message : String) : Prop :=
  refusalAt batches site i = some message ∧ ∀ j < i, refusalAt batches site j = none

/-- What a batch leaves in the journal: one event, if steps are admitted on the route, and just
behind it the call. -/
def stepEntries (key : String) (route : Log.Route) (logging : Log.Settings) (i : Nat)
    (batch : String) (failure : Option String) : Journal :=
  (if logging.admitsOn route .info "stratum" then [.logged ⟨route.receiver, .step key i⟩] else [])
    ++ [.called (.batch batch) failure]

/-- The journal of the first `n` batches of a script whose numbers start at `index`. -/
def stepJournal (key : String) (route : Log.Route) (index : Nat) (batches : List String)
    (site : Site) (n : Nat) : Journal :=
  ((batches.take n).mapIdx fun i batch =>
    stepEntries key route site.logging (index + i) batch (refusalAt batches site i)).flatten

/-- How a script ends of which no batch is refused. -/
def endOf (key : String) : Option ReadError → Except (Halt UpgradeError) Unit
  | none => .ok ()
  | some cause => .error (.failure (.unreadable key cause))

/-- What it means that batches of a script were sent, `sent` of them, to the site of an open
transaction, and that behind the last of them the stream ended or broke. -/
structure Executed (key : String) (route : Log.Route) (site : Site) (batches : List String)
    (broken : Option ReadError) (sent : Nat) (done : Finished Site (Halt UpgradeError) Unit) :
    Prop where
  /-- Those up to and including the first that is refused are sent, or all of them. -/
  extent : (∃ i message, FirstRefused batches site i message ∧ sent = i + 1) ∨
    ((∀ i, refusalAt batches site i = none) ∧ sent = batches.length)
  /-- These are the calls, and there are no others. -/
  calls : done.journal.calls = (batches.take sent).map .batch
  /-- Each call stands just behind the event that tells it, with the message of its refusal. -/
  journal : done.journal = stepJournal key route 0 batches site sent
  /-- If steps are admitted on the route, the events are one for each call, and no others. -/
  events : site.logging.admitsOn route .info "stratum" →
    done.journal.events = (List.range sent).map fun i => ⟨route.receiver, .step key i⟩
  /-- The level, the target and the wording of the event for a batch. -/
  wording : ∀ i elapsed, (Log.Notice.step key i).level = .info ∧
    (Log.Notice.step key i).target = "stratum" ∧
    (Log.Notice.step key i).text elapsed
      = "migration step key=" ++ key ++ " step=" ++ toString i
  /-- The site is left as these calls leave it. -/
  state : done.state = site.afterBatches (batches.take sent)
  /-- It fails at a step if the batch of this number is the first to be refused, with the cause that
  the engine gave. -/
  step_iff : ∀ i cause, done.outcome = .error (.failure (.step key i cause)) ↔
    ∃ message, FirstRefused batches site i message ∧ cause = .ofEngine message
  /-- It fails as unreadable if no batch is refused and the stream broke. -/
  unreadable_iff : ∀ cause, done.outcome = .error (.failure (.unreadable key cause)) ↔
    (∀ i, refusalAt batches site i = none) ∧ broken = some cause
  /-- It succeeds if no batch is refused and the stream ended. -/
  ok_iff : done.outcome = .ok () ↔ (∀ i, refusalAt batches site i = none) ∧ broken = none

/-! ### The first refusal -/

section FirstRefused

variable {batches : List String} {site : Site} {i j : Nat} {message other : String}

theorem FirstRefused.lt_length (h : FirstRefused batches site i message) : i < batches.length := by
  by_contra hge
  have hnone : refusalAt batches site i = none := by
    rw [refusalAt, List.getElem?_eq_none (Nat.le_of_not_lt hge)]
    rfl
  rw [h.1] at hnone
  exact absurd hnone (by simp)

theorem FirstRefused.not_accepted (h : FirstRefused batches site i message) :
    ¬ ∀ i, refusalAt batches site i = none := by
  intro hnone
  have hrefused := h.1
  rw [hnone i] at hrefused
  exact absurd hrefused (by simp)

/-- At most one batch is the first to be refused. -/
theorem FirstRefused.unique (h : FirstRefused batches site i message)
    (h' : FirstRefused batches site j other) : j = i ∧ other = message := by
  have hle : ∀ {i j message other}, FirstRefused batches site i message →
      FirstRefused batches site j other → j ≤ i := by
    intro i j message other h h'
    by_contra hlt
    have hnone := h'.2 i (by omega)
    rw [h.1] at hnone
    exact absurd hnone (by simp)
  obtain rfl : j = i := Nat.le_antisymm (hle h h') (hle h' h)
  exact ⟨rfl, Option.some.inj (h'.1.symm.trans h.1)⟩

end FirstRefused

/-! ### The first batch and those behind it -/

section Cons

variable {batch : String} {rest : List String} {site : Site}

theorem refusalAt_zero : refusalAt (batch :: rest) site 0 = site.refusal batch := rfl

theorem refusalAt_succ (i : Nat) :
    refusalAt (batch :: rest) site (i + 1) = refusalAt rest (site.afterBatches [batch]) i := rfl

variable {key : String} {route : Log.Route} {index : Nat}

theorem stepJournal_zero (batches : List String) :
    stepJournal key route index batches site 0 = [] := rfl

theorem stepJournal_succ (n : Nat) :
    stepJournal key route index (batch :: rest) site (n + 1)
      = stepEntries key route site.logging index batch (site.refusal batch)
        ++ stepJournal key route (index + 1) rest (site.afterBatches [batch]) n := by
  simp only [stepJournal, List.take_succ_cons, List.mapIdx_cons, List.flatten_cons,
    refusalAt_zero, refusalAt_succ, site.logging_afterBatches batch, Nat.add_zero]
  simp only [Nat.add_comm, Nat.add_left_comm]

variable {items : List Item}

/-- Telling a batch and sending it, when the engine refuses it. -/
theorem executeItems_of_refused {message : String} (h : site.refusal batch = some message) :
    executeItems key route index (.ok batch :: items) site
      = ⟨.error (.failure (.step key index (.ofEngine message))), site.afterBatches [batch],
          stepEntries key route site.logging index batch (some message)⟩ := by
  have hbatch := site.batch_apply batch
  simp only [h] at hbatch
  have hsend : (Transaction.batch batch).mapError
      (fun cause => (.failure (.step key index cause) : Halt UpgradeError)) site
      = ⟨.error (.failure (.step key index (.ofEngine message))), site.afterBatches [batch],
          [.called (.batch batch) (some message)]⟩ :=
    Work.mapError_of_error (Work.mapError_of_error hbatch)
  rw [executeItems]
  exact Work.bind_of_ok_of (Site.log_apply route _ site) (Work.bind_of_error hsend)

/-- Telling a batch and sending it, when the engine carries it out, and what comes behind it. -/
theorem executeItems_of_accepted {outcome : Except (Halt UpgradeError) Unit} {last : Site}
    {later : Journal} (h : site.refusal batch = none)
    (hlater : executeItems key route (index + 1) items (site.afterBatches [batch])
      = ⟨outcome, last, later⟩) :
    executeItems key route index (.ok batch :: items) site
      = ⟨outcome, last, stepEntries key route site.logging index batch none ++ later⟩ := by
  have hbatch := site.batch_apply batch
  simp only [h] at hbatch
  have hsend : (Transaction.batch batch).mapError
      (fun cause => (.failure (.step key index cause) : Halt UpgradeError)) site
      = ⟨.ok (), site.afterBatches [batch], [.called (.batch batch) none]⟩ :=
    Work.mapError_of_ok (Work.mapError_of_ok hbatch)
  rw [executeItems, stepEntries, List.append_assoc]
  exact Work.bind_of_ok_of (Site.log_apply route _ site) (Work.bind_of_ok_of hsend hlater)

end Cons

/-! ## The whole script -/

/-- Either a batch is the first to be refused, and the execution ends there, or no batch is refused,
and it ends as the stream did. -/
theorem executeItems_cases (key : String) (route : Log.Route) (broken : Option ReadError)
    (batches : List String) (index : Nat) (site : Site) :
    let done := executeItems key route index
      (batches.map .ok ++ broken.toList.map .error) site
    (∃ i message, FirstRefused batches site i message ∧
      done = ⟨.error (.failure (.step key (index + i) (.ofEngine message))),
        site.afterBatches (batches.take (i + 1)),
        stepJournal key route index batches site (i + 1)⟩) ∨
    ((∀ i, refusalAt batches site i = none) ∧
      done = ⟨endOf key broken, site.afterBatches batches,
        stepJournal key route index batches site batches.length⟩) := by
  induction batches generalizing index site with
  | nil =>
    refine .inr ⟨fun i => rfl, ?_⟩
    cases broken <;> rfl
  | cons batch rest ih =>
    intro done
    cases hfirst : site.refusal batch with
    | some message =>
      refine .inl ⟨0, message, ⟨hfirst, ?_⟩, ?_⟩
      · intro j hj
        exact absurd hj (Nat.not_lt_zero j)
      · rw [stepJournal_succ, stepJournal_zero, List.append_nil, hfirst]
        exact executeItems_of_refused hfirst
    | none =>
      -- the batches behind are numbered from `index + 1` on; their batch `i` is batch `i + 1` here
      rcases ih (index + 1) (site.afterBatches [batch]) with
        ⟨i, message, ⟨hrefused, hbefore⟩, hlater⟩ | ⟨hnone, hlater⟩
      · refine .inl ⟨i + 1, message, ⟨hrefused, ?_⟩, ?_⟩
        · intro j hj
          cases j with
          | zero => exact hfirst
          | succ j => exact hbefore j (Nat.lt_of_succ_lt_succ hj)
        · rw [stepJournal_succ, hfirst, show index + (i + 1) = index + 1 + i by omega]
          exact executeItems_of_accepted hfirst hlater
      · refine .inr ⟨?_, ?_⟩
        · intro i
          cases i with
          | zero => exact hfirst
          | succ i => exact hnone i
        · rw [List.length_cons, stepJournal_succ, hfirst]
          exact executeItems_of_accepted hfirst hlater

section Journal

variable (key : String) (route : Log.Route) (index : Nat) (batches : List String) (site : Site)

theorem calls_stepJournal (n : Nat) :
    (stepJournal key route index batches site n).calls = (batches.take n).map .batch := by
  induction batches generalizing index site n with
  | nil => simp [stepJournal]
  | cons batch rest ih =>
    cases n with
    | zero => rfl
    | succ n =>
      rw [stepJournal_succ, Journal.calls_append, ih, stepEntries]
      cases site.logging.admitsOn route .info "stratum" <;> rfl

/-- Each batch is told on the route, whatever is admitted there. -/
theorem events_stepJournal_eq {n : Nat} (hn : n ≤ batches.length) :
    (stepJournal key route index batches site n).events
      = (List.range' index n).filterMap fun i => site.logging.deliver route (.step key i) := by
  induction batches generalizing index site n with
  | nil =>
    obtain rfl : n = 0 := Nat.le_zero.1 hn
    rfl
  | cons batch rest ih =>
    cases n with
    | zero => rfl
    | succ n =>
      rw [stepJournal_succ, Journal.events_append,
        ih (index + 1) (site.afterBatches [batch]) (Nat.le_of_succ_le_succ hn),
        site.logging_afterBatches batch, stepEntries, List.range'_succ, List.filterMap_cons,
        Log.Settings.deliver_eq]
      have hlevel : (Log.Notice.step key index).level = .info := rfl
      have htarget : (Log.Notice.step key index).target = "stratum" := rfl
      rw [hlevel, htarget]
      cases site.logging.admitsOn route .info "stratum" <;> rfl

theorem events_stepJournal (hroute : site.logging.admitsOn route .info "stratum") {n : Nat}
    (hn : n ≤ batches.length) :
    (stepJournal key route index batches site n).events
      = (List.range' index n).map fun i => ⟨route.receiver, .step key i⟩ := by
  have hdeliver : ∀ i, site.logging.deliver route (.step key i)
      = some ⟨route.receiver, .step key i⟩ := fun i => by
    rw [Log.Settings.deliver_eq]
    exact if_pos hroute
  rw [events_stepJournal_eq key route index batches site hn]
  simp only [hdeliver]
  exact congrFun List.filterMap_eq_map _

end Journal

/-- The first batch that is refused ends the execution. -/
theorem executed_of_refused {key : String} {route : Log.Route} {batches : List String}
    {site : Site} {i : Nat} {message : String} (h : FirstRefused batches site i message)
    (broken : Option ReadError) :
    Executed key route site batches broken (i + 1)
      ⟨.error (.failure (.step key i (.ofEngine message))),
        site.afterBatches (batches.take (i + 1)),
        stepJournal key route 0 batches site (i + 1)⟩ where
  extent := .inl ⟨i, message, h, rfl⟩
  calls := calls_stepJournal key route 0 batches site (i + 1)
  journal := rfl
  events := fun hroute => by
    rw [events_stepJournal key route 0 batches site hroute h.lt_length, List.range_eq_range']
  wording := fun _ _ => ⟨rfl, rfl, rfl⟩
  state := rfl
  step_iff := by
    intro j cause
    constructor
    · intro hsame
      injection hsame with hsame
      injection hsame with hsame
      injection hsame with _ hindex hcause
      subst hindex hcause
      exact ⟨message, h, rfl⟩
    · rintro ⟨other, hother, rfl⟩
      obtain ⟨rfl, rfl⟩ := h.unique hother
      rfl
  unreadable_iff := by
    intro cause
    constructor
    · intro hsame
      exact absurd hsame (by simp)
    · rintro ⟨hnone, -⟩
      exact absurd hnone h.not_accepted
  ok_iff := by
    constructor
    · intro hsame
      exact absurd hsame (by simp)
    · rintro ⟨hnone, -⟩
      exact absurd hnone h.not_accepted

/-- If no batch is refused, the execution ends as the stream did. -/
theorem executed_of_accepted {key : String} {route : Log.Route} {batches : List String}
    {site : Site} (h : ∀ i, refusalAt batches site i = none) (broken : Option ReadError) :
    Executed key route site batches broken batches.length
      ⟨endOf key broken, site.afterBatches batches,
        stepJournal key route 0 batches site batches.length⟩ where
  extent := .inr ⟨h, rfl⟩
  calls := calls_stepJournal key route 0 batches site batches.length
  journal := rfl
  events := fun hroute => by
    rw [events_stepJournal key route 0 batches site hroute (Nat.le_refl _), List.range_eq_range']
  wording := fun _ _ => ⟨rfl, rfl, rfl⟩
  state := by rw [List.take_length]
  step_iff := by
    intro i cause
    constructor
    · intro hsame
      cases broken <;> exact absurd hsame (by simp [endOf])
    · rintro ⟨message, hrefused, -⟩
      exact absurd h hrefused.not_accepted
  unreadable_iff := by
    intro cause
    cases broken <;> simp [endOf, h]
  ok_iff := by
    cases broken <;> simp [endOf, h]

/-- What a stream yields: batches, and the error that broke it, if one did. -/
theorem exists_items (stream : ByteStream) :
    ∃ batches : List String,
      items stream = batches.map .ok ++ stream.read.broken.toList.map .error := by
  obtain ⟨batches, hbatches⟩ := exists_batches stream.read.broken [] stream.read.lines
  refine ⟨batches, ?_⟩
  rw [items, Splitter.drain_due, ← hbatches]
  rfl

/-- A script is executed in the order of the batches that its stream yields, and the rest of the
stream behind a batch that is refused is of no account. -/
theorem execute_batches_in_order (stream : ByteStream) (key : String) (route : Log.Route)
    (site : Site) :
    ∃ (batches : List String) (broken : Option ReadError) (sent : Nat),
      items stream = batches.map .ok ++ broken.toList.map .error ∧
        Executed key route site batches broken sent (execute stream key route site) := by
  obtain ⟨batches, hitems⟩ := exists_items stream
  have hcases := executeItems_cases key route stream.read.broken batches 0 site
  rw [← hitems] at hcases
  rcases hcases with ⟨i, message, hrefused, hdone⟩ | ⟨hnone, hdone⟩
  · refine ⟨batches, stream.read.broken, i + 1, hitems, ?_⟩
    rw [execute, hdone, Nat.zero_add]
    exact executed_of_refused hrefused _
  · refine ⟨batches, stream.read.broken, batches.length, hitems, ?_⟩
    rw [execute, hdone]
    exact executed_of_accepted hnone _

end Script

end SchemaUpgrade
