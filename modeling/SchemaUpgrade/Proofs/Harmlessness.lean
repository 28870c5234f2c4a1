import SchemaUpgrade.Proofs.Listing
/-!
# Planning applies nothing

A plan may be asked of any database, also of one that somebody else is using, and with templates
that nobody has looked at.  Whatever comes of it, the tables stay as they are: what is committed is
the creating statement, or nothing (`Runner.plan_applies_nothing`).

The argument is about the creation of the bookkeeping table, because a plan only asks one question
after it.  A creation that succeeded is known already (`Dialect.ensureTable_of_ok`).  One that fails
takes one of four courses (`Dialect.GivenUp`), and on none of them anything is committed: the
creating statement is sent into a transaction that holds nothing yet, so even if that statement
ends the transaction, what it publishes is what was committed before
(`Statement.committed_of_carryOut`).

## Main definitions

* `Journal.openings`, `Journal.queries`: the transactions opened, and the questions asked.
* `Dialect.GivenUp`: what is called for a creation that fails.
* `Runner.AppliesNothing`: what a plan does and leaves.
-/

namespace SchemaUpgrade

open Engine

variable {site after : Site} {journal : Journal}

/-! ## Transactions opened and questions asked -/

/-- Whether an entry tells of a transaction that was opened. -/
def Entry.isOpening : Entry → Bool
  | .called (.batch sql) none => sql = beginText
  | _ => false

/-- Whether a call only asks for rows. -/
def Engine.Call.isQuery : Call → Bool
  | .column _ | .count _ | .relation _ _ => true
  | .connect _ | .batch _ | .execute _ _ => false

namespace Journal

/-- How many transactions were opened. -/
def openings (journal : Journal) : Nat := journal.countP Entry.isOpening

/-- The questions that were asked, also those that failed. -/
def queries (journal : Journal) : List Call := journal.calls.filter Call.isQuery

@[simp] theorem openings_append (first second : Journal) :
    openings (first ++ second) = openings first + openings second :=
  List.countP_append

@[simp] theorem openings_logged (events : List Log.Event) : openings (events.map .logged) = 0 := by
  simp [openings, Entry.isOpening]

@[simp] theorem queries_append (first second : Journal) :
    queries (first ++ second) = queries first ++ queries second := by
  simp [queries]

@[simp] theorem queries_logged (events : List Log.Event) : queries (events.map .logged) = [] := by
  simp [queries]

/-- A question opens no transaction. -/
@[simp] theorem openings_column (sql : String) (failure : Option String) :
    openings [.called (.column sql) failure] = 0 := by
  cases failure <;> rfl

@[simp] theorem queries_column (sql : String) (failure : Option String) :
    queries [.called (.column sql) failure] = [.column sql] := by
  cases failure <;> rfl

end Journal

/-! ## Statements in a transaction that holds nothing yet -/

namespace Statement

variable {statement : Statement} {db database : Database}

/-- In a transaction that holds nothing yet, no statement changes what is committed, not even one
that ends the transaction. -/
theorem committed_of_carryOut (hopen : db.working = some db.committed)
    (hcarry : statement.carryOut db = .ok database) : database.committed = db.committed := by
  cases hcontrol : statement.isControl with
  | false =>
    rw [carryOut_of_admits hopen hcontrol (admits_of_carryOut hopen hcarry)] at hcarry
    rw [← Except.ok.inj hcarry]
  | true =>
    cases statement with
    | execute sql params => exact absurd hcontrol (by simp [isControl])
    | batch sql =>
      simp only [isControl, Engine.isControl, Bool.or_eq_true, decide_eq_true_eq] at hcontrol
      rcases hcontrol with (rfl | rfl) | rfl
      · simp [carryOut, Database.batch_begin, Database.inTransaction, hopen, Except.map] at hcarry
      · simp only [carryOut, Database.batch_commit, hopen, Except.map, Except.ok.injEq] at hcarry
        rw [← hcarry]
      · simp only [carryOut, Database.batch_rollback, hopen, Except.map, Except.ok.injEq] at hcarry
        rw [← hcarry]

/-- An open transaction takes no second one. -/
theorem ne_begin_of_carryOut {sql : String} (hopen : db.inTransaction = true)
    (hcarry : (Statement.batch sql).carryOut db = .ok database) : sql ≠ beginText := by
  rintro rfl
  simp [carryOut, Database.batch_begin, hopen, Except.map] at hcarry

end Statement

/-! ## The calls that open and end a transaction -/

theorem Connection.begin_of_error {cause : DatabaseError}
    (h : begin site = ⟨.error cause, after, journal⟩) :
    journal = [] ∨ ∃ message, journal = [.called (.batch beginText) (some message)] := by
  rcases Bool.eq_false_or_eq_true site.poisoned with hpoisoned | hsound
  · rw [begin, lock_bind_of_poisoned hpoisoned] at h
    exact .inl (Finished.mk.inj h).2.2.symm
  · rw [begin, lock_bind hsound] at h
    rcases Site.call_cases (.batch beginText) (Database.batch beginText) site with
      ⟨message, faults, hcall⟩ | ⟨answer, database, faults, -, hcall⟩
    · have hfailed := (Work.mapError_of_error hcall).symm.trans h
      exact .inr ⟨message, (Finished.mk.inj hfailed).2.2.symm⟩
    · exact absurd (congrArg Finished.outcome ((Work.mapError_of_ok hcall).symm.trans h)) (by simp)

namespace Transaction

/-- A commit that fails takes two calls. -/
theorem commit_of_error {cause : DatabaseError} (h : commit site = ⟨.error cause, after, journal⟩) :
    ∃ message failure,
      journal = [.called (.batch commitText) (some message),
        .called (.batch rollbackText) failure] ∧
      site.Discarded after journal := by
  rw [commit_eq] at h
  rcases Site.call_cases (.batch commitText) (Database.batch commitText) site with
    ⟨message, faults, hcall⟩ | ⟨answer, database, faults, -, hcall⟩
  · obtain ⟨outcome, discarded, failure, hrollback, hdiscarded⟩ :=
      rollback_then_fail_call (α := Unit)
        (DatabaseError.transaction ("COMMIT failed: " ++ message)).joinRollback
        { site with faults := faults }
    have hall := (Work.bind_of_ok_of (Work.attempt_of hcall) hrollback).symm.trans h
    obtain ⟨-, rfl, rfl⟩ := Finished.mk.inj hall
    exact ⟨message, failure, rfl, hdiscarded.after_refusal ⟨rfl, rfl⟩⟩
  · exact absurd (congrArg Finished.outcome
      ((Work.bind_of_ok (Work.attempt_of hcall)).symm.trans h)) (by simp)

end Transaction

/-! ## Creations of the table that fail -/

namespace Dialect

/-- What is called for a creation of the table that is given up, when `create` is the statement
that creates it.  A rollback at the end may fail too. -/
inductive GivenUp (create : String) : Journal → Prop where
  /-- The connection is poisoned. -/
  | refused : GivenUp create []
  | unopened (message : String) :
      GivenUp create [.called (.batch beginText) (some message)]
  | uncreated (message : String) (failure : Option String) :
      GivenUp create [.called (.batch beginText) none, .called (.batch create) (some message),
        .called (.batch rollbackText) failure]
  | unpublished (message : String) (failure : Option String) (hcreate : create ≠ beginText) :
      GivenUp create [.called (.batch beginText) none, .called (.batch create) none,
        .called (.batch commitText) (some message), .called (.batch rollbackText) failure]

namespace GivenUp

variable {create : String}

theorem openings_le (h : GivenUp create journal) : journal.openings ≤ 1 := by
  cases h with
  | refused => decide
  | unopened message => simp [Journal.openings, Entry.isOpening]
  | uncreated message failure =>
    cases failure <;> simp +decide [Journal.openings, Entry.isOpening]
  | unpublished message failure hcreate =>
    cases failure <;> simp +decide [Journal.openings, Entry.isOpening, hcreate]

theorem queries_eq (h : GivenUp create journal) : journal.queries = [] := by
  cases h <;> rfl

end GivenUp

/-- What a creation of the table that was given up left behind. -/
structure LeftOver (create : String) (site after : Site) (journal : Journal) : Prop where
  course : GivenUp create journal
  frame : site.Frame after
  trace : site.database.Trace (· = site.database.committed) journal after.database
  /-- A transaction that is left open could not be rolled back. -/
  closed : site.database.working = none → after.database.working = none ∨
    ∃ message, journal.getLast? = some (.called (.batch rollbackText) (some message))

/-- Where nothing was committed before the transaction was discarded, nothing is committed
after it. -/
theorem leftOver_of_discarded {create : String} {mid : Site} {front back : Journal}
    {failure : Option String} (hdiscarded : mid.Discarded after back) (hframe : site.Frame mid)
    (htrace : site.database.Trace (· = site.database.committed) front mid.database)
    (hcourse : GivenUp create (front ++ back))
    (hlast : back.getLast? = some (.called (.batch rollbackText) failure))
    (hfailed : back.rollbackFailed = failure.isSome) :
    LeftOver create site after (front ++ back) where
  course := hcourse
  frame := hframe.trans hdiscarded.frame
  trace := htrace.append (hdiscarded.trace.mono fun _ hcontent => hcontent.trans htrace.final)
  closed _ := by
    cases failure with
    | none =>
      have hdatabase := hdiscarded.database
      rw [hfailed] at hdatabase
      exact .inl (by simp [hdatabase])
    | some message => exact .inr ⟨message, by simp [List.getLast?_append, hlast]⟩

section Opened

variable {create message : String} {opened discarded : Site} {database : Database}
  {faults : List Fault}

/-- The creating statement was refused in the transaction that was opened for it. -/
theorem leftOver_of_uncreated {failure : Option String}
    (hopened : site.Filled opened [.called (.batch beginText) none] [])
    (hsend : (Statement.batch create).send opened
      = ⟨.error (.ofEngine message), { opened with faults := faults },
          [.called (.batch create) (some message)]⟩)
    (hdiscarded : { opened with faults := faults }.Discarded discarded
      [.called (.batch rollbackText) failure]) :
    LeftOver create site discarded [.called (.batch beginText) none,
      .called (.batch create) (some message), .called (.batch rollbackText) failure] := by
  have hsent := (Statement.batch create).send_trace (P := (· = site.database.committed)) opened
    hopened.trace.final
  rw [hsend] at hsent
  exact leftOver_of_discarded hdiscarded (hopened.frame.trans ⟨rfl, rfl, rfl⟩)
    (hopened.trace.append (hsent hopened.trace.final)) (.uncreated message failure) rfl
    (by cases failure <;> rfl)

/-- The creating statement was carried out, but the commit behind it failed.  The statement may have
ended the transaction itself; all that counts is what is committed. -/
theorem leftOver_of_unpublished {cause : DatabaseError} {back : Journal}
    (hopened : site.Filled opened [.called (.batch beginText) none] [])
    (hcarry : (Statement.batch create).carryOut opened.database = .ok database)
    (hsend : (Statement.batch create).send opened
      = ⟨.ok (), { opened with faults := faults, database := database },
          [.called (.batch create) none]⟩)
    (hcommit : Transaction.commit { opened with faults := faults, database := database }
      = ⟨.error cause, discarded, back⟩) :
    LeftOver create site discarded
      ([.called (.batch beginText) none, .called (.batch create) none] ++ back) := by
  have hworking : opened.database.working = some opened.database.committed := by
    rw [hopened.working, hopened.trace.final]
    rfl
  have hcommitted : database.committed = site.database.committed :=
    (Statement.committed_of_carryOut hworking hcarry).trans hopened.trace.final
  have hsent := (Statement.batch create).send_trace (P := (· = site.database.committed)) opened
    hopened.trace.final
  rw [hsend] at hsent
  have hcreate := Statement.ne_begin_of_carryOut hopened.inTransaction hcarry
  obtain ⟨message, failure, rfl, hdiscarded⟩ := Transaction.commit_of_error hcommit
  exact leftOver_of_discarded hdiscarded (hopened.frame.trans ⟨rfl, rfl, rfl⟩)
    (hopened.trace.append (hsent hcommitted)) (.unpublished message failure hcreate) rfl
    (by cases failure <;> rfl)

end Opened

variable {dialect : Dialect} {table : String}

/-- Whatever the templates are, a creation of the table that fails commits nothing. -/
theorem ensureTable_of_error {cause : DatabaseError}
    (h : dialect.ensureTable table site = ⟨.error cause, after, journal⟩) :
    LeftOver (render dialect.create table) site after journal := by
  let create : Statement := .batch (render dialect.create table)
  rcases Connection.begin_cases site with
    ⟨refusal, refused, front, hbegin, hframe, hdatabase, htrace, -⟩ |
    ⟨opened, hbegin, -, -, hopened⟩
  · have hall : dialect.ensureTable table site = ⟨.error refusal, refused, front⟩ :=
      Work.bind_of_error hbegin
    obtain ⟨-, rfl, rfl⟩ := Finished.mk.inj (hall.symm.trans h)
    refine ⟨?_, hframe, htrace, fun hidle => .inl (by rw [hdatabase, hidle])⟩
    rcases Connection.begin_of_error hbegin with rfl | ⟨message, rfl⟩
    · exact .refused
    · exact .unopened message
  · rcases create.send_cases opened with
      ⟨message, faults, hsend⟩ | ⟨database, faults, hcarry, hsend⟩
    · obtain ⟨outcome, discarded, failure, hrollback, hdiscarded⟩ :=
        Transaction.rollback_then_fail_call (α := Unit)
          (DatabaseError.ofEngine message).joinRollback { opened with faults := faults }
      have hall : dialect.ensureTable table site = ⟨.error _, discarded, _⟩ :=
        Work.bind_of_ok_of hbegin (Work.bind_of_ok_of (Work.attempt_of hsend) hrollback)
      obtain ⟨-, rfl, rfl⟩ := Finished.mk.inj (hall.symm.trans h)
      exact leftOver_of_uncreated hopened hsend hdiscarded
    · rcases hcommit : Transaction.commit { opened with faults := faults, database := database }
        with ⟨refusal | ⟨⟩, discarded, back⟩
      · have hall : dialect.ensureTable table site = ⟨.error refusal, discarded, _⟩ :=
          Work.bind_of_ok_of hbegin (Work.bind_of_ok_of (Work.attempt_of hsend) hcommit)
        obtain ⟨-, rfl, rfl⟩ := Finished.mk.inj (hall.symm.trans h)
        exact leftOver_of_unpublished hopened hcarry hsend hcommit
      · have hall : dialect.ensureTable table site = ⟨.ok (), discarded, _⟩ :=
          Work.bind_of_ok_of hbegin (Work.bind_of_ok_of (Work.attempt_of hsend) hcommit)
        exact absurd (congrArg Finished.outcome (hall.symm.trans h)) (by simp)

/-- A creating statement that publishes the transaction publishes nothing new, and then there is no
transaction left to end. -/
example :
    (Dialect.ensureTable { create := "COMMIT", applied := "", register := "" } "steps" {}).journal
      = [.called (.batch beginText) none, .called (.batch commitText) none,
        .called (.batch commitText) (some (Database.noneOpen "commit")),
        .called (.batch rollbackText) (some (Database.noneOpen "rollback"))] := by
  decide +kernel

/-- On a sound connection, listing the recorded keys is one call that leaves the database alone. -/
theorem listApplied_call (dialect : Dialect) (table : String) (hsound : site.poisoned = false) :
    ∃ outcome faults failure, dialect.listApplied table site
      = ⟨outcome, { site with faults := faults },
          [.called (.column (render dialect.applied table)) failure]⟩ := by
  rw [listApplied, Connection.column, Connection.lock_bind hsound]
  rcases Site.readColumn_cases (render dialect.applied table) site with
    ⟨message, faults, hread⟩ | ⟨faults, hread⟩
  · exact ⟨_, faults, _, Work.mapError_of_error hread⟩
  · exact ⟨_, faults, _, Work.mapError_of_ok hread⟩

end Dialect

/-! ## Plans -/

namespace Runner

variable (runner : Runner)

/-- A plan ends as the creation of the table does if that fails.  Otherwise it asks for the
recorded keys, and all it does with the answer is to tell events. -/
theorem plan_courses (site : Site) :
    (∃ cause error after journal, runner.dialect.ensureTable runner.tableName site
        = ⟨.error cause, after, journal⟩ ∧
      runner.plan site = ⟨.error error, after, journal⟩) ∨
    (∃ ready front outcome faults failure, ∃ events : List Log.Event,
      runner.dialect.ensureTable runner.tableName site = ⟨.ok (), ready, front⟩ ∧
      runner.plan site = ⟨outcome, { ready with faults := faults },
        front ++ ([.called (.column (Dialect.render runner.dialect.applied runner.tableName))
          failure] ++ events.map .logged)⟩) := by
  rcases runner.listing_cases site with
    ⟨cause, after, journal, hensure, hlisting⟩ |
    ⟨ready, front, answer, listed, more, hensure, hlist, hlisting⟩
  · obtain ⟨phase, hplan⟩ := plan_of_unlisted hlisting
    exact .inl ⟨cause, _, after, journal, hensure, hplan⟩
  · obtain ⟨hsound, -, -, created, hcreated, hframe, -⟩ :=
      Dialect.ensureTable_of_ok (congrArg Finished.outcome hensure)
    obtain ⟨-, rfl, -⟩ := Finished.mk.inj (hensure.symm.trans hcreated)
    obtain ⟨reply, faults, failure, hcall⟩ :=
      runner.dialect.listApplied_call runner.tableName (hframe.poisoned.trans hsound)
    obtain ⟨-, rfl, rfl⟩ := Finished.mk.inj (hlist.symm.trans hcall)
    obtain ⟨outcome, events, hplan⟩ := runner.exists_plan site
    rw [hlisting, List.append_assoc] at hplan
    exact .inr ⟨ready, front, outcome, faults, failure, events, hensure, hplan⟩

/-- What a plan from `site` does, when the creation of the bookkeeping table ends as `prepared` and
the plan as `planned`. -/
structure AppliesNothing (runner : Runner) (site : Site)
    (prepared : Finished Site DatabaseError Unit)
    (planned : Finished Site UpgradeError Plan) : Prop where
  tables : planned.state.database.committed.tables = site.database.committed.tables
  /-- The creating statement is committed exactly if the creation succeeds. -/
  batches_of_ok : prepared.outcome = .ok () →
    planned.state.database.committed.batches
      = site.database.committed.batches ++ [Dialect.render runner.dialect.create runner.tableName]
  batches_of_error : prepared.outcome ≠ .ok () →
    planned.state.database.committed.batches = site.database.committed.batches
  /-- Nothing else is committed at any moment of the plan. -/
  trace : site.database.Trace (site.database.committed.Staged [[runner.creation]]) planned.journal
    planned.state.database
  openings : planned.journal.openings ≤ 1
  queries : planned.journal.queries.length ≤ 1
  /-- Nothing is asked before the table is created. -/
  unasked : prepared.journal.queries = []
  journal_of_ok : prepared.outcome = .ok () → ∃ failure, ∃ events : List Log.Event,
    planned.journal = prepared.journal
      ++ ([.called (.column (Dialect.render runner.dialect.applied runner.tableName)) failure]
        ++ events.map .logged)
  journal_of_error : prepared.outcome ≠ .ok () → planned.journal = prepared.journal
  /-- A transaction that is left open could not be rolled back. -/
  closed : site.database.working = none → planned.state.database.working = none ∨
    ∃ message, planned.journal.getLast? = some (.called (.batch rollbackText) (some message))
  /-- A transaction of somebody else is left alone. -/
  foreign : site.database.inTransaction = true → planned.state.database = site.database
  frame : site.Frame planned.state

/-- A creation that succeeds commits the creating statement in one step. -/
theorem trace_of_created {ready : Site} {front : Journal}
    (hensure : runner.dialect.ensureTable runner.tableName site = ⟨.ok (), ready, front⟩) :
    site.database.Trace (site.database.committed.Staged [[runner.creation]]) front
      ready.database := by
  obtain ⟨-, hidle, hcreate, -⟩ := Dialect.ensureTable_of_ok (congrArg Finished.outcome hensure)
  rcases Dialect.ensureTable_cases hidle hcreate with
    ⟨cause, after, journal, hfailed, -⟩ | ⟨after, journal, hcreated, -, -, hpublishes, -⟩
  · exact absurd (congrArg Finished.outcome (hensure.symm.trans hfailed)) (by simp)
  · obtain ⟨-, rfl, rfl⟩ := Finished.mk.inj (hensure.symm.trans hcreated)
    exact hpublishes.trace

theorem plan_database_of_inTransaction (hopen : site.database.inTransaction = true) :
    (runner.plan site).state.database = site.database := by
  obtain ⟨-, cause, after, journal, hplan, hdatabase, -⟩ := runner.plan_of_inTransaction hopen
  rw [hplan, hdatabase]

/-- A plan that ends with the creation of the table leaves what the creation left. -/
theorem appliesNothing_of_leftOver {cause : DatabaseError} {error : UpgradeError}
    (hleft : Dialect.LeftOver (Dialect.render runner.dialect.create runner.tableName) site after
      journal)
    (hforeign : site.database.inTransaction = true → after.database = site.database) :
    runner.AppliesNothing site ⟨.error cause, after, journal⟩ ⟨.error error, after, journal⟩ where
  tables := congrArg Content.tables hleft.trace.final
  batches_of_ok hok := absurd hok (by simp)
  batches_of_error _ := congrArg Content.batches hleft.trace.final
  trace := hleft.trace.mono fun _ hcontent => ⟨[], List.nil_prefix, hcontent⟩
  openings := hleft.course.openings_le
  queries := by simp [hleft.course.queries_eq]
  unasked := hleft.course.queries_eq
  journal_of_ok hok := absurd hok (by simp)
  journal_of_error _ := rfl
  closed := hleft.closed
  foreign := hforeign
  frame := hleft.frame

/-- A plan that goes on after the creation of the table asks one question and changes nothing
more. -/
theorem appliesNothing_of_created {ready : Site} {front : Journal}
    {outcome : Except UpgradeError Plan} {faults : List Fault} {failure : Option String}
    {events : List Log.Event}
    (hensure : runner.dialect.ensureTable runner.tableName site = ⟨.ok (), ready, front⟩)
    (hforeign : site.database.inTransaction = true → ready.database = site.database) :
    runner.AppliesNothing site ⟨.ok (), ready, front⟩ ⟨outcome, { ready with faults := faults },
      front ++ ([.called (.column (Dialect.render runner.dialect.applied runner.tableName)) failure]
        ++ events.map .logged)⟩ := by
  obtain ⟨-, hidle, hcreate, created, hcreated, hframe, hdatabase⟩ :=
    Dialect.ensureTable_of_ok (congrArg Finished.outcome hensure)
  obtain ⟨-, rfl, hfront⟩ := Finished.mk.inj (hensure.symm.trans hcreated)
  have htrace := runner.trace_of_created hensure
  have hopened : front.openings = 1 := by
    simp only [isControl, Bool.or_eq_false_iff, decide_eq_false_iff_not] at hcreate
    simp +decide [hfront, Journal.openings, Entry.isOpening, hcreate]
  have hunasked : front.queries = [] := by
    rw [hfront]
    rfl
  exact {
    tables := by
      simp only [hdatabase]
      rfl
    batches_of_ok := fun _ => by
      simp only [hdatabase]
      exact Content.batches_record _ _
    batches_of_error := fun herror => absurd rfl herror
    trace := by
      refine htrace.append (.append ?_ (.logged htrace.final events))
      exact .singleton htrace.final (by cases failure <;> rfl) htrace.final
    openings := by
      show (front ++ _).openings ≤ 1
      simp only [Journal.openings_append, Journal.openings_column, Journal.openings_logged,
        hopened]
      omega
    queries := by
      show (front ++ _).queries.length ≤ 1
      simp only [Journal.queries_append, Journal.queries_column, Journal.queries_logged, hunasked]
      exact Nat.le_refl 1
    unasked := hunasked
    journal_of_ok := fun _ => ⟨failure, events, rfl⟩
    journal_of_error := fun herror => absurd rfl herror
    closed := fun _ => .inl (by simp only [hdatabase])
    foreign := hforeign
    frame := hframe.trans ⟨rfl, rfl, rfl⟩ }

/-- Planning applies nothing, whatever the templates are and whatever the engine refuses. -/
theorem plan_applies_nothing (site : Site) :
    runner.AppliesNothing site (runner.dialect.ensureTable runner.tableName site)
      (runner.plan site) := by
  have hforeign : site.database.inTransaction = true → _ := runner.plan_database_of_inTransaction
  rcases runner.plan_courses site with
    ⟨cause, error, after, journal, hensure, hplan⟩ |
    ⟨ready, front, outcome, faults, failure, events, hensure, hplan⟩
  · rw [hplan] at hforeign
    rw [hensure, hplan]
    exact runner.appliesNothing_of_leftOver (Dialect.ensureTable_of_error hensure) hforeign
  · rw [hplan] at hforeign
    rw [hensure, hplan]
    exact runner.appliesNothing_of_created hensure hforeign

end Runner

end SchemaUpgrade
