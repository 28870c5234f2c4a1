import SchemaUpgrade.Proofs.Stages
/-!
# What planning asks of the engine

A plan needs the engine to create the bookkeeping table and to list the recorded keys.  Everything
after that is a comparison of keys, which calls the engine no more (`Runner.calls_plan`): it yields
the plan (`Runner.plan_of_continued`) or the mismatch with the history (`Runner.plan_of_mismatch`).

The keys can only be listed on a sound connection without an open transaction, and then exactly the
creating statement is committed, in a transaction of its own (`Runner.listed_of_ok`).  Nothing is
assumed of the templates: a creating statement that opens or ends a transaction makes the creation
fail.  So a plan that succeeds tells that no transaction was open, and the stages of a run are the
same on every site (`Runner.run_stages`).

## Main definitions

* `Runner.listing`: creating the table and listing the keys.
* `Runner.Listed`: what holds when the keys were listed.
-/

namespace SchemaUpgrade

open Engine

variable {site : Site}

/-! ## Control statements as the creating statement -/

/-- No transaction is open after a control statement that was sent inside one. -/
theorem Statement.working_of_isControl {statement : Statement} {db after : Database}
    (hopen : db.inTransaction = true) (hcontrol : statement.isControl = true)
    (hcarry : statement.carryOut db = .ok after) : after.working = none := by
  cases statement with
  | execute sql params => exact absurd hcontrol (by simp [isControl])
  | batch sql =>
    simp only [isControl, Engine.isControl, Bool.or_eq_true, decide_eq_true_eq] at hcontrol
    rcases hcontrol with (rfl | rfl) | rfl
    · rw [carryOut, Database.batch_begin, if_pos hopen] at hcarry
      exact absurd hcarry (by simp [Except.map])
    · rw [carryOut, Database.batch_commit] at hcarry
      split at hcarry
      · obtain rfl := Except.ok.inj hcarry
        rfl
      · exact absurd hcarry (by simp [Except.map])
    · rw [carryOut, Database.batch_rollback] at hcarry
      split at hcarry
      · obtain rfl := Except.ok.inj hcarry
        rfl
      · exact absurd hcarry (by simp [Except.map])

theorem Engine.Database.eq_of_idle {db : Database} {content : Content} (hidle : db.working = none)
    (hcommitted : db.committed = content) : db = { committed := content } := by
  rw [← hcommitted, ← hidle]

/-- A transaction that is not open is not published. -/
theorem Transaction.commit_of_idle (hidle : site.database.working = none) :
    (commit site).outcome ≠ .ok () := by
  rcases commit_cases site with
    ⟨content, faults, hopen, -⟩ | ⟨text, outcome, after, journal, hcommit, -⟩
  · exact absurd (hidle.symm.trans hopen) (by simp)
  · rw [hcommit]
    simp

namespace Dialect

variable {dialect : Dialect} {table : String}

/-- What the creation of the bookkeeping table did when it succeeded. -/
theorem ensureTable_of_ok (hok : (dialect.ensureTable table site).outcome = .ok ()) :
    site.poisoned = false ∧ site.database.working = none ∧
      isControl (render dialect.create table) = false ∧
      ∃ after, dialect.ensureTable table site = ⟨.ok (), after,
          [.called (.batch beginText) none,
            .called (.batch (render dialect.create table)) none,
            .called (.batch commitText) none]⟩ ∧
        site.Frame after ∧ after.database
          = { committed := site.database.committed.record (render dialect.create table) } := by
  let create : Statement := .batch (render dialect.create table)
  rcases Connection.begin_cases site with
    ⟨cause, after, journal, hbegin, -⟩ | ⟨opened, hbegin, hsound, hidle, hopened⟩
  · rw [ensureTable, Work.bind_of_error hbegin] at hok
    exact absurd hok (by simp)
  · rcases create.send_cases opened with
      ⟨message, faults, hsend⟩ | ⟨database, faults, hcarry, hsend⟩
    · obtain ⟨outcome, after, journal, hrollback, -⟩ := Transaction.rollback_then_fail
        (α := Unit) (DatabaseError.ofEngine message).joinRollback { opened with faults := faults }
      have hall : dialect.ensureTable table site = ⟨.error _, after, _⟩ :=
        Work.bind_of_ok_of hbegin (Work.bind_of_ok_of (Work.attempt_of hsend) hrollback)
      rw [hall] at hok
      exact absurd hok (by simp)
    · have hcommitted : dialect.ensureTable table site = ⟨_, _, _⟩ :=
        Work.bind_of_ok_of hbegin (Work.bind_of_ok (Work.attempt_of hsend))
      rw [hcommitted] at hok
      cases hcontrol : create.isControl with
      | true =>
        have hclosed := Statement.working_of_isControl hopened.inTransaction hcontrol hcarry
        exact absurd hok (Transaction.commit_of_idle hclosed)
      | false =>
        rcases hopened.send_cases hcontrol with
          ⟨message, failed, hfailed, -⟩ | ⟨filled, hsend', hfilled⟩
        · exact absurd (congrArg Finished.outcome (hsend.symm.trans hfailed)) (by simp)
        · obtain ⟨-, rfl, -⟩ := Finished.mk.inj (hsend.symm.trans hsend')
          rcases hfilled.commit_cases with
            ⟨after, hcommit, hframe, hready, hpublishes⟩ |
            ⟨text, outcome, after, journal, hcommit, -⟩
          · refine ⟨hsound, hidle, hcontrol, after, ?_, hframe, ?_⟩
            · exact Work.bind_of_ok_of hbegin (Work.bind_of_ok_of (Work.attempt_of hsend) hcommit)
            · exact Database.eq_of_idle hready hpublishes.committed
          · exact absurd ((congrArg Finished.outcome hcommit).symm.trans hok) (by simp)

theorem listApplied_of_ok {recorded : List String}
    (hok : (dialect.listApplied table site).outcome = .ok recorded) :
    recorded = site.database.column (render dialect.applied table) ∧
      ∃ after, dialect.listApplied table site
          = ⟨.ok recorded, after, [.called (.column (render dialect.applied table)) none]⟩ ∧
        site.Frame after ∧ after.database = site.database := by
  rcases Bool.eq_false_or_eq_true site.poisoned with hpoisoned | hsound
  · rw [listApplied, Connection.column, Connection.lock_bind_of_poisoned hpoisoned] at hok
    exact absurd hok (by simp)
  · rw [listApplied, Connection.column, Connection.lock_bind hsound] at hok ⊢
    rcases Site.readColumn_cases (render dialect.applied table) site with
      ⟨message, faults, hread⟩ | ⟨faults, hread⟩
    · rw [Work.mapError_of_error hread] at hok
      exact absurd hok (by simp)
    · rw [Work.mapError_of_ok hread] at hok ⊢
      obtain rfl := Except.ok.inj hok
      exact ⟨rfl, _, rfl, ⟨rfl, rfl, rfl⟩, rfl⟩

end Dialect

/-! ## Creating the table and listing the keys -/

namespace Runner

variable (runner : Runner)

/-- Creates the bookkeeping table and lists the recorded keys. -/
def listing : Work Site DatabaseError (List String) := do
  runner.dialect.ensureTable runner.tableName
  runner.dialect.listApplied runner.tableName

/-- The journal of a listing that succeeded. -/
def listingJournal : Journal :=
  [.called (.batch beginText) none,
    .called (.batch (Dialect.render runner.dialect.create runner.tableName)) none,
    .called (.batch commitText) none,
    .called (.column (Dialect.render runner.dialect.applied runner.tableName)) none]

/-- The keys were listed from `site`: the creating statement was committed in a transaction of its
own, and the keys are those that the content recorded before. -/
structure Listed (site after : Site) (recorded : List String) : Prop where
  sound : site.poisoned = false
  idle : site.database.working = none
  creation : runner.creation.isControl = false
  reported : recorded = runner.recorded site.database.committed
  listing : runner.listing site = ⟨.ok recorded, after, runner.listingJournal⟩
  frame : site.Frame after
  database : after.database = { committed := site.database.committed.perform runner.creation }

variable {runner} {recorded : List String} {after : Site} {journal : Journal}

/-- A listing fails at the creation of the table, or it ends as the query of the keys does. -/
theorem listing_cases (runner : Runner) (site : Site) :
    (∃ cause after journal, runner.dialect.ensureTable runner.tableName site
        = ⟨.error cause, after, journal⟩ ∧
      runner.listing site = ⟨.error cause, after, journal⟩) ∨
    (∃ ready front outcome after more, runner.dialect.ensureTable runner.tableName site
        = ⟨.ok (), ready, front⟩ ∧
      runner.dialect.listApplied runner.tableName ready = ⟨outcome, after, more⟩ ∧
      runner.listing site = ⟨outcome, after, front ++ more⟩) := by
  rcases Work.bind_cases (runner.dialect.ensureTable runner.tableName)
      (fun _ => runner.dialect.listApplied runner.tableName) site with
    ⟨cause, after, journal, hensure, hlisting⟩ | ⟨_, ready, front, hensure, hlisting⟩
  · exact .inl ⟨cause, after, journal, hensure, hlisting⟩
  · exact .inr ⟨ready, front, _, _, _, hensure, rfl, hlisting⟩

theorem listed_of_ok (hok : (runner.listing site).outcome = .ok recorded) :
    ∃ after, runner.Listed site after recorded := by
  rcases runner.listing_cases site with
    ⟨cause, failed, journal, -, hlisting⟩ |
    ⟨ready, front, outcome, listed, more, hensure, hlist, hlisting⟩
  · rw [hlisting] at hok
    exact absurd hok (by simp)
  · obtain ⟨hsound, hidle, hcreation, created, hcreated, hframe, hdatabase⟩ :=
      Dialect.ensureTable_of_ok (congrArg Finished.outcome hensure)
    obtain ⟨-, rfl, rfl⟩ := Finished.mk.inj (hensure.symm.trans hcreated)
    rw [hlisting] at hok
    obtain ⟨hrecorded, after, hanswer, hframe', hdatabase'⟩ :=
      Dialect.listApplied_of_ok ((congrArg Finished.outcome hlist).trans hok)
    obtain ⟨rfl, rfl, rfl⟩ := Finished.mk.inj (hlist.symm.trans hanswer)
    refine ⟨listed, hsound, hidle, hcreation, ?_, hlisting, hframe.trans hframe', ?_⟩
    · rw [hrecorded, hdatabase]
      rfl
    · rw [hdatabase', hdatabase]
      rfl

theorem listed_of_no_faults (hidle : site.database.working = none)
    (hcreate : runner.creation.isControl = false) (hfaults : site.faults = [])
    (hsound : site.poisoned = false) :
    runner.Listed site
      { site with
        database := { committed := site.database.committed.perform runner.creation } }
      (runner.recorded site.database.committed) := by
  obtain ⟨journal, hensure⟩ :=
    runner.dialect.ensureTable_of_no_faults runner.tableName hidle hcreate hfaults hsound
  let ready : Site :=
    { site with database := { committed := site.database.committed.perform runner.creation } }
  have hlist : runner.dialect.listApplied runner.tableName ready
      = ⟨.ok (runner.recorded site.database.committed), ready, _⟩ :=
    runner.dialect.listApplied_of_no_faults runner.tableName hfaults hsound
  have hlisting : runner.listing site
      = ⟨.ok (runner.recorded site.database.committed), ready, _⟩ :=
    Work.bind_of_ok_of hensure hlist
  obtain ⟨after, hlisted⟩ := listed_of_ok (congrArg Finished.outcome hlisting)
  obtain ⟨-, rfl, -⟩ := Finished.mk.inj (hlisted.listing.symm.trans hlisting)
  exact hlisted

/-! ## From the listing to the plan and the run -/

/-- A plan whose keys could not be listed fails with what the database said. -/
theorem plan_of_unlisted {cause : DatabaseError}
    (h : runner.listing site = ⟨.error cause, after, journal⟩) :
    ∃ phase, runner.plan site = ⟨.error (.backend phase cause), after, journal⟩ := by
  rcases runner.listing_cases site with
    ⟨other, failed, front, hensure, hlisting⟩ |
    ⟨ready, front, outcome, listed, more, hensure, hlist, hlisting⟩
  · obtain ⟨hcause, rfl, rfl⟩ := Finished.mk.inj (hlisting.symm.trans h)
    obtain rfl := Except.error.inj hcause
    exact ⟨.createTable, Work.bind_of_error (Work.mapError_of_error hensure)⟩
  · obtain ⟨rfl, rfl, rfl⟩ := Finished.mk.inj (hlisting.symm.trans h)
    exact ⟨.listApplied, Work.bind_of_ok_of (Work.mapError_of_ok hensure)
      (Work.bind_of_error (Work.mapError_of_error hlist))⟩

/-- What a plan does with the keys that were listed: it compares them with those of the runner. -/
def comparison (runner : Runner) (recorded : List String) : Work Site UpgradeError Plan := do
  runner.logHistoryEnd recorded
  let resume ← runner.resumeAfter recorded
  pure {
    resumePoint := resume
    applied := recorded
    pending := runner.keys.filter (History.isPending resume) }

theorem plan_of_listing {outcome : Except UpgradeError Plan} {last : Site} {more : Journal}
    (h : runner.listing site = ⟨.ok recorded, after, journal⟩)
    (hcompare : runner.comparison recorded after = ⟨outcome, last, more⟩) :
    runner.plan site = ⟨outcome, last, journal ++ more⟩ := by
  rcases runner.listing_cases site with
    ⟨other, failed, front, hensure, hlisting⟩ |
    ⟨ready, front, answer, listed, query, hensure, hlist, hlisting⟩
  · exact absurd (congrArg Finished.outcome (hlisting.symm.trans h)) (by simp)
  · obtain ⟨rfl, rfl, rfl⟩ := Finished.mk.inj (hlisting.symm.trans h)
    rw [List.append_assoc]
    exact Work.bind_of_ok_of (Work.mapError_of_ok hensure)
      (Work.bind_of_ok_of (Work.mapError_of_ok hlist) hcompare)

theorem plan_of_continued {resume : Option String}
    (h : runner.listing site = ⟨.ok recorded, after, journal⟩)
    (hresume : History.resumePoint runner.keys recorded = .ok resume) :
    ∃ events : List Log.Event, runner.plan site
      = ⟨.ok { resumePoint := resume, applied := recorded,
               pending := runner.keys.filter (History.isPending resume) },
          after, journal ++ events.map .logged⟩ := by
  obtain ⟨events, hlog⟩ := runner.logHistoryEnd_apply recorded after
  refine ⟨events, plan_of_listing h ?_⟩
  rw [comparison, Work.bind_of_ok hlog, Work.bind_of_silent (resumeAfter_of_ok after hresume),
    Work.pure_apply, List.append_nil]

theorem plan_of_mismatch {mismatch : HistoryError}
    (h : runner.listing site = ⟨.ok recorded, after, journal⟩)
    (hresume : History.resumePoint runner.keys recorded = .error mismatch) :
    ∃ events : List Log.Event, runner.plan site
      = ⟨.error (.history mismatch), after, journal ++ events.map .logged⟩ := by
  obtain ⟨events, hlog⟩ := runner.logHistoryEnd_apply recorded after
  obtain ⟨more, hstop⟩ := resumeAfter_of_error after hresume
  refine ⟨events ++ more, plan_of_listing h ?_⟩
  rw [comparison, Work.bind_of_ok_of hlog (Work.bind_of_error hstop), List.map_append]

theorem listed_of_plan_ok {plan : Plan} (hok : (runner.plan site).outcome = .ok plan) :
    ∃ after, runner.Listed site after (runner.recorded site.database.committed) := by
  rcases hlisting : runner.listing site with ⟨cause | recorded, after, journal⟩
  · obtain ⟨phase, hplan⟩ := plan_of_unlisted hlisting
    rw [hplan] at hok
    exact absurd hok (by simp)
  · obtain ⟨after, h⟩ := listed_of_ok (congrArg Finished.outcome hlisting)
    exact ⟨after, h.reported ▸ h⟩

/-- After the listing, a plan only tells events. -/
theorem exists_plan (runner : Runner) (site : Site) :
    ∃ (outcome : Except UpgradeError Plan) (events : List Log.Event), runner.plan site
      = ⟨outcome, (runner.listing site).state,
          (runner.listing site).journal ++ events.map .logged⟩ := by
  rcases h : runner.listing site with ⟨cause | recorded, after, journal⟩
  · obtain ⟨phase, hplan⟩ := plan_of_unlisted h
    refine ⟨.error (.backend phase cause), [], ?_⟩
    rw [hplan, List.map_nil, List.append_nil]
  · cases hresume : History.resumePoint runner.keys recorded with
    | error mismatch =>
      obtain ⟨events, hplan⟩ := plan_of_mismatch h hresume
      exact ⟨_, events, hplan⟩
    | ok resume =>
      obtain ⟨events, hplan⟩ := plan_of_continued h hresume
      exact ⟨_, events, hplan⟩

theorem exists_journal_plan (runner : Runner) (site : Site) :
    ∃ events : List Log.Event,
      (runner.plan site).journal = (runner.listing site).journal ++ events.map .logged := by
  obtain ⟨outcome, events, hplan⟩ := runner.exists_plan site
  exact ⟨events, by rw [hplan]⟩

/-- A plan calls the engine for the listing alone. -/
theorem calls_plan (runner : Runner) (site : Site) :
    (runner.plan site).journal.calls = (runner.listing site).journal.calls := by
  obtain ⟨events, hjournal⟩ := runner.exists_journal_plan site
  rw [hjournal, Journal.calls_append, Journal.calls_logged, List.append_nil]

/-- The stages of any run: its plan fails; or the plan succeeds, the migrations that are not pending
are skipped, and the run passes some of the pending ones and ends at the next. -/
theorem run_stages (runner : Runner) (site : Site) :
    (∃ error after journal, runner.plan site = ⟨.error error, after, journal⟩ ∧
      runner.run site = ⟨.error (.failure error), after, journal⟩) ∨
    (∃ plan listed ready planned events passed rest mid journal finished,
      runner.plan site = ⟨.ok plan, ready, planned⟩ ∧
      runner.Listed site listed (runner.recorded site.database.committed) ∧
      runner.PlanFor site.database.committed plan ∧ site.Frame ready ∧
      runner.pendingOn site.database.committed = passed ++ rest ∧
      runner.Passes passed ready mid journal ∧
      runner.Ends { skipped := (runner.skippedOn site.database.committed).map Migration.key }
        passed mid rest finished ∧
      runner.run site = ⟨finished.outcome, finished.state,
        planned ++ (List.map Entry.logged events ++ journal) ++ finished.journal⟩) := by
  rcases hplan : runner.plan site with ⟨error | plan, ready, planned⟩
  · exact .inl ⟨error, ready, planned, rfl, Work.bind_of_error (Work.mapError_of_error hplan)⟩
  · obtain ⟨listed, h⟩ := listed_of_plan_ok (congrArg Finished.outcome hplan)
    rcases run_steps h.creation h.idle with
      ⟨error, failed, other, hfailed, -⟩ |
      ⟨plan', ready', planned', events, passed, rest, mid, journal, finished, hplan', hfor, hframe,
        -, -, -, hsplit, hpasses, hends, hrun⟩
    · exact absurd (congrArg Finished.outcome (hplan.symm.trans hfailed)) (by simp)
    · rw [hplan] at hplan'
      obtain ⟨hsame, rfl, rfl⟩ := Finished.mk.inj hplan'
      obtain rfl := Except.ok.inj hsame
      exact .inr ⟨plan, listed, ready, planned, events, passed, rest, mid, journal, finished, rfl,
        h, hfor, hframe, hsplit, hpasses, hends, hrun⟩

theorem listed_of_run_ok {report : Report} (hok : (runner.run site).outcome = .ok report) :
    ∃ after, runner.Listed site after (runner.recorded site.database.committed) := by
  rcases runner.run_stages site with
    ⟨error, after, journal, -, hrun⟩ | ⟨_, listed, _, _, _, _, _, _, _, _, -, hlisted, -⟩
  · rw [hrun] at hok
    exact absurd hok (by simp)
  · exact ⟨listed, hlisted⟩

end Runner

end SchemaUpgrade
