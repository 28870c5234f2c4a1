import SchemaUpgrade.Runner.Run
import SchemaUpgrade.Proofs.Transaction
/-!
# What planning does

A plan creates the bookkeeping table in a transaction of its own, lists the recorded keys, and
compares them with the given ones.  `Runner.plan_cases` names every way in which this can end.  A
plan publishes the creating statement or nothing at all, and a plan that succeeds resumes after the
last key that the database had recorded.

A database with an open transaction refuses to plan and stays as it is
(`Runner.plan_of_inTransaction`).

## Main definitions

* `Runner.creation`: the statement that creates the bookkeeping table.
* `Runner.recorded`: the keys that a content records.
* `Runner.created`: what a plan publishes.
* `Runner.historyEnd`, `Runner.mismatchNotices`: what a plan tells about the history.
-/

namespace SchemaUpgrade

open Engine

/-! ## The bookkeeping table -/

namespace Dialect

variable {dialect : Dialect} {table : String} {site : Site}

/-- How creating the bookkeeping table can end when no transaction is open: nothing is published,
or the creating statement is. -/
theorem ensureTable_cases (hidle : site.database.working = none)
    (hcreate : isControl (render dialect.create table) = false) :
    (∃ cause after journal, dialect.ensureTable table site = ⟨.error cause, after, journal⟩ ∧
      site.Frame after ∧ site.database.Publishes journal after.database [] ∧
      journal.published = false) ∨
    (∃ after journal, dialect.ensureTable table site = ⟨.ok (), after, journal⟩ ∧
      site.Frame after ∧ after.database.working = none ∧
      site.database.Publishes journal after.database [[.batch (render dialect.create table)]] ∧
      journal.published = true) := by
  have hplain : (Statement.batch (render dialect.create table)).isControl = false := hcreate
  rcases Connection.begin_cases site with
    ⟨cause, after, journal, hbegin, hframe, hafter, htrace, hquiet⟩ |
    ⟨opened, hbegin, -, -, hopened⟩
  · refine .inl ⟨cause, after, journal, Work.bind_of_error hbegin, hframe, .nothing htrace ?_,
      hquiet.published⟩
    rw [hafter, Database.inTransaction, hidle, hquiet.rollbackFailed]
    rfl
  · rcases hopened.send_cases hplain with
      ⟨message, failed, hsend, hfailed⟩ | ⟨filled, hsend, hfilled⟩
    · obtain ⟨outcome, after, journal, hrollback, hafter⟩ :=
        Transaction.rollback_then_fail (α := Unit) (DatabaseError.ofEngine message).joinRollback
          failed
      refine .inl ⟨_, after, _, Work.bind_of_ok_of hbegin
        (Work.bind_of_ok_of (Work.attempt_of hsend) hrollback),
        hfailed.frame.trans hafter.frame, ?_, ?_⟩
      · rw [← List.append_assoc]
        exact hafter.publishes hfailed
      · rw [← List.append_assoc, Journal.published_append, hfailed.quiet.published,
          hafter.unpublished, Bool.or_false]
    · rcases hfilled.commit_cases with
        ⟨after, hcommit, hframe, hready, hpublishes⟩ |
        ⟨text, outcome, after, journal, hcommit, hafter⟩
      · refine .inr ⟨after, _, Work.bind_of_ok_of hbegin
          (Work.bind_of_ok_of (Work.attempt_of hsend) hcommit), hframe, hready, ?_, ?_⟩
        · rw [← List.append_assoc]
          exact hpublishes
        · rw [← List.append_assoc, Journal.published_append, hfilled.quiet.published]
          rfl
      · refine .inl ⟨_, after, _, Work.bind_of_ok_of hbegin
          (Work.bind_of_ok_of (Work.attempt_of hsend) hcommit),
          hfilled.frame.trans hafter.frame, ?_, ?_⟩
        · rw [← List.append_assoc]
          exact hafter.publishes hfilled
        · rw [← List.append_assoc, Journal.published_append, hfilled.quiet.published,
            hafter.unpublished, Bool.or_false]

theorem ensureTable_of_no_faults (dialect : Dialect) (table : String)
    (hidle : site.database.working = none)
    (hcreate : isControl (render dialect.create table) = false) (hfaults : site.faults = [])
    (hsound : site.poisoned = false) :
    ∃ journal, dialect.ensureTable table site
      = ⟨.ok (),
          { site with database :=
              { committed := site.database.committed.record (render dialect.create table) } },
          journal⟩ := by
  have hplain : (Statement.batch (render dialect.create table)).isControl = false := hcreate
  have hbegin := Connection.begin_of_no_faults hfaults hsound hidle
  have hsend : (Statement.batch (render dialect.create table)).send
      { site with database := { site.database with working := some site.database.committed } }
        = ⟨.ok (), _, _⟩ :=
    Statement.send_of_no_faults hfaults (Statement.carryOut_of_admits rfl hplain trivial)
  have hcommit : Transaction.commit
      { site with database :=
        { site.database with
          working := some (site.database.committed.record (render dialect.create table)) } }
        = ⟨.ok (), _, _⟩ :=
    Transaction.commit_of_no_faults hfaults rfl
  exact ⟨_, Work.bind_of_ok_of hbegin (Work.bind_of_ok_of (Work.attempt_of hsend) hcommit)⟩

/-- Listing the recorded keys fails or answers them, and never changes the database. -/
theorem listApplied_cases (dialect : Dialect) (table : String) (site : Site) :
    ∃ outcome after journal, dialect.listApplied table site = ⟨outcome, after, journal⟩ ∧
      site.Frame after ∧ after.database = site.database ∧
      site.database.Trace (· = site.database.committed) journal site.database ∧ journal.Quiet ∧
      ((∃ cause, outcome = .error cause) ∨
        outcome = .ok (site.database.column (render dialect.applied table))) := by
  rcases Bool.eq_false_or_eq_true site.poisoned with hpoisoned | hsound
  · exact ⟨_, _, _, Connection.lock_bind_of_poisoned hpoisoned, .refl site, rfl, .nil rfl,
      Journal.quiet_nil, .inl ⟨_, rfl⟩⟩
  · rw [listApplied, Connection.column, Connection.lock_bind hsound]
    rcases Site.readColumn_cases (render dialect.applied table) site with
      ⟨message, faults, hread⟩ | ⟨faults, hread⟩
    · exact ⟨_, _, _, Work.mapError_of_error hread, ⟨rfl, rfl, rfl⟩, rfl, .singleton rfl rfl rfl,
        ⟨rfl, rfl⟩, .inl ⟨_, rfl⟩⟩
    · exact ⟨_, _, _, Work.mapError_of_ok hread, ⟨rfl, rfl, rfl⟩, rfl, .singleton rfl rfl rfl,
        ⟨rfl, rfl⟩, .inr rfl⟩

theorem listApplied_of_no_faults (dialect : Dialect) (table : String)
    (hfaults : site.faults = []) (hsound : site.poisoned = false) :
    dialect.listApplied table site
      = ⟨.ok (site.database.column (render dialect.applied table)), site,
          [.called (.column (render dialect.applied table)) none]⟩ := by
  rw [listApplied, Connection.column, Connection.lock_bind hsound]
  exact Work.mapError_of_ok (Site.readColumn_of_no_faults _ hfaults)

end Dialect

/-! ## Plans -/

namespace Runner

variable (runner : Runner)

/-- The statement that creates the bookkeeping table. -/
def creation : Statement := .batch (Dialect.render runner.dialect.create runner.tableName)

/-- The keys that a content records. -/
def recorded (content : Content) : List String :=
  content.ids (queriedTable (Dialect.render runner.dialect.applied runner.tableName))

/-- What a plan publishes: the creating statement, if its transaction was committed. -/
def created (site : Site) : List (List Statement) :=
  if (runner.dialect.ensureTable runner.tableName site).journal.published then [[runner.creation]]
  else []

variable {runner} {site : Site}

/-- The events of a notice that the run tells. -/
def told (runner : Runner) (site : Site) (notice : Log.Notice) : Journal :=
  (site.logging.deliver runner.route notice).toList.map .logged

/-- What there is to tell about the end of a history. -/
def historyEnd (recorded : List String) : Log.Notice :=
  match recorded.getLast? with
  | none => .noHistory
  | some last => .lastRecorded last

theorem logHistoryEnd_eq (recorded : List String) (site : Site) :
    runner.logHistoryEnd recorded site
      = ⟨.ok (), site, runner.told site (historyEnd recorded)⟩ := by
  rw [logHistoryEnd, historyEnd]
  cases recorded.getLast? <;> rfl

/-- Telling where the history ends has no other effect. -/
theorem logHistoryEnd_apply (recorded : List String) (site : Site) :
    ∃ events : List Log.Event,
      runner.logHistoryEnd recorded site = ⟨.ok (), site, events.map .logged⟩ :=
  ⟨_, logHistoryEnd_eq recorded site⟩

theorem resumeAfter_of_ok (site : Site) {recorded : List String} {resume : Option String}
    (h : History.resumePoint runner.keys recorded = .ok resume) :
    runner.resumeAfter recorded site = ⟨.ok resume, site, []⟩ := by
  rw [resumeAfter, h]
  rfl

/-- What there is to tell about a mismatch: only a history out of order is told. -/
def mismatchNotices : HistoryError → List Log.Notice
  | .unsorted previous next => [.outOfOrder (.unsorted previous next)]
  | .tooOld _ _ | .unrelated _ => []

theorem resumeAfter_eq_error (site : Site) {recorded : List String} {mismatch : HistoryError}
    (h : History.resumePoint runner.keys recorded = .error mismatch) :
    runner.resumeAfter recorded site
      = ⟨.error (.history mismatch), site,
        (mismatchNotices mismatch).flatMap (runner.told site)⟩ := by
  rw [resumeAfter, h]
  cases mismatch with
  | unsorted previous next =>
    have hlog : (Site.log runner.route (.outOfOrder (.unsorted previous next)) :
        Work Site UpgradeError Unit) site
          = ⟨.ok (), site, runner.told site (.outOfOrder (.unsorted previous next))⟩ := rfl
    exact Work.bind_of_ok_of hlog (Work.fail_apply site _)
  | tooOld pending applied => rfl
  | unrelated reason => rfl

theorem resumeAfter_of_error (site : Site) {recorded : List String} {mismatch : HistoryError}
    (h : History.resumePoint runner.keys recorded = .error mismatch) :
    ∃ events : List Log.Event, runner.resumeAfter recorded site
      = ⟨.error (.history mismatch), site, events.map .logged⟩ := by
  refine ⟨(mismatchNotices mismatch).flatMap fun notice =>
    (site.logging.deliver runner.route notice).toList, ?_⟩
  rw [resumeAfter_eq_error site h, List.map_flatMap]
  rfl

/-- The errors that a plan can end with. -/
inductive PlanError (runner : Runner) (content : Content) : UpgradeError → Prop where
  | backend (phase : Phase) (cause : DatabaseError) :
      PlanError runner content (.backend phase cause)
  | history {mismatch : HistoryError}
      (h : History.resumePoint runner.keys (runner.recorded content) = .error mismatch) :
      PlanError runner content (.history mismatch)

/-- A plan for a content: it lists the keys that the content records, and resumes where the history
check says. -/
structure PlanFor (runner : Runner) (content : Content) (plan : Plan) : Prop where
  applied : plan.applied = runner.recorded content
  resumePoint : History.resumePoint runner.keys (runner.recorded content) = .ok plan.resumePoint
  pending : plan.pending = runner.keys.filter (History.isPending plan.resumePoint)

/-- How planning can end when no transaction is open.  Whatever happens, only the creating
statement is published, if anything. -/
theorem plan_cases (hidle : site.database.working = none)
    (hcreate : runner.creation.isControl = false) :
    (∃ error after journal, runner.plan site = ⟨.error error, after, journal⟩ ∧
      site.Frame after ∧ site.database.Publishes journal after.database (runner.created site) ∧
      runner.PlanError site.database.committed error) ∨
    (∃ plan after journal, runner.plan site = ⟨.ok plan, after, journal⟩ ∧
      site.Frame after ∧ after.database.working = none ∧
      site.database.Publishes journal after.database (runner.created site) ∧
      runner.created site = [[runner.creation]] ∧ runner.PlanFor site.database.committed plan) := by
  rcases Dialect.ensureTable_cases hidle hcreate with
    ⟨cause, after, journal, hensure, hframe, hpublishes, hunpublished⟩ |
    ⟨ready, journal, hensure, hframe, hready, hpublishes, hpublished⟩
  · have hcreated : runner.created site = [] := by
      rw [created, hensure, if_neg (by simp [hunpublished])]
    refine .inl ⟨_, after, journal, Work.bind_of_error (Work.mapError_of_error hensure), hframe, ?_,
      .backend _ cause⟩
    rwa [hcreated]
  · have hcreated : runner.created site = [[runner.creation]] := by
      rw [created, hensure, if_pos hpublished]
    have hrecorded : ready.database.column
        (Dialect.render runner.dialect.applied runner.tableName)
          = runner.recorded site.database.committed := by
      rw [Database.column, Database.current, hready, Option.getD_none, hpublishes.committed]
      rfl
    have hensure' := Work.mapError_of_ok (f := Phase.createTable.error) hensure
    rw [hcreated]
    obtain ⟨outcome, listed, more, hlist, hframe', hlisted, htrace, hquiet, houtcome⟩ :=
      runner.dialect.listApplied_cases runner.tableName ready
    have hpublishes' := hpublishes.append_quiet hready htrace hquiet
    rw [← hlisted] at hpublishes' hready
    rcases houtcome with ⟨cause, rfl⟩ | rfl
    · exact .inl ⟨_, listed, _, Work.bind_of_ok_of hensure'
        (Work.bind_of_error (Work.mapError_of_error hlist)), hframe.trans hframe', hpublishes',
        .backend _ cause⟩
    · have hlist' := Work.mapError_of_ok (f := Phase.listApplied.error) hlist
      obtain ⟨events, hlog⟩ := runner.logHistoryEnd_apply
        (runner.recorded site.database.committed) listed
      have hlogged := hpublishes'.append_logged hready events
      rw [hrecorded] at hlist'
      cases hresume : History.resumePoint runner.keys
          (runner.recorded site.database.committed) with
      | error mismatch =>
        obtain ⟨last, hstop⟩ := resumeAfter_of_error listed hresume
        refine .inl ⟨_, listed, _, Work.bind_of_ok_of hensure' (Work.bind_of_ok_of hlist'
          (Work.bind_of_ok_of hlog (Work.bind_of_error hstop))), hframe.trans hframe', ?_,
          .history hresume⟩
        rw [← List.append_assoc, ← List.append_assoc]
        exact hlogged.append_logged hready last
      | ok resume =>
        have hgo := resumeAfter_of_ok listed hresume
        refine .inr ⟨_, listed, _, Work.bind_of_ok_of hensure' (Work.bind_of_ok_of hlist'
          (Work.bind_of_ok_of hlog (Work.bind_of_ok_of hgo (Work.pure_apply _ _)))),
          hframe.trans hframe', hready, ?_, rfl, ⟨rfl, hresume, rfl⟩⟩
        rw [List.append_nil, List.append_nil, ← List.append_assoc]
        exact hlogged

/-- While a transaction is open, planning is refused and the database stays as it is. -/
theorem plan_of_inTransaction (runner : Runner) (hopen : site.database.inTransaction = true) :
    runner.created site = [] ∧
      ∃ cause after journal, runner.plan site
          = ⟨.error (.backend .createTable cause), after, journal⟩ ∧
        after.database = site.database ∧
        site.database.Trace (· = site.database.committed) journal after.database := by
  rcases Connection.begin_cases site with
    ⟨cause, after, journal, hbegin, -, hafter, htrace, hquiet⟩ | ⟨opened, -, -, hidle, -⟩
  · have hensure : runner.dialect.ensureTable runner.tableName site
        = ⟨.error cause, after, journal⟩ := Work.bind_of_error hbegin
    refine ⟨?_, cause, after, journal, Work.bind_of_error (Work.mapError_of_error hensure),
      hafter, htrace⟩
    rw [created, hensure, if_neg (by simp [hquiet.published])]
  · rw [Database.inTransaction, hidle] at hopen
    exact absurd hopen (by simp)

end Runner

end SchemaUpgrade
