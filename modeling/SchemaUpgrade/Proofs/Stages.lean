import SchemaUpgrade.Proofs.Continuation
import SchemaUpgrade.Proofs.Passage
/-!
# The stages of a run

A run plans, skips the migrations that were applied before, and passes through those that are
pending.  Which migrations are pending is decided by the content at the start alone
(`Runner.pendingOn`), because a plan that succeeds resumes after the last recorded key, and among
migrations in the order of their keys the pending ones come last.

`Runner.run_cases` takes a run from a database without an open transaction apart: either its plan
failed, or it published the creating statement and then the changes of the pending migrations that
it passed, and what ended it published nothing more.

## Main definitions

* `Runner.pendingOn`, `Runner.skippedOn`: the migrations that a run applies and skips.
-/

namespace SchemaUpgrade.Runner

open Engine

variable {runner : Runner} {site : Site}

/-! ## What is pending -/

/-- The migrations that are pending on a content. -/
def pendingOn (runner : Runner) (content : Content) : List Migration :=
  runner.migrations.filter fun migration =>
    History.isPending (runner.recorded content).getLast? migration.key

/-- The migrations that count as applied before. -/
def skippedOn (runner : Runner) (content : Content) : List Migration :=
  runner.migrations.filter fun migration =>
    !History.isPending (runner.recorded content).getLast? migration.key

theorem sorted_keys (runner : Runner) :
    runner.migrations.Pairwise fun a b => a.key ≤ b.key :=
  runner.sorted.imp fun hle => of_decide_eq_true hle

theorem keys_sorted (runner : Runner) : runner.keys.Pairwise (· ≤ ·) :=
  List.pairwise_map.2 runner.sorted_keys

/-- The pending migrations are the last ones. -/
theorem skippedOn_append_pendingOn (runner : Runner) (content : Content) :
    runner.skippedOn content ++ runner.pendingOn content = runner.migrations :=
  History.filter_pending runner.sorted_keys

theorem isPending_of_mem_pendingOn {content : Content} {migration : Migration}
    (h : migration ∈ runner.pendingOn content) :
    History.isPending (runner.recorded content).getLast? migration.key = true :=
  (List.mem_filter.1 h).2

theorem isPending_of_mem_skippedOn {content : Content} {migration : Migration}
    (h : migration ∈ runner.skippedOn content) :
    History.isPending (runner.recorded content).getLast? migration.key = false := by
  simpa using (List.mem_filter.1 h).2

theorem mem_of_mem_pendingOn {content : Content} {migration : Migration}
    (h : migration ∈ runner.pendingOn content) : migration ∈ runner.migrations :=
  (List.mem_filter.1 h).1

/-! ## Skipping -/

/-- Migrations that are not pending are told and reported, and nothing else happens. -/
theorem applyFrom_skip_eq (runner : Runner) {resume : Option String} {skipped : List Migration}
    (hskipped : ∀ migration ∈ skipped, History.isPending resume migration.key = false)
    (rest : List Migration) (report : Report) (site : Site) :
    runner.applyFrom resume report (skipped ++ rest) site
      = let next := { report with skipped := report.skipped ++ skipped.map Migration.key }
        ⟨(runner.applyFrom resume next rest site).outcome,
          (runner.applyFrom resume next rest site).state,
          (skipped.flatMap fun migration => runner.told site (.alreadyApplied migration.key))
            ++ (runner.applyFrom resume next rest site).journal⟩ := by
  induction skipped generalizing report with
  | nil => simp
  | cons migration skipped ih =>
    rw [List.forall_mem_cons] at hskipped
    have hrest := ih hskipped.2 { report with skipped := report.skipped ++ [migration.key] }
    have hlog : (Site.log runner.route (.alreadyApplied migration.key) :
        Work Site (Halt UpgradeError) Unit) site
          = ⟨.ok (), site, runner.told site (.alreadyApplied migration.key)⟩ := rfl
    rw [List.cons_append, applyFrom, if_neg (by simp [hskipped.1]), Work.bind_of_ok_of hlog hrest]
    simp

theorem applyFrom_skip {resume : Option String} {skipped : List Migration}
    (hskipped : ∀ migration ∈ skipped, History.isPending resume migration.key = false)
    (rest : List Migration) (report : Report) (site : Site) :
    ∃ events : List Log.Event, runner.applyFrom resume report (skipped ++ rest) site
      = let next := { report with skipped := report.skipped ++ skipped.map Migration.key }
        ⟨(runner.applyFrom resume next rest site).outcome,
          (runner.applyFrom resume next rest site).state,
          events.map .logged ++ (runner.applyFrom resume next rest site).journal⟩ := by
  refine ⟨skipped.flatMap fun migration =>
    (site.logging.deliver runner.route (.alreadyApplied migration.key)).toList, ?_⟩
  rw [runner.applyFrom_skip_eq hskipped, List.map_flatMap]
  rfl

/-- A run that resumes after the last recorded key skips the migrations that are not pending, and
goes on with the others. -/
theorem applyFrom_migrations (runner : Runner) (content : Content) (site : Site) :
    let resume := (runner.recorded content).getLast?
    let done := runner.applyFrom resume
      { skipped := (runner.skippedOn content).map Migration.key } (runner.pendingOn content) site
    runner.applyFrom resume {} runner.migrations site
      = ⟨done.outcome, done.state,
          ((runner.skippedOn content).flatMap fun migration =>
            runner.told site (.alreadyApplied migration.key)) ++ done.journal⟩ := by
  have hskipped : ∀ migration ∈ runner.skippedOn content,
      History.isPending (runner.recorded content).getLast? migration.key = false :=
    fun _ hmem => isPending_of_mem_skippedOn hmem
  have hskip := runner.applyFrom_skip_eq hskipped (runner.pendingOn content) {} site
  rwa [skippedOn_append_pendingOn] at hskip

/-- Of the pending migrations, it passes some and ends at the next. -/
theorem applyFrom_stages {content : Content} {resume : Option String}
    (hresume : resume = (runner.recorded content).getLast?) (site : Site) :
    ∃ passed rest mid journal finished, runner.pendingOn content = passed ++ rest ∧
      runner.Passes passed site mid journal ∧
      runner.Ends { skipped := (runner.skippedOn content).map Migration.key } passed mid rest
        finished ∧
      runner.applyFrom resume {} runner.migrations site
        = ⟨finished.outcome, finished.state,
            ((runner.skippedOn content).flatMap fun migration =>
              runner.told site (.alreadyApplied migration.key))
              ++ (journal ++ finished.journal)⟩ := by
  subst hresume
  obtain ⟨passed, rest, mid, journal, finished, hsplit, hpasses, hends, hgo⟩ :=
    applyFrom_cases { skipped := (runner.skippedOn content).map Migration.key }
      (fun _ hmem => isPending_of_mem_pendingOn hmem) site
  refine ⟨passed, rest, mid, journal, finished, hsplit, hpasses, hends, ?_⟩
  rw [runner.applyFrom_migrations content site, hgo]

/-! ## The whole run -/

/-- No statement of the runner opens or ends a transaction. -/
structure Plain (runner : Runner) (files : Files) : Prop where
  creation : runner.creation.isControl = false
  migrations : ∀ migration ∈ runner.migrations,
    ∀ statement ∈ Instruction.statements (migration.instructions files),
      statement.isControl = false

/-- A run that started at `site` has passed some migrations and arrived at `mid`. -/
structure Reached (runner : Runner) (site : Site) (passed : List Migration) (mid : Site)
    (journal : Journal) : Prop where
  files : mid.files = site.files
  poisoned : mid.poisoned = site.poisoned
  idle : mid.database.working = none
  publishes : site.database.Publishes journal mid.database
    ([runner.creation] :: passed.map (runner.change site.files))
  stopless : ∀ migration ∈ passed, ∀ instruction ∈ migration.instructions site.files,
    instruction.isStop = false

/-- The stages of a run that starts while no transaction is open: its plan fails; or the plan
succeeds, the migrations that are not pending are skipped, and the run passes some of the pending
ones and ends at the next. -/
theorem run_steps (hcreate : runner.creation.isControl = false)
    (hidle : site.database.working = none) :
    (∃ error after journal, runner.plan site = ⟨.error error, after, journal⟩ ∧
      runner.run site = ⟨.error (.failure error), after, journal⟩ ∧
      site.Frame after ∧ site.database.Publishes journal after.database (runner.created site) ∧
      runner.PlanError site.database.committed error) ∨
    (∃ plan ready planned events passed rest mid journal finished,
      runner.plan site = ⟨.ok plan, ready, planned⟩ ∧
      runner.PlanFor site.database.committed plan ∧ site.Frame ready ∧
      ready.database.working = none ∧
      site.database.Publishes planned ready.database [[runner.creation]] ∧
      runner.created site = [[runner.creation]] ∧
      runner.pendingOn site.database.committed = passed ++ rest ∧
      runner.Passes passed ready mid journal ∧
      runner.Ends { skipped := (runner.skippedOn site.database.committed).map Migration.key }
        passed mid rest finished ∧
      runner.run site = ⟨finished.outcome, finished.state,
        planned ++ (List.map Entry.logged events ++ journal) ++ finished.journal⟩) := by
  rcases plan_cases hidle hcreate with
    ⟨error, after, journal, hplan, hframe, hpublishes, herror⟩ |
    ⟨plan, ready, planned, hplan, hframe, hready, hpublishes, hcreated, hfor⟩
  · exact .inl ⟨error, after, journal, hplan, Work.bind_of_error (Work.mapError_of_error hplan),
      hframe, hpublishes, herror⟩
  · obtain ⟨hresume, -⟩ := History.resumePoint_eq_ok hfor.resumePoint
    obtain ⟨passed, rest, mid, journal, finished, hsplit, hpasses, hends, hall⟩ :=
      applyFrom_stages hresume ready
    let events := (runner.skippedOn site.database.committed).flatMap fun migration =>
      (ready.logging.deliver runner.route (.alreadyApplied migration.key)).toList
    have hevents : events.map .logged = (runner.skippedOn site.database.committed).flatMap
        fun migration => runner.told ready (.alreadyApplied migration.key) := List.map_flatMap
    rw [← hevents] at hall
    rw [hcreated] at hpublishes
    refine .inr ⟨plan, ready, planned, events, passed, rest, mid, journal, finished, hplan, hfor,
      hframe, hready, hpublishes, hcreated, hsplit, hpasses, hends, ?_⟩
    rw [run, Work.bind_of_ok_of (Work.mapError_of_ok hplan) hall]
    simp only [List.append_assoc]

/-- How a run can end that starts while no transaction is open, if its migrations neither open nor
end one: what it publishes is told by the migrations that it passed. -/
theorem run_cases (hplain : runner.Plain site.files) (hidle : site.database.working = none) :
    (∃ error after journal, runner.plan site = ⟨.error error, after, journal⟩ ∧
      runner.run site = ⟨.error (.failure error), after, journal⟩ ∧
      site.Frame after ∧ site.database.Publishes journal after.database (runner.created site) ∧
      runner.PlanError site.database.committed error) ∨
    (∃ plan passed rest mid journal finished, (runner.plan site).outcome = .ok plan ∧
      runner.PlanFor site.database.committed plan ∧ runner.created site = [[runner.creation]] ∧
      runner.pendingOn site.database.committed = passed ++ rest ∧
      runner.Reached site passed mid journal ∧
      runner.Ends { skipped := (runner.skippedOn site.database.committed).map Migration.key }
        passed mid rest finished ∧
      runner.run site = ⟨finished.outcome, finished.state, journal ++ finished.journal⟩) := by
  rcases run_steps hplain.creation hidle with hfailed |
    ⟨plan, ready, planned, events, passed, rest, mid, journal, finished, hplan, hfor, hframe,
      hready, hpublishes, hcreated, hsplit, hpasses, hends, hrun⟩
  · exact .inl hfailed
  · have hpassed : ∀ migration ∈ passed, migration ∈ runner.migrations := fun migration hmem =>
      mem_of_mem_pendingOn (hsplit ▸ List.mem_append_left rest hmem)
    obtain ⟨haround, hsound, hmid, hmore, hstops⟩ :=
      hpasses.publishes hready fun migration hmem => by
        rw [hframe.files]
        exact hplain.migrations migration (hpassed migration hmem)
    rw [hframe.files] at hmore hstops
    refine .inr ⟨plan, passed, rest, mid, _, finished, by rw [hplan], hfor, hcreated, hsplit,
      ⟨by rw [haround, hframe.files], hsound.trans hframe.poisoned, hmid, ?_, hstops⟩, hends, hrun⟩
    exact hpublishes.append (hpublishes.rollbackFailed hready) (hmore.logged_append events)

theorem run_of_inTransaction (runner : Runner) (hopen : site.database.inTransaction = true) :
    ∃ error after journal, runner.run site = ⟨.error (.failure error), after, journal⟩ ∧
      after.database = site.database ∧
      site.database.Trace (· = site.database.committed) journal after.database := by
  obtain ⟨-, cause, after, journal, hplan, hafter, htrace⟩ :=
    runner.plan_of_inTransaction hopen
  exact ⟨_, after, journal, Work.bind_of_error (Work.mapError_of_error hplan), hafter, htrace⟩

/-- The end of a run publishes nothing more than what the run had passed. -/
theorem Reached.publishes_end {passed rest : List Migration} {mid : Site} {journal : Journal}
    {report : Report} {finished : Finished Site (Halt UpgradeError) Report}
    (h : runner.Reached site passed mid journal)
    (hends : runner.Ends report passed mid rest finished)
    (hplain : ∀ migration ∈ rest,
      ∀ statement ∈ Instruction.statements (migration.instructions site.files),
        statement.isControl = false) :
    site.database.Publishes (journal ++ finished.journal) finished.state.database
      ([runner.creation] :: passed.map (runner.change site.files)) := by
  have hend := hends.publishes h.idle (by rw [h.files]; exact hplain)
  have hboth := h.publishes.append (h.publishes.rollbackFailed h.idle) hend
  rwa [List.append_nil] at hboth

/-- A run whose pending migrations do not panic leaves the connection as sound as it was. -/
theorem poisoned_run (hplain : runner.Plain site.files) (hidle : site.database.working = none)
    (hpanic : ∀ migration ∈ runner.pendingOn site.database.committed,
      .stop .panic ∉ migration.instructions site.files) :
    (runner.run site).state.poisoned = site.poisoned := by
  rcases run_cases hplain hidle with
    ⟨error, after, journal, -, hrun, hframe, -⟩ |
    ⟨plan, passed, rest, mid, journal, finished, -, -, -, hsplit, hreached, hends, hrun⟩
  · rw [hrun]
    exact hframe.poisoned
  · have hrest : ∀ migration ∈ rest, migration ∈ runner.pendingOn site.database.committed :=
      fun migration hmem => hsplit ▸ List.mem_append_right passed hmem
    rw [hrun]
    refine (hends.poisoned hreached.idle ?_ ?_).trans hreached.poisoned
    · rw [hreached.files]
      exact fun migration hmem => hplain.migrations migration (mem_of_mem_pendingOn (hrest _ hmem))
    · rw [hreached.files]
      exact fun migration hmem => hpanic migration (hrest migration hmem)

/-- Whatever stops a run, it published the creating statement, if its transaction was committed,
and then the changes of the first pending migrations; without the former it published nothing. -/
theorem run_publishes (hplain : runner.Plain site.files) (hidle : site.database.working = none) :
    ∃ passed, passed <+: runner.pendingOn site.database.committed ∧
      (runner.created site = [] → passed = []) ∧
      site.database.Publishes (runner.run site).journal (runner.run site).state.database
        (runner.created site ++ passed.map (runner.change site.files)) := by
  rcases run_cases hplain hidle with
    ⟨error, after, journal, hplan, hrun, -, hpublishes, -⟩ |
    ⟨plan, passed, rest, mid, journal, finished, -, -, hcreated, hsplit, hreached, hends, hrun⟩
  · refine ⟨[], List.nil_prefix, fun _ => rfl, ?_⟩
    rw [hrun, List.map_nil, List.append_nil]
    exact hpublishes
  · rw [hrun, hcreated]
    refine ⟨passed, hsplit ▸ List.prefix_append passed rest, fun h => absurd h (by simp), ?_⟩
    refine hreached.publishes_end hends fun migration hmem => hplain.migrations migration ?_
    exact mem_of_mem_pendingOn (hsplit ▸ List.mem_append_right passed hmem)

/-- A run that succeeded: it applied all that was pending and skipped the rest. -/
structure Completed (runner : Runner) (site : Site) (report : Report) : Prop where
  starts : runner.recorded site.database.committed <+: runner.keys
  report : report = {
    applied := (runner.pendingOn site.database.committed).map Migration.key
    skipped := (runner.skippedOn site.database.committed).map Migration.key }
  publishes : site.database.Publishes (runner.run site).journal (runner.run site).state.database
    ([runner.creation]
      :: (runner.pendingOn site.database.committed).map (runner.change site.files))
  stopless : ∀ migration ∈ runner.pendingOn site.database.committed,
    ∀ instruction ∈ migration.instructions site.files, instruction.isStop = false

/-- A run that succeeded has passed everything that was pending. -/
theorem reached_of_ok {report : Report} (hplain : runner.Plain site.files)
    (hidle : site.database.working = none) (hok : (runner.run site).outcome = .ok report) :
    runner.recorded site.database.committed <+: runner.keys ∧
      report = {
        applied := (runner.pendingOn site.database.committed).map Migration.key
        skipped := (runner.skippedOn site.database.committed).map Migration.key } ∧
      runner.Reached site (runner.pendingOn site.database.committed) (runner.run site).state
        (runner.run site).journal := by
  rcases run_cases hplain hidle with
    ⟨error, after, journal, -, hrun, -⟩ |
    ⟨plan, passed, rest, mid, journal, finished, -, hfor, -, hsplit, hreached, hends, hrun⟩
  · rw [hrun] at hok
    exact absurd hok (by simp)
  · rw [hrun] at hok
    cases hends with
    | finished =>
      obtain rfl := Except.ok.inj hok
      have hall : passed = runner.pendingOn site.database.committed := by
        rw [hsplit, List.append_nil]
      rw [← hall, hrun, List.append_nil]
      exact ⟨(History.resumePoint_eq_ok hfor.resumePoint).2, rfl, hreached⟩
    | cancelled hlook => exact absurd hok (by simp)
    | failed hlook happly => exact absurd hok (by simp)

theorem completed_of_ok {report : Report} (hplain : runner.Plain site.files)
    (hidle : site.database.working = none) (hok : (runner.run site).outcome = .ok report) :
    runner.Completed site report := by
  obtain ⟨hstarts, hreport, hreached⟩ := reached_of_ok hplain hidle hok
  exact ⟨hstarts, hreport, hreached.publishes, hreached.stopless⟩

end SchemaUpgrade.Runner
