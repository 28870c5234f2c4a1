import SchemaUpgrade.Proofs.Listing
import SchemaUpgrade.Proofs.Stages
/-!
# Runs that nothing disturbs

Where the engine refuses nothing, the connection is sound and idle and nobody sets the flag of the
runner (`Runner.Undisturbed`), a run creates its table and lists its keys, and goes on with what is
pending unless the keys do not continue the history (`Runner.Undisturbed.run_of_continued`,
`Runner.Undisturbed.run_of_mismatch`).  So it can fail only for what is said by its migrations and
by the content: a migration that ends itself, an id that is in its table already, or a history that
the keys do not continue.  If none of these is met, the run succeeds (`Runner.run_of_undisturbed`).

## Main definitions

* `Runner.Undisturbed`: a site where nothing disturbs the runner.
* `Runner.Tame`: a migration that does not disturb the runner itself.
-/

namespace SchemaUpgrade.Runner

open Engine

/-- The flag of the runner, if it has one, is not set, and nobody else is going to set it. -/
def Unset (runner : Runner) (site : Site) : Prop :=
  ∀ flag, runner.cancel = some flag → flag ∉ site.raised ∧ ∀ flags ∈ site.arriving, flag ∉ flags

/-- Nothing around the runner disturbs it. -/
structure Undisturbed (runner : Runner) (site : Site) : Prop where
  faults : site.faults = []
  sound : site.poisoned = false
  idle : site.database.working = none
  unset : runner.Unset site

/-- A migration that does not disturb the runner: it neither opens nor ends a transaction, does not
end the work whatever the database says, and does not set the flag of the runner. -/
structure Tame (runner : Runner) (files : Files) (migration : Migration) : Prop where
  control : ∀ statement ∈ Instruction.statements (migration.instructions files),
    statement.isControl = false
  stopless : ∀ instruction ∈ migration.instructions files, instruction.isStop = false
  unset : ∀ flag, runner.cancel = some flag →
    flag ∉ Instruction.flags (migration.instructions files)

variable {runner : Runner} {site : Site} {migration : Migration}

/-- A flag that nobody is going to set is not set at the next look either. -/
theorem Unset.atLook (h : runner.Unset site) : runner.Unset site.atLook := by
  intro flag hflag
  obtain ⟨hraised, harriving⟩ := h flag hflag
  refine ⟨fun hmem => ?_, fun flags hmem => harriving flags (List.mem_of_mem_tail hmem)⟩
  rcases List.mem_append.1 hmem with hnow | hbefore
  · cases hlist : site.arriving with
    | nil =>
      rw [hlist] at hnow
      exact absurd hnow List.not_mem_nil
    | cons flags rest =>
      rw [hlist] at hnow harriving
      exact harriving flags List.mem_cons_self hnow
  · exact hraised hbefore

/-- A look at the flag finds it unset, and disturbs nothing, no other runner either. -/
theorem Undisturbed.look {ε : Type} (h : runner.Undisturbed site) :
    ∃ looked, (runner.isCancelled : Work Site ε Bool) site = ⟨.ok false, looked, []⟩ ∧
      runner.Undisturbed looked ∧ looked.files = site.files ∧ looked.database = site.database ∧
      ∀ other : Runner, other.Unset site → other.Unset looked := by
  rw [isCancelled]
  cases hcancel : runner.cancel with
  | none => exact ⟨site, rfl, h, rfl, rfl, fun _ hother => hother⟩
  | some flag =>
    have hunset := h.unset.atLook
    have hlook : site.atLook.isRaised flag = false := decide_eq_false (hunset flag hcancel).1
    refine ⟨site.atLook, ?_, ⟨h.faults, h.sound, h.idle, hunset⟩, rfl, rfl,
      fun _ hother => hother.atLook⟩
    show (⟨.ok (site.atLook.isRaised flag), site.atLook, []⟩ : Finished Site ε Bool) = _
    rw [hlook]

/-- Without faults, a key is recorded and the transaction published whenever the open transaction
takes the registration. -/
theorem conclude_of_no_faults {filled : Site} {content : Content} (hfaults : filled.faults = [])
    (hopen : filled.database.working = some content)
    (hadmits : content.Admits (runner.registration migration)) :
    ∃ journal, runner.conclude migration filled
      = ⟨.ok (), { filled with
          database := { committed := content.perform (runner.registration migration) } },
          journal⟩ := by
  let ready : Site := { filled with
    database := { filled.database with
      working := some (content.perform (runner.registration migration)) } }
  have hcarry : (runner.registration migration).carryOut filled.database = .ok ready.database :=
    Statement.carryOut_of_admits hopen rfl hadmits
  have hsend := Statement.send_of_no_faults hfaults hcarry
  have hnone : ready.faults = [] := hfaults
  have hcommit := Transaction.commit_of_no_faults hnone rfl
  exact ⟨_, Work.bind_of_ok_of (Work.attempt_of hsend) (Work.mapError_of_ok hcommit)⟩

/-- Without faults, a key that is recorded already is refused, and the transaction is discarded. -/
theorem conclude_of_duplicate {filled : Site} {content : Content} {sql : String}
    (hfaults : filled.faults = []) (hopen : filled.database.working = some content)
    (hregistration : runner.registration migration = .execute sql [migration.key])
    (hold : migration.key ∈ content.ids (insertedTable sql)) :
    ∃ journal, runner.conclude migration filled
      = ⟨.error (.failure (.backend .register (.ofEngine (Database.duplicateKey migration.key)))),
          { filled with database := { filled.database with working := none } }, journal⟩ := by
  have hcurrent : filled.database.current = content := by
    rw [Database.current, hopen, Option.getD_some]
  have hsend := Statement.send_of_duplicate hfaults (hcurrent.symm ▸ hold)
  rw [← hregistration] at hsend
  have hrollback := Transaction.rollback_of_no_faults hfaults hopen
  exact ⟨_, Work.bind_of_ok_of (Work.attempt_of hsend)
    (Work.bind_of_ok_of (Work.attempt_of hrollback) (Work.fail_apply _ _))⟩

/-- A tame migration is applied and recorded whenever the committed content takes its change. -/
theorem Undisturbed.applyOne (h : runner.Undisturbed site)
    (htame : runner.Tame site.files migration)
    (hadmits : site.database.committed.AdmitsAll (runner.change site.files migration)) :
    ∃ after journal, runner.applyOne migration site = ⟨.ok (), after, journal⟩ ∧
      runner.Undisturbed after ∧ after.files = site.files ∧ after.database.committed
        = site.database.committed.performAll (runner.change site.files migration) := by
  rw [change, Content.admitsAll_append] at hadmits
  let opened : Site :=
    { site with database := { site.database with working := some site.database.committed } }
  have hbegin : Connection.begin site = ⟨.ok (), opened, _⟩ :=
    Connection.begin_of_no_faults h.faults h.sound h.idle
  have hopened : site.Filled opened [.called (.batch beginText) none] [] :=
    ⟨⟨rfl, rfl, rfl⟩, trivial, rfl, Connection.begin_trace h.idle, rfl, rfl⟩
  -- The instructions of the migration all succeed, and fill the transaction with its statements.
  have hopen : opened.database.working = some site.database.committed := rfl
  have hnone : opened.faults = [] := h.faults
  obtain ⟨hdone, hfaults⟩ := Instruction.runAll_of_admitsAll hopen htame.control htame.stopless
    hadmits.1 hnone
  obtain ⟨sent, hfilled, hall⟩ := Instruction.runAll_filled hopened htame.control
  obtain ⟨rfl, -⟩ := hall hdone
  have hunset : ∀ flag, runner.cancel = some flag → flag ∉
      (Instruction.runAll (migration.instructions site.files) opened).state.raised := by
    intro flag hflag
    have hbefore : flag ∉ opened.raised := (h.unset flag hflag).1
    exact Instruction.not_mem_raised_runAll (htame.unset flag hflag) hbefore
  have happly : migration.apply opened = _ := Migration.apply_eq_runAll opened migration
  have hfiles : opened.files = site.files := rfl
  rw [hfiles] at happly
  rcases hrun : Instruction.runAll (migration.instructions site.files) opened with
    ⟨outcome, filled, journal⟩
  rw [hrun] at hdone hfaults hfilled hunset happly
  obtain rfl : outcome = .ok () := hdone
  -- The registration joins them, and the transaction is published.
  obtain ⟨more, hconclude⟩ := conclude_of_no_faults hfaults hfilled.working hadmits.2.1
  refine ⟨_, _, Work.bind_of_ok_of (Work.mapError_of_ok hbegin)
    (Work.bind_of_ok_of (Work.attempt_of happly) hconclude), ⟨hfaults, ?_, rfl, ?_⟩, ?_, ?_⟩
  · exact hfilled.frame.poisoned.trans h.sound
  · intro flag hflag
    refine ⟨hunset flag hflag, fun flags hmem => ?_⟩
    have harriving : filled.arriving = site.arriving := hfilled.frame.arriving
    exact (h.unset flag hflag).2 flags (harriving ▸ hmem)
  · exact hfilled.frame.files
  · exact (site.database.committed.performAll_append _ [runner.registration migration]).symm

/-- Tame migrations are applied one after another whenever the committed content takes their
changes. -/
theorem Undisturbed.applyFrom {resume : Option String} {pending : List Migration}
    (report : Report) (h : runner.Undisturbed site)
    (hpending : ∀ migration ∈ pending, History.isPending resume migration.key = true)
    (htame : ∀ migration ∈ pending, runner.Tame site.files migration)
    (hadmits : site.database.committed.AdmitsAll
      (pending.map (runner.change site.files)).flatten) :
    (runner.applyFrom resume report pending site).outcome = .ok (applied report pending) := by
  induction pending generalizing report site with
  | nil =>
    rw [applied_nil]
    rfl
  | cons migration rest ih =>
    rw [List.forall_mem_cons] at hpending htame
    obtain ⟨looked, hlook, hcalm, hfiles, hdatabase, -⟩ := h.look (ε := Halt UpgradeError)
    rw [← hfiles, ← hdatabase, List.map_cons, List.flatten_cons, Content.admitsAll_append]
      at hadmits
    obtain ⟨next, journal, happly, hcalm', hfiles', hcommitted⟩ :=
      hcalm.applyOne (by rw [hfiles]; exact htame.1) hadmits.1
    rw [← hcommitted, ← hfiles'] at hadmits
    have hrest := ih { report with applied := report.applied ++ [migration.key] } hcalm'
      hpending.2 (by rw [hfiles', hfiles]; exact htame.2) hadmits.2
    rw [applyFrom_cons_of_ok report rest hpending.1 hlook happly, applied_cons]
    exact hrest

/-- Nothing disturbs the run when it has created the bookkeeping table. -/
theorem Undisturbed.afterCreation (h : runner.Undisturbed site) :
    runner.Undisturbed { site with
      database := { committed := site.database.committed.perform runner.creation } } :=
  ⟨h.faults, h.sound, rfl, h.unset⟩

/-- An undisturbed run whose keys do not continue the history ends when it has created the
bookkeeping table. -/
theorem Undisturbed.run_of_mismatch {mismatch : HistoryError} (h : runner.Undisturbed site)
    (hcreate : runner.creation.isControl = false)
    (hresume : History.resumePoint runner.keys (runner.recorded site.database.committed)
      = .error mismatch) :
    ∃ journal, runner.run site
      = ⟨.error (.failure (.history mismatch)), { site with
          database := { committed := site.database.committed.perform runner.creation } },
          journal⟩ := by
  have hlisted := listed_of_no_faults h.idle hcreate h.faults h.sound
  obtain ⟨told, hplan⟩ := plan_of_mismatch hlisted.listing hresume
  exact ⟨_, Work.bind_of_error (Work.mapError_of_error hplan)⟩

/-- An undisturbed run whose keys continue the history creates the bookkeeping table and goes on
with what is pending. -/
theorem Undisturbed.run_of_continued (h : runner.Undisturbed site)
    (hcreate : runner.creation.isControl = false)
    (hstarts : runner.recorded site.database.committed <+: runner.keys) :
    let content := site.database.committed
    let done := runner.applyFrom (runner.recorded content).getLast?
      { skipped := (runner.skippedOn content).map Migration.key } (runner.pendingOn content)
      { site with database := { committed := content.perform runner.creation } }
    ∃ journal, runner.run site = ⟨done.outcome, done.state, journal⟩ := by
  intro content done
  have hlisted := listed_of_no_faults h.idle hcreate h.faults h.sound
  have hresume := History.resumePoint_of_starts runner.keys_sorted hstarts
  obtain ⟨told, hplan⟩ := plan_of_continued hlisted.listing hresume
  exact ⟨_, Work.bind_of_ok_of (Work.mapError_of_ok hplan)
    (runner.applyFrom_migrations content _)⟩

/-- An undisturbed run succeeds when the keys continue the history, the pending migrations are tame,
and the committed content takes their changes. -/
theorem run_of_undisturbed (h : runner.Undisturbed site)
    (hcreate : runner.creation.isControl = false)
    (hstarts : runner.recorded site.database.committed <+: runner.keys)
    (htame : ∀ migration ∈ runner.pendingOn site.database.committed,
      runner.Tame site.files migration)
    (hadmits : site.database.committed.AdmitsAll
      ((runner.pendingOn site.database.committed).map (runner.change site.files)).flatten) :
    ∃ report, (runner.run site).outcome = .ok report := by
  obtain ⟨journal, hrun⟩ := h.run_of_continued hcreate hstarts
  have htables : (site.database.committed.perform runner.creation).tables
      = site.database.committed.tables := rfl
  have hall := h.afterCreation.applyFrom
    { skipped := (runner.skippedOn site.database.committed).map Migration.key }
    (fun migration hmem => isPending_of_mem_pendingOn hmem) htame
    ((Content.admitsAll_congr htables _).2 hadmits)
  exact ⟨_, (congrArg Finished.outcome hrun).trans hall⟩

end SchemaUpgrade.Runner
