import SchemaUpgrade.Proofs.Bookkeeping
import SchemaUpgrade.Proofs.Undisturbed
/-!
# Interrupted runs are resumed

A run may be interrupted anywhere: the engine refuses a call, or the run sees that it was
cancelled.  If no two keys are equal and the run could have succeeded, whatever part of the pending
migrations it had applied, a second run that nothing disturbs picks up the rest
(`Runner.run_resumes`).  The tables are then those that a single run would have left, and the
executed batches differ by a second copy of the creating statement, if the first run published one.

The second run knows how far the first one came from the bookkeeping table alone
(`Runner.pendingOn_resumed`).

## Main definitions

* `Runner.Interrupted`: what a run left that may have been interrupted.
* `Runner.Resumes`: a second run picks up what a first one left.
-/

namespace SchemaUpgrade.Runner

open Engine

variable {runner : Runner}

/-! ## What is left -/

/-- Where no two keys are equal, the migrations that are skipped are those whose keys are
recorded. -/
theorem skippedOn_keys {content : Content} (hkeys : runner.keys.Nodup)
    (hstarts : runner.recorded content <+: runner.keys) :
    (runner.skippedOn content).map Migration.key = runner.recorded content := by
  have hascending := ascending_of_le_of_nodup runner.keys_sorted hkeys
  have hskipped := History.filter_not_isPending hascending hstarts
  rw [keys, List.filter_map] at hskipped
  exact hskipped

/-- Where the first pending migrations were recorded, they are skipped as well, and the others are
pending. -/
theorem pendingOn_resumed {start middle : Content} {done left : List Migration}
    (hkeys : runner.keys.Nodup) (hstarts : runner.recorded start <+: runner.keys)
    (hsplit : runner.pendingOn start = done ++ left)
    (hrecorded : runner.recorded middle = runner.recorded start ++ done.map Migration.key) :
    runner.recorded middle <+: runner.keys ∧
      runner.skippedOn middle = runner.skippedOn start ++ done ∧
      runner.pendingOn middle = left := by
  have hall : (runner.skippedOn start ++ done) ++ left = runner.migrations := by
    rw [List.append_assoc, ← hsplit, skippedOn_append_pendingOn]
  have hskipped := skippedOn_keys hkeys hstarts
  have hstarts' : runner.recorded middle <+: runner.keys := by
    refine ⟨left.map Migration.key, ?_⟩
    rw [hrecorded, ← hskipped, ← List.map_append, ← List.map_append, hall]
    rfl
  have hsame : (runner.skippedOn middle).map Migration.key
      = (runner.skippedOn start ++ done).map Migration.key := by
    rw [skippedOn_keys hkeys hstarts', hrecorded, List.map_append, hskipped]
  have hlength := congrArg List.length hsame
  rw [List.length_map, List.length_map] at hlength
  refine ⟨hstarts', List.append_inj ?_ hlength⟩
  rw [skippedOn_append_pendingOn, hall]

/-! ## The creating statement -/

theorem tables_performAll_created (runner : Runner) (site : Site) (content : Content) :
    (content.performAll (runner.created site).flatten).tables = content.tables := by
  rw [created]
  split
  · rfl
  · rfl

/-- Statements after a batch, done at once; or the first of them, the batch once more, and the
others: the tables are the same, and the batches are but for the second copy. -/
theorem performAll_twice (start : Content) (sql : String) (done left : List Statement) :
    let once := start.performAll (.batch sql :: (done ++ left))
    let twice := (start.performAll (.batch sql :: done)).performAll (.batch sql :: left)
    twice.tables = once.tables ∧ ∃ front back, once.batches = front ++ back ∧
      twice.batches = front ++ [sql] ++ back := by
  intro once twice
  let middle := start.performAll (.batch sql :: done)
  have honce : once = middle.performAll left := by
    show start.performAll (.batch sql :: (done ++ left)) = _
    rw [← List.cons_append, Content.performAll_append]
  have htables : (middle.perform (.batch sql)).tables = middle.tables := rfl
  refine ⟨?_, middle.batches, left.filterMap Statement.batchText?, ?_, ?_⟩
  · rw [honce]
    exact Content.tables_performAll_congr htables left
  · rw [honce, Content.batches_performAll]
  · show (middle.performAll (.batch sql :: left)).batches = _
    rw [Content.batches_performAll, List.append_assoc]
    rfl

/-- What two runs leave is what one run leaves, but for the second copy of the creating statement
if the first run published one. -/
theorem performAll_resumed (runner : Runner) (site : Site) (start : Content)
    (done left : List Statement) (hnone : runner.created site = [] → done = []) :
    let once := start.performAll (runner.creation :: (done ++ left))
    let twice := (start.performAll ((runner.created site).flatten ++ done)).performAll
      (runner.creation :: left)
    twice.tables = once.tables ∧ ∃ front back, once.batches = front ++ back ∧
      twice.batches = front
        ++ (if (runner.dialect.ensureTable runner.tableName site).journal.published
          then [Dialect.render runner.dialect.create runner.tableName] else []) ++ back := by
  by_cases hpublished :
      (runner.dialect.ensureTable runner.tableName site).journal.published = true
  · have hcreated : runner.created site = [[runner.creation]] := if_pos hpublished
    rw [hcreated, if_pos hpublished]
    exact performAll_twice start _ done left
  · have hcreated : runner.created site = [] := if_neg hpublished
    obtain rfl := hnone hcreated
    rw [hcreated, if_neg hpublished]
    refine ⟨rfl, (start.performAll (runner.creation :: left)).batches, [], ?_, ?_⟩
    · rw [List.append_nil]
      rfl
    · rw [List.append_nil, List.append_nil, List.append_nil]
      rfl

/-! ## The first run -/

/-- A run from `first` applied the migrations `done` and left the others, and it left no open
transaction and no poisoned connection. -/
structure Interrupted (runner : Runner) (first : Site) (done left : List Migration) : Prop where
  split : runner.pendingOn first.database.committed = done ++ left
  uncreated : runner.created first = [] → done = []
  committed : (runner.run first).state.database.committed = first.database.committed.performAll
    (runner.created first ++ done.map (runner.change first.files)).flatten
  recorded : runner.recorded (runner.run first).state.database.committed
    = runner.recorded first.database.committed ++ done.map Migration.key
  idle : (runner.run first).state.database.working = none
  sound : (runner.run first).state.poisoned = false

theorem exists_interrupted {first : Site} (hbooks : runner.KeepsBooks first.files)
    (hidle : first.database.working = none) (hsound : first.poisoned = false)
    (hpanic : ∀ migration ∈ runner.pendingOn first.database.committed,
      .stop .panic ∉ migration.instructions first.files)
    (hrollback : (runner.run first).journal.rollbackFailed = false) :
    ∃ done left, runner.Interrupted first done left := by
  obtain ⟨done, ⟨left, hsplit⟩, hnone, hpublishes⟩ := run_publishes hbooks.plain hidle
  have hdone : ∀ migration ∈ done, migration ∈ runner.migrations := fun migration hmem =>
    mem_of_mem_pendingOn (hsplit ▸ List.mem_append_left left hmem)
  have hclosed : (runner.run first).state.database.inTransaction = false :=
    hpublishes.inTransaction.trans hrollback
  refine ⟨done, left, hsplit.symm, hnone, hpublishes.committed, ?_, ?_, ?_⟩
  · rw [hpublishes.committed, hbooks.recorded, hbooks.recorded,
      hbooks.ids_performAll (runner.created_within first) hdone]
  · exact Option.not_isSome_iff_eq_none.1 (Bool.eq_false_iff.1 hclosed)
  · exact (poisoned_run hbooks.plain hidle hpanic).trans hsound

/-- The creating statement apart, the tables are those after the changes that were applied. -/
theorem Interrupted.tables {first : Site} {done left : List Migration}
    (h : runner.Interrupted first done left) :
    (runner.run first).state.database.committed.tables
      = (first.database.committed.performAll
          (done.map (runner.change first.files)).flatten).tables := by
  rw [h.committed, List.flatten_append, Content.performAll_append]
  exact Content.tables_performAll_congr (runner.tables_performAll_created first _) _

/-! ## The second run -/

/-- An undisturbed run succeeds on the content that an interrupted one left, if it is on the way
of a run that succeeded. -/
theorem run_of_resumed {start : Content} {site : Site} {done left : List Migration}
    (hcalm : runner.Undisturbed site) (hplain : runner.Plain site.files)
    (hstarts : runner.recorded site.database.committed <+: runner.keys)
    (hleft : runner.pendingOn site.database.committed = left)
    (htables : site.database.committed.tables
      = (start.performAll (done.map (runner.change site.files)).flatten).tables)
    (hadmits : start.AdmitsAll ([runner.creation]
      :: (done ++ left).map (runner.change site.files)).flatten)
    (hstopless : ∀ migration ∈ left,
      ∀ instruction ∈ migration.instructions site.files, instruction.isStop = false)
    (hflag : ∀ migration ∈ runner.migrations, ∀ flag, runner.cancel = some flag →
      flag ∉ Instruction.flags (migration.instructions site.files)) :
    ∃ again, runner.Completed site again ∧ (runner.run site).outcome = .ok again := by
  have htame : ∀ migration ∈ runner.pendingOn site.database.committed,
      runner.Tame site.files migration := by
    intro migration hmem
    have hin := mem_of_mem_pendingOn hmem
    rw [hleft] at hmem
    exact ⟨hplain.migrations migration hin, hstopless migration hmem, hflag migration hin⟩
  have hadmits' : site.database.committed.AdmitsAll
      ((runner.pendingOn site.database.committed).map (runner.change site.files)).flatten := by
    have hsame : (start.perform runner.creation).tables = start.tables := rfl
    rw [List.flatten_cons, List.map_append, List.flatten_append, List.singleton_append,
      Content.admitsAll_cons, Content.admitsAll_append] at hadmits
    rw [hleft, Content.admitsAll_congr htables]
    exact (Content.admitsAll_congr (Content.tables_performAll_congr hsame _) _).1 hadmits.2.2
  obtain ⟨again, hagain⟩ := run_of_undisturbed hcalm hplain.creation hstarts htame hadmits'
  exact ⟨again, completed_of_ok hplain hcalm.idle hagain, hagain⟩

/-- The site of a second run, on the connection that the first one left. -/
def siteAfter (runner : Runner) (first second : Site) : Site :=
  { second with
    database := (runner.run first).state.database
    poisoned := (runner.run first).state.poisoned }

/-- After a first run that applied some migrations, a second run applies those that were left, and
both together leave what a single run leaves. -/
structure Resumes (runner : Runner) (single first second : Site) (done left : List Migration)
    (again : Report) : Prop where
  split : runner.pendingOn first.database.committed = done ++ left
  /-- The first run recorded the keys of those that it applied. -/
  recorded : (runner.run first).state.database.committed.ids runner.tableName
    = first.database.committed.ids runner.tableName ++ done.map Migration.key
  /-- The second run succeeds, applies the others, and skips everything else. -/
  outcome : (runner.run (runner.siteAfter first second)).outcome = .ok again
  applied : again.applied = left.map Migration.key
  skipped : again.skipped ++ again.applied = runner.keys
  tables : (runner.run (runner.siteAfter first second)).state.database.committed.tables
    = (runner.run single).state.database.committed.tables
  /-- Only the creating statement was executed once more, if the first run had published it. -/
  batches : ∃ front back, (runner.run single).state.database.committed.batches = front ++ back ∧
    (runner.run (runner.siteAfter first second)).state.database.committed.batches = front
      ++ (if (runner.dialect.ensureTable runner.tableName first).journal.published
        then [Dialect.render runner.dialect.create runner.tableName] else []) ++ back

/-- Let a run from some content succeed.  If instead a run from there is interrupted, and every
rollback that it sends succeeds, an undisturbed run after it on the same connection resumes it. -/
theorem run_resumes (runner : Runner) (single first second : Site) (report : Report)
    (hkeys : runner.keys.Nodup) (hbooks : runner.KeepsBooks first.files)
    (hflag : ∀ migration ∈ runner.migrations, ∀ flag, runner.cancel = some flag →
      flag ∉ Instruction.flags (migration.instructions first.files))
    (hidle : first.database.working = none) (hsound : first.poisoned = false)
    (hfiles : single.files = first.files) (hdatabase : single.database = first.database)
    (hok : (runner.run single).outcome = .ok report)
    (hrollback : (runner.run first).journal.rollbackFailed = false)
    (hfiles' : second.files = first.files) (hfaults : second.faults = [])
    (hunset : runner.Unset second) :
    ∃ done left again, runner.Resumes single first second done left again := by
  -- What the single run does.
  have hsingle : runner.Completed single report := by
    refine completed_of_ok ?_ ?_ hok
    · rw [hfiles]
      exact hbooks.plain
    · rw [hdatabase]
      exact hidle
  obtain ⟨hstarts, -, hstraight, hstopless⟩ := hsingle
  rw [hdatabase] at hstarts hstraight hstopless
  rw [hfiles] at hstraight hstopless
  -- What the first run did.
  have hpanic : ∀ migration ∈ runner.pendingOn first.database.committed,
      .stop .panic ∉ migration.instructions first.files := by
    intro migration hmem hpanic
    exact absurd (hstopless migration hmem _ hpanic) (by simp [Instruction.isStop])
  obtain ⟨done, left, hfirst⟩ := exists_interrupted hbooks hidle hsound hpanic hrollback
  have hsplit := hfirst.split
  rw [hsplit] at hstraight hstopless
  -- What the second run does.
  let site : Site := runner.siteAfter first second
  have hsite : site.files = first.files := hfiles'
  have hcalm : runner.Undisturbed site := ⟨hfaults, hfirst.sound, hfirst.idle, hunset⟩
  obtain ⟨hstarts', hskipped, hleft⟩ := pendingOn_resumed hkeys hstarts hsplit hfirst.recorded
  have hskipped' : runner.skippedOn site.database.committed
      = runner.skippedOn first.database.committed ++ done := hskipped
  have hleft' : runner.pendingOn site.database.committed = left := hleft
  obtain ⟨again, hcompleted, hagain⟩ := run_of_resumed hcalm (hsite ▸ hbooks.plain) hstarts' hleft
    (hsite ▸ hfirst.tables) (hsite ▸ hstraight.admits)
    (fun migration hmem => hsite ▸ hstopless migration (List.mem_append_right done hmem))
    (hsite ▸ hflag)
  obtain ⟨-, hreport, hpublishes, -⟩ := hcompleted
  rw [hleft', hskipped'] at hreport
  rw [hleft', hsite] at hpublishes
  have hlast := hpublishes.committed
  have hmiddle : site.database.committed = _ := hfirst.committed
  rw [hmiddle] at hlast
  -- What both of them leave.
  have hcontents := runner.performAll_resumed first first.database.committed
    (done.map (runner.change first.files)).flatten (left.map (runner.change first.files)).flatten
    (fun hcreated => by rw [hfirst.uncreated hcreated]; rfl)
  rw [← List.flatten_append, ← List.flatten_append, ← List.map_append] at hcontents
  have hrecorded := hfirst.recorded
  rw [hbooks.recorded, hbooks.recorded] at hrecorded
  refine ⟨done, left, again, hsplit, hrecorded, hagain, by rw [hreport], ?_, ?_, ?_⟩
  · rw [hreport]
    dsimp only
    rw [← List.map_append, List.append_assoc, ← hsplit, skippedOn_append_pendingOn]
    rfl
  · rw [hlast, hstraight.committed]
    exact hcontents.1
  · rw [hlast, hstraight.committed]
    exact hcontents.2

/-- The engine refuses the second registration of the first run. -/
theorem run_resumes_twoSteps :
    let single : Site := {}
    let first : Site := { faults := [{ on := .execute, skip := 1, message := "disk full" }] }
    let second : Site := {}
    let report : Report := { applied := ["01", "02"] }
    twoSteps.keys.Nodup ∧ twoSteps.KeepsBooks first.files ∧
      (∀ migration ∈ twoSteps.migrations, ∀ flag, twoSteps.cancel = some flag →
        flag ∉ Instruction.flags (migration.instructions first.files)) ∧
      first.database.working = none ∧ first.poisoned = false ∧ single.files = first.files ∧
      single.database = first.database ∧ (twoSteps.run single).outcome = .ok report ∧
      (twoSteps.run first).journal.rollbackFailed = false ∧ second.files = first.files ∧
      second.faults = [] ∧ twoSteps.Unset second ∧
      ∃ done left again, twoSteps.Resumes single first second done left again := by
  intro single first second report
  have hkeys : twoSteps.keys.Nodup := by decide
  have hcancel : ∀ flag, twoSteps.cancel ≠ some flag := fun flag hflag => by
    simp [twoSteps] at hflag
  have hflag : ∀ migration ∈ twoSteps.migrations, ∀ flag, twoSteps.cancel = some flag →
      flag ∉ Instruction.flags (migration.instructions first.files) :=
    fun _ _ flag hflag => absurd hflag (hcancel flag)
  have hunset : twoSteps.Unset second := fun flag hflag => absurd hflag (hcancel flag)
  obtain ⟨hok, hrollback⟩ : (twoSteps.run single).outcome = .ok report ∧
      (twoSteps.run first).journal.rollbackFailed = false := by decide +kernel
  have hbooks := twoSteps_keepsBooks first.files
  refine ⟨hkeys, hbooks, hflag, rfl, rfl, rfl, rfl, hok, hrollback, rfl, rfl, hunset, ?_⟩
  exact run_resumes twoSteps single first second report hkeys hbooks hflag rfl rfl rfl rfl hok
    hrollback rfl rfl hunset

end SchemaUpgrade.Runner
