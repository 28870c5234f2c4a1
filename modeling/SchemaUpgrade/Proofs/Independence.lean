import SchemaUpgrade.Proofs.Bookkeeping
import SchemaUpgrade.Proofs.Poisoning
import SchemaUpgrade.Proofs.Undisturbed
/-!
# Histories in different tables are independent

Two runners that keep their books in different tables do not notice each other, as long as their
migrations only execute batches: each ends in the same way whether the other has run before it or
not, and the two runs leave the same tables behind in either order (`Runner.Independent`).

The reason is that the end of an undisturbed run is a function of the files and of the keys in its
own table, and so are the statements that it leaves behind (`Runner.prospect`, `Runner.deeds`,
`Runner.Undisturbed.run_prospect`).  Those statements insert into that table alone, so what one run
leaves behind does not change what the other one sees, and the two groups of statements may be
exchanged (`Engine.Content.ids?_performAll_comm`).

## Main definitions

* `Instruction.isBatching`, `Runner.RunsBatches`: migrations that only execute batches.
* `Migration.verdict`, `Migration.course`, `Runner.prospect`: how a migration, a list of pending
  migrations and a whole run end, told by the files and the recorded keys.
* `Site.Performs`: a run performed statements, and nothing else changed that another run can see.
* `Runner.Independent`: two runners that do not notice each other.
-/

namespace SchemaUpgrade

open Engine

/-! ## Statements that may be exchanged -/

/-- As far as a table is concerned, statements may be exchanged with others that do not insert into
it. -/
theorem Engine.Content.ids?_performAll_comm (content : Content) {first second : List Statement}
    {table : String} (h : ∀ statement ∈ first, statement.insertsInto table = false) :
    ((content.performAll first).performAll second).ids? table
      = ((content.performAll second).performAll first).ids? table := by
  have hbefore := content.ids?_performAll_of_not_insertsInto h
  have hafter := (content.performAll second).ids?_performAll_of_not_insertsInto h
  rw [hafter, Content.ids?_performAll_congr hbefore]

/-- The executed batches are the same, in another order. -/
theorem Engine.Content.batches_performAll_comm (content : Content)
    (first second : List Statement) :
    ((content.performAll first).performAll second).batches.Perm
      ((content.performAll second).performAll first).batches := by
  simp only [Content.batches_performAll, List.append_assoc]
  exact List.perm_append_comm.append_left content.batches

/-! ## Instructions that only execute batches -/

/-- The site while a transaction is open that works on this content. -/
def Site.workingOn (site : Site) (content : Content) : Site :=
  { site with database := { site.database with working := some content } }

namespace Instruction

/-- Whether an instruction can belong to a migration that only executes batches: it sends a batch
that neither opens nor ends a transaction, it tells something, or it fails. -/
def isBatching : Instruction → Bool
  | .send (.batch sql) _ => !Engine.isControl sql
  | .tell _ _ => true
  | .stop (.failure _) => true
  | _ => false

/-- How instructions end if the engine takes everything: with the first failure among them. -/
def verdict : List Instruction → Except UpgradeError Unit
  | [] => .ok ()
  | .stop (.failure error) :: _ => .error error
  | _ :: rest => verdict rest

variable {code : List Instruction} {site : Site}

theorem exists_batch_of_isBatching (hcode : ∀ instruction ∈ code, instruction.isBatching = true)
    {statement : Statement} (hmem : statement ∈ statements code) :
    ∃ sql, statement = .batch sql ∧ Engine.isControl sql = false := by
  obtain ⟨instruction, hin, hstatement⟩ := List.mem_filterMap.1 hmem
  have hbatching := hcode instruction hin
  cases instruction with
  | send other sender =>
    obtain rfl : other = statement := Option.some.inj hstatement
    cases other with
    | batch sql => exact ⟨sql, rfl, by simpa [isBatching] using hbatching⟩
    | execute sql params => exact absurd hbatching (by simp [isBatching])
  | tell route notice => exact absurd hstatement (by simp [statement?])
  | raise flag => exact absurd hstatement (by simp [statement?])
  | stop halt => exact absurd hstatement (by simp [statement?])

/-- Inside a transaction and without faults, such instructions end with their verdict.  Nothing
changes but the private copy, on which all their statements are performed if they do not fail. -/
theorem runAll_of_isBatching (hcode : ∀ instruction ∈ code, instruction.isBatching = true)
    (hfaults : site.faults = []) (content : Content) :
    ∃ filled journal, runAll code (site.workingOn content)
        = ⟨(verdict code).mapError .failure, site.workingOn filled, journal⟩ ∧
      (verdict code = .ok () → filled = content.performAll (statements code)) := by
  induction code generalizing content with
  | nil => exact ⟨content, [], rfl, fun _ => rfl⟩
  | cons instruction rest ih =>
    rw [List.forall_mem_cons] at hcode
    obtain ⟨hfirst, hrest⟩ := hcode
    cases instruction with
    | send statement sender =>
      cases statement with
      | batch sql =>
        have hplain : (Statement.batch sql).isControl = false := by
          simpa [isBatching, Statement.isControl] using hfirst
        have hsend : (Statement.batch sql).send (site.workingOn content)
            = ⟨.ok (), site.workingOn (content.perform (.batch sql)), _⟩ :=
          Statement.send_of_no_faults hfaults (Statement.carryOut_of_admits rfl hplain trivial)
        obtain ⟨filled, journal, hdone, hfilled⟩ := ih hrest (content.perform (.batch sql))
        rw [runAll_send_of_ok hsend, hdone]
        exact ⟨filled, _, rfl, hfilled⟩
      | execute sql params => exact absurd hfirst (by simp [isBatching])
    | tell route notice =>
      obtain ⟨filled, journal, hdone, hfilled⟩ := ih hrest content
      rw [runAll_tell, hdone]
      exact ⟨filled, _, rfl, hfilled⟩
    | raise flag => exact absurd hfirst (by simp [isBatching])
    | stop halt =>
      cases halt with
      | failure error => exact ⟨content, [], rfl, fun hok => absurd hok (by simp [verdict])⟩
      | panic => exact absurd hfirst (by simp [isBatching])

end Instruction

/-! ## How a run ends -/

namespace Migration

/-- How applying a migration ends when `recorded` holds the keys of the table: with its own failure,
or with the refusal of a key that is recorded already. -/
def verdict (files : Files) (recorded : List String) (migration : Migration) :
    Except UpgradeError Unit := do
  Instruction.verdict (migration.instructions files)
  if migration.key ∈ recorded then
    .error (.backend .register (.ofEngine (Database.duplicateKey migration.key)))

/-- The pending migrations that pass, and how their passage ends.  Each of them adds its key to the
table. -/
def course (files : Files) :
    List String → List Migration → List Migration × Except UpgradeError Unit
  | _, [] => ([], .ok ())
  | recorded, migration :: rest =>
    match migration.verdict files recorded with
    | .error error => ([], .error error)
    | .ok () =>
      let (passed, outcome) := course files (recorded ++ [migration.key]) rest
      (migration :: passed, outcome)

variable {files : Files} {recorded : List String} {migration : Migration} {rest : List Migration}

theorem verdict_of_failure {error : UpgradeError}
    (h : Instruction.verdict (migration.instructions files) = .error error) :
    migration.verdict files recorded = .error error := by
  rw [verdict, h]
  rfl

theorem verdict_of_recorded
    (h : Instruction.verdict (migration.instructions files) = .ok ())
    (hold : migration.key ∈ recorded) : migration.verdict files recorded
      = .error (.backend .register (.ofEngine (Database.duplicateKey migration.key))) := by
  rw [verdict, h, if_pos hold]
  rfl

theorem verdict_of_new (h : Instruction.verdict (migration.instructions files) = .ok ())
    (hnew : migration.key ∉ recorded) : migration.verdict files recorded = .ok () := by
  rw [verdict, h, if_neg hnew]
  rfl

theorem course_cons_of_error {error : UpgradeError}
    (h : migration.verdict files recorded = .error error) :
    course files recorded (migration :: rest) = ([], .error error) := by
  rw [course, h]

theorem course_cons_of_ok (h : migration.verdict files recorded = .ok ()) :
    course files recorded (migration :: rest)
      = (migration :: (course files (recorded ++ [migration.key]) rest).1,
          (course files (recorded ++ [migration.key]) rest).2) := by
  rw [course, h]

theorem course_subset (files : Files) (recorded : List String) (pending : List Migration) :
    (course files recorded pending).1 ⊆ pending := by
  induction pending generalizing recorded with
  | nil => exact List.Subset.refl _
  | cons migration rest ih =>
    cases h : migration.verdict files recorded with
    | error error =>
      rw [course_cons_of_error h]
      exact List.nil_subset _
    | ok _ =>
      rw [course_cons_of_ok h]
      exact List.cons_subset_cons migration (ih _)

end Migration

namespace Runner

/-- The migrations that a run passes when `recorded` holds the keys of its table, and how the run
ends. -/
def prospect (runner : Runner) (files : Files) (recorded : List String) :
    List Migration × Except UpgradeError Report :=
  match History.resumePoint runner.keys recorded with
  | .error mismatch => ([], .error (.history mismatch))
  | .ok resume =>
    let pending := runner.migrations.filter fun migration => History.isPending resume migration.key
    let skipped := runner.migrations.filter fun migration => !History.isPending resume migration.key
    let (passed, outcome) := Migration.course files recorded pending
    (passed, outcome.map fun _ =>
      { applied := passed.map Migration.key, skipped := skipped.map Migration.key })

/-- The statements that such a run leaves behind: the creation of its table, and the changes of the
migrations that it passes. -/
def deeds (runner : Runner) (files : Files) (recorded : List String) : List Statement :=
  runner.creation :: (runner.prospect files recorded).1.flatMap (runner.change files)

/-- A runner with a built-in dialect whose migrations only execute batches. -/
structure RunsBatches (runner : Runner) (files : Files) : Prop where
  dialect : ∃ vendor : Vendor, runner.dialect = vendor.dialect
  batching : ∀ migration ∈ runner.migrations, ∀ instruction ∈ migration.instructions files,
    instruction.isBatching = true

variable {runner : Runner} {files : Files} {migration : Migration}

namespace RunsBatches

theorem keepsBooks (h : runner.RunsBatches files) : runner.KeepsBooks files where
  dialect := h.dialect
  table := fun migration hmem statement hstatement => by
    obtain ⟨sql, rfl, -⟩ := Instruction.exists_batch_of_isBatching (h.batching migration hmem)
      hstatement
    rfl
  control := fun migration hmem statement hstatement => by
    obtain ⟨sql, rfl, hplain⟩ := Instruction.exists_batch_of_isBatching (h.batching migration hmem)
      hstatement
    exact hplain

/-- A migration is recorded in the table of the runner, which its own statements leave alone. -/
theorem registration_spec (h : runner.RunsBatches files) (hmem : migration ∈ runner.migrations)
    (content : Content) :
    ∃ sql, runner.registration migration = .execute sql [migration.key] ∧
      (content.performAll (Instruction.statements (migration.instructions files))).ids
        (insertedTable sql) = content.ids runner.tableName := by
  obtain ⟨vendor, hvendor⟩ := h.dialect
  obtain ⟨sql, htable, hregistration⟩ := registration_of_vendor hvendor migration
  refine ⟨sql, hregistration, ?_⟩
  rw [htable]
  exact content.ids_performAll_of_not_insertsInto (h.keepsBooks.table migration hmem)

/-- A change inserts into the table of the runner and into no other one. -/
theorem change_spares (h : runner.RunsBatches files) (hmem : migration ∈ runner.migrations)
    {table : String} (htable : table ≠ runner.tableName) :
    ∀ statement ∈ runner.change files migration, statement.insertsInto table = false := by
  intro statement hstatement
  obtain ⟨vendor, hvendor⟩ := h.dialect
  obtain ⟨sql, hsql, hregistration⟩ := registration_of_vendor hvendor migration
  rw [change, List.mem_append, List.mem_singleton, hregistration] at hstatement
  rcases hstatement with hown | rfl
  · obtain ⟨text, rfl, -⟩ := Instruction.exists_batch_of_isBatching (h.batching migration hmem) hown
    rfl
  · exact decide_eq_false fun heq => htable (heq.symm.trans hsql)

end RunsBatches

/-- What a run leaves behind inserts into the table of the runner and into no other one. -/
theorem RunsBatches.deeds_spare (h : runner.RunsBatches files) (recorded : List String)
    {table : String} (htable : table ≠ runner.tableName) :
    ∀ statement ∈ runner.deeds files recorded, statement.insertsInto table = false := by
  have hpassed : ∀ migration ∈ (runner.prospect files recorded).1,
      migration ∈ runner.migrations := by
    rw [prospect]
    split
    · exact fun _ hmem => absurd hmem List.not_mem_nil
    · intro migration hmem
      exact (List.mem_filter.1 (Migration.course_subset _ _ _ hmem)).1
  intro statement hmem
  rw [deeds, List.mem_cons, List.mem_flatMap] at hmem
  rcases hmem with rfl | ⟨migration, hin, hstatement⟩
  · rfl
  · exact h.change_spares (hpassed migration hin) htable statement hstatement

end Runner

/-! ## What a run leaves behind -/

/-- The work from `site` to `after` performed statements on the committed content, and nothing else
changed that the work of a runner depends on. -/
structure Site.Performs (site after : Site) (statements : List Statement) : Prop where
  files : after.files = site.files
  faults : after.faults = site.faults
  poisoned : after.poisoned = site.poisoned
  database : after.database = { committed := site.database.committed.performAll statements }
  unset : ∀ runner : Runner, runner.Unset site → runner.Unset after

namespace Site.Performs

variable {first second third : Site} {statements more : List Statement}

theorem trans (h : first.Performs second statements) (h' : second.Performs third more) :
    first.Performs third (statements ++ more) where
  files := h'.files.trans h.files
  faults := h'.faults.trans h.faults
  poisoned := h'.poisoned.trans h.poisoned
  database := by rw [h'.database, h.database, Content.performAll_append]
  unset := fun runner hunset => h'.unset runner (h.unset runner hunset)

theorem committed (h : first.Performs second statements) :
    second.database.committed = first.database.committed.performAll statements := by
  rw [h.database]

theorem undisturbed {runner : Runner} (h : first.Performs second statements)
    (hfirst : runner.Undisturbed first) : runner.Undisturbed second where
  faults := h.faults.trans hfirst.faults
  sound := h.poisoned.trans hfirst.sound
  idle := by rw [h.database]
  unset := h.unset runner hfirst.unset

end Site.Performs

namespace Runner

variable {runner : Runner} {site : Site} {migration : Migration}

/-- From an idle database, work that performs nothing leaves the database as it is. -/
theorem Undisturbed.performs_nothing {after : Site} (h : runner.Undisturbed site)
    (hfiles : after.files = site.files) (hfaults : after.faults = site.faults)
    (hpoisoned : after.poisoned = site.poisoned) (hdatabase : after.database = site.database)
    (hunset : ∀ other : Runner, other.Unset site → other.Unset after) : site.Performs after [] :=
  ⟨hfiles, hfaults, hpoisoned, hdatabase.trans (Database.eq_of_idle h.idle rfl), hunset⟩

section OneMigration

variable (h : runner.Undisturbed site)
  (hcode : ∀ instruction ∈ migration.instructions site.files, instruction.isBatching = true)
include h hcode

/-- A migration that only executes batches ends with the verdict of its instructions, in a
transaction that holds their statements if they do not fail. -/
theorem Undisturbed.apply_of_isBatching :
    ∃ opened content front journal, Connection.begin site = ⟨.ok (), opened, front⟩ ∧
      migration.apply opened
        = ⟨(Instruction.verdict (migration.instructions site.files)).mapError .failure,
            site.workingOn content, journal⟩ ∧
      (Instruction.verdict (migration.instructions site.files) = .ok () →
        content = site.database.committed.performAll
          (Instruction.statements (migration.instructions site.files))) := by
  let opened : Site := site.workingOn site.database.committed
  have hbegin : Connection.begin site = ⟨.ok (), opened, _⟩ :=
    Connection.begin_of_no_faults h.faults h.sound h.idle
  obtain ⟨content, journal, hdone, hcontent⟩ :=
    Instruction.runAll_of_isBatching hcode h.faults site.database.committed
  exact ⟨opened, content, _, journal, hbegin,
    (Migration.apply_eq_runAll opened migration).trans hdone, hcontent⟩

/-- If it fails, its transaction is discarded. -/
theorem Undisturbed.applyOne_of_failure {error : UpgradeError}
    (hown : Instruction.verdict (migration.instructions site.files) = .error error) :
    ∃ journal, runner.applyOne migration site
      = ⟨.error (.failure error),
          { site with database := { site.database with working := none } }, journal⟩ := by
  obtain ⟨opened, content, front, journal, hbegin, happly, -⟩ := h.apply_of_isBatching hcode
  rw [hown] at happly
  have hnone : (site.workingOn content).faults = [] := h.faults
  have hrollback := Transaction.rollback_of_no_faults hnone rfl
  exact ⟨_, Work.bind_of_ok_of (Work.mapError_of_ok hbegin)
    (Work.bind_of_ok_of (Work.attempt_of happly)
      (Work.bind_of_ok_of (Work.attempt_of hrollback) (Work.fail_apply _ _)))⟩

/-- If it does not fail, recording its key decides. -/
theorem Undisturbed.applyOne_of_success {outcome : Except (Halt UpgradeError) Unit} {after : Site}
    {more : Journal}
    (hown : Instruction.verdict (migration.instructions site.files) = .ok ())
    (hconclude : runner.conclude migration (site.workingOn (site.database.committed.performAll
        (Instruction.statements (migration.instructions site.files))))
      = ⟨outcome, after, more⟩) :
    ∃ journal, runner.applyOne migration site = ⟨outcome, after, journal⟩ := by
  obtain ⟨opened, content, front, journal, hbegin, happly, hcontent⟩ := h.apply_of_isBatching hcode
  rw [hown, hcontent hown] at happly
  exact ⟨_, Work.bind_of_ok_of (Work.mapError_of_ok hbegin)
    (Work.bind_of_ok_of (Work.attempt_of happly) hconclude)⟩

end OneMigration

section Recorded

variable (h : runner.Undisturbed site) (hbatches : runner.RunsBatches site.files)
  (hmem : migration ∈ runner.migrations)
  (hown : Instruction.verdict (migration.instructions site.files) = .ok ())
include h hbatches hmem hown

/-- If its key is recorded already, its transaction is discarded. -/
theorem Undisturbed.applyOne_of_recorded
    (hold : migration.key ∈ site.database.committed.ids runner.tableName) :
    ∃ journal, runner.applyOne migration site
      = ⟨.error (.failure
            (.backend .register (.ofEngine (Database.duplicateKey migration.key)))),
          { site with database := { site.database with working := none } }, journal⟩ := by
  let content := site.database.committed.performAll
    (Instruction.statements (migration.instructions site.files))
  obtain ⟨sql, hregistration, hkept⟩ :=
    hbatches.registration_spec hmem site.database.committed
  have hnone : (site.workingOn content).faults = [] := h.faults
  obtain ⟨more, hconclude⟩ :=
    conclude_of_duplicate hnone rfl hregistration (hkept.symm ▸ hold)
  exact h.applyOne_of_success (hbatches.batching migration hmem) hown hconclude

/-- If its key is new, its whole change is performed. -/
theorem Undisturbed.applyOne_of_new
    (hnew : migration.key ∉ site.database.committed.ids runner.tableName) :
    ∃ journal, runner.applyOne migration site
      = ⟨.ok (), { site with
          database := { committed :=
            site.database.committed.performAll (runner.change site.files migration) } },
          journal⟩ := by
  let content := site.database.committed.performAll
    (Instruction.statements (migration.instructions site.files))
  obtain ⟨sql, hregistration, hkept⟩ :=
    hbatches.registration_spec hmem site.database.committed
  have hnone : (site.workingOn content).faults = [] := h.faults
  have hadmits : content.Admits (runner.registration migration) := by
    rw [hregistration]
    exact fun hin => hnew (hkept ▸ hin)
  obtain ⟨more, hconclude⟩ := conclude_of_no_faults hnone rfl hadmits
  rw [change, Content.performAll_append]
  exact h.applyOne_of_success (hbatches.batching migration hmem) hown hconclude

end Recorded

/-- Applying a migration that only executes batches ends with its verdict.  Its whole change is
performed, or nothing is. -/
theorem Undisturbed.applyOne_verdict (h : runner.Undisturbed site)
    (hbatches : runner.RunsBatches site.files) (hmem : migration ∈ runner.migrations) :
    let verdict := migration.verdict site.files (site.database.committed.ids runner.tableName)
    ∃ after journal, runner.applyOne migration site
        = ⟨verdict.mapError .failure, after, journal⟩ ∧
      site.Performs after
        (if verdict = .ok () then runner.change site.files migration else []) := by
  intro verdict
  have hdiscarded : site.Performs
      { site with database := { site.database with working := none } } [] :=
    ⟨rfl, rfl, rfl, rfl, fun _ hunset => hunset⟩
  cases hown : Instruction.verdict (migration.instructions site.files) with
  | error error =>
    have hverdict : verdict = .error error := Migration.verdict_of_failure hown
    obtain ⟨journal, happly⟩ := h.applyOne_of_failure (hbatches.batching migration hmem) hown
    rw [hverdict, if_neg (by simp)]
    exact ⟨_, journal, happly, hdiscarded⟩
  | ok _ =>
    by_cases hold : migration.key ∈ site.database.committed.ids runner.tableName
    · have hverdict : verdict = .error _ := Migration.verdict_of_recorded hown hold
      obtain ⟨journal, happly⟩ := h.applyOne_of_recorded hbatches hmem hown hold
      rw [hverdict, if_neg (by simp)]
      exact ⟨_, journal, happly, hdiscarded⟩
    · have hverdict : verdict = .ok () := Migration.verdict_of_new hown hold
      obtain ⟨journal, happly⟩ := h.applyOne_of_new hbatches hmem hown hold
      rw [hverdict, if_pos rfl]
      exact ⟨_, journal, happly, rfl, rfl, rfl, rfl, fun _ hunset => hunset⟩

/-- A run through pending migrations that only execute batches follows their course. -/
theorem Undisturbed.applyFrom_course {resume : Option String} {pending : List Migration}
    (report : Report) (h : runner.Undisturbed site) (hbatches : runner.RunsBatches site.files)
    (hmem : ∀ migration ∈ pending, migration ∈ runner.migrations)
    (hpending : ∀ migration ∈ pending, History.isPending resume migration.key = true) :
    let course := Migration.course site.files (site.database.committed.ids runner.tableName) pending
    let done := runner.applyFrom resume report pending site
    done.outcome = (course.2.map fun _ => applied report course.1).mapError .failure ∧
      site.Performs done.state (course.1.flatMap (runner.change site.files)) := by
  -- Each migration that passes adds its key to the table, so the site is generalized.
  induction pending generalizing report site with
  | nil =>
    refine ⟨?_, h.performs_nothing rfl rfl rfl rfl fun _ hunset => hunset⟩
    simp only [Migration.course, applied_nil]
    rfl
  | cons migration rest ih =>
    rw [List.forall_mem_cons] at hmem hpending
    obtain ⟨looked, hlook, hcalm, hfiles, hdatabase, hunset⟩ := h.look (ε := Halt UpgradeError)
    have hlooked := h.performs_nothing hfiles (hcalm.faults.trans h.faults.symm)
      (hcalm.sound.trans h.sound.symm) hdatabase hunset
    obtain ⟨next, journal, happly, hnext⟩ := hcalm.applyOne_verdict (hfiles ▸ hbatches) hmem.1
    rw [hfiles, hdatabase] at happly hnext
    intro course done
    cases hverdict : migration.verdict site.files
        (site.database.committed.ids runner.tableName) with
    | error error =>
      rw [hverdict] at happly hnext
      have hcourse : course = ([], .error error) := Migration.course_cons_of_error hverdict
      have hdone : done = ⟨.error (.failure error), next, _⟩ :=
        applyFrom_cons_of_error report rest hpending.1 hlook happly
      rw [hcourse, hdone]
      exact ⟨rfl, hlooked.trans hnext⟩
    | ok _ =>
      rw [hverdict] at happly hnext
      have hall := hlooked.trans hnext
      have hids : next.database.committed.ids runner.tableName
          = site.database.committed.ids runner.tableName ++ [migration.key] := by
        rw [hall.committed]
        exact (hbatches.keepsBooks.change_spec hmem.1 _).1
      obtain ⟨houtcome, hperforms⟩ := ih
        { report with applied := report.applied ++ [migration.key] } (hall.undisturbed h)
        (hall.files.symm ▸ hbatches) hmem.2 hpending.2
      rw [hall.files, hids] at houtcome hperforms
      have hcourse : course = (migration :: _, _) := Migration.course_cons_of_ok hverdict
      have hdone := applyFrom_cons_of_ok report rest hpending.1 hlook happly
      have hstate : done.state = _ := congrArg Finished.state hdone
      rw [hcourse, applied_cons, List.flatMap_cons]
      refine ⟨(congrArg Finished.outcome hdone).trans houtcome, ?_⟩
      rw [hstate]
      exact hall.trans hperforms

/-- An undisturbed run whose migrations only execute batches ends as the files and the keys in its
own table tell, and what it leaves behind is told by them as well. -/
theorem Undisturbed.run_prospect (h : runner.Undisturbed site)
    (hbatches : runner.RunsBatches site.files) :
    let recorded := site.database.committed.ids runner.tableName
    (runner.run site).outcome = (runner.prospect site.files recorded).2.mapError .failure ∧
      site.Performs (runner.run site).state (runner.deeds site.files recorded) := by
  intro recorded
  have hcreate := hbatches.keepsBooks.plain.creation
  have hrecorded : runner.recorded site.database.committed = recorded :=
    hbatches.keepsBooks.recorded site.database.committed
  have hcreated : site.Performs { site with
      database := { committed := site.database.committed.perform runner.creation } }
      [runner.creation] :=
    ⟨rfl, rfl, rfl, rfl, fun _ hunset => hunset⟩
  cases hresume : History.resumePoint runner.keys recorded with
  | error mismatch =>
    have hprospect : runner.prospect site.files recorded = ([], .error (.history mismatch)) := by
      rw [prospect, hresume]
    obtain ⟨journal, hrun⟩ := h.run_of_mismatch hcreate (hrecorded.symm ▸ hresume)
    rw [hrun, deeds, hprospect]
    exact ⟨rfl, hcreated⟩
  | ok resume =>
    obtain ⟨rfl, hstarts⟩ := History.resumePoint_eq_ok hresume
    obtain ⟨journal, hrun⟩ := h.run_of_continued hcreate (hrecorded.symm ▸ hstarts)
    let pending := runner.pendingOn site.database.committed
    let skipped := runner.skippedOn site.database.committed
    have hin : ∀ migration ∈ pending, migration ∈ runner.migrations :=
      fun _ hmem => mem_of_mem_pendingOn hmem
    obtain ⟨houtcome, hperforms⟩ := (hcreated.undisturbed h).applyFrom_course
      { skipped := skipped.map Migration.key } hbatches hin
      (fun _ hmem => isPending_of_mem_pendingOn hmem)
    let course := Migration.course site.files recorded pending
    have hprospect : runner.prospect site.files recorded
        = (course.1, course.2.map fun _ => applied { skipped := skipped.map Migration.key }
            course.1) := by
      simp only [prospect, hresume, course, pending, skipped, pendingOn, skippedOn, hrecorded]
      rfl
    rw [hrun, deeds, hprospect]
    exact ⟨houtcome, hcreated.trans hperforms⟩

/-! ## Two runners -/

/-- Two runners do not notice each other at a site: neither of their runs looks any different when
the other one goes first, and the order of the two cannot be told from the tables. -/
structure Independent (first second : Runner) (site : Site) : Prop where
  /-- The first run leaves every table as it is but its own. -/
  spares : ∀ table, table ≠ first.tableName →
    (first.run site).state.database.committed.ids? table = site.database.committed.ids? table
  first_outcome : (first.run (second.run site).state).outcome = (first.run site).outcome
  second_outcome : (second.run (first.run site).state).outcome = (second.run site).outcome
  tables : ∀ table,
    (second.run (first.run site).state).state.database.committed.ids? table
      = (first.run (second.run site).state).state.database.committed.ids? table
  batches : (second.run (first.run site).state).state.database.committed.batches.Perm
    (first.run (second.run site).state).state.database.committed.batches

section TwoRunners

variable {first second : Runner}

/-- A run after the run of another runner ends as it does without it, and the statements that it
leaves behind come after those of the other one. -/
theorem Undisturbed.run_after (hfirst : first.Undisturbed site) (hsecond : second.Undisturbed site)
    (hbatches : first.RunsBatches site.files) (hbatches' : second.RunsBatches site.files)
    (htables : second.tableName ≠ first.tableName) :
    let content := site.database.committed
    let between := (first.run site).state
    (second.run between).outcome = (second.run site).outcome ∧
      (second.run between).state.database.committed
        = (content.performAll (first.deeds site.files (content.ids first.tableName))).performAll
            (second.deeds site.files (content.ids second.tableName)) := by
  intro content between
  obtain ⟨-, hdone⟩ := hfirst.run_prospect hbatches
  obtain ⟨halone, -⟩ := hsecond.run_prospect hbatches'
  obtain ⟨hafter, hboth⟩ :=
    (hdone.undisturbed hsecond).run_prospect (hdone.files.symm ▸ hbatches')
  have hkept : between.database.committed.ids second.tableName
      = content.ids second.tableName := by
    rw [hdone.committed]
    exact content.ids_performAll_of_not_insertsInto (hbatches.deeds_spare _ htables)
  rw [hdone.files, hkept] at hafter hboth
  exact ⟨hafter.trans halone.symm, by rw [hboth.committed, hdone.committed]⟩

theorem Undisturbed.independent (hfirst : first.Undisturbed site)
    (hsecond : second.Undisturbed site) (hbatches : first.RunsBatches site.files)
    (hbatches' : second.RunsBatches site.files) (htables : first.tableName ≠ second.tableName) :
    first.Independent second site := by
  let content := site.database.committed
  let deeds := first.deeds site.files (content.ids first.tableName)
  let deeds' := second.deeds site.files (content.ids second.tableName)
  obtain ⟨hsecond_outcome, hforth⟩ :=
    hfirst.run_after hsecond hbatches hbatches' htables.symm
  obtain ⟨hfirst_outcome, hback⟩ := hsecond.run_after hfirst hbatches' hbatches htables
  refine ⟨fun table hother => ?_, hfirst_outcome, hsecond_outcome, fun table => ?_, ?_⟩
  · rw [(hfirst.run_prospect hbatches).2.committed]
    exact content.ids?_performAll_of_not_insertsInto (hbatches.deeds_spare _ hother)
  · rw [hforth, hback]
    -- No table is filled by both, so one of the two groups of statements leaves this one alone.
    by_cases hown : table = first.tableName
    · have hspared : table ≠ second.tableName := hown ▸ htables
      exact (content.ids?_performAll_comm (hbatches'.deeds_spare _ hspared)).symm
    · exact content.ids?_performAll_comm (hbatches.deeds_spare _ hown)
  · rw [hforth, hback]
    exact content.batches_performAll_comm deeds deeds'

/-- A connection that is poisoned refuses both runners, in either order. -/
theorem independent_of_poisoned (first second : Runner) (hpoisoned : site.poisoned = true) :
    first.Independent second site := by
  have hfirst := Connection.run_of_poisoned first hpoisoned
  have hsecond := Connection.run_of_poisoned second hpoisoned
  constructor
  · intro table _
    rw [hfirst]
  · rw [hsecond, hfirst]
  · rw [hfirst, hsecond]
  · intro table
    rw [hfirst, hsecond, hfirst]
  · rw [hfirst, hsecond, hfirst]

/-- Runners with built-in dialects and different tables, whose migrations only execute batches, do
not notice each other, wherever no transaction is open, the engine refuses nothing, and neither
runner is cancelled. -/
theorem histories_independent (first second : Runner) (site : Site)
    (hbatches : first.RunsBatches site.files) (hbatches' : second.RunsBatches site.files)
    (htables : first.tableName ≠ second.tableName) (hidle : site.database.working = none)
    (hfaults : site.faults = []) (hunset : first.Unset site) (hunset' : second.Unset site) :
    first.Independent second site := by
  rcases Bool.eq_false_or_eq_true site.poisoned with hpoisoned | hsound
  · exact independent_of_poisoned first second hpoisoned
  · have hfirst : first.Undisturbed site := ⟨hfaults, hsound, hidle, hunset⟩
    have hsecond : second.Undisturbed site := ⟨hfaults, hsound, hidle, hunset'⟩
    exact hfirst.independent hsecond hbatches hbatches' htables

end TwoRunners

/-- A program under the first key, and a script in a file under the second one. -/
def scriptedSteps : Runner where
  dialect := Vendor.duckDb.dialect
  migrations := [.program "01" [.batch "CREATE TABLE b (id INT)"],
    .file "02" "drop_b.sql" .ofProcess]
  tableName := "history_of_b"
  sorted := by decide
  nonempty := by simp
  named := by decide

/-- The keys of both runners are the same, and one of them stops half-way because its script is
missing. -/
theorem histories_independent_scriptedSteps :
    let site : Site := {}
    let stopped := scriptedSteps.run site
    twoSteps.RunsBatches site.files ∧ scriptedSteps.RunsBatches site.files ∧
      twoSteps.tableName ≠ scriptedSteps.tableName ∧ site.database.working = none ∧
      site.faults = [] ∧ twoSteps.Unset site ∧ scriptedSteps.Unset site ∧
      twoSteps.keys = scriptedSteps.keys ∧
      stopped.state.database.committed.ids scriptedSteps.tableName = ["01"] ∧
      stopped.outcome = .error (.failure (.unreadable "02" .notFound)) ∧
      twoSteps.Independent scriptedSteps site := by
  intro site stopped
  have hbatches : twoSteps.RunsBatches site.files := ⟨⟨.duckDb, rfl⟩, by decide +kernel⟩
  have hbatches' : scriptedSteps.RunsBatches site.files := ⟨⟨.duckDb, rfl⟩, by decide +kernel⟩
  have htables : twoSteps.tableName ≠ scriptedSteps.tableName := by decide
  have hunset : twoSteps.Unset site := fun _ hflag => absurd hflag (by simp [twoSteps])
  have hunset' : scriptedSteps.Unset site := fun _ hflag => absurd hflag (by simp [scriptedSteps])
  obtain ⟨hrecorded, hfailed⟩ :
      stopped.state.database.committed.ids scriptedSteps.tableName = ["01"] ∧
      stopped.outcome = .error (.failure (.unreadable "02" .notFound)) := by decide +kernel
  exact ⟨hbatches, hbatches', htables, rfl, rfl, hunset, hunset', by decide, hrecorded, hfailed,
    histories_independent twoSteps scriptedSteps site hbatches hbatches' htables rfl rfl hunset
      hunset'⟩

end Runner

end SchemaUpgrade
