import SchemaUpgrade.Dialect.Vendor
import SchemaUpgrade.Proofs.Errands
import SchemaUpgrade.Proofs.Execution
/-!
# The error of a run blames the first call that failed

A run of scripts has a schedule: it prepares the bookkeeping table, lists the recorded keys, and
then opens a transaction for each pending script, sends its batches, records its key and commits.
Whatever the engine refuses on the way, the error of the run goes back to the part of the schedule
where the first call failed, with the key of the script and the number of the batch if it was one
(`Runner.error_blames_first_failure`).  A failed rollback is told on top of that and changes nothing
about it.

The same texts are sent in several parts of a run, so what failed is told by its place in the
schedule and not by its text.  The place says which script it was too: the commits that the engine
carried out count the scripts before it, with one more for the bookkeeping table
(`Runner.Blames.commits`).

## Main definitions

* `Migration.batches`, `Migration.unreadable?`: what a script yields.
* `Migration.opening`, `Runner.errands`: the errands of a script.
* `Runner.Blames`: what the error of a run blames.
-/

namespace SchemaUpgrade

open Engine

/-! ## Scripts -/

/-- Whether a migration is a script, in memory or in a file. -/
def Migration.isScript : Migration → Bool
  | .script _ _ _ | .file _ _ _ => true
  | .program _ _ => false

/-- The items of a script; a file that cannot be read yields only its error. -/
def Migration.items (files : Files) : Migration → List Script.Item
  | .script _ sql _ => Script.items (.ofString sql)
  | .file _ path _ =>
    match files.read path with
    | .error cause => [.error cause]
    | .ok bytes => Script.items { bytes := bytes }
  | .program _ _ => []

/-- The batches that can be read of a script. -/
def Migration.batches (files : Files) (migration : Migration) : List String :=
  (migration.items files).filterMap Except.toOption

/-- Why a script cannot be read to its end, if it cannot. -/
def Migration.unreadable? (files : Files) (migration : Migration) : Option ReadError :=
  (migration.items files).findSome? fun item => match item with
    | .error cause => some cause
    | .ok _ => none

section Scripts

variable {files : Files} {migration : Migration}

theorem Migration.exists_items (files : Files) (migration : Migration) :
    ∃ (batches : List String) (broken : Option ReadError),
      migration.items files = batches.map .ok ++ broken.toList.map .error := by
  cases migration with
  | script key sql route =>
    obtain ⟨batches, hitems⟩ := Script.exists_items (.ofString sql)
    exact ⟨batches, _, hitems⟩
  | file key path route =>
    rw [items]
    cases files.read path with
    | error cause => exact ⟨[], some cause, rfl⟩
    | ok bytes =>
      obtain ⟨batches, hitems⟩ := Script.exists_items { bytes := bytes }
      exact ⟨batches, _, hitems⟩
  | program key actions => exact ⟨[], none, rfl⟩

/-- A script yields its batches, and then the error that broke it. -/
theorem Migration.items_eq (files : Files) (migration : Migration) :
    migration.items files
      = (migration.batches files).map .ok ++ (migration.unreadable? files).toList.map .error := by
  obtain ⟨batches, broken, hitems⟩ := migration.exists_items files
  have hbatches : migration.batches files = batches := by
    rw [Migration.batches, hitems]
    cases broken <;> simp [List.filterMap_map, Function.comp_def, Except.toOption]
  have hnone : batches.findSome? (fun _ => (none : Option ReadError)) = none :=
    List.findSome?_eq_none_iff.2 fun _ _ => rfl
  have hbroken : migration.unreadable? files = broken := by
    rw [Migration.unreadable?, hitems]
    cases broken <;> simp [List.findSome?_append, List.findSome?_map, Function.comp_def, hnone]
  rw [hitems, hbatches, hbroken]

theorem Migration.instructions_of_isScript (h : migration.isScript = true) :
    migration.instructions files
      = Script.instructions migration.key migration.route 0 (migration.items files) := by
  cases migration with
  | script key sql route => rfl
  | file key path route =>
    rw [instructions, items]
    cases files.read path <;> rfl
  | program key actions => exact absurd h (by simp [isScript])

namespace Script

variable (key : String) (route : Log.Route) (batches : List String) (broken : Option ReadError)

theorem errands_instructions (index : Nat) :
    Instruction.errands
        (instructions key route index (batches.map .ok ++ broken.toList.map .error))
      = batches.mapIdx fun i sql => .naming (.step key (index + i)) (.batch sql) := by
  induction batches generalizing index with
  | nil => cases broken <;> rfl
  | cons batch rest ih =>
    have hshift : ∀ i, index + 1 + i = index + (i + 1) := fun i => by omega
    rw [List.map_cons, List.cons_append, instructions, Instruction.errands, Instruction.errands, ih,
      List.mapIdx_cons]
    simp only [hshift]
    rfl

theorem halt?_instructions (index : Nat) :
    Instruction.halt?
        (instructions key route index (batches.map .ok ++ broken.toList.map .error))
      = broken.map fun cause => .failure (.unreadable key cause) := by
  induction batches generalizing index with
  | nil => cases broken <;> rfl
  | cons batch rest ih => exact ih (index + 1)

theorem statements_instructions (index : Nat) :
    Instruction.statements
        (instructions key route index (batches.map .ok ++ broken.toList.map .error))
      = batches.map .batch := by
  induction batches generalizing index with
  | nil => cases broken <;> rfl
  | cons batch rest ih => exact congrArg (Statement.batch batch :: ·) (ih (index + 1))

theorem not_panic_mem_instructions (index : Nat) :
    .stop .panic ∉ instructions key route index (batches.map .ok ++ broken.toList.map .error) := by
  induction batches generalizing index with
  | nil => cases broken <;> simp [instructions]
  | cons batch rest ih => simpa [instructions] using ih (index + 1)

end Script

/-- A script whose batches neither open nor end a transaction. -/
structure Migration.IsPlainScript (files : Files) (migration : Migration) : Prop where
  script : migration.isScript = true
  plain : ∀ sql ∈ migration.batches files, isControl sql = false

/-- The errands of a script until it is executed as far as it can be read. -/
def Migration.opening (files : Files) (migration : Migration) : List (Errand UpgradeError) :=
  .naming (.backend .beginTransaction) (.batch beginText) ::
    (migration.batches files).mapIdx fun i sql => .naming (.step migration.key i) (.batch sql)

end Scripts

namespace Runner

variable {runner : Runner} {site : Site} {migration : Migration}

/-- The errands of applying a script and recording its key. -/
def errands (runner : Runner) (files : Files) (migration : Migration) :
    List (Errand UpgradeError) :=
  migration.opening files ++ runner.closing migration

/-- The migrations are scripts, and neither their batches nor the creating statement opens or ends a
transaction. -/
structure OfScripts (runner : Runner) (files : Files) : Prop where
  creation : runner.creation.isControl = false
  scripts : ∀ migration ∈ runner.migrations, migration.IsPlainScript files

theorem OfScripts.pending {files : Files} (h : runner.OfScripts files) {content : Content}
    {passed rest : List Migration} (hsplit : runner.pendingOn content = passed ++ rest) :
    (∀ migration ∈ passed, migration.IsPlainScript files) ∧
      ∀ migration ∈ rest, migration.IsPlainScript files := by
  rw [← List.forall_mem_append, ← hsplit]
  exact fun migration hmem => h.scripts migration (mem_of_mem_pendingOn hmem)

/-! ## What a run walks -/

/-- A script is walked to its end, if it can be read so far, and then it is recorded. -/
theorem walks_script (runner : Runner) (hsound : site.poisoned = false)
    (h : migration.IsPlainScript site.files) :
    (runner.applyOne migration site).Walks
      ((migration.unreadable? site.files).map fun cause e => ∃ outcome,
        e = .failure ((UpgradeError.unreadable migration.key cause).joinRollback outcome))
      ((migration.opening site.files
        ++ (migration.unreadable? site.files).elim (runner.closing migration) fun _ => []).map
          .halting) := by
  have hcode : migration.instructions site.files = Script.instructions migration.key
      migration.route 0 ((migration.batches site.files).map .ok
        ++ (migration.unreadable? site.files).toList.map .error) := by
    rw [migration.instructions_of_isScript h.script, migration.items_eq]
  have hplain : ∀ statement ∈ Instruction.statements (migration.instructions site.files),
      statement.isControl = false := by
    rw [hcode, Script.statements_instructions, List.forall_mem_map]
    exact h.plain
  have hpanic : .stop .panic ∉ migration.instructions site.files := by
    rw [hcode]
    exact Script.not_panic_mem_instructions _ _ _ _ 0
  have hwalks := walks_applyOne runner hsound hplain hpanic
  simp only [assignment, hcode, Script.errands_instructions, Script.halt?_instructions,
    Nat.zero_add] at hwalks
  cases hbroken : migration.unreadable? site.files with
  | none =>
    rw [hbroken] at hwalks
    exact hwalks
  | some cause =>
    rw [hbroken] at hwalks
    exact hwalks

/-- The calls of a run that passed scripts are their errands, and none of them failed. -/
theorem Passes.attempts {migrations : List Migration} {after : Site} {journal : Journal}
    (h : runner.Passes migrations site after journal) (hsound : site.poisoned = false)
    (hscripts : ∀ migration ∈ migrations, migration.IsPlainScript site.files) :
    journal.attempts = (migrations.flatMap (runner.errands site.files)).map Errand.carriedOut ∧
      after.files = site.files ∧ after.poisoned = false := by
  induction h with
  | nil site => exact ⟨rfl, rfl, hsound⟩
  | @cons migration rest site looked next after journal more hlook happly hrest ih =>
    obtain ⟨haround, -, hpoisoned, -⟩ := look_of_isCancelled hlook
    have hfiles : looked.files = site.files := by rw [haround]
    rw [List.forall_mem_cons, ← hfiles] at hscripts
    have hone := (runner.walks_script (hpoisoned.trans hsound) hscripts.1).of_ok
      (congrArg Finished.outcome happly)
    have hframe := applyOne_frame (congrArg Finished.outcome happly)
    rw [happly] at hone hframe
    have hreadable : migration.unreadable? looked.files = none := Option.map_eq_none_iff.1 hone.2
    obtain ⟨hmore, hafter, hstill⟩ := ih ((hframe.poisoned.trans hpoisoned).trans hsound)
      (by rw [hframe.files]; exact hscripts.2)
    rw [hframe.files, hfiles] at hmore hafter
    refine ⟨?_, hafter, hstill⟩
    have hcalls : journal.attempts
        = (runner.errands site.files migration).map Errand.carriedOut := by
      rw [hone.1, hreadable, Errand.map_carriedOut_halting, hfiles]
      rfl
    simp only [Journal.attempts_append, told, Journal.attempts_logged, hcalls, hmore,
      List.nil_append, List.flatMap_cons, List.map_append]

/-! ## What an error blames -/

/-- What the error of a run blames.  The run committed `k` migrations and made these attempts, of
which only the last can have failed. -/
inductive Blames (runner : Runner) (site : Site) :
    (k : Nat) → List (Call × Option String) → UpgradeError → Prop
  /-- A call failed while the run was prepared. -/
  | preparing (front : List (Errand UpgradeError)) (errand : Errand UpgradeError)
      (rest : List (Errand UpgradeError)) {message : String} {error : UpgradeError}
      (herrands : runner.preparation = front ++ errand :: rest)
      (hblames : errand.blames error message) :
      Blames runner site 0 (front.map Errand.carriedOut ++ [(errand.call, some message)]) error
  /-- The migrations do not continue the history. -/
  | history (mismatch : HistoryError) :
      Blames runner site 0 (runner.preparation.map Errand.carriedOut) (.history mismatch)
  /-- The run was cancelled before the next pending migration. -/
  | cancelled {passed more : List Migration} {migration : Migration}
      (hsplit : runner.pendingOn site.database.committed = passed ++ migration :: more) :
      Blames runner site passed.length
        ((runner.preparation ++ passed.flatMap (runner.errands site.files)).map Errand.carriedOut)
        (.cancelled passed.length)
  /-- A call failed while the next pending migration was applied. -/
  | applying {passed more : List Migration} {migration : Migration}
      (front : List (Errand UpgradeError)) (errand : Errand UpgradeError)
      (rest : List (Errand UpgradeError)) {message : String} {error : UpgradeError}
      (hsplit : runner.pendingOn site.database.committed = passed ++ migration :: more)
      (herrands : runner.errands site.files migration = front ++ errand :: rest)
      (hblames : errand.blames error message) :
      Blames runner site passed.length
        ((runner.preparation ++ passed.flatMap (runner.errands site.files) ++ front).map
          Errand.carriedOut ++ [(errand.call, some message)]) error
  /-- The script of the next pending migration cannot be read to its end. -/
  | unreadable {passed more : List Migration} {migration : Migration} {cause : ReadError}
      {error : UpgradeError}
      (hsplit : runner.pendingOn site.database.committed = passed ++ migration :: more)
      (hcause : migration.unreadable? site.files = some cause)
      (hroot : error.root = .unreadable migration.key cause) :
      Blames runner site passed.length
        ((runner.preparation ++ passed.flatMap (runner.errands site.files)
          ++ migration.opening site.files).map Errand.carriedOut) error

/-! ## Counting commits -/

section Commits

variable {files : Files}

theorem count_commit_of_ne {ε : Type} {errands : List (Errand ε)}
    (h : ∀ errand ∈ errands, errand.call ≠ .batch commitText) :
    (errands.map Errand.carriedOut).count Journal.commit = 0 := by
  rw [List.count_eq_zero, List.mem_map]
  rintro ⟨errand, hmem, hcommit⟩
  exact h errand hmem (congrArg Prod.fst hcommit)

/-- Executing a script commits nothing. -/
theorem call_ne_commit_of_mem_opening (h : migration.IsPlainScript files) :
    ∀ errand ∈ migration.opening files, errand.call ≠ .batch commitText := by
  have hbatches : ∀ errand ∈ (migration.batches files).mapIdx fun i sql =>
      Errand.naming (.step migration.key i) (.batch sql), errand.call ≠ .batch commitText := by
    intro errand hmem
    obtain ⟨i, hi, rfl⟩ := List.mem_mapIdx.1 hmem
    rintro hcall
    have hplain := h.plain _ (List.getElem_mem hi)
    rw [Call.batch.inj hcall] at hplain
    exact absurd hplain (by decide)
  exact List.forall_mem_cons.2 ⟨by simp [Errand.naming, beginText, commitText], hbatches⟩

theorem call_registration_ne_commit (runner : Runner) (migration : Migration) :
    (runner.registration migration).call ≠ .batch commitText := by
  simp [registration, Statement.call]

theorem count_commit_errands (runner : Runner) (h : migration.IsPlainScript files) :
    ((runner.errands files migration).map Errand.carriedOut).count Journal.commit = 1 := by
  have hregister := runner.call_registration_ne_commit migration
  rw [errands, List.map_append, List.count_append,
    count_commit_of_ne (call_ne_commit_of_mem_opening h)]
  simp [closing, Errand.carriedOut, Errand.naming, Journal.commit, hregister]

theorem count_commit_flatMap_errands (runner : Runner) {passed : List Migration}
    (h : ∀ migration ∈ passed, migration.IsPlainScript files) :
    ((passed.flatMap (runner.errands files)).map Errand.carriedOut).count Journal.commit
      = passed.length := by
  induction passed with
  | nil => rfl
  | cons migration rest ih =>
    rw [List.forall_mem_cons] at h
    rw [List.flatMap_cons, List.map_append, List.count_append, runner.count_commit_errands h.1,
      ih h.2, List.length_cons, Nat.add_comm]

/-- The commit is the last errand of a migration. -/
theorem count_commit_front (h : migration.IsPlainScript files)
    {front rest : List (Errand UpgradeError)} {errand : Errand UpgradeError}
    (herrands : runner.errands files migration = front ++ errand :: rest) :
    (front.map Errand.carriedOut).count Journal.commit = 0 := by
  let register : Errand UpgradeError :=
    .naming (.backend .register) (runner.registration migration).call
  let commit : Errand UpgradeError := .naming (.backend .commit) (.batch commitText)
  have hlast : runner.errands files migration
      = (migration.opening files ++ [register]) ++ [commit] := by
    rw [errands, List.append_assoc]
    rfl
  have hfront : front <+: migration.opening files ++ [register] := by
    refine List.prefix_of_prefix_length_le ⟨errand :: rest, herrands.symm⟩ ⟨[commit], hlast.symm⟩ ?_
    have hlength := congrArg List.length (herrands.symm.trans hlast)
    simp only [List.length_append, List.length_cons, List.length_nil] at hlength ⊢
    omega
  refine count_commit_of_ne fun other hmem => ?_
  rcases List.mem_append.1 (hfront.subset hmem) with hopening | hregister
  · exact call_ne_commit_of_mem_opening h other hopening
  · obtain rfl := List.mem_singleton.1 hregister
    exact runner.call_registration_ne_commit migration

theorem count_commit_preparation (hplain : runner.creation.isControl = false) :
    (runner.preparation.map Errand.carriedOut).count Journal.commit = 1 := by
  have hcreate : Dialect.render runner.dialect.create runner.tableName ≠ commitText := by
    intro hcommit
    have hcontrol : isControl (Dialect.render runner.dialect.create runner.tableName) = false :=
      hplain
    rw [hcommit] at hcontrol
    exact absurd hcontrol (by decide)
  have hbegin : beginText ≠ commitText := by decide
  simp [preparation, Errand.carriedOut, Errand.naming, Journal.commit, hcreate, hbegin]

end Commits

/-- All commits but the first are those of migrations. -/
theorem Blames.commits {k : Nat} {attempts : List (Call × Option String)} {error : UpgradeError}
    (h : runner.Blames site k attempts error) (hscripts : runner.OfScripts site.files) :
    attempts.count Journal.commit - 1 = k := by
  have hprepared := count_commit_preparation hscripts.creation
  have hfailed : ∀ (call : Call) (message : String),
      [(call, some message)].count Journal.commit = 0 := fun call message => by
    simp [Journal.commit]
  cases h with
  | preparing front errand rest herrands hblames =>
    have hle : (front.map Errand.carriedOut).count Journal.commit ≤ 1 := by
      rw [← hprepared, herrands, List.map_append, List.count_append]
      exact Nat.le_add_right _ _
    rw [List.count_append, hfailed]
    omega
  | history mismatch => rw [hprepared]
  | cancelled hsplit =>
    rw [List.map_append, List.count_append, hprepared,
      runner.count_commit_flatMap_errands (hscripts.pending hsplit).1]
    omega
  | applying front errand rest hsplit herrands hblames =>
    obtain ⟨hpassed, hrest⟩ := hscripts.pending hsplit
    rw [List.count_append, hfailed, List.map_append, List.map_append, List.count_append,
      List.count_append, hprepared, runner.count_commit_flatMap_errands hpassed,
      count_commit_front (hrest _ List.mem_cons_self) herrands]
    omega
  | unreadable hsplit hcause hroot =>
    obtain ⟨hpassed, hrest⟩ := hscripts.pending hsplit
    rw [List.map_append, List.map_append, List.count_append, List.count_append, hprepared,
      runner.count_commit_flatMap_errands hpassed,
      count_commit_of_ne (call_ne_commit_of_mem_opening (hrest _ List.mem_cons_self))]
    omega

/-! ## The theorem -/

/-- A script that failed blames one of its errands, or that it cannot be read to its end. -/
theorem Ends.blames {report : Report} {passed rest : List Migration} {mid : Site}
    {finished : Finished Site (Halt UpgradeError) Report} {halt : Halt UpgradeError}
    (h : runner.Ends report passed mid rest finished) (hreport : report.applied = [])
    (herror : finished.outcome = .error halt)
    (hsplit : runner.pendingOn site.database.committed = passed ++ rest)
    (hfiles : mid.files = site.files) (hsound : mid.poisoned = false)
    (hscripts : ∀ migration ∈ rest, migration.IsPlainScript site.files) :
    ∃ error, halt = .failure error ∧ runner.Blames site passed.length
      ((runner.preparation ++ passed.flatMap (runner.errands site.files)).map Errand.carriedOut
        ++ finished.journal.attempts) error := by
  cases h with
  | finished => exact absurd herror (by simp)
  | cancelled hlook =>
    obtain rfl := Except.error.inj herror
    refine ⟨_, rfl, ?_⟩
    rw [hreport, List.length_nil, Nat.zero_add, Journal.attempts_nil, List.append_nil]
    exact .cancelled hsplit
  | @failed migration rest looked after halt journal hlook happly =>
    obtain rfl := Except.error.inj herror
    obtain ⟨haround, -, hpoisoned, -⟩ := look_of_isCancelled hlook
    have hlooked : looked.files = site.files := by rw [haround, hfiles]
    have hwalks := runner.walks_script (hpoisoned.trans hsound)
      (hlooked ▸ hscripts migration List.mem_cons_self)
    rw [hlooked, happly] at hwalks
    rw [Journal.attempts_append, told, Journal.attempts_logged, List.nil_append]
    rcases hwalks.of_halting_error rfl with ⟨foreseen, hown, hforeseen, hattempts⟩ |
      ⟨front, errand, left, message, error, hreadable, hattempts, rfl, hblames⟩
    · obtain ⟨cause, hcause, rfl⟩ := Option.map_eq_some_iff.1 hown
      obtain ⟨outcome, rfl⟩ := hforeseen
      rw [hcause, Option.elim_some, List.append_nil] at hattempts
      rw [hattempts, ← List.map_append]
      exact ⟨_, rfl, .unreadable hsplit hcause (UpgradeError.root_joinRollback _ outcome)⟩
    · obtain ⟨unread, hunread⟩ : ∃ unread, runner.errands site.files migration
          = front ++ errand :: (left ++ unread) := by
        cases hcause : migration.unreadable? site.files with
        | none =>
          rw [hcause] at hreadable
          exact ⟨[], by rw [List.append_nil]; exact hreadable⟩
        | some cause =>
          rw [hcause, Option.elim_some, List.append_nil] at hreadable
          exact ⟨runner.closing migration, by rw [errands, hreadable, List.append_assoc]; rfl⟩
      refine ⟨error, rfl, ?_⟩
      rw [hattempts, ← List.append_assoc, ← List.map_append]
      exact .applying front errand (left ++ unread) hsplit hunread hblames

/-- A plan that failed blames one of its errands, or the history. -/
theorem blames_plan {error : UpgradeError} {after : Site} {journal : Journal}
    (hplain : runner.creation.isControl = false) (hsound : site.poisoned = false)
    (hplan : runner.plan site = ⟨.error error, after, journal⟩) :
    runner.Blames site 0 journal.attempts error := by
  obtain ⟨own, hwalks, hown⟩ := walks_plan hplain hsound
  rw [hplan] at hwalks
  rcases hwalks.of_error rfl with ⟨foreseen, hforeseen, htrue, hattempts⟩ |
    ⟨front, errand, rest, message, herrands, hattempts, hblames⟩
  · obtain ⟨mismatch, rfl⟩ := hown foreseen hforeseen error htrue
    rw [hattempts]
    exact .history mismatch
  · rw [hattempts]
    exact .preparing front errand rest herrands hblames

/-- Whatever stops a run of scripts on a sound connection, its error blames the first call that
failed, apart from rollbacks; and if none failed, it tells that the migrations do not continue the
history, that the run was cancelled, or which script cannot be read. -/
theorem error_blames_first_failure (hscripts : runner.OfScripts site.files)
    (hsound : site.poisoned = false) {halt : Halt UpgradeError}
    (herror : (runner.run site).outcome = .error halt) :
    ∃ error, halt = .failure error ∧
      runner.Blames site ((runner.run site).journal.commits - 1)
        (runner.run site).journal.attempts error := by
  suffices ∃ error k, halt = .failure error ∧
      runner.Blames site k (runner.run site).journal.attempts error by
    obtain ⟨error, k, hfailure, hblames⟩ := this
    exact ⟨error, hfailure, (hblames.commits hscripts).symm ▸ hblames⟩
  rcases runner.run_stages site with
    ⟨error, after, journal, hplan, hrun⟩ |
    ⟨plan, listed, ready, planned, events, passed, rest, mid, journal, finished, hplan, -, -,
      hframe, hsplit, hpasses, hends, hrun⟩
  · rw [hrun] at herror ⊢
    exact ⟨error, 0, (Except.error.inj herror).symm,
      blames_plan hscripts.creation hsound hplan⟩
  · obtain ⟨hpassed, hrest⟩ := hscripts.pending hsplit
    obtain ⟨own, hwalks, -⟩ := walks_plan hscripts.creation hsound
    have hprepared := (hwalks.of_ok (congrArg Finished.outcome hplan)).1
    rw [hplan] at hprepared
    obtain ⟨hcalls, hfiles, hstill⟩ :=
      hpasses.attempts (hframe.poisoned.trans hsound) (hframe.files ▸ hpassed)
    rw [hframe.files] at hcalls hfiles
    rw [hrun] at herror ⊢
    obtain ⟨error, hfailure, hblames⟩ :=
      hends.blames rfl herror hsplit hfiles hstill hrest
    refine ⟨error, passed.length, hfailure, ?_⟩
    rw [Journal.attempts_append, Journal.attempts_append, Journal.attempts_append,
      Journal.attempts_logged, List.nil_append, hprepared, hcalls, ← List.map_append]
    exact hblames

/-- Two scripts, the second of two batches. -/
def twoScripts : Runner where
  dialect := Vendor.duckDb.dialect
  migrations := [.script "01" "CREATE TABLE a (id INT)" .ofProcess,
    .script "02" "INSERT INTO a VALUES (1)\n;\nDROP TABLE a" .ofProcess]
  tableName := "migrations"
  sorted := by decide
  nonempty := by simp
  named := by decide

/-- The engine refuses the second batch of the second script, and the rollback after it. -/
theorem error_blames_first_failure_twoScripts :
    let site : Site := { faults := [{ on := .batch, containing := "DROP", message := "disk full" },
      { on := .batch, containing := "ROLLBACK", message := "disk gone" }] }
    let error : UpgradeError := .rollbackFailed (.step "02" 1 (.execution "disk full"))
      (.transaction "ROLLBACK failed: disk gone")
    twoScripts.OfScripts site.files ∧ site.poisoned = false ∧
      (twoScripts.run site).outcome = .error (.failure error) ∧
      (twoScripts.run site).journal.commits = 2 ∧
      twoScripts.Blames site 1 (twoScripts.run site).journal.attempts error := by
  intro site error
  have hscripts : twoScripts.OfScripts site.files := by
    refine ⟨by decide +kernel, List.forall_mem_cons.2 ⟨⟨rfl, ?_⟩, ?_⟩⟩
    · decide +kernel
    · exact List.forall_mem_singleton.2 ⟨rfl, by decide +kernel⟩
  obtain ⟨herror, hcommits⟩ : (twoScripts.run site).outcome = .error (.failure error) ∧
      (twoScripts.run site).journal.commits = 2 := by decide +kernel
  obtain ⟨other, hother, hblames⟩ := error_blames_first_failure hscripts rfl herror
  obtain rfl := Halt.failure.inj hother
  rw [hcommits] at hblames
  exact ⟨hscripts, rfl, herror, hcommits, hblames⟩

end Runner

end SchemaUpgrade
