import SchemaUpgrade.Proofs.Planning
/-!
# The passage of a run through its migrations

Each pending migration is applied in a transaction of its own.  Its *change* is every statement of
the migration followed by the registration of its key, and the transaction publishes the whole
change or nothing (`Runner.applyOne_cases`).

A run passes pending migrations one after another until none is left, it sees that it was
cancelled, or one of them fails.  `Runner.applyFrom_cases` takes a run apart that way, and
`Runner.Passes.publishes` is what holds of the part that it passed.

## Main definitions

* `Runner.change`: the statements by which a migration is applied and recorded.
* `Runner.Passes`: the run passed these migrations, one after another.
-/

namespace SchemaUpgrade

open Engine

/-! ## The errors of a migration -/

/-- Whether the error tells that the database failed, or a rollback did. -/
def UpgradeError.blamesDatabase : UpgradeError → Bool
  | .backend _ _ | .step _ _ _ | .apply _ _ | .rollbackFailed _ _ => true
  | _ => false

theorem Sender.blamesDatabase_error (sender : Sender) (cause : DatabaseError) :
    (Sender.error cause sender).blamesDatabase = true := by
  cases sender <;> rfl

/-- A rollback that succeeded leaves the error before it as it is. -/
theorem UpgradeError.joinRollback_cases (error : UpgradeError)
    (outcome : Except DatabaseError Unit) :
    error.joinRollback outcome = error ∨ (error.joinRollback outcome).blamesDatabase = true := by
  cases outcome with
  | ok _ => exact .inl rfl
  | error cause => exact .inr rfl

/-- Instructions fail on behalf of the sender of a statement, or at a stop. -/
theorem Instruction.error_of_runAll {code : List Instruction} {site : Site}
    {halt : Halt UpgradeError} (h : (runAll code site).outcome = .error halt) :
    (∃ sender cause, halt = .failure (Sender.error cause sender)) ∨ .stop halt ∈ code := by
  induction code generalizing site with
  | nil => exact absurd h (by simp [runAll])
  | cons instruction rest ih =>
    cases instruction with
    | send statement sender =>
      rcases statement.send_cases site with
        ⟨message, faults, hsend⟩ | ⟨database, faults, -, hsend⟩
      · rw [runAll_send_of_error hsend] at h
        exact .inl ⟨sender, _, (Except.error.inj h).symm⟩
      · rw [runAll_send_of_ok hsend] at h
        exact (ih h).imp_right (List.mem_cons_of_mem _)
    | tell route notice =>
      rw [runAll_tell] at h
      exact (ih h).imp_right (List.mem_cons_of_mem _)
    | raise flag =>
      rw [runAll_raise] at h
      exact (ih h).imp_right (List.mem_cons_of_mem _)
    | stop other =>
      rw [runAll_stop] at h
      obtain rfl := Except.error.inj h
      exact .inr List.mem_cons_self

namespace Runner

variable (runner : Runner)

/-! ## One migration -/

/-- The statement that records the key of a migration. -/
def registration (migration : Migration) : Statement :=
  .execute (Dialect.render runner.dialect.register runner.tableName) [migration.key]

/-- The statements by which a migration is applied and recorded. -/
def change (files : Files) (migration : Migration) : List Statement :=
  Instruction.statements (migration.instructions files) ++ [runner.registration migration]

variable {runner} {site : Site} {migration : Migration}

/-- The steps of applying one migration: its transaction was not opened; or the migration stopped,
and the transaction was discarded; or the migration was done, and its key is recorded. -/
theorem applyOne_steps (runner : Runner) (migration : Migration) (site : Site) :
    (∃ cause after journal, runner.applyOne migration site
        = ⟨.error (.failure (.backend .beginTransaction cause)), after, journal⟩ ∧
      site.Frame after ∧ after.database = site.database ∧
      site.database.Trace (· = site.database.committed) journal after.database ∧
      journal.Quiet) ∨
    (∃ opened, Connection.begin site = ⟨.ok (), opened, [.called (.batch beginText) none]⟩ ∧
      site.Filled opened [.called (.batch beginText) none] [] ∧
      ((∃ stop halt filled journal after more,
          Instruction.runAll (migration.instructions site.files) opened
            = ⟨.error stop, filled, journal⟩ ∧
          filled.Discarded after more ∧
          (runner.applyOne migration site).outcome = .error halt ∧
          (runner.applyOne migration site).state.database = after.database ∧
          (stop ≠ .panic → (runner.applyOne migration site).state = after) ∧
          (runner.applyOne migration site).journal
            = [.called (.batch beginText) none] ++ journal ++ more ∧
          (halt = stop ∨ ∃ error, halt = .failure error ∧ error.blamesDatabase = true) ∧
          (stop = .panic → (Transaction.abandon : Work Site (Halt UpgradeError) Unit) filled
              = ⟨.ok (), after, more⟩ ∧
            (runner.applyOne migration site).state = { after with poisoned := true })) ∨
        (∃ filled journal, Instruction.runAll (migration.instructions site.files) opened
            = ⟨.ok (), filled, journal⟩ ∧
          runner.applyOne migration site
            = ⟨(runner.conclude migration filled).outcome,
                (runner.conclude migration filled).state,
                [.called (.batch beginText) none] ++ journal
                  ++ (runner.conclude migration filled).journal⟩))) := by
  rcases Connection.begin_cases site with
    ⟨cause, after, journal, hbegin, hafter⟩ | ⟨opened, hbegin, -, -, hopened⟩
  · exact .inl ⟨cause, after, journal, Work.bind_of_error (Work.mapError_of_error hbegin), hafter⟩
  · have hbegin' := Work.mapError_of_ok
      (f := fun cause => Halt.failure (UpgradeError.backend .beginTransaction cause)) hbegin
    have happly := Migration.apply_eq_runAll opened migration
    rw [hopened.frame.files] at happly
    rcases hdone : Instruction.runAll (migration.instructions site.files) opened with
      ⟨outcome, filled, journal⟩
    rw [hdone] at happly
    refine .inr ⟨opened, hbegin, hopened, ?_⟩
    cases outcome with
    | error stop =>
      cases stop with
      | panic =>
        obtain ⟨after, more, habandon, hafter⟩ :=
          Transaction.abandon_cases (ε := Halt UpgradeError) filled
        have hpoison : (Connection.poison : Work Site (Halt UpgradeError) Unit) after
            = ⟨.ok (), { after with poisoned := true }, []⟩ := rfl
        have hall : runner.applyOne migration site = ⟨.error .panic, _, _⟩ :=
          Work.bind_of_ok_of hbegin' (Work.bind_of_ok_of (Work.attempt_of happly)
            (Work.bind_of_ok_of habandon (Work.bind_of_ok_of hpoison (Work.fail_apply _ _))))
        refine .inl ⟨.panic, .panic, filled, journal, after, more, hdone, hafter, by rw [hall],
          by rw [hall], fun h => absurd rfl h, ?_, .inl rfl, fun _ => ⟨habandon, by rw [hall]⟩⟩
        rw [hall, List.append_nil, List.append_nil, List.append_assoc]
      | failure error =>
        obtain ⟨outcome, after, more, hrollback, hafter⟩ := Transaction.rollback_then_fail
          (α := Unit) (fun outcome => Halt.failure (error.joinRollback outcome)) filled
        have hall : runner.applyOne migration site = ⟨.error _, _, _⟩ :=
          Work.bind_of_ok_of hbegin' (Work.bind_of_ok_of (Work.attempt_of happly) hrollback)
        refine .inl ⟨.failure error, _, filled, journal, after, more, hdone, hafter, by rw [hall],
          by rw [hall], fun _ => by rw [hall], by rw [hall, List.append_assoc], ?_,
          fun h => absurd h (by simp)⟩
        rcases error.joinRollback_cases outcome with hsame | hblames
        · rw [hsame]
          exact .inl rfl
        · exact .inr ⟨_, rfl, hblames⟩
    | ok _ =>
      refine .inr ⟨filled, journal, hdone, ?_⟩
      rw [List.append_assoc]
      exact Work.bind_of_ok_of hbegin' (Work.bind_of_ok_of (Work.attempt_of happly) rfl)

/-- How recording the key of a migration in a filled transaction can end: the registration joins
the statements and all of them are published, or nothing is. -/
theorem conclude_cases {filled : Site} {journal : Journal} {statements : List Statement}
    (h : site.Filled filled journal statements) :
    (∃ error after more, runner.conclude migration filled
        = ⟨.error (.failure error), after, more⟩ ∧
      site.Frame after ∧ site.database.Publishes (journal ++ more) after.database [] ∧
      error.blamesDatabase = true) ∨
    (∃ after more, runner.conclude migration filled = ⟨.ok (), after, more⟩ ∧
      site.Frame after ∧ after.database.working = none ∧
      site.database.Publishes (journal ++ more) after.database
        [statements ++ [runner.registration migration]]) := by
  have hplain : (runner.registration migration).isControl = false := rfl
  rcases h.send_cases hplain with ⟨message, failed, hsend, hfailed⟩ | ⟨ready, hsend, hready⟩
  · obtain ⟨outcome, after, more, hrollback, hafter⟩ := Transaction.rollback_then_fail
      (α := Unit) (fun outcome => Halt.failure
        ((UpgradeError.backend .register (.ofEngine message)).joinRollback outcome)) failed
    refine .inl ⟨_, after, _, Work.bind_of_ok_of (Work.attempt_of hsend) hrollback,
      hfailed.frame.trans hafter.frame, ?_, ?_⟩
    · rw [← List.append_assoc]
      exact hafter.publishes hfailed
    · cases outcome <;> rfl
  · rcases hready.commit_cases with
      ⟨after, hcommit, hframe, hafter, hpublishes⟩ | ⟨text, outcome, after, more, hcommit, hafter⟩
    · refine .inr ⟨after, _, Work.bind_of_ok_of (Work.attempt_of hsend)
        (Work.mapError_of_ok hcommit), hframe, hafter, ?_⟩
      rw [← List.append_assoc]
      exact hpublishes
    · refine .inl ⟨_, after, _, Work.bind_of_ok_of (Work.attempt_of hsend)
        (Work.mapError_of_error hcommit), hready.frame.trans hafter.frame, ?_, rfl⟩
      rw [← List.append_assoc]
      exact hafter.publishes hready

/-- How recording a key can end on any site: the transaction was discarded, with or without the
registration in it, or published with it. -/
theorem conclude_steps (runner : Runner) (migration : Migration) (site : Site) :
    (∃ error mid after journal more, runner.conclude migration site
        = ⟨.error (.failure error), after, journal⟩ ∧
      error.blamesDatabase = true ∧ site.Frame mid ∧ mid.Discarded after more ∧
      (mid.database = site.database ∨
        (runner.registration migration).carryOut site.database = .ok mid.database)) ∨
    (∃ database content faults,
      (runner.registration migration).carryOut site.database = .ok database ∧
      database.working = some content ∧ runner.conclude migration site
        = ⟨.ok (), { site with faults := faults, database := { committed := content } },
            [.called (runner.registration migration).call none,
              .called (.batch commitText) none]⟩) := by
  rcases (runner.registration migration).send_cases site with
    ⟨message, faults, hsend⟩ | ⟨database, faults, hcarry, hsend⟩
  · obtain ⟨outcome, after, more, hrollback, hafter⟩ := Transaction.rollback_then_fail
      (α := Unit) (fun outcome => Halt.failure
        ((UpgradeError.backend .register (.ofEngine message)).joinRollback outcome))
      { site with faults := faults }
    refine .inl ⟨_, { site with faults := faults }, after, _, more,
      Work.bind_of_ok_of (Work.attempt_of hsend) hrollback, ?_, ⟨rfl, rfl, rfl⟩, hafter, .inl rfl⟩
    cases outcome <;> rfl
  · rcases Transaction.commit_cases { site with faults := faults, database := database } with
      ⟨content, faults', hopen, hcommit⟩ | ⟨text, outcome, after, more, hcommit, hafter⟩
    · exact .inr ⟨database, content, faults', hcarry, hopen,
        Work.bind_of_ok_of (Work.attempt_of hsend) (Work.mapError_of_ok hcommit)⟩
    · exact .inl ⟨_, { site with faults := faults, database := database }, after, _, more,
        Work.bind_of_ok_of (Work.attempt_of hsend) (Work.mapError_of_error hcommit), rfl,
        ⟨rfl, rfl, rfl⟩, hafter, .inr hcarry⟩

/-- Recording a key leaves the surroundings as they are. -/
theorem conclude_frame (runner : Runner) (migration : Migration) (site : Site) :
    site.Frame (runner.conclude migration site).state := by
  rcases runner.conclude_steps migration site with
    ⟨error, mid, after, journal, more, hall, -, hmid, hafter, -⟩ |
    ⟨database, content, faults, -, -, hall⟩
  · rw [hall]
    exact hmid.trans hafter.frame
  · rw [hall]
    exact ⟨rfl, rfl, rfl⟩

/-- A migration that was applied leaves the surroundings and the connection as they are. -/
theorem applyOne_frame (hok : (runner.applyOne migration site).outcome = .ok ()) :
    site.Frame (runner.applyOne migration site).state := by
  rcases runner.applyOne_steps migration site with
    ⟨cause, after, journal, hfailed, -⟩ | ⟨opened, -, hopened, hsteps⟩
  · rw [hfailed] at hok
    exact absurd hok (by simp)
  · rcases hsteps with
      ⟨stop, halt, filled, journal, after, more, -, -, houtcome, -⟩ |
      ⟨filled, journal, hdone, hrest⟩
    · exact absurd (hok.symm.trans houtcome) (by simp)
    · have hfilled := Instruction.runAll_frame (migration.instructions site.files) opened
      rw [hdone] at hfilled
      rw [hrest]
      exact (hopened.frame.trans hfilled).trans (runner.conclude_frame migration filled)

theorem applyOne_surroundings (hok : (runner.applyOne migration site).outcome = .ok ()) :
    (runner.applyOne migration site).state.toSurroundings = site.toSurroundings :=
  (applyOne_frame hok).surroundings

theorem applyOne_files (hok : (runner.applyOne migration site).outcome = .ok ()) :
    (runner.applyOne migration site).state.files = site.files := by
  rw [applyOne_surroundings hok]

/-- How applying one migration can end when no transaction is open: its whole change is published,
or nothing is.  A migration that fails as cancelled says so itself. -/
theorem applyOne_cases (hidle : site.database.working = none)
    (hplain : ∀ statement ∈ Instruction.statements (migration.instructions site.files),
      statement.isControl = false) :
    (∃ halt after journal, runner.applyOne migration site = ⟨.error halt, after, journal⟩ ∧
      site.database.Publishes journal after.database [] ∧
      (∀ n, halt = .failure (.cancelled n) → .stop halt ∈ migration.instructions site.files) ∧
      (.stop .panic ∉ migration.instructions site.files → site.Frame after)) ∨
    (∃ after journal, runner.applyOne migration site = ⟨.ok (), after, journal⟩ ∧
      site.Frame after ∧ after.database.working = none ∧
      site.database.Publishes journal after.database [runner.change site.files migration] ∧
      ∀ instruction ∈ migration.instructions site.files, instruction.isStop = false) := by
  rcases runner.applyOne_steps migration site with
    ⟨cause, after, journal, hfailed, hframe, hafter, htrace, hquiet⟩ |
    ⟨opened, -, hopened, hsteps⟩
  · refine .inl ⟨_, after, journal, hfailed, .nothing htrace ?_,
      fun n hn => absurd hn (by simp), fun _ => hframe⟩
    rw [hafter, Database.inTransaction, hidle, hquiet.rollbackFailed]
    rfl
  · obtain ⟨sent, hfilled, hall⟩ := Instruction.runAll_filled hopened hplain
    rcases hsteps with
      ⟨stop, halt, filled, journal, after, more, hdone, hafter, houtcome, hstate, hwhole, hjournal,
        hself, -⟩ |
      ⟨filled, journal, hdone, hrest⟩
    · rw [hdone] at hfilled
      have hall : runner.applyOne migration site = ⟨.error halt,
          (runner.applyOne migration site).state, (runner.applyOne migration site).journal⟩ := by
        rw [← houtcome]
      have herror := Instruction.error_of_runAll (congrArg Finished.outcome hdone)
      refine .inl ⟨halt, _, _, hall, ?_, fun n hn => ?_, fun hpanic => ?_⟩
      · rw [hstate, hjournal]
        exact hafter.publishes hfilled
      · rcases hself with rfl | ⟨error, rfl, hblames⟩
        · rcases herror with ⟨sender, cause, hsender⟩ | hstop
          · rw [hsender] at hn
            cases sender <;> exact absurd hn (by simp [Sender.error])
          · exact hstop
        · obtain rfl := Halt.failure.inj hn
          exact absurd hblames (by simp [UpgradeError.blamesDatabase])
      · have hne : stop ≠ .panic := by
          rintro rfl
          rcases herror with ⟨sender, cause, hsender⟩ | hstop
          · exact absurd hsender (by simp)
          · exact hpanic hstop
        rw [hwhole hne]
        exact hfilled.frame.trans hafter.frame
    · rw [hdone] at hfilled hall
      obtain ⟨rfl, hstops⟩ := hall rfl
      rcases conclude_cases hfilled with
        ⟨error, after, more, hconclude, hframe, hpublishes, hblames⟩ |
        ⟨after, more, hconclude, hframe, hafter, hpublishes⟩
      · rw [hconclude] at hrest
        refine .inl ⟨.failure error, after, _, hrest, hpublishes, fun n hn => ?_, fun _ => hframe⟩
        obtain rfl := Halt.failure.inj hn
        exact absurd hblames (by simp [UpgradeError.blamesDatabase])
      · rw [hconclude] at hrest
        exact .inr ⟨after, _, hrest, hframe, hafter, hpublishes, hstops⟩

/-! ## One migration after another -/

/-- How looking for a cancellation ends: it takes notice of what others did, and nothing else
changes. -/
theorem isCancelled_apply {ε : Type} (runner : Runner) (site : Site) :
    ∃ answer looked, (runner.isCancelled : Work Site ε Bool) site = ⟨.ok answer, looked, []⟩ ∧
      looked.toSurroundings = site.toSurroundings ∧ looked.database = site.database ∧
      looked.poisoned = site.poisoned ∧
      (answer = true → ∃ flag, runner.cancel = some flag ∧ looked.isRaised flag = true) := by
  rw [isCancelled]
  cases hcancel : runner.cancel with
  | none => exact ⟨false, site, rfl, rfl, rfl, rfl, fun h => absurd h (by simp)⟩
  | some flag => exact ⟨_, site.atLook, rfl, rfl, rfl, rfl, fun h => ⟨flag, rfl, h⟩⟩

theorem look_of_isCancelled {ε : Type} {answer : Bool} {looked : Site}
    (h : runner.isCancelled site = (⟨.ok answer, looked, []⟩ : Finished Site ε Bool)) :
    looked.toSurroundings = site.toSurroundings ∧ looked.database = site.database ∧
      looked.poisoned = site.poisoned ∧
      (answer = true → ∃ flag, runner.cancel = some flag ∧ looked.isRaised flag = true) := by
  obtain ⟨other, seen, hother, hrest⟩ := runner.isCancelled_apply (ε := ε) site
  rw [h] at hother
  obtain ⟨houtcome, rfl, -⟩ := Finished.mk.inj hother
  obtain rfl := Except.ok.inj houtcome
  exact hrest

/-- The run passed these migrations one after another: before each it saw no cancellation, and
each was applied. -/
inductive Passes (runner : Runner) : List Migration → Site → Site → Journal → Prop where
  | nil (site : Site) : Passes runner [] site site []
  | cons {migration : Migration} {rest : List Migration} {site looked next after : Site}
      {journal more : Journal}
      (hlook : runner.isCancelled site
        = (⟨.ok false, looked, []⟩ : Finished Site (Halt UpgradeError) Bool))
      (happly : runner.applyOne migration looked = ⟨.ok (), next, journal⟩)
      (hrest : Passes runner rest next after more) :
      Passes runner (migration :: rest) site after
        (runner.told looked (.applying migration.key)
          ++ (journal ++ (runner.told next (.applied migration.key) ++ more)))

/-- The migrations that a run passed are published one after another. -/
theorem Passes.publishes {migrations : List Migration} {after : Site} {journal : Journal}
    (h : runner.Passes migrations site after journal) (hidle : site.database.working = none)
    (hplain : ∀ migration ∈ migrations,
      ∀ statement ∈ Instruction.statements (migration.instructions site.files),
        statement.isControl = false) :
    after.toSurroundings = site.toSurroundings ∧ after.poisoned = site.poisoned ∧
      after.database.working = none ∧ site.database.Publishes journal after.database
        (migrations.map (runner.change site.files)) ∧
      ∀ migration ∈ migrations, ∀ instruction ∈ migration.instructions site.files,
        instruction.isStop = false := by
  induction h with
  | nil site =>
    have hclosed : site.database.inTransaction = false := by
      rw [Database.inTransaction, hidle]
      rfl
    exact ⟨rfl, rfl, hidle, .nothing (.nil rfl) hclosed, fun _ hmem => absurd hmem List.not_mem_nil⟩
  | @cons migration rest site looked next after journal more hlook happly hrest ih =>
    obtain ⟨haround, hdatabase, hpoisoned, -⟩ := look_of_isCancelled hlook
    have hfiles : looked.files = site.files := by rw [haround]
    rw [List.forall_mem_cons, ← hfiles] at hplain
    rw [← hdatabase] at hidle
    rcases applyOne_cases hidle hplain.1 with
      ⟨halt, failed, other, hfailed, -⟩ |
      ⟨applied, other, happlied, hframe, hready, hone, hstops⟩
    · exact absurd (congrArg Finished.outcome (happly.symm.trans hfailed)) (by simp)
    · rw [happly] at happlied
      obtain ⟨-, rfl, rfl⟩ := Finished.mk.inj happlied
      obtain ⟨haround', hpoisoned', hafter, hmore, hmoreStops⟩ :=
        ih hready (by rw [hframe.files]; exact hplain.2)
      rw [hframe.files, hfiles] at hmore hmoreStops
      rw [hfiles] at hone hstops
      refine ⟨(haround'.trans hframe.surroundings).trans haround,
        (hpoisoned'.trans hframe.poisoned).trans hpoisoned, hafter, ?_,
        List.forall_mem_cons.2 ⟨hstops, hmoreStops⟩⟩
      have hboth := hone.append (hone.rollbackFailed hready) (hmore.logged_append
        (next.logging.deliver runner.route (.applied migration.key)).toList)
      rw [hdatabase] at hboth
      exact hboth.logged_append (looked.logging.deliver runner.route (.applying _)).toList

/-! ## The end of the passage -/

/-- The report after a run applied more migrations. -/
def applied (report : Report) (migrations : List Migration) : Report :=
  { report with applied := report.applied ++ migrations.map Migration.key }

@[simp] theorem applied_nil (report : Report) : applied report [] = report := by
  simp [applied]

/-- To report a migration and then others is to report all of them. -/
theorem applied_cons (report : Report) (migration : Migration) (rest : List Migration) :
    applied report (migration :: rest)
      = applied { report with applied := report.applied ++ [migration.key] } rest := by
  simp [applied]

/-- How a run ends that passed some migrations, arrived at `site`, and has others left. -/
inductive Ends (runner : Runner) (report : Report) (passed : List Migration) (site : Site) :
    List Migration → Finished Site (Halt UpgradeError) Report → Prop where
  /-- Nothing is left. -/
  | finished : Ends runner report passed site [] ⟨.ok (applied report passed), site, []⟩
  /-- The run saw that it was cancelled. -/
  | cancelled {migration : Migration} {rest : List Migration} {looked : Site}
      (hlook : runner.isCancelled site
        = (⟨.ok true, looked, []⟩ : Finished Site (Halt UpgradeError) Bool)) :
      Ends runner report passed site (migration :: rest)
        ⟨.error (.failure (.cancelled (report.applied.length + passed.length))), looked, []⟩
  /-- The next migration failed. -/
  | failed {migration : Migration} {rest : List Migration} {looked after : Site}
      {halt : Halt UpgradeError} {journal : Journal}
      (hlook : runner.isCancelled site
        = (⟨.ok false, looked, []⟩ : Finished Site (Halt UpgradeError) Bool))
      (happly : runner.applyOne migration looked = ⟨.error halt, after, journal⟩) :
      Ends runner report passed site (migration :: rest)
        ⟨.error halt, after, runner.told looked (.applying migration.key) ++ journal⟩

/-- What ends a run publishes nothing. -/
theorem Ends.publishes {report : Report} {passed rest : List Migration}
    {finished : Finished Site (Halt UpgradeError) Report}
    (h : runner.Ends report passed site rest finished) (hidle : site.database.working = none)
    (hplain : ∀ migration ∈ rest,
      ∀ statement ∈ Instruction.statements (migration.instructions site.files),
        statement.isControl = false) :
    site.database.Publishes finished.journal finished.state.database [] := by
  have hclosed : site.database.inTransaction = false := by
    rw [Database.inTransaction, hidle]
    rfl
  cases h with
  | finished => exact .nothing (.nil rfl) hclosed
  | @cancelled migration rest looked hlook =>
    obtain ⟨-, hdatabase, -⟩ := look_of_isCancelled hlook
    rw [← hdatabase] at hclosed ⊢
    exact .nothing (.nil rfl) hclosed
  | @failed migration rest looked after halt journal hlook happly =>
    obtain ⟨haround, hdatabase, -⟩ := look_of_isCancelled hlook
    have hfiles : looked.files = site.files := by rw [haround]
    rw [List.forall_mem_cons, ← hfiles] at hplain
    rw [← hdatabase] at hidle ⊢
    rcases applyOne_cases hidle hplain.1 with
      ⟨other, failed, more, hfailed, hpublishes, -⟩ | ⟨applied, more, happlied, -⟩
    · rw [happly] at hfailed
      obtain ⟨-, rfl, rfl⟩ := Finished.mk.inj hfailed
      exact hpublishes.logged_append _
    · exact absurd (congrArg Finished.outcome (happly.symm.trans happlied)) (by simp)

theorem Ends.poisoned {report : Report} {passed rest : List Migration}
    {finished : Finished Site (Halt UpgradeError) Report}
    (h : runner.Ends report passed site rest finished) (hidle : site.database.working = none)
    (hplain : ∀ migration ∈ rest,
      ∀ statement ∈ Instruction.statements (migration.instructions site.files),
        statement.isControl = false)
    (hpanic : ∀ migration ∈ rest, .stop .panic ∉ migration.instructions site.files) :
    finished.state.poisoned = site.poisoned := by
  cases h with
  | finished => rfl
  | cancelled hlook =>
    obtain ⟨-, -, hpoisoned, -⟩ := look_of_isCancelled hlook
    exact hpoisoned
  | @failed migration rest looked after halt journal hlook happly =>
    obtain ⟨haround, hdatabase, hpoisoned, -⟩ := look_of_isCancelled hlook
    have hfiles : looked.files = site.files := by rw [haround]
    rw [List.forall_mem_cons, ← hfiles] at hplain hpanic
    rw [← hdatabase] at hidle
    rcases applyOne_cases hidle hplain.1 with
      ⟨other, failed, more, hfailed, -, -, hframe⟩ | ⟨applied, more, happlied, -⟩
    · rw [happly] at hfailed
      obtain ⟨-, rfl, rfl⟩ := Finished.mk.inj hfailed
      exact (hframe hpanic.1).poisoned.trans hpoisoned
    · exact absurd (congrArg Finished.outcome (happly.symm.trans happlied)) (by simp)

theorem Ends.shift {report : Report} {migration : Migration} {passed rest : List Migration}
    {finished : Finished Site (Halt UpgradeError) Report}
    (h : runner.Ends { report with applied := report.applied ++ [migration.key] } passed site rest
      finished) :
    runner.Ends report (migration :: passed) site rest finished := by
  cases h with
  | finished =>
    rw [← applied_cons]
    exact .finished
  | cancelled hlook =>
    have hcount : (report.applied ++ [migration.key]).length + passed.length
        = report.applied.length + (migration :: passed).length := by
      rw [List.length_append, List.length_singleton, List.length_cons]
      omega
    rw [hcount]
    exact .cancelled hlook
  | failed hlook happly => exact .failed hlook happly

/-- A pending migration is taken up after a look at the flag. -/
theorem applyFrom_cons {resume : Option String} {migration : Migration} {answer : Bool}
    {looked : Site} (report : Report) (rest : List Migration)
    (hpending : History.isPending resume migration.key = true)
    (hlook : runner.isCancelled site
      = (⟨.ok answer, looked, []⟩ : Finished Site (Halt UpgradeError) Bool)) :
    runner.applyFrom resume report (migration :: rest) site
      = (if answer then Work.fail (.failure (.cancelled report.applied.length))
        else do
          Site.log runner.route (.applying migration.key)
          runner.applyOne migration
          Site.log runner.route (.applied migration.key)
          runner.applyFrom resume
            { report with applied := report.applied ++ [migration.key] } rest) looked := by
  rw [applyFrom, if_pos hpending]
  exact Work.bind_of_silent hlook

/-- A pending migration that was applied is told and reported, and the others are next. -/
theorem applyFrom_cons_of_ok {resume : Option String} {migration : Migration}
    {looked next : Site} {journal : Journal} (report : Report) (rest : List Migration)
    (hpending : History.isPending resume migration.key = true)
    (hlook : runner.isCancelled site
      = (⟨.ok false, looked, []⟩ : Finished Site (Halt UpgradeError) Bool))
    (happly : runner.applyOne migration looked = ⟨.ok (), next, journal⟩) :
    runner.applyFrom resume report (migration :: rest) site
      = let done := runner.applyFrom resume
          { report with applied := report.applied ++ [migration.key] } rest next
        ⟨done.outcome, done.state, runner.told looked (.applying migration.key)
          ++ (journal ++ (runner.told next (.applied migration.key) ++ done.journal))⟩ := by
  have hlog : (Site.log runner.route (.applying migration.key) :
      Work Site (Halt UpgradeError) Unit) looked
        = ⟨.ok (), looked, runner.told looked (.applying migration.key)⟩ := rfl
  have hlog' : (Site.log runner.route (.applied migration.key) :
      Work Site (Halt UpgradeError) Unit) next
        = ⟨.ok (), next, runner.told next (.applied migration.key)⟩ := rfl
  rw [applyFrom_cons report rest hpending hlook]
  exact Work.bind_of_ok_of hlog (Work.bind_of_ok_of happly (Work.bind_of_ok hlog'))

/-- A pending migration that failed is told to start, and the run ends. -/
theorem applyFrom_cons_of_error {resume : Option String} {migration : Migration}
    {looked next : Site} {halt : Halt UpgradeError} {journal : Journal} (report : Report)
    (rest : List Migration) (hpending : History.isPending resume migration.key = true)
    (hlook : runner.isCancelled site
      = (⟨.ok false, looked, []⟩ : Finished Site (Halt UpgradeError) Bool))
    (happly : runner.applyOne migration looked = ⟨.error halt, next, journal⟩) :
    runner.applyFrom resume report (migration :: rest) site
      = ⟨.error halt, next, runner.told looked (.applying migration.key) ++ journal⟩ := by
  have hlog : (Site.log runner.route (.applying migration.key) :
      Work Site (Halt UpgradeError) Unit) looked
        = ⟨.ok (), looked, runner.told looked (.applying migration.key)⟩ := rfl
  rw [applyFrom_cons report rest hpending hlook]
  exact Work.bind_of_ok_of hlog (Work.bind_of_error happly)

/-- A run through pending migrations passes some of them and ends at the next. -/
theorem applyFrom_cases {resume : Option String} {pending : List Migration} (report : Report)
    (hpending : ∀ migration ∈ pending, History.isPending resume migration.key = true)
    (site : Site) :
    ∃ passed rest mid journal finished, pending = passed ++ rest ∧
      runner.Passes passed site mid journal ∧ runner.Ends report passed mid rest finished ∧
      runner.applyFrom resume report pending site
        = ⟨finished.outcome, finished.state, journal ++ finished.journal⟩ := by
  induction pending generalizing report site with
  | nil =>
    refine ⟨[], [], site, [], _, rfl, .nil site, .finished, ?_⟩
    simp [applyFrom, applied]
  | cons migration rest ih =>
    rw [List.forall_mem_cons] at hpending
    obtain ⟨answer, looked, hlook, -⟩ :=
      runner.isCancelled_apply (ε := Halt UpgradeError) site
    cases answer with
    | true =>
      refine ⟨[], migration :: rest, site, [], _, rfl, .nil site, .cancelled hlook, ?_⟩
      rw [applyFrom_cons report rest hpending.1 hlook]
      simp
    | false =>
      rcases happly : runner.applyOne migration looked with ⟨outcome, next, journal⟩
      cases outcome with
      | error halt =>
        refine ⟨[], migration :: rest, site, [], _, rfl, .nil site, .failed hlook happly, ?_⟩
        rw [applyFrom_cons_of_error report rest hpending.1 hlook happly, List.nil_append]
      | ok _ =>
        obtain ⟨passed, left, mid, more, finished, hsplit, hpasses, hends, hrest⟩ :=
          ih { report with applied := report.applied ++ [migration.key] } hpending.2 next
        refine ⟨migration :: passed, left, mid, _, finished, by rw [hsplit, List.cons_append],
          .cons hlook happly hpasses, hends.shift, ?_⟩
        rw [applyFrom_cons_of_ok report rest hpending.1 hlook happly, hrest]
        simp only [List.append_assoc]

end Runner

end SchemaUpgrade
