import SchemaUpgrade.Proofs.Ending
import SchemaUpgrade.Proofs.Turns
/-!
# A panic shuts the connection

A migration that panics leaves its transaction to nobody.  It is rolled back on the way out, once,
and whether that succeeds or not, the connection is poisoned.  So nothing of the migration is
committed (`Runner.Unwinds`), and nothing is ever done over the connection again: every use of it is
refused before the engine is called (`Connection.performAll_of_poisoned`).

The rollback is needed although the connection stays shut, because the transaction holds the
connection while its holder unwinds, and the engine would otherwise keep it open.  The refusals do
not depend on the rollback: they come from the lock that every use takes first, and taking a
poisoned lock changes nothing, so poison is absorbing over any sequence of uses.

## Main definitions

* `Transaction.abandonment`: what is written when a transaction is abandoned.
* `Runner.Unwinds`: a run that ended in the panic of a migration.
* `Connection.Use`, `Connection.performAll`: uses of a connection, one after another.
-/

namespace SchemaUpgrade

open Engine

/-! ## Abandoned transactions -/

namespace Transaction

variable {logging : Log.Settings} {failure : Option String}

/-- What is written when a transaction is abandoned: the call that discards it and, if that fails,
the warning that it did. -/
def abandonment (logging : Log.Settings) (failure : Option String) : Journal :=
  .called (.batch rollbackText) failure ::
    failure.elim [] fun text =>
      (logging.deliver .ofProcess (.rollbackLost text)).toList.map .logged

theorem exists_abandonment {ε : Type} {site after : Site} {journal : Journal}
    (h : (abandon : Work Site ε Unit) site = ⟨.ok (), after, journal⟩) :
    ∃ failure, journal = abandonment site.logging failure := by
  rcases rollback_call_cases site with ⟨message, mid, hcall, hmid⟩ | ⟨mid, hcall, hmid⟩
  · have habandon : (abandon : Work Site ε Unit) site = ⟨.ok (), mid,
        [.called (.batch rollbackText) (some message)]
          ++ (mid.logging.deliver .ofProcess (.rollbackLost message)).toList.map .logged⟩ :=
      Work.bind_of_ok (Work.attempt_of hcall)
    obtain ⟨-, -, rfl⟩ := Finished.mk.inj (h.symm.trans habandon)
    refine ⟨some message, ?_⟩
    rw [hmid.frame.surroundings]
    rfl
  · have habandon : (abandon : Work Site ε Unit) site
        = ⟨.ok (), mid, [.called (.batch rollbackText) none] ++ []⟩ :=
      Work.bind_of_ok (Work.attempt_of hcall)
    obtain ⟨-, -, rfl⟩ := Finished.mk.inj (h.symm.trans habandon)
    exact ⟨none, rfl⟩

/-- An abandoned transaction is rolled back exactly once. -/
theorem controls_abandonment :
    (abandonment logging failure).controls = [(rollbackText, failure)] := by
  cases failure with
  | none => exact controls_rollback none
  | some text =>
    have hsplit : abandonment logging (some text) = [.called (.batch rollbackText) (some text)]
        ++ (logging.deliver .ofProcess (.rollbackLost text)).toList.map .logged := rfl
    rw [hsplit, Journal.controls_append, controls_rollback, Journal.controls_logged]
    rfl

/-- All that is told about an abandoned transaction is a warning. -/
theorem level_of_logged_mem {event : Log.Event}
    (h : .logged event ∈ abandonment logging failure) : event.notice.level = .warn := by
  cases failure with
  | none => exact absurd h (by simp [abandonment])
  | some text =>
    have hdelivered : logging.deliver .ofProcess (.rollbackLost text) = some event := by
      simpa [abandonment] using h
    rw [Log.Settings.deliver] at hdelivered
    split at hdelivered
    · obtain rfl := Option.some.inj hdelivered
      rfl
    · exact absurd hdelivered (by simp)

end Transaction

/-! ## A migration that panics -/

/-- Instructions of which no statement is a control statement send none. -/
theorem Instruction.controls_runAll {code : List Instruction} {site : Site}
    (hplain : ∀ statement ∈ statements code, Engine.isControl statement.text = false) :
    (runAll code site).journal.controls = [] := by
  induction code generalizing site with
  | nil => rfl
  | cons instruction rest ih =>
    cases instruction with
    | send statement sender =>
      rw [statements_cons_send, List.forall_mem_cons] at hplain
      rcases statement.send_cases site with
        ⟨message, faults, hsend⟩ | ⟨database, faults, -, hsend⟩
      · rw [runAll_send_of_error hsend]
        exact Journal.controls_plain hplain.1 _
      · rw [runAll_send_of_ok hsend, Journal.controls_append, ih hplain.2,
          Journal.controls_plain hplain.1]
        rfl
    | tell route notice =>
      rw [runAll_tell, Journal.controls_append, ih hplain, Journal.controls_logged]
      rfl
    | raise flag =>
      rw [runAll_raise]
      exact ih hplain
    | stop halt => rfl

namespace Runner

variable {runner : Runner} {site : Site} {turns : List Turn} {turn : Turn}

/-- No migration sends a control statement. -/
def SendsNoControl (runner : Runner) (files : Files) : Prop :=
  ∀ migration ∈ runner.migrations,
    ∀ statement ∈ Instruction.statements (migration.instructions files),
      Engine.isControl statement.text = false

theorem SendsNoControl.neverControls {files : Files} (h : runner.SendsNoControl files) :
    runner.NeverControls files := by
  intro migration hmem statement hstatement
  exact Statement.isControl_of_text (h migration hmem statement hstatement)

/-- A migration that panics does so itself, in the transaction that was opened for it.  The
transaction is abandoned and the connection poisoned. -/
theorem Turn.done_of_panic (hpanic : (turn.done runner).outcome = .error .panic)
    (hplain : ∀ statement ∈ Instruction.statements
      (turn.migration.instructions turn.before.files), Engine.isControl statement.text = false) :
    .stop .panic ∈ turn.migration.instructions turn.before.files ∧
      (turn.done runner).state.poisoned = true ∧
      ∃ (sent : Journal) (failure : Option String), sent.controls = [] ∧
        (turn.done runner).journal = [.called (.batch beginText) none] ++ sent
          ++ Transaction.abandonment turn.before.logging failure := by
  have hdone : turn.done runner = runner.applyOne turn.migration turn.before := rfl
  rcases runner.applyOne_steps turn.migration turn.before with
    ⟨cause, after, journal, hfailed, -⟩ | ⟨opened, -, hopened, hsteps⟩
  · rw [hdone, hfailed] at hpanic
    exact absurd hpanic (by simp)
  · rcases hsteps with
      ⟨stop, halt, filled, sent, after, more, hsent, -, houtcome, -, -, hjournal, hself, hunwinds⟩ |
      ⟨filled, sent, -, hrest⟩
    · obtain rfl : halt = .panic := Except.error.inj (houtcome.symm.trans hpanic)
      obtain rfl : stop = .panic := by
        rcases hself with hsame | ⟨error, hother, -⟩
        · exact hsame.symm
        · exact absurd hother (by simp)
      obtain ⟨habandon, hstate⟩ := hunwinds rfl
      obtain ⟨failure, rfl⟩ := Transaction.exists_abandonment habandon
      have hfilled := Instruction.runAll_frame
        (turn.migration.instructions turn.before.files) opened
      have hcontrols : (Instruction.runAll _ opened).journal.controls = [] :=
        Instruction.controls_runAll hplain
      rw [hsent] at hfilled hcontrols
      have hsurroundings := hfilled.surroundings.trans hopened.frame.surroundings
      refine ⟨?_, by rw [hdone, hstate], sent, failure, hcontrols, ?_⟩
      · rcases Instruction.error_of_runAll (congrArg Finished.outcome hsent) with
          ⟨sender, cause, hsender⟩ | hstop
        · exact absurd hsender (by simp)
        · exact hstop
      · rw [hdone, hjournal]
        have hlogging : filled.logging = turn.before.logging := by rw [hsurroundings]
        rw [hlogging]
    · rw [hdone, hrest] at hpanic
      rcases runner.conclude_steps turn.migration filled with
        ⟨error, mid, after, journal, more, hconclude, -⟩ |
        ⟨database, content, faults, -, -, hconclude⟩
      · rw [hconclude] at hpanic
        exact absurd hpanic (by simp)
      · rw [hconclude] at hpanic
        exact absurd hpanic (by simp)

/-- A run that ended in the panic of a migration, after these turns were completed. -/
structure Unwinds (runner : Runner) (site : Site) (turns : List Turn) (turn : Turn) : Prop where
  takes : ∃ rest, (runner.run site).journal = (runner.plan site).journal ++ rest ∧
    runner.Takes (turns ++ [turn]) (runner.plan site).state (runner.run site).state rest
  order : (turns ++ [turn]).map Turn.migration <+: runner.pendingOn site.database.committed
  completed : ∀ turn ∈ turns, turn.Completed runner
  panics : (turn.done runner).outcome = .error .panic
  /-- What the run published after the creating statement is the changes of the migrations that were
  completed, and nothing of the one that panicked or of those after it. -/
  committed : (runner.run site).state.database.committed
    = (site.database.committed.perform runner.creation).performAll
        (turns.flatMap fun turn => runner.change site.files turn.migration)
  /-- The last things that were done are those for the migration that panicked: its transaction was
  opened, statements were sent that neither open nor end one, and it was rolled back once.  If that
  failed, all that came of it is a warning. -/
  rolledBack : ∃ (front sent : Journal) (failure : Option String),
    (runner.run site).journal = front ++ (turn.done runner).journal ∧
    (turn.done runner).journal = [.called (.batch beginText) none] ++ sent
      ++ Transaction.abandonment site.logging failure ∧
    sent.controls = [] ∧
    ∀ event, .logged event ∈ Transaction.abandonment site.logging failure →
      event.notice.level = .warn
  poisoned : (runner.run site).state.poisoned = true

theorem exists_unwinds (hplain : runner.SendsNoControl site.files)
    (hpanic : (runner.run site).outcome = .error .panic) :
    ∃ turns turn, runner.Unwinds site turns turn := by
  rcases runner.run_turns site with
    ⟨error, after, journal, -, hrun⟩ |
    ⟨plan, ready, planned, front, rest, mid, journal, told, finished, hplan, hlisted, hsplit,
      hcompleted, hpasses, hfront, hends, hrun⟩
  · rw [hrun] at hpanic
    exact absurd hpanic (by simp)
  · have hcontent := published_of_ends hplain.neverControls hlisted hsplit hpasses hends
    rw [hrun] at hpanic
    cases hends with
    | finished => exact absurd hpanic (by simp)
    | cancelled hlook => exact absurd hpanic (by simp)
    | @failed migration rest looked after halt last hlook happly =>
      obtain rfl := Except.error.inj hpanic
      let turn : Turn := ⟨migration, looked⟩
      have hdone : turn.done runner = ⟨.error .panic, after, last⟩ := happly
      have hfailed : (turn.done runner).outcome = .error .panic := congrArg Finished.outcome hdone
      have hlast : runner.Takes [turn] mid (turn.done runner).state _ := .fails hlook hfailed
      have htakes := hfront hlast
      have hsurroundings : turn.before.toSurroundings = site.toSurroundings := by
        rw [htakes.surroundings turn (by simp), hlisted.frame.surroundings]
      have hfiles : turn.before.files = site.files := by rw [hsurroundings]
      have hlogging : turn.before.logging = site.logging := by rw [hsurroundings]
      have hmem : migration ∈ runner.migrations :=
        mem_of_mem_pendingOn (hsplit ▸ List.mem_append_right _ List.mem_cons_self)
      obtain ⟨-, hpoisoned, sent, failure, hcontrols, hsent⟩ :=
        Turn.done_of_panic hfailed (by rw [hfiles]; exact hplain migration hmem)
      rw [hlogging] at hsent
      refine ⟨front, turn, ⟨told ++ (runner.told looked (.applying migration.key) ++ last), ?_, ?_⟩,
        ?order, hcompleted, hfailed, ?committed, ?rolledBack, ?poisoned⟩
      · rw [hrun, hplan]
      · rw [hrun, hplan]
        rw [hdone] at htakes
        exact htakes
      case order =>
        rw [hsplit, List.map_append, List.prefix_append_right_inj]
        exact List.cons_prefix_cons.2 ⟨rfl, List.nil_prefix⟩
      case committed =>
        rw [hrun, hcontent, List.flatMap_map]
      case rolledBack =>
        refine ⟨planned ++ (told ++ runner.told looked (.applying migration.key)), sent, failure,
          ?_, hsent, hcontrols, fun event hevent => Transaction.level_of_logged_mem hevent⟩
        rw [hrun, hdone]
        simp only [List.append_assoc]
      case poisoned =>
        rw [hrun]
        rw [hdone] at hpoisoned
        exact hpoisoned

end Runner

/-! ## The connection stays shut -/

namespace Connection

/-- Something that is asked of a connection. -/
inductive Use where
  | begin
  | column (sql : String)
  | batch (sql : String)
  | count (inner : String)
  | relationExists (name : String)
  | plan (runner : Runner)
  | run (runner : Runner)

/-- What a connection replies to a use. -/
inductive Reply where
  | begun (outcome : Except DatabaseError Unit)
  | read (outcome : Except DatabaseError (List String))
  | executed (outcome : Except DatabaseError Unit)
  | counted (outcome : Except DatabaseError Nat)
  | found (outcome : Except DatabaseError Bool)
  | planned (outcome : Except UpgradeError Plan)
  | ran (outcome : Except (Halt UpgradeError) Report)

namespace Use

/-- Uses the connection.  A failure is a reply as well. -/
def perform : Use → Work Site Empty Reply
  | .begin => do return .begun (← Connection.begin.attempt)
  | .column sql => do return .read (← (Connection.column sql).attempt)
  | .batch sql => do return .executed (← (Connection.batch sql).attempt)
  | .count inner => do return .counted (← (Connection.count inner).attempt)
  | .relationExists name => do return .found (← (Connection.relationExists name).attempt)
  | .plan runner => do return .planned (← runner.plan.attempt)
  | .run runner => do return .ran (← runner.run.attempt)

/-- The reply of a connection that is shut.  A plan and a run blame the creation of the bookkeeping
table, which comes first. -/
def refused : Use → Reply
  | .begin => .begun (.error .lockPoisoned)
  | .column _ => .read (.error .lockPoisoned)
  | .batch _ => .executed (.error .lockPoisoned)
  | .count _ => .counted (.error .lockPoisoned)
  | .relationExists _ => .found (.error .lockPoisoned)
  | .plan _ => .planned (.error (.backend .createTable .lockPoisoned))
  | .run _ => .ran (.error (.failure (.backend .createTable .lockPoisoned)))

end Use

/-- What may change around a connection while nobody uses it: everything but its database and its
poison. -/
structure Circumstances extends Surroundings where
  faults : List Fault := []
  raised : List CancelFlag := []
  arriving : List (List CancelFlag) := []

/-- The site of a connection in other circumstances. -/
def Circumstances.around (now : Circumstances) (site : Site) : Site :=
  { site with
    toSurroundings := now.toSurroundings
    faults := now.faults
    raised := now.raised
    arriving := now.arriving }

/-- Uses a connection again and again, each time in the circumstances of that time. -/
def performAll : List (Circumstances × Use) → Work Site Empty (List Reply)
  | [] => pure []
  | (now, use) :: rest => do
    Work.modify now.around
    let reply ← use.perform
    let replies ← performAll rest
    return reply :: replies

variable {site : Site}

theorem begin_of_poisoned (h : site.poisoned = true) :
    begin site = ⟨.error .lockPoisoned, site, []⟩ :=
  lock_bind_of_poisoned h

theorem plan_of_poisoned (runner : Runner) (h : site.poisoned = true) :
    runner.plan site = ⟨.error (.backend .createTable .lockPoisoned), site, []⟩ := by
  have hensure : runner.dialect.ensureTable runner.tableName site
      = ⟨.error .lockPoisoned, site, []⟩ := Work.bind_of_error (begin_of_poisoned h)
  exact Work.bind_of_error (Work.mapError_of_error hensure)

theorem run_of_poisoned (runner : Runner) (h : site.poisoned = true) :
    runner.run site = ⟨.error (.failure (.backend .createTable .lockPoisoned)), site, []⟩ :=
  Work.bind_of_error (Work.mapError_of_error (plan_of_poisoned runner h))

/-- A use of a poisoned connection is refused, and nothing is done. -/
theorem Use.perform_of_poisoned (use : Use) (h : site.poisoned = true) :
    use.perform site = ⟨.ok use.refused, site, []⟩ := by
  have hattempt : ∀ {ε α : Type} {work : Work Site ε α} {e : ε} (reply : Except ε α → Reply),
      work site = ⟨.error e, site, []⟩ →
        (do return reply (← work.attempt) : Work Site Empty Reply) site
          = ⟨.ok (reply (.error e)), site, []⟩ :=
    fun reply hwork => Work.bind_of_ok (Work.attempt_of hwork)
  cases use with
  | begin => exact hattempt .begun (begin_of_poisoned h)
  | column sql => exact hattempt .read (lock_bind_of_poisoned h)
  | batch sql => exact hattempt .executed (lock_bind_of_poisoned h)
  | count inner => exact hattempt .counted (lock_bind_of_poisoned h)
  | relationExists name => exact hattempt .found (lock_bind_of_poisoned h)
  | plan runner => exact hattempt .planned (plan_of_poisoned runner h)
  | run runner => exact hattempt .ran (run_of_poisoned runner h)

/-- However often a poisoned connection is used, every use is refused, the engine is not called, and
the database stays as it is. -/
theorem performAll_of_poisoned (uses : List (Circumstances × Use)) (h : site.poisoned = true) :
    ∃ after, performAll uses site = ⟨.ok (uses.map fun step => step.2.refused), after, []⟩ ∧
      after.database = site.database ∧ after.poisoned = true := by
  induction uses generalizing site with
  | nil => exact ⟨site, rfl, rfl, h⟩
  | cons step rest ih =>
    obtain ⟨now, use⟩ := step
    have hnow : (now.around site).poisoned = true := h
    obtain ⟨after, hrest, hdatabase, hpoisoned⟩ := ih hnow
    refine ⟨after, ?_, hdatabase, hpoisoned⟩
    rw [performAll, Work.bind_of_silent (Work.modify_apply site now.around),
      Work.bind_of_silent (use.perform_of_poisoned hnow), Work.bind_of_ok hrest]
    rfl

end Connection

namespace Runner

/-- A migration that panics is rolled back, and the connection stays shut.  The run committed the
migrations before it and nothing else, and from then on every use of the connection is refused,
without a call and without a change of the database. -/
theorem panic_shuts_connection (runner : Runner) (site : Site)
    (hplain : runner.SendsNoControl site.files)
    (hpanic : (runner.run site).outcome = .error .panic) :
    (∃ turns turn, runner.Unwinds site turns turn) ∧
    ∀ uses, ∃ after, Connection.performAll uses (runner.run site).state
        = ⟨.ok (uses.map fun step => step.2.refused), after, []⟩ ∧
      after.database = (runner.run site).state.database ∧ after.poisoned = true := by
  obtain ⟨turns, turn, hunwinds⟩ := exists_unwinds hplain hpanic
  exact ⟨⟨turns, turn, hunwinds⟩, fun uses =>
    Connection.performAll_of_poisoned uses hunwinds.poisoned⟩

/-- Two programs of which the second panics after its statement. -/
def panickingSteps : Runner := { twoSteps with
  migrations := [.program "01" [.batch "CREATE TABLE a (id INT)"],
    .program "02" [.batch "DROP TABLE a", .panic]]
  sorted := by decide
  nonempty := by simp }

/-- The second migration panics and the engine refuses its rollback; what is committed is the first
one, and the connection is shut. -/
theorem panic_shuts_connection_panickingSteps :
    let site : Site :=
      { faults := [{ on := .batch, containing := "ROLLBACK", message := "disk gone" }] }
    panickingSteps.SendsNoControl site.files ∧
      (panickingSteps.run site).outcome = .error .panic ∧
      panickingSteps.recorded (panickingSteps.run site).state.database.committed = ["01"] ∧
      (∃ turns turn, panickingSteps.Unwinds site turns turn) ∧
      ∀ uses, ∃ after, Connection.performAll uses (panickingSteps.run site).state
          = ⟨.ok (uses.map fun step => step.2.refused), after, []⟩ ∧
        after.database = (panickingSteps.run site).state.database ∧ after.poisoned = true := by
  intro site
  have hplain : panickingSteps.SendsNoControl site.files := by
    simp [SendsNoControl, panickingSteps, Migration.instructions, instructionsOfActions,
      Action.instructions]
    decide
  obtain ⟨hpanic, hrecorded⟩ : (panickingSteps.run site).outcome = .error .panic ∧
      panickingSteps.recorded (panickingSteps.run site).state.database.committed = ["01"] := by
    decide +kernel
  exact ⟨hplain, hpanic, hrecorded, panic_shuts_connection panickingSteps site hplain hpanic⟩

end Runner

end SchemaUpgrade
