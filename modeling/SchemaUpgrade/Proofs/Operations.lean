import SchemaUpgrade.Proofs.Course
import SchemaUpgrade.Proofs.Listing
import SchemaUpgrade.Proofs.Unlogged
/-!
# The courses of all operations

Every operation of a plan and of a run takes a course, which is stated here once for each of them,
from sending a statement up to `Runner.course_plan` and `Runner.course_run`.  The two sides of a
course are two runners that differ only in their routes, or one runner twice.

A course is put together as the operation is, so a change of an operation is a change of its lemma
here, and of those about the operations that call it if its schedule changes.  What is concluded
from courses (that the log, the flags or the listings make no difference, what errors tell and
blame) stays as it is.

## Main definitions

* `Instruction.errands`, `Instruction.halt?`: the schedule of a migration.
* `Runner.preparation`, `Runner.closing`: the errands of a run around its migrations.
* `Terms.Permits`, `Terms.Covers`: the terms allow what a migration or a run does.
-/

namespace SchemaUpgrade

open Engine

variable {ε ε' α β : Type} {terms : Terms}

/-! ## The connection -/

/-- A call whose failure is told in an error of the database. -/
theorem Course.told {f : String → DatabaseError} {request : Call} {work other : Work Site String α}
    (hf : ∀ text, (f text).Tells text)
    (h : Course terms (· = ·) (some ⟨[⟨request, (· = ·)⟩], none⟩) work other) :
    Course terms DatabaseError.Tells (some ⟨[.telling request], none⟩) (work.mapError f)
      (other.mapError f) := by
  have htells : ∀ told text : String, told = text → (f told).Tells text := by
    rintro text _ rfl
    exact hf text
  exact h.mapError_single rfl htells htells

/-- Work whose errors of the database are passed on as the root of others. -/
theorem Course.named {root : DatabaseError → UpgradeError} (calls : List Call)
    {work other : Work Site DatabaseError α} (hroot : ∀ cause, (root cause).root = root cause)
    (htells : ∀ cause text, cause.Tells text → (root cause).Tells text)
    (h : Course terms DatabaseError.Tells (some ⟨calls.map .telling, none⟩) work other) :
    Course terms UpgradeError.Tells (some ⟨calls.map (.naming root), none⟩) (work.mapError root)
      (other.mapError root) := by
  have hblames : ∀ given ∈ calls.map Errand.telling, ∀ cause message, given.blames cause message →
      (Errand.naming root given.call).blames (root cause) message := by
    simp only [List.mem_map]
    rintro _ ⟨call, -, rfl⟩ cause message htold
    exact ⟨cause, hroot cause, htold⟩
  have hall : Course terms UpgradeError.Tells
      (some ⟨(calls.map Errand.telling).map fun given => .naming root given.call, none⟩)
      (work.mapError root) (other.mapError root) :=
    h.mapError _ (fun _ => rfl) htells hblames
  rwa [List.map_map] at hall

/-- So is a call of work that can panic. -/
theorem Course.halted {root : DatabaseError → UpgradeError} {call : Call}
    {work other : Work Site DatabaseError α} (hroot : ∀ cause, (root cause).root = root cause)
    (htells : ∀ cause text, cause.Tells text → (root cause).Tells text)
    (h : Course terms DatabaseError.Tells (some ⟨[.telling call], none⟩) work other) :
    Course terms Halt.Tells (some ⟨[(Errand.naming root call).halting], none⟩)
      (work.mapError fun cause => .failure (root cause))
      (other.mapError fun cause => .failure (root cause)) :=
  h.mapError_single rfl htells fun cause _ hblames => ⟨_, rfl, cause, hroot cause, hblames⟩

theorem Statement.course_send (statement : Statement) :
    Course terms DatabaseError.Tells (some ⟨[.telling statement.call], none⟩) statement.send
      statement.send := by
  cases statement with
  | batch sql => exact (Course.call _ _).told DatabaseError.tells_ofEngine
  | execute sql params =>
    exact ((Course.call _ _).told DatabaseError.tells_ofEngine).bind fun _ => .pure ()

namespace Connection

theorem course_begin :
    Course terms DatabaseError.Tells (some ⟨[.telling (.batch beginText)], none⟩) begin begin :=
  Course.lock.bind fun _ => (Course.call _ _).told fun text =>
    DatabaseError.tells_transaction _ text

theorem course_column (sql : String) :
    Course terms DatabaseError.Tells (some ⟨[.telling (.column sql)], none⟩) (column sql)
      (column sql) :=
  Course.lock.bind fun _ => (Course.readColumn sql).told DatabaseError.tells_ofEngine

end Connection

namespace Transaction

theorem course_rollback : Course terms DatabaseError.Tells none rollback rollback := by
  rw [rollback_eq]
  exact ((Course.call _ _).told fun text => DatabaseError.tells_transaction _ text).unscheduled

/-- A rollback and a failure after it, which tells why the rollback failed if it did. -/
theorem course_rolledBack {tells : ε → String → Prop} (join : Except DatabaseError Unit → ε)
    (hrollback : ∀ cause text, cause.Tells text → tells (join (.error cause)) text) :
    Course terms tells none
      (rollback.attempt >>= fun outcome => (Work.fail (join outcome) : Work Site ε α))
      (rollback.attempt >>= fun outcome => Work.fail (join outcome)) := by
  let passing : Passing DatabaseError.Tells tells none :=
    .unscheduled (fun cause _ => join (.error cause)) fun cause _ => hrollback cause
  show Course terms tells (passing.schedule none) _ _
  exact .caught passing course_rollback (fun _ => .unscheduled (.fail _))
    (fun _ _ => .unscheduled (.fail _)) fun _ _ _ => Work.surrenders_fail ⟨.ok (), rfl⟩

/-- Work whose error is caught and, after a rollback, told together with how that went. -/
theorem course_orRolledBack {tells : ε → String → Prop} {tells' : ε' → String → Prop}
    {first : List (Errand ε)} {later : List (Errand ε')} {own : Option (ε' → Prop)}
    {work other : Work Site ε α} {next next' : Except ε α → Work Site ε' β}
    (join : ε → Except DatabaseError Unit → ε') (errand : Errand ε → Errand ε')
    (hcall : ∀ given, (errand given).call = given.call)
    (hkeeps : ∀ e outcome text, tells e text → tells' (join e outcome) text)
    (hrollback : ∀ e cause text, cause.Tells text → tells' (join e (.error cause)) text)
    (hblames : ∀ given ∈ first, ∀ e outcome message, given.blames e message →
      (errand given).blames (join e outcome) message)
    (h : Course terms tells (some ⟨first, none⟩) work other)
    (hok : ∀ a, Course terms tells' (some ⟨later, own⟩) (next (.ok a)) (next' (.ok a)))
    (herror : ∀ e, next (.error e)
      = (rollback.attempt >>= fun outcome => Work.fail (join e outcome)))
    (herror' : ∀ e, next' (.error e)
      = (rollback.attempt >>= fun outcome => Work.fail (join e outcome))) :
    Course terms tells' (some ⟨first.map errand ++ later, own⟩) (work.attempt >>= next)
      (other.attempt >>= next') := by
  let passing : Passing tells tells' (some ⟨first, none⟩) :=
    .joining join errand hcall hkeeps hblames
  show Course terms tells' (passing.schedule (some ⟨later, own⟩)) _ _
  refine .caught passing h hok (fun e _ => ?_) fun _ e _ => ?_
  · rw [herror, herror']
    exact course_rolledBack (join e) (hrollback e)
  · rw [herror]
    exact surrenders_rolledBack (join e)

theorem course_commit :
    Course terms DatabaseError.Tells (some ⟨[.telling (.batch commitText)], none⟩) commit
      commit := by
  have htells : ∀ text outcome message, text = message → ((DatabaseError.transaction
      ("COMMIT failed: " ++ text)).joinRollback outcome).Tells message := by
    rintro text outcome _ rfl
    exact (DatabaseError.tells_transaction _ text).joinRollback outcome
  rw [commit_eq]
  exact course_orRolledBack
    (fun text => (DatabaseError.transaction ("COMMIT failed: " ++ text)).joinRollback)
    (fun given => .telling given.call) (fun _ => rfl) htells
    (fun _ _ _ => DatabaseError.tells_joinRollback _)
    (List.forall_mem_singleton.2 fun text outcome message => htells text outcome message)
    (.call _ _) (fun _ => .pure ()) (fun _ => rfl) fun _ => rfl

/-- Nobody is told why the rollback of a transaction failed that nobody ended; it is logged. -/
theorem course_abandon {tells : ε → String → Prop} (hpanics : terms.panics) :
    Course terms tells none (abandon : Work Site ε Unit) abandon := by
  let passing : Passing (· = ·) tells (none : Option (Schedule String)) :=
    ⟨fun _ _ => False, fun given => ⟨given.call, fun _ _ => False⟩, fun _ => rfl, False.elim,
      fun hgiven => absurd hgiven List.not_mem_nil⟩
  show Course terms tells (passing.schedule none) _ _
  exact .caught passing (.unscheduled (.call _ _)) (fun _ => .unscheduled (.pure ()))
    (fun message _ => .unscheduled (.log (terms.lost hpanics message))) fun hnone _ _ =>
      absurd hpanics hnone

end Transaction

/-! ## Planning -/

namespace Dialect

variable (dialect : Dialect) (table : String)

theorem course_ensureTable :
    Course terms DatabaseError.Tells (some ⟨[.telling (.batch beginText),
        .telling (.batch (render dialect.create table)), .telling (.batch commitText)], none⟩)
      (dialect.ensureTable table) (dialect.ensureTable table) := by
  let create : Statement := .batch (render dialect.create table)
  have hkeeps : ∀ (cause : DatabaseError) outcome text, cause.Tells text →
      (cause.joinRollback outcome).Tells text := fun _ outcome _ htells =>
    htells.joinRollback outcome
  refine Connection.course_begin.bind fun _ => ?_
  exact Transaction.course_orRolledBack DatabaseError.joinRollback id (fun _ => rfl) hkeeps
    (fun error _ _ => DatabaseError.tells_joinRollback error)
    (List.forall_mem_singleton.2 (by exact hkeeps)) create.course_send
    (fun _ => Transaction.course_commit) (fun _ => rfl) fun _ => rfl

theorem course_listApplied :
    Course terms DatabaseError.Tells
      (some ⟨[.telling (.column (render dialect.applied table))], none⟩)
      (dialect.listApplied table) (dialect.listApplied table) :=
  Connection.course_column _

end Dialect

namespace Runner

variable (runner : Runner)

theorem course_listing :
    Course terms DatabaseError.Tells (some ⟨[.telling (.batch beginText),
        .telling runner.creation.call, .telling (.batch commitText),
        .telling (.column (Dialect.render runner.dialect.applied runner.tableName))], none⟩)
      runner.listing runner.listing :=
  (runner.dialect.course_ensureTable _).bind fun _ => runner.dialect.course_listApplied _

/-- The errands of preparing the bookkeeping table and listing the recorded keys. -/
def preparation : List (Errand UpgradeError) :=
  [.naming (.backend .createTable) (.batch beginText),
    .naming (.backend .createTable)
      (.batch (Dialect.render runner.dialect.create runner.tableName)),
    .naming (.backend .createTable) (.batch commitText),
    .naming (.backend .listApplied)
      (.column (Dialect.render runner.dialect.applied runner.tableName))]

/-- What a plan asks of the engine. -/
def inquiry : Work Site UpgradeError (List String) := do
  (runner.dialect.ensureTable runner.tableName).mapError Phase.createTable.error
  (runner.dialect.listApplied runner.tableName).mapError Phase.listApplied.error

/-- A plan compares the keys that it was told. -/
theorem plan_eq_inquiry : runner.plan = runner.inquiry >>= runner.comparison :=
  (bind_assoc _ _ _).symm

theorem course_inquiry :
    Course terms UpgradeError.Tells (some ⟨runner.preparation, none⟩) runner.inquiry
      runner.inquiry := by
  have hphase : ∀ (phase : Phase) (cause : DatabaseError) text, cause.Tells text →
      (phase.error cause).Tells text := fun phase _ _ => UpgradeError.tells_backend phase
  exact .bind
    ((runner.dialect.course_ensureTable _).named [_, _, _] (fun _ => rfl) (hphase .createTable))
    fun _ => (runner.dialect.course_listApplied _).named [_] (fun _ => rfl) (hphase .listApplied)

/-! ### From the listing to the plan -/

variable {runner} {other : Runner}

theorem course_logHistoryEnd (hspeaks : ∀ notice, terms.tells runner.route other.route notice)
    (recorded : List String) :
    Course terms UpgradeError.Tells (some {}) (runner.logHistoryEnd recorded)
      (other.logHistoryEnd recorded) := by
  rw [logHistoryEnd, logHistoryEnd]
  cases recorded.getLast? with
  | none => exact .log (hspeaks _)
  | some last => exact .log (hspeaks _)

/-- The errors with which the migrations are refused, if they do not continue a history. -/
def refusal (runner : Runner) (recorded : List String) : Option (UpgradeError → Prop) :=
  match History.resumePoint runner.keys recorded with
  | .ok _ => none
  | .error mismatch => some (· = .history mismatch)

theorem course_comparison (halike : runner.Alike other)
    (hspeaks : ∀ notice, terms.tells runner.route other.route notice) (recorded : List String) :
    Course terms UpgradeError.Tells (some { own := runner.refusal recorded })
      (runner.comparison recorded) (other.comparison recorded) := by
  refine (course_logHistoryEnd hspeaks recorded).bind fun _ => ?_
  rw [refusal, resumeAfter, resumeAfter, halike.keys]
  cases History.resumePoint runner.keys recorded with
  | ok resume => exact .pure _
  | error mismatch =>
    have hfail : Course terms UpgradeError.Tells (some { own := some (· = .history mismatch) })
        (Work.fail (.history mismatch) : Work Site UpgradeError Plan)
        (Work.fail (.history mismatch)) := .fail _
    cases mismatch with
    | unsorted previous next => exact (Course.log (hspeaks _)).bind fun _ => hfail
    | tooOld pending applied => exact hfail
    | unrelated reason => exact hfail

/-- Plans of runners that differ only in their routes. -/
theorem course_plan (halike : runner.Alike other)
    (hspeaks : ∀ notice, terms.tells runner.route other.route notice) :
    Course terms UpgradeError.Tells none runner.plan other.plan := by
  have hinquiry : other.inquiry = runner.inquiry := by
    rw [inquiry, inquiry, halike.dialect, halike.tableName]
  rw [plan_eq_inquiry, plan_eq_inquiry, hinquiry]
  exact runner.course_inquiry.andThen fun recorded =>
    .unscheduled (course_comparison halike hspeaks recorded)

end Runner

/-! ## Migrations -/

/-- Why work ended early, together with the outcome of the rollback that followed it. -/
def Halt.joinRollback : Halt UpgradeError → Except DatabaseError Unit → Halt UpgradeError
  | .failure error, outcome => .failure (error.joinRollback outcome)
  | .panic, _ => .panic

theorem Halt.Tells.joinRollback {halt : Halt UpgradeError} {text : String} (h : halt.Tells text)
    (outcome : Except DatabaseError Unit) : (halt.joinRollback outcome).Tells text := by
  cases halt with
  | failure error => exact UpgradeError.Tells.joinRollback h outcome
  | panic => exact h

/-- A failed rollback is told, but not blamed. -/
theorem Errand.blames_joinRollback {errands : List (Errand UpgradeError)}
    (hnamed : ∀ errand ∈ errands, ∃ root call, errand = .naming root call) :
    ∀ errand ∈ errands.map Errand.halting, ∀ halt outcome message, errand.blames halt message →
      errand.blames (halt.joinRollback outcome) message := by
  simp only [List.mem_map]
  rintro _ ⟨errand, hmem, rfl⟩ halt outcome message ⟨error, rfl, hblames⟩
  obtain ⟨root, call, rfl⟩ := hnamed errand hmem
  obtain ⟨cause, hroot, htells⟩ := hblames
  exact ⟨_, rfl, cause, (error.root_joinRollback outcome).trans hroot, htells⟩

namespace Instruction

/-- The errands of instructions, up to the first that stops. -/
def errands : List Instruction → List (Errand UpgradeError)
  | [] => []
  | .send statement sender :: rest => .naming sender.error statement.call :: errands rest
  | .tell _ _ :: rest | .raise _ :: rest => errands rest
  | .stop _ :: _ => []

/-- The first stop among instructions. -/
def halt? : List Instruction → Option (Halt UpgradeError)
  | [] => none
  | .send _ _ :: rest | .tell _ _ :: rest | .raise _ :: rest => halt? rest
  | .stop halt :: _ => some halt

theorem exists_naming {code : List Instruction} :
    ∀ errand ∈ errands code, ∃ root call, errand = .naming root call := by
  induction code with
  | nil => simp [errands]
  | cons instruction rest ih =>
    cases instruction with
    | send statement sender => exact List.forall_mem_cons.2 ⟨⟨_, _, rfl⟩, ih⟩
    | tell route notice => exact ih
    | raise flag => exact ih
    | stop halt => simp [errands]

end Instruction

/-- The terms allow what two lists of instructions do that differ only in their routes. -/
structure Terms.Permits (terms : Terms) (code other : List Instruction) : Prop where
  unlogged : code.map Instruction.unlogged = other.map Instruction.unlogged
  tells : ∀ route route' notice, .tell route notice ∈ code → .tell route' notice ∈ other →
    terms.tells route route' notice
  raises : ∀ flag, .raise flag ∈ code → terms.raises flag
  panics : .stop .panic ∈ code → terms.panics

/-- The terms allow everything but panics. -/
def Terms.calm (files : Files) : Terms where
  files := files
  tells _ _ _ := True
  raises _ := True
  looks := True
  panics := False
  lost := False.elim

theorem Terms.permits_calm {files : Files} {code : List Instruction}
    (hpanic : .stop .panic ∉ code) : (calm files).Permits code code :=
  ⟨rfl, fun _ _ _ _ _ => trivial, fun _ _ => trivial, hpanic⟩

namespace Instruction

/-- Instructions are walked up to the first that stops. -/
theorem course_runAll {code other : List Instruction} (h : terms.Permits code other) :
    Course terms Halt.Tells
      (some ⟨(errands code).map .halting, (halt? code).map fun halt e => e = halt⟩)
      (runAll code) (runAll other) := by
  induction code generalizing other with
  | nil =>
    obtain rfl : other = [] := List.map_eq_nil_iff.1 h.unlogged.symm
    exact .pure ()
  | cons instruction rest ih =>
    cases other with
    | nil => exact absurd h.unlogged (by simp)
    | cons instruction' rest' =>
      obtain ⟨hfirst, hrest⟩ := List.cons.inj h.unlogged
      have hpermits : terms.Permits rest rest' := {
        unlogged := hrest
        tells := fun route route' notice hmem hmem' =>
          h.tells route route' notice (.tail _ hmem) (.tail _ hmem')
        raises := fun flag hmem => h.raises flag (.tail _ hmem)
        panics := fun hmem => h.panics (.tail _ hmem) }
      have hnext := ih hpermits
      rcases eq_or_tell_of_unlogged hfirst with rfl | ⟨route, route', notice, rfl, rfl⟩
      · cases instruction with
        | send statement sender =>
          have hroot : ∀ cause, (sender.error cause).root = sender.error cause := fun cause => by
            cases sender <;> rfl
          exact (statement.course_send.halted hroot fun _ _ => sender.tells_error).bind fun _ =>
            hnext
        | tell route notice =>
          exact (Course.log (h.tells _ _ _ (.head _) (.head _))).bind fun _ => hnext
        | raise flag => exact (Course.raise (h.raises flag (.head _))).bind fun _ => hnext
        | stop halt => exact .fail halt
      · exact (Course.log (h.tells _ _ _ (.head _) (.head _))).bind fun _ => hnext

end Instruction

/-- A migration takes the course of its instructions. -/
theorem Migration.course_apply {migration other : Migration}
    (h : terms.Permits (migration.instructions terms.files) (other.instructions terms.files)) :
    let code := migration.instructions terms.files
    Course terms Halt.Tells (some ⟨(Instruction.errands code).map .halting,
      (Instruction.halt? code).map fun halt e => e = halt⟩) migration.apply other.apply := by
  intro code
  have hlinear : ∀ (migration : Migration) (site : Site), terms.At site →
      migration.apply site = Instruction.runAll (migration.instructions terms.files) site := by
    intro migration site hsite
    rw [migration.apply_eq_runAll, Migration.instructions_congr hsite]
  exact .congr (hlinear migration) (hlinear other) (Instruction.course_runAll h)

/-- A migration panics only where one of its instructions does. -/
theorem Migration.panic_mem_of_reaches {migration : Migration}
    (h : terms.Reaches migration.apply .panic) :
    .stop .panic ∈ migration.instructions terms.files := by
  obtain ⟨site, hsite, hpanic⟩ := h
  rw [migration.apply_eq_runAll, Migration.instructions_congr hsite] at hpanic
  rcases Instruction.error_of_runAll hpanic with ⟨sender, cause, hsender⟩ | hstop
  · exact absurd hsender (by simp)
  · exact hstop

/-- Why a migration ended early is passed on together with the outcome of the rollback. -/
def Instruction.rolledBack (code : List Instruction) :
    Passing Halt.Tells Halt.Tells
      (some ⟨(errands code).map .halting, (halt? code).map fun halt e => e = halt⟩) :=
  .joining Halt.joinRollback id (fun _ => rfl) (fun _ outcome _ h => h.joinRollback outcome)
    (Errand.blames_joinRollback exists_naming)

namespace Runner

variable (runner : Runner) (migration : Migration)

/-- The errands of recording a key and publishing the transaction. -/
def closing : List (Errand UpgradeError) :=
  [.naming (.backend .register) (runner.registration migration).call,
    .naming (.backend .commit) (.batch commitText)]

variable {runner migration} {other : Runner} {migration' : Migration}

theorem course_conclude (halike : runner.Alike other) (hkey : migration'.key = migration.key) :
    Course terms Halt.Tells (some ⟨(runner.closing migration).map .halting, none⟩)
      (runner.conclude migration) (other.conclude migration') := by
  let registration : Statement := runner.registration migration
  let join (cause : DatabaseError) (outcome : Except DatabaseError Unit) : Halt UpgradeError :=
    .failure ((UpgradeError.backend .register cause).joinRollback outcome)
  have hcommit : Course terms Halt.Tells
      (some ⟨[(Errand.naming (.backend .commit) (.batch commitText)).halting], none⟩) _ _ :=
    Transaction.course_commit.halted (fun _ => rfl) fun _ _ => UpgradeError.tells_backend .commit
  rw [conclude, conclude, halike.dialect, halike.tableName, hkey]
  exact Transaction.course_orRolledBack join
    (fun given => (Errand.naming (.backend .register) given.call).halting) (fun _ => rfl)
    (fun cause outcome text htells => (UpgradeError.tells_backend .register htells).joinRollback _)
    (fun cause _ _ => UpgradeError.tells_joinRollback (.backend .register cause))
    (List.forall_mem_singleton.2 fun cause outcome message htells =>
      ⟨_, rfl, cause, UpgradeError.root_joinRollback _ outcome, htells⟩)
    registration.course_send (fun _ => hcommit) (fun _ => rfl) fun _ => rfl

/-- The errands of a migration, from the opening of its transaction to the end.  A migration that
stops of itself is rolled back, and its error is joined with how that went. -/
def assignment (runner : Runner) (migration : Migration) (code : List Instruction) :
    Schedule (Halt UpgradeError) where
  errands := (.naming (.backend .beginTransaction) (.batch beginText)
    :: (Instruction.errands code
      ++ (Instruction.halt? code).elim (runner.closing migration) fun _ => [])).map .halting
  own := (Instruction.halt? code).map fun halt e => ∃ outcome, e = halt.joinRollback outcome

/-- A migration is begun, done, and then closed unless it stops of itself. -/
theorem schedule_rolledBack (code : List Instruction) :
    (Instruction.rolledBack code).schedule (some ⟨(runner.closing migration).map .halting, none⟩)
      = some ⟨(runner.assignment migration code).errands.tail,
          (runner.assignment migration code).own⟩ := by
  refine (Passing.schedule_joining _ _ _ _).trans ?_
  cases h : Instruction.halt? code <;> simp [assignment, h]

/-- Migrations that differ only in their routes.  The panic of a migration is not joined with
anything; the connection is shut. -/
theorem course_applyOne (halike : runner.Alike other) (hkey : migration'.key = migration.key)
    (h : terms.Permits (migration.instructions terms.files) (migration'.instructions terms.files)) :
    Course terms Halt.Tells
      (some (runner.assignment migration (migration.instructions terms.files)))
      (runner.applyOne migration) (other.applyOne migration') := by
  let code := migration.instructions terms.files
  show Course terms Halt.Tells
    (some ⟨[_] ++ (runner.assignment migration code).errands.tail,
      (runner.assignment migration code).own⟩) _ _
  refine .bind (Connection.course_begin.halted (fun _ => rfl) fun _ _ =>
    UpgradeError.tells_backend .beginTransaction) fun _ => ?_
  rw [← schedule_rolledBack code]
  refine .caught (Instruction.rolledBack code) (Migration.course_apply h)
    (fun _ => course_conclude halike hkey) (fun halt hreaches => ?_) fun hcalm halt hreaches => ?_
  · cases halt with
    | failure error =>
      exact Transaction.course_rolledBack (Halt.failure error).joinRollback fun _ _ =>
        UpgradeError.tells_joinRollback error
    | panic =>
      have hpanics := h.panics (Migration.panic_mem_of_reaches hreaches)
      exact (Transaction.course_abandon hpanics).andThen fun _ =>
        (Course.poison hpanics).andThen fun _ => .unscheduled (.fail Halt.panic)
  · cases halt with
    | failure error =>
      exact Transaction.surrenders_rolledBack (Halt.failure error).joinRollback
    | panic => exact absurd (h.panics (Migration.panic_mem_of_reaches hreaches)) hcalm

end Runner

/-! ## Runs -/

/-- The terms allow what two runners do that differ only in their routes. -/
structure Terms.Covers (terms : Terms) (runner other : Runner) : Prop where
  alike : runner.Alike other
  tells : ∀ route route' notice, runner.Speaks terms.files route notice →
    other.Speaks terms.files route' notice → terms.tells route route' notice
  raises : ∀ flag, terms.raises flag
  looks : terms.looks
  panics : ∀ migration ∈ runner.migrations,
    .stop .panic ∈ migration.instructions terms.files → terms.panics

namespace Terms.Covers

variable {runner other : Runner}

theorem tells_ofRun (h : terms.Covers runner other) (notice : Log.Notice) :
    terms.tells runner.route other.route notice :=
  h.tells _ _ _ (.ofRun notice) (.ofRun notice)

/-- What a run may do, its migrations may do. -/
theorem permits (h : terms.Covers runner other) {migration migration' : Migration}
    (hmem : migration ∈ runner.migrations) (hmem' : migration' ∈ other.migrations)
    (hsame : migration'.unlogged = migration.unlogged) :
    terms.Permits (migration.instructions terms.files) (migration'.instructions terms.files) where
  unlogged := by
    rw [← Migration.instructions_unlogged, ← Migration.instructions_unlogged, hsame]
  tells _ _ _ htell htell' := h.tells _ _ _ (.ofMigration hmem htell) (.ofMigration hmem' htell')
  raises flag _ := h.raises flag
  panics := h.panics migration hmem

end Terms.Covers

theorem Terms.covers_calm {files : Files} {runner : Runner}
    (hpanic : ∀ migration ∈ runner.migrations, .stop .panic ∉ migration.instructions files) :
    (calm files).Covers runner runner :=
  ⟨.refl runner, fun _ _ _ _ _ => trivial, fun _ => trivial, trivial, hpanic⟩

namespace Runner

variable {runner other : Runner}

theorem course_isCancelled {tells : ε → String → Prop} (h : terms.Covers runner other) :
    Course terms tells (some {}) (runner.isCancelled : Work Site ε Bool) other.isCancelled := by
  rw [isCancelled, isCancelled, h.alike.cancel]
  cases runner.cancel with
  | none => exact .pure false
  | some flag => exact .look h.looks flag

/-- Going through migrations that differ only in their routes. -/
theorem course_applyFrom (h : terms.Covers runner other) {migrations others : List Migration}
    (hmem : ∀ migration ∈ migrations, migration ∈ runner.migrations)
    (hmem' : ∀ migration ∈ others, migration ∈ other.migrations)
    (hsame : others.map Migration.unlogged = migrations.map Migration.unlogged)
    (resume : Option String) (report : Report) :
    Course terms Halt.Tells none (runner.applyFrom resume report migrations)
      (other.applyFrom resume report others) := by
  induction migrations generalizing others report with
  | nil =>
    obtain rfl : others = [] := List.map_eq_nil_iff.1 hsame
    exact .unscheduled (.pure report)
  | cons migration rest ih =>
    cases others with
    | nil => exact absurd hsame (by simp)
    | cons migration' rest' =>
      obtain ⟨hfirst, hrest⟩ := List.cons.inj hsame
      have hkey : migration'.key = migration.key := by
        rw [← migration'.key_unlogged, hfirst, migration.key_unlogged]
      rw [List.forall_mem_cons] at hmem hmem'
      have hgo := fun report => ih hmem.2 hmem'.2 hrest report
      rw [applyFrom, applyFrom, hkey]
      split
      · refine (course_isCancelled h).andThen fun cancelled => ?_
        cases cancelled with
        | true => exact .unscheduled (.fail _)
        | false =>
          have hone := course_applyOne h.alike hkey (h.permits hmem.1 hmem'.1 hfirst)
          refine (Course.log (h.tells_ofRun _)).andThen fun _ => hone.andThen fun _ => ?_
          exact (Course.log (h.tells_ofRun _)).andThen fun _ => hgo _
      · exact (Course.log (h.tells_ofRun _)).andThen fun _ => hgo _

/-- Runs of runners that differ only in their routes. -/
theorem course_run (h : terms.Covers runner other) :
    Course terms Halt.Tells none runner.run other.run := by
  have hplan : Course terms Halt.Tells none (runner.plan.mapError .failure)
      (other.plan.mapError .failure) :=
    (course_plan h.alike h.tells_ofRun).mapError_unscheduled fun _ _ htells => htells
  exact hplan.andThen fun plan => course_applyFrom h (fun _ hmem => hmem) (fun _ hmem => hmem)
    h.alike.migrations plan.resumePoint {}

end Runner

end SchemaUpgrade
