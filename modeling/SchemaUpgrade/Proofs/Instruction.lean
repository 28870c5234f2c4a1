import SchemaUpgrade.Migration
import SchemaUpgrade.Proofs.Statement
/-!
# The linear form of a migration

A script is a list of items, and a program may hold scripts and further migrations.  Whatever its
shape, applying a migration comes down to a list of *instructions*, done in order up to the first
that fails: send a statement, tell a notice, set a cancel flag, or stop.

`Migration.apply_eq_runAll` states that applying a migration is running its instructions.  What
holds of every migration is then proved by one induction over a list.

## Main definitions

* `Instruction`, `Instruction.run`, `Instruction.runAll`.
* `Migration.instructions`: the linear form of a migration, which depends on the files.
* `Instruction.statements`: the statements among instructions.
* `Site.Frame`: what work inside a transaction leaves alone.
-/

namespace SchemaUpgrade

open Text (ByteStream)

/-! ## Instructions -/

/-- On whose behalf a statement is sent; it words the error if the statement fails. -/
inductive Sender where
  /-- Batch number `index` of the script `key`. -/
  | script (key : String) (index : Nat)
  /-- The program `key`. -/
  | program (key : String)
  deriving DecidableEq, Repr, Inhabited

/-- The error of a statement that failed. -/
def Sender.error (cause : DatabaseError) : Sender → UpgradeError
  | .script key index => .step key index cause
  | .program key => .apply key cause.message

/-- A single step of a migration. -/
inductive Instruction where
  /-- Sends a statement. -/
  | send (statement : Statement) (sender : Sender)
  /-- Tells a notice. -/
  | tell (route : Log.Route) (notice : Log.Notice)
  /-- Sets a cancel flag. -/
  | raise (flag : CancelFlag)
  /-- Fails or panics. -/
  | stop (halt : Halt UpgradeError)
  deriving Inhabited

namespace Instruction

/-- Does an instruction. -/
def run : Instruction → Work Site (Halt UpgradeError) Unit
  | .send statement sender => statement.send.mapError fun cause => .failure (sender.error cause)
  | .tell route notice => Site.log route notice
  | .raise flag => Site.raise flag
  | .stop halt => Work.fail halt

/-- Does instructions in order, up to the first that fails. -/
def runAll : List Instruction → Work Site (Halt UpgradeError) Unit
  | [] => pure ()
  | instruction :: rest => do
    instruction.run
    runAll rest

/-- The statement that an instruction sends, if it sends one. -/
def statement? : Instruction → Option Statement
  | .send statement _ => some statement
  | _ => none

/-- The flag that an instruction sets, if it sets one. -/
def flag? : Instruction → Option CancelFlag
  | .raise flag => some flag
  | _ => none

/-- Whether an instruction ends the work whatever the database says. -/
def isStop : Instruction → Bool
  | .stop _ => true
  | _ => false

/-- The statements among instructions. -/
def statements (code : List Instruction) : List Statement := code.filterMap statement?

/-- The flags that instructions set. -/
def flags (code : List Instruction) : List CancelFlag := code.filterMap flag?

@[simp] theorem statements_nil : statements [] = [] := rfl

@[simp] theorem statements_cons_send (statement : Statement) (sender : Sender)
    (rest : List Instruction) :
    statements (.send statement sender :: rest) = statement :: statements rest := rfl

@[simp] theorem statements_cons_tell (route : Log.Route) (notice : Log.Notice)
    (rest : List Instruction) : statements (.tell route notice :: rest) = statements rest := rfl

@[simp] theorem statements_cons_raise (flag : CancelFlag) (rest : List Instruction) :
    statements (.raise flag :: rest) = statements rest := rfl

@[simp] theorem statements_cons_stop (halt : Halt UpgradeError) (rest : List Instruction) :
    statements (.stop halt :: rest) = statements rest := rfl

@[simp] theorem flags_cons_raise (flag : CancelFlag) (rest : List Instruction) :
    flags (.raise flag :: rest) = flag :: flags rest := rfl

@[simp] theorem statements_append (first second : List Instruction) :
    statements (first ++ second) = statements first ++ statements second := by
  simp [statements]

theorem runAll_append (first second : List Instruction) :
    runAll (first ++ second) = runAll first >>= fun _ => runAll second := by
  induction first with
  | nil => rw [List.nil_append, runAll, pure_bind]
  | cons instruction rest ih => rw [List.cons_append, runAll, runAll, ih, bind_assoc]

/-! ### The first instruction of a list -/

section First

variable {statement : Statement} {sender : Sender} {rest : List Instruction} {site after : Site}
  {journal : Journal}

theorem runAll_send_of_error {cause : DatabaseError}
    (h : statement.send site = ⟨.error cause, after, journal⟩) :
    runAll (.send statement sender :: rest) site
      = ⟨.error (.failure (sender.error cause)), after, journal⟩ :=
  Work.bind_of_error (Work.mapError_of_error h)

theorem runAll_send_of_ok (h : statement.send site = ⟨.ok (), after, journal⟩) :
    runAll (.send statement sender :: rest) site
      = ⟨(runAll rest after).outcome, (runAll rest after).state,
          journal ++ (runAll rest after).journal⟩ :=
  Work.bind_of_ok (Work.mapError_of_ok h)

theorem runAll_tell (route : Log.Route) (notice : Log.Notice) :
    runAll (.tell route notice :: rest) site
      = ⟨(runAll rest site).outcome, (runAll rest site).state,
          (site.logging.deliver route notice).toList.map .logged
            ++ (runAll rest site).journal⟩ := rfl

theorem runAll_raise (flag : CancelFlag) :
    runAll (.raise flag :: rest) site
      = runAll rest { site with raised := flag :: site.raised } := rfl

theorem runAll_stop (halt : Halt UpgradeError) :
    runAll (.stop halt :: rest) site = ⟨.error halt, site, []⟩ := rfl

end First

end Instruction

/-! ## What instructions leave alone -/

/-- Two sites that differ at most in the database, the faults and the flags that are set. -/
structure Site.Frame (before after : Site) : Prop where
  surroundings : after.toSurroundings = before.toSurroundings
  arriving : after.arriving = before.arriving
  poisoned : after.poisoned = before.poisoned

namespace Site.Frame

variable {first second third : Site}

protected theorem refl (site : Site) : Frame site site := ⟨rfl, rfl, rfl⟩

protected theorem trans (h : Frame first second) (h' : Frame second third) : Frame first third :=
  ⟨h'.surroundings.trans h.surroundings, h'.arriving.trans h.arriving,
    h'.poisoned.trans h.poisoned⟩

theorem files (h : Frame first second) : second.files = first.files := by
  rw [h.surroundings]

end Site.Frame

theorem Statement.send_frame (statement : Statement) (site : Site) :
    site.Frame (statement.send site).state := by
  rcases statement.send_cases site with
    ⟨message, faults, hsend⟩ | ⟨database, faults, -, hsend⟩ <;>
  · rw [hsend]
    exact ⟨rfl, rfl, rfl⟩

namespace Instruction

theorem run_frame (instruction : Instruction) (site : Site) :
    site.Frame (instruction.run site).state := by
  cases instruction with
  | send statement sender => exact statement.send_frame site
  | tell route notice => exact .refl site
  | raise flag => exact ⟨rfl, rfl, rfl⟩
  | stop halt => exact .refl site

theorem runAll_frame (code : List Instruction) (site : Site) :
    site.Frame (runAll code site).state := by
  induction code generalizing site with
  | nil => exact .refl site
  | cons instruction rest ih =>
    have hfirst := instruction.run_frame site
    rcases Work.bind_cases instruction.run (fun _ => runAll rest) site with
      ⟨e, t, journal, hrun, hbind⟩ | ⟨a, t, journal, hrun, hbind⟩
    · rw [hrun] at hfirst
      rw [runAll, hbind]
      exact hfirst
    · rw [hrun] at hfirst
      rw [runAll, hbind]
      exact hfirst.trans (ih t)

end Instruction

/-! ## Linear forms -/

/-- The instructions of a script from item number `index` on. -/
def Script.instructions (key : String) (route : Log.Route) (index : Nat) :
    List Item → List Instruction
  | [] => []
  | .error cause :: _ => [.stop (.failure (.unreadable key cause))]
  | .ok batch :: rest =>
    .tell route (.step key index) :: .send (.batch batch) (.script key index)
      :: instructions key route (index + 1) rest

/-- The instructions of a stream as the script of the migration `key`. -/
def Script.instructionsOf (stream : ByteStream) (key : String) (route : Log.Route) :
    List Instruction :=
  instructions key route 0 (items stream)

mutual

/-- The instructions of a migration. -/
def Migration.instructions (files : Files) : Migration → List Instruction
  | .script key sql route => Script.instructionsOf (.ofString sql) key route
  | .file key path route =>
    match files.read path with
    | .error cause => [.stop (.failure (.unreadable key cause))]
    | .ok bytes => Script.instructionsOf { bytes := bytes } key route
  | .program key actions => instructionsOfActions files key actions

/-- The instructions of an action of the program `key`. -/
def Action.instructions (files : Files) (key : String) : Action → List Instruction
  | .batch sql => [.send (.batch sql) (.program key)]
  | .execute sql params => [.send (.execute sql params) (.program key)]
  | .recordKey dialect id table =>
    [.send (.execute (Dialect.render dialect.register table) [id]) (.program key)]
  | .stream source streamKey route => Script.instructionsOf source streamKey route
  | .apply migration => migration.instructions files
  | .cancel flag => [.raise flag]
  | .fail error => [.stop (.failure error)]
  | .panic => [.stop .panic]

/-- The instructions of the actions of the program `key`. -/
def instructionsOfActions (files : Files) (key : String) : List Action → List Instruction
  | [] => []
  | action :: rest => action.instructions files key ++ instructionsOfActions files key rest

end

mutual

/-- What the directories list has no part in the instructions of a migration. -/
theorem Migration.instructions_congr {files files' : Files} (h : files.read = files'.read) :
    (migration : Migration) → migration.instructions files = migration.instructions files'
  | .script key sql route => by rw [Migration.instructions, Migration.instructions]
  | .file key path route => by rw [Migration.instructions, Migration.instructions, h]
  | .program key actions => by
    rw [Migration.instructions, Migration.instructions, instructionsOfActions_congr h key actions]

theorem Action.instructions_congr {files files' : Files} (h : files.read = files'.read)
    (key : String) : (action : Action) →
    action.instructions files key = action.instructions files' key
  | .apply migration => by
    rw [Action.instructions, Action.instructions, Migration.instructions_congr h migration]
  | .batch sql => rfl
  | .execute sql params => rfl
  | .recordKey dialect id table => rfl
  | .stream source streamKey route => rfl
  | .cancel flag => rfl
  | .fail error => rfl
  | .panic => rfl

theorem instructionsOfActions_congr {files files' : Files} (h : files.read = files'.read)
    (key : String) : (actions : List Action) →
    instructionsOfActions files key actions = instructionsOfActions files' key actions
  | [] => rfl
  | action :: rest => by
    rw [instructionsOfActions, instructionsOfActions, Action.instructions_congr h key action,
      instructionsOfActions_congr h key rest]

end

/-! ## Applying a migration is running its instructions -/

theorem Instruction.runAll_singleton (instruction : Instruction) :
    runAll [instruction] = instruction.run := by
  rw [runAll, runAll]
  exact bind_pure instruction.run

theorem Script.executeItems_eq_runAll (key : String) (route : Log.Route) (items : List Item)
    (index : Nat) :
    executeItems key route index items
      = Instruction.runAll (instructions key route index items) := by
  induction items generalizing index with
  | nil => rfl
  | cons item rest ih =>
    cases item with
    | error cause =>
      rw [instructions, Instruction.runAll_singleton]
      rfl
    | ok batch =>
      rw [executeItems, ih, instructions, Instruction.runAll, Instruction.runAll]
      rfl

theorem Script.execute_eq_runAll (stream : ByteStream) (key : String) (route : Log.Route) :
    execute stream key route = Instruction.runAll (instructionsOf stream key route) :=
  executeItems_eq_runAll key route (items stream) 0

/-- The files that a script is read from are those of the site where it is applied. -/
theorem executeFile_eq_runAll (key path : String) (route : Log.Route) (site : Site) :
    executeFile key path route site
      = Instruction.runAll ((Migration.file key path route).instructions site.files) site := by
  rw [executeFile, Work.bind_of_ok (Work.state_apply site)]
  simp only [Migration.instructions]
  cases site.files.read path with
  | error cause => rw [Instruction.runAll_singleton]; rfl
  | ok bytes => exact congrFun (Script.execute_eq_runAll { bytes := bytes } key route) site

mutual

/-- Applying a migration is running its instructions. -/
theorem Migration.apply_eq_runAll (site : Site) : (migration : Migration) →
    migration.apply site = Instruction.runAll (migration.instructions site.files) site
  | .script key sql route => by
    rw [Migration.apply, Migration.instructions, Script.execute_eq_runAll]
  | .file key path route => by
    rw [Migration.apply, executeFile_eq_runAll]
  | .program key actions => by
    rw [Migration.apply, Migration.instructions]
    exact runActions_eq_runAll key site actions

/-- An action does what its instructions do; what it answers is left aside. -/
theorem Action.run_eq_runAll (key : String) (site : Site) : (action : Action) →
    (action.run key >>= fun _ => (pure () : Work Site (Halt UpgradeError) Unit)) site
      = Instruction.runAll (action.instructions site.files key) site
  | .batch sql => by
    rw [Action.run, Action.instructions, Instruction.runAll_singleton, bind_assoc]
    simp only [pure_bind, bind_pure_unit]
    rfl
  | .execute sql params => by
    rw [Action.run, Action.instructions, Instruction.runAll_singleton, bind_assoc]
    simp only [pure_bind, Instruction.run, Statement.send, Work.mapError_bind, Work.mapError_pure]
    rfl
  | .recordKey dialect id table => by
    rw [Action.run, Action.instructions, Instruction.runAll_singleton, bind_assoc]
    simp only [pure_bind, bind_pure_unit]
    rfl
  | .stream source streamKey route => by
    rw [Action.run, Action.instructions, ← Script.execute_eq_runAll, bind_assoc]
    simp only [pure_bind, bind_pure_unit]
  | .apply migration => by
    rw [Action.run, Action.instructions, ← Migration.apply_eq_runAll site migration, bind_assoc]
    simp only [pure_bind, bind_pure_unit]
  | .cancel flag => by
    rw [Action.run, Action.instructions, Instruction.runAll_singleton, bind_assoc]
    simp only [pure_bind, bind_pure_unit]
    rfl
  | .fail error => by
    rw [Action.run, Action.instructions, Instruction.runAll_singleton]
    rfl
  | .panic => by
    rw [Action.run, Action.instructions, Instruction.runAll_singleton]
    rfl

/-- The actions of a program do what their instructions do. -/
theorem runActions_eq_runAll (key : String) (site : Site) : (actions : List Action) →
    runActions key actions site
      = Instruction.runAll (instructionsOfActions site.files key actions) site
  | [] => by
    rw [runActions, instructionsOfActions, Instruction.runAll]
  | action :: rest => by
    have haction := Action.run_eq_runAll key site action
    have hrest : ∀ after : Site, after.files = site.files → runActions key rest after
        = Instruction.runAll (instructionsOfActions site.files key rest) after :=
      fun after hfiles => hfiles ▸ runActions_eq_runAll key after rest
    rw [runActions, instructionsOfActions, Instruction.runAll_append]
    calc (action.run key >>= fun _ => runActions key rest) site
        = ((action.run key >>= fun _ => pure ()) >>= fun _ => runActions key rest) site := by
          rw [bind_assoc]
          simp only [pure_bind]
      _ = (Instruction.runAll (action.instructions site.files key)
            >>= fun _ => runActions key rest) site := Work.bind_congr_left haction
      _ = _ := Work.bind_congr_right fun _ _ =>
          hrest _ (Instruction.runAll_frame _ site).files

end

end SchemaUpgrade
