import SchemaUpgrade.Proofs.Stages
/-!
# Upgrades without their routes

A migration tells its steps on a route of its own, and a run speaks on the route of its runner.
Migrations that differ in nothing else have the same instructions up to the routes in them
(`Migration.instructions_unlogged`), so they have the same keys, in the same order, and two runners
that differ in nothing else can be compared migration by migration.

## Main definitions

* `Migration.unlogged`, `Runner.Alike`: migrations and runners without their routes.
* `Runner.Speaks`: who tells which notice on which route.
-/

namespace SchemaUpgrade

/-! ## Migrations without their routes -/

/-- An instruction without the route on which it tells something. -/
def Instruction.unlogged : Instruction → Instruction
  | .tell _ notice => .tell .ofProcess notice
  | instruction => instruction

/-- Instructions that differ only in their routes are the same, unless they tell something. -/
theorem Instruction.eq_or_tell_of_unlogged {instruction other : Instruction}
    (h : instruction.unlogged = other.unlogged) :
    instruction = other ∨ ∃ route route' notice,
      instruction = .tell route notice ∧ other = .tell route' notice := by
  cases instruction <;> cases other <;> simp_all [unlogged]

mutual

/-- A migration without the routes on which it tells its steps. -/
def Migration.unlogged : Migration → Migration
  | .script key sql _ => .script key sql .ofProcess
  | .file key path _ => .file key path .ofProcess
  | .program key actions => .program key (unloggedActions actions)

/-- An action without the routes on which it tells its steps. -/
def Action.unlogged : Action → Action
  | .stream source key _ => .stream source key .ofProcess
  | .apply migration => .apply migration.unlogged
  | .batch sql => .batch sql
  | .execute sql params => .execute sql params
  | .recordKey dialect id table => .recordKey dialect id table
  | .cancel flag => .cancel flag
  | .fail error => .fail error
  | .panic => .panic

/-- Actions without the routes on which they tell their steps. -/
def unloggedActions : List Action → List Action
  | [] => []
  | action :: rest => action.unlogged :: unloggedActions rest

end

@[simp] theorem Migration.key_unlogged (migration : Migration) :
    migration.unlogged.key = migration.key := by
  cases migration <;> rfl

theorem Script.instructions_unlogged (key : String) (route : Log.Route) (items : List Item)
    (index : Nat) :
    instructions key .ofProcess index items
      = (instructions key route index items).map Instruction.unlogged := by
  induction items generalizing index with
  | nil => rfl
  | cons item rest ih =>
    cases item with
    | error cause => rfl
    | ok batch =>
      rw [instructions, instructions, ih]
      rfl

mutual

/-- Without its routes, a migration has the same instructions without their routes. -/
theorem Migration.instructions_unlogged (files : Files) : (migration : Migration) →
    migration.unlogged.instructions files
      = (migration.instructions files).map Instruction.unlogged
  | .script key sql route => by
    rw [Migration.unlogged, Migration.instructions, Migration.instructions]
    exact Script.instructions_unlogged key route _ 0
  | .file key path route => by
    rw [Migration.unlogged, Migration.instructions, Migration.instructions]
    cases files.read path with
    | error cause => rfl
    | ok bytes => exact Script.instructions_unlogged key route _ 0
  | .program key actions => by
    rw [Migration.unlogged, Migration.instructions, Migration.instructions]
    exact instructionsOfActions_unlogged files key actions

theorem Action.instructions_unlogged (files : Files) (key : String) : (action : Action) →
    action.unlogged.instructions files key
      = (action.instructions files key).map Instruction.unlogged
  | .stream source streamKey route => by
    rw [Action.unlogged, Action.instructions, Action.instructions]
    exact Script.instructions_unlogged streamKey route _ 0
  | .apply migration => by
    rw [Action.unlogged, Action.instructions, Action.instructions]
    exact Migration.instructions_unlogged files migration
  | .batch sql => rfl
  | .execute sql params => rfl
  | .recordKey dialect id table => rfl
  | .cancel flag => rfl
  | .fail error => rfl
  | .panic => rfl

theorem instructionsOfActions_unlogged (files : Files) (key : String) :
    (actions : List Action) →
    instructionsOfActions files key (unloggedActions actions)
      = (instructionsOfActions files key actions).map Instruction.unlogged
  | [] => rfl
  | action :: rest => by
    rw [unloggedActions, instructionsOfActions, instructionsOfActions, List.map_append,
      Action.instructions_unlogged files key action,
      instructionsOfActions_unlogged files key rest]

end

/-! ## Runners without their routes -/

/-- Two runners that differ only in their routes and those of their migrations. -/
structure Runner.Alike (runner other : Runner) : Prop where
  dialect : other.dialect = runner.dialect
  migrations : other.migrations.map Migration.unlogged
    = runner.migrations.map Migration.unlogged
  tableName : other.tableName = runner.tableName
  cancel : other.cancel = runner.cancel

protected theorem Runner.Alike.refl (runner : Runner) : runner.Alike runner := ⟨rfl, rfl, rfl, rfl⟩

/-- Migrations that differ only in their routes have the same keys. -/
theorem map_key_of_unlogged {migrations others : List Migration}
    (h : others.map Migration.unlogged = migrations.map Migration.unlogged) :
    others.map Migration.key = migrations.map Migration.key := by
  have hkeys := congrArg (List.map Migration.key) h
  rw [List.map_map, List.map_map] at hkeys
  have hkey : Migration.key ∘ Migration.unlogged = Migration.key :=
    funext Migration.key_unlogged
  rwa [hkey] at hkeys

theorem Runner.Alike.keys {runner other : Runner} (h : runner.Alike other) :
    other.keys = runner.keys :=
  map_key_of_unlogged h.migrations

/-- Who tells what in a plan or a run, and on which route. -/
inductive Runner.Speaks (runner : Runner) (files : Files) : Log.Route → Log.Notice → Prop where
  /-- The run itself speaks on the route of the runner. -/
  | ofRun (notice : Log.Notice) : Speaks runner files runner.route notice
  /-- A migration tells its steps on a route of its own. -/
  | ofMigration {migration : Migration} {route : Log.Route} {notice : Log.Notice}
      (hmem : migration ∈ runner.migrations)
      (htell : .tell route notice ∈ migration.instructions files) :
      Speaks runner files route notice
  /-- A connection knows of no injected sink. -/
  | ofConnection (message : String) : Speaks runner files .ofProcess (.rollbackLost message)

end SchemaUpgrade
