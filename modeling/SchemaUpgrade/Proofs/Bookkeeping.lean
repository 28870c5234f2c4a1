import Mathlib.Data.List.Nodup
import SchemaUpgrade.Proofs.Stages
import SchemaUpgrade.Proofs.Templates
/-!
# The bookkeeping table

A runner with a built-in dialect reads its history from the table it was given, and records every
key in it.  When its migrations leave that table alone, the table grows by exactly the keys whose
changes are published, in the same order (`Runner.KeepsBooks.ids_performAll`), and because a key
that is recorded already is refused, the keys stay strictly ascending
(`Runner.KeepsBooks.ascending_append`).

## Main definitions

* `Runner.SparesBooks`, `Runner.KeepsBooks`: what a runner promises about the bookkeeping table.
-/

namespace SchemaUpgrade

open Engine

/-- A list of keys in strictly ascending order. -/
def Ascending (keys : List String) : Prop := keys.Pairwise (· < ·)

instance (keys : List String) : Decidable (Ascending keys) :=
  inferInstanceAs (Decidable (keys.Pairwise (· < ·)))

theorem Ascending.le {keys : List String} (h : Ascending keys) : keys.Pairwise (· ≤ ·) :=
  h.imp fun hlt => Std.le_of_lt hlt

theorem Ascending.nodup {keys : List String} (h : Ascending keys) : keys.Nodup :=
  h.imp fun hlt => String.ne_of_lt hlt

/-- Keys in ascending order, none of them twice, ascend strictly. -/
theorem ascending_of_le_of_nodup {keys : List String} (hle : keys.Pairwise (· ≤ ·))
    (hnodup : keys.Nodup) : Ascending keys :=
  (hle.and hnodup).imp fun ⟨hab, hne⟩ => Std.lt_of_le_of_ne hab hne

namespace Runner

variable {runner : Runner}

/-- The dialect of a runner is built in, and its migrations do not insert into the bookkeeping
table. -/
structure SparesBooks (runner : Runner) (files : Files) : Prop where
  dialect : ∃ vendor : Vendor, runner.dialect = vendor.dialect
  table : ∀ migration ∈ runner.migrations,
    ∀ statement ∈ Instruction.statements (migration.instructions files),
      statement.insertsInto runner.tableName = false

/-- The promises of a runner about its bookkeeping table: its migrations neither insert into it nor
open or end a transaction. -/
structure KeepsBooks (runner : Runner) (files : Files) : Prop extends
    SparesBooks runner files where
  control : ∀ migration ∈ runner.migrations,
    ∀ statement ∈ Instruction.statements (migration.instructions files),
      statement.isControl = false

/-! ## Built-in dialects -/

section BuiltIn

variable {vendor : Vendor}

theorem recorded_of_vendor (h : runner.dialect = vendor.dialect) (content : Content) :
    runner.recorded content = content.ids runner.tableName := by
  rw [recorded, h, vendor.queriedTable_applied runner.named]

theorem registration_of_vendor (h : runner.dialect = vendor.dialect) (migration : Migration) :
    ∃ sql, insertedTable sql = runner.tableName ∧
      runner.registration migration = .execute sql [migration.key] :=
  ⟨_, vendor.insertedTable_register runner.named, by rw [registration, h]⟩

theorem creation_of_vendor (h : runner.dialect = vendor.dialect) :
    runner.creation.isControl = false := by
  rw [creation, h]
  exact vendor.isControl_create runner.tableName

end BuiltIn

namespace KeepsBooks

variable {files : Files}

theorem plain (h : runner.KeepsBooks files) : runner.Plain files := by
  obtain ⟨vendor, hvendor⟩ := h.dialect
  exact ⟨creation_of_vendor hvendor, h.control⟩

theorem recorded (h : runner.KeepsBooks files) (content : Content) :
    runner.recorded content = content.ids runner.tableName := by
  obtain ⟨vendor, hvendor⟩ := h.dialect
  exact recorded_of_vendor hvendor content

/-- A change records one key, and it is refused if the key is recorded already. -/
theorem change_spec (h : runner.KeepsBooks files) {migration : Migration}
    (hmem : migration ∈ runner.migrations) (content : Content) :
    (content.performAll (runner.change files migration)).ids runner.tableName
        = content.ids runner.tableName ++ [migration.key] ∧
      (content.AdmitsAll (runner.change files migration) →
        migration.key ∉ content.ids runner.tableName) := by
  obtain ⟨vendor, hvendor⟩ := h.dialect
  obtain ⟨sql, htable, hregistration⟩ := registration_of_vendor hvendor migration
  have hkept := content.ids_performAll_of_not_insertsInto (h.table migration hmem)
  rw [change, hregistration]
  constructor
  · rw [Content.performAll_append, Content.performAll_cons, Content.performAll_nil, ← htable,
      Content.ids_perform_execute, htable, hkept]
    rfl
  · intro hadmits
    rw [Content.admitsAll_append, Content.admitsAll_cons] at hadmits
    have hnew : migration.key ∉ (content.performAll
        (Instruction.statements (migration.instructions files))).ids (insertedTable sql) :=
      hadmits.2.1
    rwa [htable, hkept] at hnew

theorem ids_performAll_changes (h : runner.KeepsBooks files) {migrations : List Migration}
    (hmem : ∀ migration ∈ migrations, migration ∈ runner.migrations) (content : Content) :
    (content.performAll (migrations.map (runner.change files)).flatten).ids runner.tableName
      = content.ids runner.tableName ++ migrations.map Migration.key := by
  induction migrations generalizing content with
  | nil => simp
  | cons migration rest ih =>
    rw [List.forall_mem_cons] at hmem
    rw [List.map_cons, List.flatten_cons, Content.performAll_append, ih hmem.2,
      (h.change_spec hmem.1 content).1, List.append_assoc, List.singleton_append, List.map_cons]

theorem nodup_of_admitsAll (h : runner.KeepsBooks files) {migrations : List Migration}
    (hmem : ∀ migration ∈ migrations, migration ∈ runner.migrations) {content : Content}
    (hadmits : content.AdmitsAll (migrations.map (runner.change files)).flatten)
    (hnodup : (content.ids runner.tableName).Nodup) :
    (content.ids runner.tableName ++ migrations.map Migration.key).Nodup := by
  induction migrations generalizing content with
  | nil => simpa using hnodup
  | cons migration rest ih =>
    rw [List.forall_mem_cons] at hmem
    rw [List.map_cons, List.flatten_cons, Content.admitsAll_append] at hadmits
    obtain ⟨hids, hnew⟩ := h.change_spec hmem.1 content
    have hone : (content.ids runner.tableName ++ [migration.key]).Nodup := by
      rw [← List.concat_eq_append]
      exact List.Nodup.concat (hnew hadmits.1) hnodup
    have hrest := ih hmem.2 hadmits.2 (by rwa [hids])
    rw [hids, List.append_assoc, List.singleton_append] at hrest
    rwa [List.map_cons]

end KeepsBooks

/-! ## Growing in order -/

/-- The keys of pending migrations are greater than every recorded key, and they ascend. -/
theorem recorded_append_pending_le {content : Content} {passed : List Migration}
    (hpassed : passed <+: runner.pendingOn content)
    (hascending : Ascending (runner.recorded content)) :
    (runner.recorded content ++ passed.map Migration.key).Pairwise (· ≤ ·) := by
  have hkeys : (passed.map Migration.key).Pairwise (· ≤ ·) := by
    rw [List.pairwise_map]
    exact runner.sorted_keys.sublist (hpassed.sublist.trans List.filter_sublist)
  refine List.pairwise_append.2 ⟨hascending.le, hkeys, fun a ha b hb => ?_⟩
  obtain ⟨migration, hmem, rfl⟩ := List.mem_map.1 hb
  have hpending := isPending_of_mem_pendingOn (hpassed.subset hmem)
  cases hlast : (runner.recorded content).getLast? with
  | none => exact absurd (List.getLast?_eq_none_iff.1 hlast) (List.ne_nil_of_mem ha)
  | some last =>
    have hbelow := History.le_of_getLast? hascending.le ha hlast
    have habove := History.isPending_getLast?_iff.1 hpending last hlast
    exact Std.le_of_lt (Std.lt_of_le_of_lt hbelow habove)

theorem created_within (runner : Runner) (site : Site) :
    runner.created site <+: [[runner.creation]] := by
  rw [created]
  split
  · exact List.prefix_rfl
  · exact List.nil_prefix

theorem ids_performAll_creation {front : List (List Statement)}
    (hfront : front <+: [[runner.creation]]) (content : Content) (table : String) :
    (content.performAll front.flatten).ids table = content.ids table := by
  refine content.ids_performAll_of_not_insertsInto fun statement hmem => ?_
  obtain ⟨group, hgroup, hstatement⟩ := List.mem_flatten.1 hmem
  obtain rfl := List.eq_of_mem_singleton (hfront.subset hgroup)
  obtain rfl := List.eq_of_mem_singleton hstatement
  rfl

namespace KeepsBooks

variable {files : Files} {content : Content} {front : List (List Statement)}
  {passed : List Migration}

/-- What a run publishes records the keys of the migrations that it passed, in order. -/
theorem ids_performAll (h : runner.KeepsBooks files) (hfront : front <+: [[runner.creation]])
    (hmem : ∀ migration ∈ passed, migration ∈ runner.migrations) (content : Content) :
    (content.performAll (front ++ passed.map (runner.change files)).flatten).ids runner.tableName
      = content.ids runner.tableName ++ passed.map Migration.key := by
  rw [List.flatten_append, Content.performAll_append, h.ids_performAll_changes hmem,
    ids_performAll_creation hfront]

/-- The recorded keys stay in strictly ascending order. -/
theorem ascending_append (h : runner.KeepsBooks files) (hfront : front <+: [[runner.creation]])
    (hpassed : passed <+: runner.pendingOn content)
    (hadmits : content.AdmitsAll (front ++ passed.map (runner.change files)).flatten)
    (hascending : Ascending (content.ids runner.tableName)) :
    Ascending (content.ids runner.tableName ++ passed.map Migration.key) := by
  have hmem : ∀ migration ∈ passed, migration ∈ runner.migrations := fun migration hin =>
    mem_of_mem_pendingOn (hpassed.subset hin)
  rw [List.flatten_append, Content.admitsAll_append] at hadmits
  have hids := ids_performAll_creation hfront content runner.tableName
  have hnodup := h.nodup_of_admitsAll hmem hadmits.2 (by rw [hids]; exact hascending.nodup)
  rw [hids] at hnodup
  rw [← h.recorded] at hascending hnodup ⊢
  exact ascending_of_le_of_nodup (recorded_append_pending_le hpassed hascending) hnodup

end KeepsBooks

/-! ## A runner that keeps its books -/

/-- Two programs under the first two keys, with a built-in dialect and the default table. -/
def twoSteps : Runner where
  dialect := Vendor.duckDb.dialect
  migrations := [.program "01" [.batch "CREATE TABLE a (id INT)"],
    .program "02" [.batch "DROP TABLE a"]]
  tableName := TableName.default
  sorted := by decide
  nonempty := by simp
  named := TableName.check_default

theorem twoSteps_keepsBooks (files : Files) : twoSteps.KeepsBooks files where
  dialect := ⟨.duckDb, rfl⟩
  control := by
    simp [twoSteps, Migration.instructions, instructionsOfActions, Action.instructions,
      Statement.isControl]
    decide
  table := by
    simp [twoSteps, Migration.instructions, instructionsOfActions, Action.instructions,
      Statement.insertsInto]

end Runner

end SchemaUpgrade
