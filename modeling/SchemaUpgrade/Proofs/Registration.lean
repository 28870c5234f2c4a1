import SchemaUpgrade.Proofs.Planning
import SchemaUpgrade.Proofs.Templates
/-!
# What one vendor registers, every vendor lists

The vendors quote the name of the bookkeeping table in four ways, and still all of them fill and
list the same table.  So a key that any of them registers is listed by any other one, behind those
that were registered before, and no other table is touched (`Vendor.registered_is_listed`).

Both sides are said of the table alone: a registration is refused if the table holds the key
already, and otherwise puts it at the end of the table (`Vendor.recordKey_of_held`,
`Vendor.recordKey_of_new`), and a listing answers what the table holds
(`Vendor.outcome_listApplied`).

## Main definitions

* `Vendor.Shares`: what a registration by one vendor means for a listing by another.
-/

namespace SchemaUpgrade.Vendor

open Engine

variable {table id : String} {site : Site} {content : Content}

/-! ## Listing -/

/-- Where the engine refuses nothing, a vendor lists what its table holds.  Only a poisoned
connection is in the way. -/
theorem outcome_listApplied (vendor : Vendor) (htable : TableName.check table = .ok ())
    (hfaults : site.faults = []) :
    (vendor.dialect.listApplied table site).outcome
      = if site.poisoned then .error .lockPoisoned
        else .ok (site.database.current.ids table) := by
  cases hpoisoned : site.poisoned with
  | true =>
    rw [Dialect.listApplied, Connection.column, Connection.lock_bind_of_poisoned hpoisoned]
    rfl
  | false =>
    rw [Dialect.listApplied_of_no_faults _ _ hfaults hpoisoned, Database.column,
      vendor.queriedTable_applied htable]
    rfl

/-! ## Registering -/

/-- A key that the table holds already is refused, and nothing changes. -/
theorem recordKey_of_held (vendor : Vendor) (htable : TableName.check table = .ok ())
    (hfaults : site.faults = []) (hheld : id ∈ site.database.current.ids table) :
    ∃ cause journal, vendor.dialect.recordKey id table site = ⟨.error cause, site, journal⟩ := by
  have hsent : vendor.dialect.recordKey id table
      = (Statement.execute (Dialect.render vendor.dialect.register table) [id]).send := rfl
  rw [← vendor.insertedTable_register htable] at hheld
  rw [hsent]
  exact ⟨_, _, Statement.send_of_duplicate hfaults hheld⟩

/-- A key that is new to the table is put at its end, in the private copy of the transaction. -/
theorem recordKey_of_new (vendor : Vendor) (htable : TableName.check table = .ok ())
    (hfaults : site.faults = []) (hopen : site.database.working = some content)
    (hnew : id ∉ content.ids table) :
    ∃ journal, vendor.dialect.recordKey id table site
      = ⟨.ok (), { site with
          database := { site.database with working := some (content.insert table id) } },
        journal⟩ := by
  let statement : Statement := .execute (Dialect.render vendor.dialect.register table) [id]
  have hinto := vendor.insertedTable_register htable
  have hadmits : content.Admits statement := by
    rw [← hinto] at hnew
    exact hnew
  have hperform : content.perform statement = content.insert table id := by
    rw [Content.perform, hinto]
    rfl
  have hcarry := Statement.carryOut_of_admits hopen rfl hadmits
  rw [hperform] at hcarry
  have hsent : vendor.dialect.recordKey id table = statement.send := rfl
  rw [hsent]
  exact ⟨_, Statement.send_of_no_faults hfaults hcarry⟩

/-! ## Registering and listing -/

/-- What a registration of `id` by `vendor` means for a listing by `other`.  Before it, the table
holds what the open transaction sees in it. -/
structure Shares (vendor other : Vendor) (table id : String) (site : Site) : Prop where
  fails_iff : (∃ cause, (vendor.dialect.recordKey id table site).outcome = .error cause) ↔
    id ∈ site.database.current.ids table
  unchanged : id ∈ site.database.current.ids table →
    (vendor.dialect.recordKey id table site).state = site
  appended : id ∉ site.database.current.ids table →
    (vendor.dialect.recordKey id table site).state.database.current.ids table
      = site.database.current.ids table ++ [id]
  elsewhere : id ∉ site.database.current.ids table → ∀ name ≠ table,
    (vendor.dialect.recordKey id table site).state.database.current.ids? name
      = site.database.current.ids? name
  /-- The commit behind the registration succeeds.  After it, the table is listed with the key at
  its end, and every other one as before. -/
  listed : id ∉ site.database.current.ids table → ∃ ended journal,
    Transaction.commit (vendor.dialect.recordKey id table site).state
      = ⟨.ok (), ended, journal⟩ ∧
    (site.poisoned = false →
      (other.dialect.listApplied table site).outcome = .ok (site.database.current.ids table) ∧
      (other.dialect.listApplied table ended).outcome
        = .ok (site.database.current.ids table ++ [id])) ∧
    ∀ name, TableName.check name = .ok () → name ≠ table →
      (other.dialect.listApplied name ended).outcome
        = (other.dialect.listApplied name site).outcome

theorem shares_of_held (vendor other : Vendor) (htable : TableName.check table = .ok ())
    (hfaults : site.faults = []) (hheld : id ∈ site.database.current.ids table) :
    vendor.Shares other table id site := by
  obtain ⟨cause, journal, hrefused⟩ := vendor.recordKey_of_held htable hfaults hheld
  exact {
    fails_iff := iff_of_true ⟨cause, by rw [hrefused]⟩ hheld
    unchanged := fun _ => by rw [hrefused]
    appended := fun hnew => absurd hheld hnew
    elsewhere := fun hnew => absurd hheld hnew
    listed := fun hnew => absurd hheld hnew }

/-- What is listed once a key was put at the end of a table and published. -/
theorem outcome_listApplied_inserted (other : Vendor) {name : String}
    (hname : TableName.check name = .ok ()) (hfaults : site.faults = []) (content : Content)
    (table id : String) :
    (other.dialect.listApplied name
        { site with database := { committed := content.insert table id } }).outcome
      = if site.poisoned then .error .lockPoisoned
        else .ok (if name = table then content.ids table ++ [id] else content.ids name) := by
  let ended : Site := { site with database := { committed := content.insert table id } }
  have hended : ended.database.current = content.insert table id := rfl
  have hfaults' : ended.faults = [] := hfaults
  rw [other.outcome_listApplied hname hfaults', hended, Content.ids_insert]

theorem shares_of_new (vendor other : Vendor) (htable : TableName.check table = .ok ())
    (hfaults : site.faults = []) (hopen : site.database.working = some content)
    (hnew : id ∉ content.ids table) : vendor.Shares other table id site := by
  obtain ⟨journal, hrecorded⟩ := vendor.recordKey_of_new htable hfaults hopen hnew
  have hcurrent : site.database.current = content := by
    rw [Database.current, hopen, Option.getD_some]
  refine {
    fails_iff := ?_
    unchanged := fun hheld => absurd (hcurrent ▸ hheld) hnew
    appended := fun _ => ?_
    elsewhere := fun _ name hname => ?_
    listed := fun _ => ?_ }
  · rw [hcurrent, hrecorded]
    exact iff_of_false (by simp) hnew
  · rw [hcurrent, hrecorded]
    exact (content.ids_insert table id table).trans (if_pos rfl)
  · rw [hcurrent, hrecorded]
    exact (content.ids?_insert table id name).trans (if_neg hname)
  · rw [hcurrent, hrecorded]
    refine ⟨{ site with database := { committed := content.insert table id } }, _,
      Transaction.commit_of_no_faults hfaults rfl, fun hsound => ⟨?_, ?_⟩, fun name hname hne => ?_⟩
    · rw [other.outcome_listApplied htable hfaults, hcurrent, hsound]
      rfl
    · rw [other.outcome_listApplied_inserted htable hfaults, hsound, if_pos rfl]
      rfl
    · rw [other.outcome_listApplied_inserted hname hfaults,
        other.outcome_listApplied hname hfaults, hcurrent, if_neg hne]

/-- What any vendor registers in an open transaction, any vendor lists after the commit. -/
theorem registered_is_listed (vendor other : Vendor) (htable : TableName.check table = .ok ())
    (id : String) (hopen : site.database.inTransaction = true) (hfaults : site.faults = []) :
    vendor.Shares other table id site := by
  obtain ⟨content, hworking⟩ := Option.isSome_iff_exists.1 hopen
  by_cases hheld : id ∈ site.database.current.ids table
  · exact vendor.shares_of_held other htable hfaults hheld
  · have hcurrent : site.database.current = content := by
      rw [Database.current, hworking, Option.getD_some]
    exact vendor.shares_of_new other htable hfaults hworking (hcurrent ▸ hheld)

/-- A table whose name is the word in front of it, in brackets and in back quotes. -/
theorem registered_is_listed_intoInto :
    let site : Site := { database := {
      committed := {}, working := some { tables := [("FROM", ["07"]), ("INTO", ["01"])] } } }
    TableName.check "INTO" = .ok () ∧ site.database.inTransaction = true ∧ site.faults = [] ∧
      "02" ∉ site.database.current.ids "INTO" ∧
      Dialect.render Vendor.mssql.dialect.register "INTO" = "INSERT INTO [INTO] (id) VALUES (@p1)" ∧
      Dialect.render Vendor.mysql.dialect.applied "INTO"
        = "SELECT id FROM \x60INTO\x60 ORDER BY create_ts ASC" ∧
      Vendor.mssql.Shares .mysql "INTO" "02" site := by
  intro site
  have htable : TableName.check "INTO" = .ok () := by rfl
  exact ⟨htable, rfl, rfl, by decide, by decide +kernel, by decide +kernel,
    registered_is_listed .mssql .mysql htable "02" rfl rfl⟩

end SchemaUpgrade.Vendor
