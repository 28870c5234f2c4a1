import SchemaUpgrade.Proofs.Bookkeeping
/-!
# Sessions of plans and runs

A session is a sequence of calls, plans and runs of any runners, that work on one database one
after another.  Everything else that a call meets is its own: other files, other faults of the
engine, other cancellations, another state of the connection.  Nothing is assumed of the database
between the calls either: a rollback that failed leaves a transaction open for all that follow.

If the bookkeeping table starts empty and every runner keeps its books, every call adds the keys of
some of its migrations to the table and commits exactly the changes of those
(`Visit.account_of_split`).  The table stays in strictly ascending order all along, so no change is
ever committed twice.

## Main definitions

* `Visit`, `Visit.perform`, `Visit.performAll`: a call, and what calls make of a database.
* `Visit.Account`: what one call did to the books.
-/

namespace SchemaUpgrade

open Engine

/-- What a runner is asked to do. -/
inductive Request where
  | plan
  | run
  deriving DecidableEq, Repr, Inhabited

/-- A call of a runner, and everything that it meets besides the database. -/
structure Visit where
  runner : Runner
  request : Request
  /-- What the call can see; the database of this site is left aside. -/
  around : Site

namespace Visit

/-- The site where a call starts on a database. -/
def site (visit : Visit) (db : Database) : Site := { visit.around with database := db }

/-- The database and the journal that a call leaves. -/
def perform (visit : Visit) (db : Database) : Database × Journal :=
  match visit.request with
  | .plan =>
    let done := visit.runner.plan (visit.site db)
    (done.state.database, done.journal)
  | .run =>
    let done := visit.runner.run (visit.site db)
    (done.state.database, done.journal)

/-- The database that calls leave, one after another. -/
def performAll (db : Database) (visits : List Visit) : Database :=
  visits.foldl (fun db visit => (visit.perform db).1) db

/-- The call keeps the books of the table. -/
structure Keeps (visit : Visit) (table : String) : Prop where
  books : visit.runner.KeepsBooks visit.around.files
  table : visit.runner.tableName = table

/-- The account of a call on a database, which applied some migrations of its runner. -/
structure Account (visit : Visit) (table : String) (db : Database) (applied : List Migration) :
    Prop where
  /-- They are migrations of the runner, in its order. -/
  configured : applied.Sublist visit.runner.migrations
  /-- Their keys, and no others, were added to the table, behind those recorded before. -/
  recorded : (visit.perform db).1.committed.ids table
    = db.committed.ids table ++ applied.map Migration.key
  /-- Their changes, and nothing else, were committed, in the same order, after the creating
  statement if its transaction was committed. -/
  committed : (visit.perform db).1.committed
    = db.committed.performAll ((visit.runner.created (visit.site db)).flatten
        ++ applied.flatMap (visit.runner.change visit.around.files))
  /-- The table is in strictly ascending order. -/
  ascending : Ascending ((visit.perform db).1.committed.ids table)
  /-- The journal tells the database that the call leaves. -/
  replayed : db.replay (visit.perform db).2 = (visit.perform db).1
  /-- Everything committed on the way is the content after some of the first changes, and the
  table is in strictly ascending order there too. -/
  along : ∀ seen, seen <+: (visit.perform db).2 →
    db.committed.Staged (visit.runner.created (visit.site db)
        ++ applied.map (visit.runner.change visit.around.files)) (db.replay seen).committed ∧
      db.committed.ids table <+: (db.replay seen).committed.ids table ∧
      Ascending ((db.replay seen).committed.ids table)
  /-- The history check found the recorded keys in order. -/
  sorted : ∀ previous next,
    History.resumePoint visit.runner.keys (db.committed.ids table)
        ≠ .error (.unsorted previous next) ∧
      (visit.runner.plan (visit.site db)).outcome ≠ .error (.history (.unsorted previous next))

variable {visit : Visit} {table : String} {db : Database}

/-! ## One call -/

/-- A call on a database with an open transaction leaves it as it is. -/
theorem perform_of_inTransaction (visit : Visit) (hopen : db.inTransaction = true) :
    (visit.perform db).1 = db ∧
      db.Trace (· = db.committed) (visit.perform db).2 (visit.perform db).1 := by
  have hopen' : (visit.site db).database.inTransaction = true := hopen
  rw [perform]
  cases visit.request with
  | plan =>
    obtain ⟨-, cause, after, journal, hplan, hafter, htrace⟩ :=
      visit.runner.plan_of_inTransaction hopen'
    rw [hplan]
    exact ⟨hafter, htrace⟩
  | run =>
    obtain ⟨error, after, journal, hrun, hafter, htrace⟩ :=
      visit.runner.run_of_inTransaction hopen'
    rw [hrun]
    exact ⟨hafter, htrace⟩

/-- A call advances what is committed by the changes of the first pending migrations. -/
theorem perform_advances (h : visit.Keeps table) (db : Database) :
    ∃ applied, applied <+: visit.runner.pendingOn db.committed ∧
      db.Advances (visit.perform db).2 (visit.perform db).1
        (visit.runner.created (visit.site db)
          ++ applied.map (visit.runner.change visit.around.files)) := by
  have hplain : visit.runner.Plain (visit.site db).files := h.books.plain
  cases hworking : db.working with
  | some content =>
    have hopen : (visit.site db).database.inTransaction = true := by
      rw [site, Database.inTransaction, hworking]
      rfl
    obtain ⟨hcreated, -⟩ := visit.runner.plan_of_inTransaction hopen
    refine ⟨[], List.nil_prefix, ?_⟩
    rw [hcreated, List.map_nil, List.append_nil]
    exact .nothing (visit.perform_of_inTransaction hopen).2
  | none =>
    have hidle : (visit.site db).database.working = none := hworking
    rw [perform]
    cases visit.request with
    | plan =>
      refine ⟨[], List.nil_prefix, ?_⟩
      rw [List.map_nil, List.append_nil]
      rcases Runner.plan_cases hidle hplain.creation with
        ⟨error, after, journal, hplan, -, hpublishes, -⟩ |
        ⟨plan, after, journal, hplan, -, -, hpublishes, -⟩
      · rw [hplan]
        exact hpublishes.toAdvances
      · rw [hplan]
        exact hpublishes.toAdvances
    | run =>
      obtain ⟨applied, happlied, -, hpublishes⟩ := Runner.run_publishes hplain hidle
      exact ⟨applied, happlied, hpublishes.toAdvances⟩

theorem plan_ne_unsorted (h : visit.Keeps table) (hascending : Ascending (db.committed.ids table))
    (previous next : String) :
    (visit.runner.plan (visit.site db)).outcome ≠ .error (.history (.unsorted previous next)) := by
  intro hunsorted
  cases hworking : db.working with
  | some content =>
    have hopen : (visit.site db).database.inTransaction = true := by
      rw [site, Database.inTransaction, hworking]
      rfl
    obtain ⟨-, cause, after, journal, hplan, -⟩ :=
      visit.runner.plan_of_inTransaction hopen
    rw [hplan] at hunsorted
    exact absurd hunsorted (by simp)
  | none =>
    have hidle : (visit.site db).database.working = none := hworking
    rcases Runner.plan_cases hidle h.books.plain.creation with
      ⟨error, after, journal, hplan, -, -, herror⟩ | ⟨plan, after, journal, hplan, -⟩
    · rw [hplan] at hunsorted
      obtain rfl := Except.error.inj hunsorted
      cases herror with
      | history hresume =>
        have hrecorded : visit.runner.recorded (visit.site db).database.committed
            = db.committed.ids table := by
          rw [h.books.recorded, h.table]
          rfl
        rw [hrecorded] at hresume
        exact History.resumePoint_ne_unsorted hascending.le previous next hresume
    · rw [hplan] at hunsorted
      exact absurd hunsorted (by simp)

/-- A call on a table in strictly ascending order has an account. -/
theorem exists_account (h : visit.Keeps table) (hascending : Ascending (db.committed.ids table)) :
    ∃ applied, visit.Account table db applied := by
  obtain ⟨applied, happlied, hadvances⟩ := perform_advances h db
  obtain ⟨hbooks, rfl⟩ := h
  have hcreated := visit.runner.created_within (visit.site db)
  have hmem : ∀ migration ∈ applied, migration ∈ visit.runner.migrations := fun migration hin =>
    Runner.mem_of_mem_pendingOn (happlied.subset hin)
  have hall := hbooks.ascending_append hcreated happlied hadvances.admits hascending
  have hrecorded : (visit.perform db).1.committed.ids visit.runner.tableName
      = db.committed.ids visit.runner.tableName ++ applied.map Migration.key := by
    rw [hadvances.committed, hbooks.ids_performAll hcreated hmem]
  refine ⟨applied, ?_, hrecorded, ?_, ?_, hadvances.trace.replay, fun seen hseen => ?_,
    fun previous next => ⟨?_, ?_⟩⟩
  · exact happlied.sublist.trans List.filter_sublist
  · rw [hadvances.committed, List.flatten_append]
    rfl
  · rw [hrecorded]
    exact hall
  · have hstaged := hadvances.trace.along seen hseen
    refine ⟨hstaged, ?_⟩
    obtain ⟨groups, hgroups, hcontent⟩ := hstaged
    -- A beginning of what was published is a beginning of each of its two parts.
    rw [List.prefix_iff_eq_take.1 hgroups, List.take_append, ← List.map_take] at hcontent
    have hfront := (List.take_prefix groups.length _).trans hcreated
    rw [hcontent, hbooks.ids_performAll hfront fun migration hin =>
      hmem migration (List.mem_of_mem_take hin)]
    refine ⟨List.prefix_append _ _, hall.sublist ?_⟩
    exact ((List.prefix_append_right_inj _).2 ((List.take_prefix _ _).map _)).sublist
  · exact History.resumePoint_ne_unsorted hascending.le previous next
  · exact plan_ne_unsorted ⟨hbooks, rfl⟩ hascending previous next

/-! ## The whole session -/

theorem ascending_performAll {visits : List Visit} (hvisits : ∀ visit ∈ visits, visit.Keeps table)
    (hascending : Ascending (db.committed.ids table)) :
    Ascending ((performAll db visits).committed.ids table) := by
  induction visits generalizing db with
  | nil => exact hascending
  | cons visit rest ih =>
    rw [List.forall_mem_cons] at hvisits
    obtain ⟨applied, haccount⟩ := exists_account hvisits.1 hascending
    exact ih hvisits.2 haccount.ascending

/-- In a session that starts with an empty bookkeeping table and is made of calls that keep its
books, every call has an account on the database that the calls before it left. -/
theorem account_of_split (table : String) (db : Database) (before after : List Visit)
    (visit : Visit) (hempty : db.committed.ids table = [])
    (hkeeps : ∀ other ∈ before ++ visit :: after, other.Keeps table) :
    ∃ applied, visit.Account table (performAll db before) applied := by
  rw [List.forall_mem_append, List.forall_mem_cons] at hkeeps
  have hstart : Ascending (db.committed.ids table) := by
    rw [hempty]
    exact List.Pairwise.nil
  exact exists_account hkeeps.2.1 (ascending_performAll hkeeps.1 hstart)

/-- A run of which the engine refuses the second registration, so that only the first migration is
applied; then a run that applies the other one, and a plan. -/
theorem account_of_split_twoSteps :
    let refused : Site := { faults := [{ on := .execute, skip := 1, message := "disk full" }] }
    let before : List Visit := [⟨.twoSteps, .run, refused⟩]
    let visit : Visit := ⟨.twoSteps, .run, {}⟩
    let after : List Visit := [⟨.twoSteps, .plan, {}⟩]
    ({} : Database).committed.ids TableName.default = [] ∧
      (∀ other ∈ before ++ visit :: after, other.Keeps TableName.default) ∧
      (performAll {} before).committed.ids TableName.default = ["01"] ∧
      ∃ applied, visit.Account TableName.default (performAll {} before) applied ∧
        applied.map Migration.key = ["02"] := by
  intro refused before visit after
  have hkeeps : ∀ other ∈ before ++ visit :: after, other.Keeps TableName.default := by
    intro other hother
    simp only [before, visit, after, List.cons_append, List.nil_append, List.mem_cons,
      List.not_mem_nil, or_false] at hother
    rcases hother with rfl | rfl | rfl
    · exact ⟨Runner.twoSteps_keepsBooks _, rfl⟩
    · exact ⟨Runner.twoSteps_keepsBooks _, rfl⟩
    · exact ⟨Runner.twoSteps_keepsBooks _, rfl⟩
  obtain ⟨hbefore, hafter⟩ : (performAll {} before).committed.ids TableName.default = ["01"] ∧
      (visit.perform (performAll {} before)).1.committed.ids TableName.default
        = ["01"] ++ ["02"] := by decide +kernel
  obtain ⟨applied, haccount⟩ := account_of_split _ {} before after visit rfl hkeeps
  have hrecorded := haccount.recorded
  rw [hbefore, hafter] at hrecorded
  exact ⟨rfl, hkeeps, hbefore, applied, haccount, (List.append_cancel_left hrecorded).symm⟩

end Visit

end SchemaUpgrade
