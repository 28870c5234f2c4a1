import SchemaUpgrade.Connection
import SchemaUpgrade.Proofs.WorkLaws
/-!
# Statements and what they do to a content

A *statement* is what can be sent inside a transaction: a batch without parameters, or a single
statement with parameters.  Unless it is one of the three control statements, it turns the content
that calls see into another one: a batch is recorded, and an insertion puts its id at the end of
the table it names, which must not hold that id yet.

## Main definitions

* `Statement`, `Statement.send`: a statement, and the work of sending it.
* `Content.perform`, `Content.performAll`: the content after statements.
* `Content.Admits`, `Content.AdmitsAll`: no insertion brings an id that its table already holds.

`Statement.send_cases` says everything that sending a statement can do, and
`Statement.send_of_no_faults` what it does when the engine refuses nothing.
-/

namespace SchemaUpgrade

open Engine

/-- A statement sent inside a transaction. -/
inductive Statement where
  /-- Statements without parameters. -/
  | batch (sql : String)
  /-- One statement with parameters. -/
  | execute (sql : String) (params : List String)
  deriving DecidableEq, Repr, Inhabited

namespace Statement

/-- The call that sends a statement. -/
def call : Statement → Call
  | .batch sql => .batch sql
  | .execute sql params => .execute sql params

/-- Whether a statement opens or ends a transaction. -/
def isControl : Statement → Bool
  | .batch sql => Engine.isControl sql
  | .execute _ _ => false

/-- Whether a statement inserts into a table. -/
def insertsInto (table : String) : Statement → Bool
  | .batch _ => false
  | .execute sql _ => insertedTable sql = table

/-- The ids that a statement inserts into a table. -/
def insertions (table : String) : Statement → List String
  | .batch _ => []
  | .execute sql params => if insertedTable sql = table then [params.headD ""] else []

/-- The text that a statement adds to the executed batches, if it is one. -/
def batchText? : Statement → Option String
  | .batch sql => some sql
  | .execute _ _ => none

/-- Sends a statement. -/
def send : Statement → Work Site DatabaseError Unit
  | .batch sql => Transaction.batch sql
  | .execute sql params => do
    let _ ← Transaction.execute sql params
    pure ()

/-- What the database makes of a statement. -/
def carryOut (db : Database) : Statement → Except String Database
  | .batch sql => (db.batch sql).map Prod.snd
  | .execute sql params => (db.execute sql params).map Prod.snd

end Statement

/-! ## Contents -/

namespace Engine.Content

/-- The content after a statement. -/
def perform (content : Content) : Statement → Content
  | .batch sql => content.record sql
  | .execute sql params => content.insert (insertedTable sql) (params.headD "")

/-- The content after statements, in order. -/
def performAll (content : Content) (statements : List Statement) : Content :=
  statements.foldl perform content

/-- Whether the content takes a statement: the id of an insertion has to be new in its table. -/
def Admits (content : Content) : Statement → Prop
  | .batch _ => True
  | .execute sql params => params.headD "" ∉ content.ids (insertedTable sql)

instance (content : Content) (statement : Statement) : Decidable (content.Admits statement) :=
  match statement with
  | .batch _ => inferInstanceAs (Decidable True)
  | .execute _ _ => inferInstanceAs (Decidable (_ ∉ _))

/-- Whether the content takes statements one after another. -/
def AdmitsAll (content : Content) : List Statement → Prop
  | [] => True
  | statement :: rest => content.Admits statement ∧ (content.perform statement).AdmitsAll rest

variable (content : Content)

@[simp] theorem performAll_nil : content.performAll [] = content := rfl

@[simp] theorem performAll_cons (statement : Statement) (rest : List Statement) :
    content.performAll (statement :: rest) = (content.perform statement).performAll rest := rfl

@[simp] theorem performAll_append (first second : List Statement) :
    content.performAll (first ++ second) = (content.performAll first).performAll second :=
  List.foldl_append

@[simp] theorem admitsAll_nil : content.AdmitsAll [] := trivial

@[simp] theorem admitsAll_cons (statement : Statement) (rest : List Statement) :
    content.AdmitsAll (statement :: rest)
      ↔ content.Admits statement ∧ (content.perform statement).AdmitsAll rest := Iff.rfl

@[simp] theorem admitsAll_append (first second : List Statement) :
    content.AdmitsAll (first ++ second)
      ↔ content.AdmitsAll first ∧ (content.performAll first).AdmitsAll second := by
  induction first generalizing content with
  | nil => simp
  | cons statement rest ih => simp [ih, and_assoc]

/-- A table that a statement does not insert into stays as it is. -/
theorem ids?_perform_of_not_insertsInto {table : String} {statement : Statement}
    (h : statement.insertsInto table = false) :
    (content.perform statement).ids? table = content.ids? table := by
  cases statement with
  | batch sql => rfl
  | execute sql params =>
    have hother : table ≠ insertedTable sql := fun heq => by
      simp [Statement.insertsInto, heq] at h
    rw [perform, ids?_insert, if_neg hother]

theorem ids?_performAll_of_not_insertsInto {table : String} {statements : List Statement}
    (h : ∀ statement ∈ statements, statement.insertsInto table = false) :
    (content.performAll statements).ids? table = content.ids? table := by
  induction statements generalizing content with
  | nil => rfl
  | cons statement rest ih =>
    rw [List.forall_mem_cons] at h
    rw [performAll_cons, ih _ h.2, ids?_perform_of_not_insertsInto content h.1]

/-- A table that a statement does not insert into keeps its ids. -/
theorem ids_perform_of_not_insertsInto {table : String} {statement : Statement}
    (h : statement.insertsInto table = false) :
    (content.perform statement).ids table = content.ids table := by
  rw [ids, ids, ids?_perform_of_not_insertsInto content h]

theorem ids_performAll_of_not_insertsInto {table : String} {statements : List Statement}
    (h : ∀ statement ∈ statements, statement.insertsInto table = false) :
    (content.performAll statements).ids table = content.ids table := by
  rw [ids, ids, ids?_performAll_of_not_insertsInto content h]

theorem ids_perform_execute (sql : String) (params : List String) :
    (content.perform (.execute sql params)).ids (insertedTable sql)
      = content.ids (insertedTable sql) ++ [params.headD ""] := by
  simp [perform, ids_insert]

/-- Statements put the ids that they insert into a table at its end. -/
theorem ids_performAll (table : String) (statements : List Statement) :
    (content.performAll statements).ids table
      = content.ids table ++ statements.flatMap (Statement.insertions table) := by
  induction statements generalizing content with
  | nil => simp
  | cons statement rest ih =>
    have hfirst : (content.perform statement).ids table
        = content.ids table ++ statement.insertions table := by
      cases statement with
      | batch sql => exact (List.append_nil _).symm
      | execute sql params =>
        rw [Statement.insertions]
        by_cases htable : insertedTable sql = table
        · subst htable
          rw [if_pos rfl, content.ids_perform_execute]
        · rw [if_neg htable, List.append_nil]
          exact content.ids_perform_of_not_insertsInto (by simpa [Statement.insertsInto])
    rw [performAll_cons, ih, hfirst, List.flatMap_cons, List.append_assoc]

theorem batches_performAll (statements : List Statement) :
    (content.performAll statements).batches
      = content.batches ++ statements.filterMap Statement.batchText? := by
  induction statements generalizing content with
  | nil => simp
  | cons statement rest ih =>
    rw [performAll_cons, ih]
    cases statement with
    | batch sql =>
      rw [perform, batches_record, List.append_assoc]
      rfl
    | execute sql params => rfl

/-- What statements make of a table depends on that table alone. -/
theorem ids?_perform_congr {first second : Content} {table : String}
    (h : first.ids? table = second.ids? table) (statement : Statement) :
    (first.perform statement).ids? table = (second.perform statement).ids? table := by
  cases statement with
  | batch sql => exact h
  | execute sql params =>
    rw [perform, perform, ids?_insert, ids?_insert]
    split
    · rename_i htable
      rw [← htable, ids, ids, h]
    · exact h

theorem ids?_performAll_congr {first second : Content} {table : String}
    (h : first.ids? table = second.ids? table) (statements : List Statement) :
    (first.performAll statements).ids? table = (second.performAll statements).ids? table := by
  induction statements generalizing first second with
  | nil => exact h
  | cons statement rest ih => exact ih (ids?_perform_congr h statement)

/-! ### Contents with the same tables

The executed batches tell nothing to any statement. -/

section SameTables

variable {first second : Content}

theorem ids_congr (h : first.tables = second.tables) (table : String) :
    first.ids table = second.ids table := by
  rw [ids, ids, ids?, ids?, h]

theorem tables_perform_congr (h : first.tables = second.tables) (statement : Statement) :
    (first.perform statement).tables = (second.perform statement).tables := by
  cases statement with
  | batch sql => exact h
  | execute sql params =>
    show insertId _ _ first.tables = insertId _ _ second.tables
    rw [h]

theorem tables_performAll_congr (h : first.tables = second.tables) (statements : List Statement) :
    (first.performAll statements).tables = (second.performAll statements).tables := by
  induction statements generalizing first second with
  | nil => exact h
  | cons statement rest ih => exact ih (tables_perform_congr h statement)

theorem admits_congr (h : first.tables = second.tables) (statement : Statement) :
    first.Admits statement ↔ second.Admits statement := by
  cases statement with
  | batch sql => exact Iff.rfl
  | execute sql params =>
    show _ ∉ first.ids _ ↔ _ ∉ second.ids _
    rw [ids_congr h]

theorem admitsAll_congr (h : first.tables = second.tables) (statements : List Statement) :
    first.AdmitsAll statements ↔ second.AdmitsAll statements := by
  induction statements generalizing first second with
  | nil => exact Iff.rfl
  | cons statement rest ih =>
    rw [admitsAll_cons, admitsAll_cons, admits_congr h, ih (tables_perform_congr h statement)]

end SameTables

end Engine.Content

/-! ## Calls -/

namespace Site

variable {α : Type} (request : Call) (act : Database → Except String (α × Database)) (site : Site)

/-- Everything that a call can do: it fails and leaves the database as it was, or the database
carries it out. -/
theorem call_cases :
    (∃ message faults, call request act site
      = ⟨.error message, { site with faults := faults }, [.called request (some message)]⟩) ∨
    (∃ answer database faults, act site.database = .ok (answer, database) ∧
      call request act site
        = ⟨.ok answer, { site with faults := faults, database := database },
            [.called request none]⟩) := by
  rcases hstrike : Fault.strike request.faultPoint request.text site.faults with
    ⟨_ | message, faults⟩
  · cases hact : act site.database with
    | error message => exact .inl ⟨message, faults, by simp [call, hstrike, hact]⟩
    | ok answer =>
      exact .inr ⟨answer.1, answer.2, faults, rfl, by simp [call, hstrike, hact]⟩
  · exact .inl ⟨message, faults, by simp [call, hstrike]⟩

theorem call_of_no_faults {answer : α} {database : Database} (hfaults : site.faults = [])
    (hact : act site.database = .ok (answer, database)) :
    call request act site
      = ⟨.ok answer, { site with database := database }, [.called request none]⟩ := by
  obtain ⟨around, before, faults, raised, arriving, poisoned⟩ := site
  obtain rfl : faults = [] := hfaults
  simp [call, Fault.strike, hact]

theorem call_of_refusal {message : String} (hfaults : site.faults = [])
    (hact : act site.database = .error message) :
    call request act site = ⟨.error message, site, [.called request (some message)]⟩ := by
  obtain ⟨around, before, faults, raised, arriving, poisoned⟩ := site
  obtain rfl : faults = [] := hfaults
  simp [call, Fault.strike, hact]

/-- A column query fails, or it answers the ids of its table; either way the database stays as it
is. -/
theorem readColumn_cases (sql : String) (site : Site) :
    (∃ message faults, readColumn sql site
      = ⟨.error message, { site with faults := faults }, [.called (.column sql) (some message)]⟩) ∨
    (∃ faults, readColumn sql site
      = ⟨.ok (site.database.column sql), { site with faults := faults },
          [.called (.column sql) none]⟩) := by
  rcases hstrike : Fault.strike (Call.column sql).faultPoint (Call.column sql).text site.faults with
    ⟨_ | message, faults⟩
  · rcases hrows : strikeRows (site.database.column sql) faults with ⟨_ | message, faults⟩
    · exact .inr ⟨faults, by simp [readColumn, hstrike, hrows]⟩
    · exact .inl ⟨message, faults, by simp [readColumn, hstrike, hrows]⟩
  · exact .inl ⟨message, faults, by simp [readColumn, hstrike]⟩

/-- The work makes this one call, whose answer depends on nothing but the database and the faults,
and changes nothing else. -/
def AnswersAlike (request : Call) (work : Work Site String α) : Prop :=
  ∀ site : Site, ∃ outcome database faults failure, ∀ other : Site,
    other.database = site.database → other.faults = site.faults →
      work other = ⟨outcome, { other with database := database, faults := faults },
        [.called request failure]⟩

theorem answersAlike_call : AnswersAlike request (call request act) := by
  intro site
  rcases hstrike : Fault.strike request.faultPoint request.text site.faults with
    ⟨_ | message, faults⟩
  · cases hact : act site.database with
    | error message =>
      refine ⟨.error message, site.database, faults, some message,
        fun other hdatabase hfaults => ?_⟩
      simp [call, hdatabase, hfaults, hstrike, hact]
    | ok answer =>
      refine ⟨.ok answer.1, answer.2, faults, none, fun other hdatabase hfaults => ?_⟩
      simp [call, hdatabase, hfaults, hstrike, hact]
  · refine ⟨.error message, site.database, faults, some message, fun other hdatabase hfaults => ?_⟩
    simp [call, ← hdatabase, hfaults, hstrike]

theorem answersAlike_readColumn (sql : String) : AnswersAlike (.column sql) (readColumn sql) := by
  intro site
  rcases hstrike : Fault.strike (Call.column sql).faultPoint (Call.column sql).text site.faults with
    ⟨_ | message, faults⟩
  · rcases hrows : strikeRows (site.database.column sql) faults with ⟨_ | message, faults⟩
    · refine ⟨.ok (site.database.column sql), site.database, faults, none,
        fun other hdatabase hfaults => ?_⟩
      simp [readColumn, hdatabase, hfaults, hstrike, hrows]
    · refine ⟨.error message, site.database, faults, some message,
        fun other hdatabase hfaults => ?_⟩
      simp [readColumn, hdatabase, hfaults, hstrike, hrows]
  · refine ⟨.error message, site.database, faults, some message,
      fun other hdatabase hfaults => ?_⟩
    simp [readColumn, ← hdatabase, hfaults, hstrike]

theorem strikeRows_of_no_faults (rows : List String) : strikeRows rows [] = (none, []) := by
  induction rows with
  | nil => rfl
  | cons row rest ih => simpa [strikeRows, Fault.strike] using ih

theorem readColumn_of_no_faults (sql : String) {site : Site} (hfaults : site.faults = []) :
    readColumn sql site
      = ⟨.ok (site.database.column sql), site, [.called (.column sql) none]⟩ := by
  obtain ⟨around, database, faults, raised, arriving, poisoned⟩ := site
  obtain rfl : faults = [] := hfaults
  simp [readColumn, Fault.strike, strikeRows_of_no_faults]

end Site

/-! ## Sending a statement -/

namespace Statement

/-- Everything that sending a statement can do. -/
theorem send_cases (statement : Statement) (site : Site) :
    (∃ message faults, statement.send site
      = ⟨.error (.ofEngine message), { site with faults := faults },
          [.called statement.call (some message)]⟩) ∨
    (∃ database faults, statement.carryOut site.database = .ok database ∧
      statement.send site
        = ⟨.ok (), { site with faults := faults, database := database },
            [.called statement.call none]⟩) := by
  cases statement with
  | batch sql =>
    rcases Site.call_cases (.batch sql) (Database.batch sql) site with
      ⟨message, faults, hcall⟩ | ⟨answer, database, faults, hact, hcall⟩
    · exact .inl ⟨message, faults, Work.mapError_of_error hcall⟩
    · refine .inr ⟨database, faults, ?_, Work.mapError_of_ok hcall⟩
      simp [carryOut, hact, Except.map]
  | execute sql params =>
    rcases Site.call_cases (.execute sql params) (Database.execute sql params) site with
      ⟨message, faults, hcall⟩ | ⟨answer, database, faults, hact, hcall⟩
    · exact .inl ⟨message, faults, Work.bind_of_error (Work.mapError_of_error hcall)⟩
    · refine .inr ⟨database, faults, ?_, Work.bind_of_ok (Work.mapError_of_ok hcall)⟩
      simp [carryOut, hact, Except.map]

theorem send_of_no_faults {statement : Statement} {site : Site} {database : Database}
    (hfaults : site.faults = []) (hcarry : statement.carryOut site.database = .ok database) :
    statement.send site
      = ⟨.ok (), { site with database := database }, [.called statement.call none]⟩ := by
  cases statement with
  | batch sql =>
    cases hact : Database.batch sql site.database with
    | error message => simp [carryOut, hact, Except.map] at hcarry
    | ok answer =>
      obtain rfl : answer.2 = database := by simpa [carryOut, hact, Except.map] using hcarry
      exact Work.mapError_of_ok (Site.call_of_no_faults _ _ site hfaults hact)
  | execute sql params =>
    cases hact : Database.execute sql params site.database with
    | error message => simp [carryOut, hact, Except.map] at hcarry
    | ok answer =>
      obtain rfl : answer.2 = database := by simpa [carryOut, hact, Except.map] using hcarry
      exact Work.bind_of_ok (Work.mapError_of_ok (Site.call_of_no_faults _ _ site hfaults hact))

/-- An insertion of an id that its table already holds is refused, and nothing changes. -/
theorem send_of_duplicate {sql id : String} {site : Site} (hfaults : site.faults = [])
    (hold : id ∈ site.database.current.ids (insertedTable sql)) :
    (Statement.execute sql [id]).send site
      = ⟨.error (.ofEngine (Database.duplicateKey id)), site,
          [.called (.execute sql [id]) (some (Database.duplicateKey id))]⟩ := by
  have hact : Database.execute sql [id] site.database = .error (Database.duplicateKey id) :=
    if_pos hold
  exact Work.bind_of_error (Work.mapError_of_error (Site.call_of_refusal _ _ site hfaults hact))

/-! ### Inside a transaction -/

section Inside

variable {statement : Statement} {db : Database} {content : Content}

/-- What an open transaction makes of a statement that neither opens nor ends one. -/
theorem carryOut_of_admits (hopen : db.working = some content)
    (hplain : statement.isControl = false) (hadmits : content.Admits statement) :
    statement.carryOut db = .ok { db with working := some (content.perform statement) } := by
  cases statement with
  | batch sql =>
    simp only [isControl, Engine.isControl, Bool.or_eq_false_iff, decide_eq_false_iff_not]
      at hplain
    simp [carryOut, Database.batch, hplain, Database.put, Database.current, hopen, Except.map,
      Content.perform]
  | execute sql params =>
    have hnew : params.headD "" ∉ content.ids (insertedTable sql) := hadmits
    simp only [carryOut, Database.execute, Database.current, Database.put, hopen,
      Option.getD_some, if_neg hnew, Except.map, Content.perform]

theorem admits_of_carryOut {database : Database} (hopen : db.working = some content)
    (hcarry : statement.carryOut db = .ok database) : content.Admits statement := by
  cases statement with
  | batch sql => trivial
  | execute sql params =>
    intro hold
    simp only [carryOut, Database.execute, Database.current, hopen, Option.getD_some,
      if_pos hold, Except.map, reduceCtorEq] at hcarry

/-- Inside a transaction, a statement that neither opens nor ends one fails and leaves the private
copy as it was, or is performed on it. -/
theorem send_inside {site : Site} (hopen : site.database.working = some content)
    (hplain : statement.isControl = false) :
    (∃ message faults, statement.send site
      = ⟨.error (.ofEngine message), { site with faults := faults },
          [.called statement.call (some message)]⟩) ∨
    (∃ faults filled, content.Admits statement ∧
      statement.send site
        = ⟨.ok (), { site with faults := faults, database := filled },
            [.called statement.call none]⟩ ∧
      filled = { site.database with working := some (content.perform statement) }) := by
  rcases statement.send_cases site with
    ⟨message, faults, hsend⟩ | ⟨database, faults, hcarry, hsend⟩
  · exact .inl ⟨message, faults, hsend⟩
  · have hadmits := admits_of_carryOut hopen hcarry
    rw [carryOut_of_admits hopen hplain hadmits] at hcarry
    exact .inr ⟨faults, database, hadmits, hsend, (Except.ok.inj hcarry).symm⟩

end Inside

end Statement

end SchemaUpgrade
