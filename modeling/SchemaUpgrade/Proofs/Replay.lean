import SchemaUpgrade.Proofs.Statement
/-!
# Replaying a journal

A journal tells enough to follow the database through the work that wrote it: a call that failed
changed nothing, and a call that succeeded did what the database makes of it.  So the journal also
tells every content that was ever committed on the way, not only the last one.

## Main definitions

* `Database.replay`: the database after what a journal tells.
* `Database.Trace`: a journal leads from one database to another, and every content committed on
  the way satisfies a property.
* `Journal.rollbackFailed`, `Journal.published`: whether a rollback failed, and whether a
  transaction was published; `Journal.Quiet`: neither.
* `Database.Advances`: what is committed advances by groups of statements, none of them in part.
* `Database.Publishes`: it does, and a transaction is open only if a rollback failed.
-/

/-! ## Following the database -/

namespace SchemaUpgrade.Engine.Database

/-- The database after what an entry tells. -/
def afterEntry (db : Database) : Entry → Database
  | .called (.batch sql) none =>
    match db.batch sql with
    | .ok (_, after) => after
    | .error _ => db
  | .called (.execute sql params) none =>
    match db.execute sql params with
    | .ok (_, after) => after
    | .error _ => db
  | _ => db

/-- The database after what a journal tells. -/
def replay (db : Database) (journal : Journal) : Database :=
  journal.foldl afterEntry db

@[simp] theorem replay_nil (db : Database) : db.replay [] = db := rfl

@[simp] theorem replay_cons (db : Database) (entry : Entry) (journal : Journal) :
    db.replay (entry :: journal) = (db.afterEntry entry).replay journal := rfl

@[simp] theorem afterEntry_logged (db : Database) (event : Log.Event) :
    db.afterEntry (.logged event) = db := rfl

/-- A call that failed changed nothing. -/
@[simp] theorem afterEntry_failed (db : Database) (call : Call) (message : String) :
    db.afterEntry (.called call (some message)) = db := by
  cases call <;> rfl

/-- A statement that was carried out did what the database makes of it. -/
theorem afterEntry_of_carryOut {db after : Database} {statement : Statement}
    (h : statement.carryOut db = .ok after) :
    db.afterEntry (.called statement.call none) = after := by
  cases statement with
  | batch sql =>
    rw [Statement.call, afterEntry]
    cases hact : db.batch sql with
    | error message => simp [Statement.carryOut, hact, Except.map] at h
    | ok answer => simpa [Statement.carryOut, hact, Except.map] using h
  | execute sql params =>
    rw [Statement.call, afterEntry]
    cases hact : db.execute sql params with
    | error message => simp [Statement.carryOut, hact, Except.map] at h
    | ok answer => simpa [Statement.carryOut, hact, Except.map] using h

/-- A journal that leads from one database to another, where every content committed on the way
satisfies `P`. -/
structure Trace (P : Content → Prop) (db : Database) (journal : Journal) (after : Database) :
    Prop where
  replay : db.replay journal = after
  along : ∀ seen, seen <+: journal → P (db.replay seen).committed

namespace Trace

variable {P Q : Content → Prop} {db mid after : Database} {entry : Entry} {journal more : Journal}

theorem nil (h : P db.committed) : Trace P db [] db := by
  refine ⟨rfl, fun seen hseen => ?_⟩
  obtain rfl := List.prefix_nil.1 hseen
  exact h

theorem cons (h : P db.committed) (htrace : Trace P (db.afterEntry entry) journal after) :
    Trace P db (entry :: journal) after := by
  refine ⟨htrace.replay, fun seen hseen => ?_⟩
  rcases List.prefix_cons_iff.1 hseen with rfl | ⟨rest, rfl, hrest⟩
  · exact h
  · exact htrace.along rest hrest

/-- A journal of one entry. -/
theorem singleton (h : P db.committed) (hafter : db.afterEntry entry = after)
    (hP : P after.committed) : Trace P db [entry] after :=
  cons h (hafter ▸ nil (hafter ▸ hP))

theorem append (h : Trace P db journal mid) (h' : Trace P mid more after) :
    Trace P db (journal ++ more) after := by
  induction journal generalizing db with
  | nil =>
    obtain rfl : db = mid := h.replay
    exact h'
  | cons entry rest ih =>
    have hrest : Trace P (db.afterEntry entry) rest mid :=
      ⟨h.replay, fun seen hseen => h.along (entry :: seen) ((List.prefix_cons_inj _).2 hseen)⟩
    exact cons (h.along [] List.nil_prefix) (ih hrest)

theorem mono (h : Trace P db journal after) (hPQ : ∀ content, P content → Q content) :
    Trace Q db journal after :=
  ⟨h.replay, fun seen hseen => hPQ _ (h.along seen hseen)⟩

theorem logged (h : P db.committed) (events : List Log.Event) :
    Trace P db (events.map .logged) db := by
  induction events with
  | nil => exact nil h
  | cons event rest ih => exact cons h ih

theorem final (h : Trace P db journal after) : P after.committed := by
  have := h.along journal List.prefix_rfl
  rwa [h.replay] at this

end Trace

end SchemaUpgrade.Engine.Database

namespace SchemaUpgrade

open Engine

/-- The journal of a statement leads to what the statement made of the database. -/
theorem Statement.send_trace {P : Content → Prop} (statement : Statement) (site : Site)
    (hbefore : P site.database.committed)
    (hafter : P (statement.send site).state.database.committed) :
    site.database.Trace P (statement.send site).journal (statement.send site).state.database := by
  rcases statement.send_cases site with
    ⟨message, faults, hsend⟩ | ⟨database, faults, hcarry, hsend⟩
  · rw [hsend]
    exact .singleton hbefore (Database.afterEntry_failed _ _ _) hbefore
  · rw [hsend] at hafter ⊢
    exact .singleton hbefore (Database.afterEntry_of_carryOut hcarry) hafter

/-! ## Failed rollbacks and publications -/

/-- Whether an entry tells of a rollback that failed. -/
def Entry.isFailedRollback : Entry → Bool
  | .called (.batch sql) (some _) => sql = rollbackText
  | _ => false

/-- Whether an entry tells of a transaction that was published. -/
def Entry.isPublication : Entry → Bool
  | .called (.batch sql) none => sql = commitText
  | _ => false

namespace Journal

/-- Whether a rollback failed. -/
def rollbackFailed (journal : Journal) : Bool := journal.any Entry.isFailedRollback

/-- Whether a transaction was published. -/
def published (journal : Journal) : Bool := journal.any Entry.isPublication

@[simp] theorem rollbackFailed_nil : rollbackFailed [] = false := rfl

@[simp] theorem rollbackFailed_cons (entry : Entry) (journal : Journal) :
    rollbackFailed (entry :: journal) = (entry.isFailedRollback || rollbackFailed journal) := rfl

@[simp] theorem rollbackFailed_append (first second : Journal) :
    rollbackFailed (first ++ second) = (rollbackFailed first || rollbackFailed second) :=
  List.any_append

@[simp] theorem published_append (first second : Journal) :
    published (first ++ second) = (published first || published second) :=
  List.any_append

/-- A journal that tells neither of a failed rollback nor of a publication. -/
structure Quiet (journal : Journal) : Prop where
  rollbackFailed : journal.rollbackFailed = false
  published : journal.published = false

theorem Quiet.append {first second : Journal} (h : Quiet first) (h' : Quiet second) :
    Quiet (first ++ second) where
  rollbackFailed := by
    rw [rollbackFailed_append, h.rollbackFailed, h'.rollbackFailed, Bool.or_false]
  published := by rw [published_append, h.published, h'.published, Bool.or_false]

theorem quiet_nil : Quiet [] := ⟨rfl, rfl⟩

theorem quiet_logged (events : List Log.Event) : Quiet (events.map .logged) := by
  induction events with
  | nil => exact quiet_nil
  | cons event rest ih => exact ⟨ih.rollbackFailed, ih.published⟩

end Journal

/-- A statement that neither opens nor ends a transaction leaves a quiet journal. -/
theorem Statement.quiet_of_plain {statement : Statement} (h : statement.isControl = false)
    (failure : Option String) : Journal.Quiet [.called statement.call failure] := by
  cases statement with
  | batch sql =>
    simp only [isControl, Engine.isControl, Bool.or_eq_false_iff, decide_eq_false_iff_not] at h
    cases failure with
    | none => exact ⟨rfl, by simp [Journal.published, call, Entry.isPublication, h]⟩
    | some message =>
      exact ⟨by simp [Journal.rollbackFailed, call, Entry.isFailedRollback, h], rfl⟩
  | execute sql params => cases failure <;> exact ⟨rfl, rfl⟩

/-! ## Publishing groups of statements -/

namespace Engine

/-- A content on the way to that after groups of statements, with no group done in part. -/
def Content.Staged (content : Content) (groups : List (List Statement)) (stage : Content) : Prop :=
  ∃ passed, passed <+: groups ∧ stage = content.performAll passed.flatten

namespace Database

/-- What is committed advances by groups of statements, one after another: it is always the content
after some of the first groups, in the end after all of them. -/
structure Advances (db : Database) (journal : Journal) (after : Database)
    (groups : List (List Statement)) : Prop where
  admits : db.committed.AdmitsAll groups.flatten
  committed : after.committed = db.committed.performAll groups.flatten
  trace : db.Trace (db.committed.Staged groups) journal after

/-- Where what is committed never changed, it advanced by nothing. -/
theorem Advances.nothing {db after : Database} {journal : Journal}
    (htrace : db.Trace (· = db.committed) journal after) : db.Advances journal after [] where
  admits := trivial
  committed := htrace.final
  trace := htrace.mono fun _ hcontent => ⟨[], List.nil_prefix, hcontent⟩

/-- The groups of statements were published one after another, and nothing else.  A transaction is
then open exactly when a rollback failed. -/
structure Publishes (db : Database) (journal : Journal) (after : Database)
    (groups : List (List Statement)) : Prop extends db.Advances journal after groups where
  inTransaction : after.inTransaction = journal.rollbackFailed

namespace Publishes

variable {db mid after : Database} {journal more : Journal} {first second : List (List Statement)}

/-- Where what is committed never changed, nothing was published. -/
theorem nothing (htrace : db.Trace (· = db.committed) journal after)
    (hopen : after.inTransaction = journal.rollbackFailed) : db.Publishes journal after [] :=
  ⟨.nothing htrace, hopen⟩

theorem append (h : db.Publishes journal mid first) (hjournal : journal.rollbackFailed = false)
    (h' : mid.Publishes more after second) :
    db.Publishes (journal ++ more) after (first ++ second) where
  admits := by
    rw [List.flatten_append, Content.admitsAll_append, ← h.committed]
    exact ⟨h.admits, h'.admits⟩
  committed := by rw [h'.committed, h.committed, List.flatten_append, Content.performAll_append]
  inTransaction := by
    rw [h'.inTransaction, Journal.rollbackFailed_append, hjournal, Bool.false_or]
  trace := by
    refine .append (h.trace.mono ?_) (h'.trace.mono ?_)
    · rintro content ⟨passed, hpassed, rfl⟩
      exact ⟨passed, hpassed.trans (List.prefix_append _ _), rfl⟩
    · rintro content ⟨passed, hpassed, rfl⟩
      refine ⟨first ++ passed, (List.prefix_append_right_inj _).2 hpassed, ?_⟩
      rw [h.committed, List.flatten_append, Content.performAll_append]

/-- Where no transaction is open, no rollback failed. -/
theorem rollbackFailed (h : db.Publishes journal mid first) (hidle : mid.working = none) :
    journal.rollbackFailed = false := by
  rw [← h.inTransaction, Database.inTransaction, hidle]
  rfl

/-- Quiet work that leaves the database alone publishes nothing more. -/
theorem append_quiet (h : db.Publishes journal mid first) (hidle : mid.working = none)
    (htrace : mid.Trace (· = mid.committed) more mid) (hquiet : more.Quiet) :
    db.Publishes (journal ++ more) mid first := by
  have hopen : mid.inTransaction = more.rollbackFailed := by
    rw [hquiet.rollbackFailed, Database.inTransaction, hidle]
    rfl
  have happend := h.append (h.rollbackFailed hidle) (.nothing htrace hopen)
  rwa [List.append_nil] at happend

theorem logged_append (h : db.Publishes journal after first) (events : List Log.Event) :
    db.Publishes (events.map .logged ++ journal) after first where
  admits := h.admits
  committed := h.committed
  inTransaction := by
    rw [h.inTransaction, Journal.rollbackFailed_append,
      (Journal.quiet_logged events).rollbackFailed, Bool.false_or]
  trace := .append (.logged ⟨[], List.nil_prefix, rfl⟩ events) h.trace

theorem append_logged (h : db.Publishes journal mid first) (hidle : mid.working = none)
    (events : List Log.Event) : db.Publishes (journal ++ events.map .logged) mid first :=
  h.append_quiet hidle (.logged (by rfl) events) (Journal.quiet_logged events)

end Publishes

end Database

end Engine

end SchemaUpgrade
