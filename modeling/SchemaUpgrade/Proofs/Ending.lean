import SchemaUpgrade.Proofs.Transaction
/-!
# How a transaction ends

The holder of a transaction sends statements, some of which may fail, and is then done with it in
one of four ways: it commits, it rolls back, it drops the transaction without ending it, or it
panics, which drops the transaction as well.  Whichever way it is, the transaction is ended exactly
once: a commit that succeeded is the last control statement, and a rollback is sent once, and never
again, also if it failed (`Transaction.Closes`).

So what is committed afterwards is what the transaction made of the content if it was published,
and the content as it was before otherwise; and a transaction is left open only by a rollback that
failed (`Transaction.use_closes`).

## Main definitions

* `Journal.controls`: the control statements of a journal, with their failures.
* `Transaction.Ending`, `Transaction.use`: the whole life of a transaction.
* `Transaction.Closes`: what is sent to end a transaction, and what its holder is told.
-/

namespace SchemaUpgrade

open Engine

/-! ## The control statements of a journal -/

/-- The control statement of an entry, if it is one, and the message of its failure if it failed. -/
def Entry.control? : Entry → Option (String × Option String)
  | .called call failure => if Engine.isControl call.text then some (call.text, failure) else none
  | .logged _ => none

namespace Journal

/-- The control statements, in order. -/
def controls (journal : Journal) : List (String × Option String) :=
  journal.filterMap Entry.control?

@[simp] theorem controls_nil : controls [] = [] := rfl

@[simp] theorem controls_append (a b : Journal) : controls (a ++ b) = controls a ++ controls b := by
  simp [controls]

@[simp] theorem controls_logged (events : List Log.Event) : controls (events.map .logged) = [] := by
  simp [controls, List.filterMap_map, Entry.control?, Function.comp_def]

theorem controls_plain {call : Call} (h : Engine.isControl call.text = false)
    (failure : Option String) : controls [.called call failure] = [] := by
  simp [controls, Entry.control?, h]

theorem controls_control {sql : String} (h : Engine.isControl sql = true)
    (failure : Option String) : controls [.called (.batch sql) failure] = [(sql, failure)] := by
  simp [controls, Entry.control?, Call.text, h]

end Journal

/-! ## Sending statements -/

namespace Statement

/-- The SQL of a statement. -/
def text (statement : Statement) : String := statement.call.text

theorem isControl_of_text {statement : Statement} (h : Engine.isControl statement.text = false) :
    statement.isControl = false := by
  cases statement with
  | batch sql => exact h
  | execute sql params => rfl

/-- Sends statements one after another, whatever becomes of them, and answers how each ended. -/
def sendEach : List Statement → Work Site DatabaseError (List (Except DatabaseError Unit))
  | [] => pure []
  | statement :: rest => do
    let outcome ← statement.send.attempt
    let outcomes ← sendEach rest
    pure (outcome :: outcomes)

/-- The statements that did not fail. -/
def accepted : List Statement → List (Except DatabaseError Unit) → List Statement
  | statement :: rest, .ok () :: outcomes => statement :: accepted rest outcomes
  | _ :: rest, .error _ :: outcomes => accepted rest outcomes
  | _, _ => []

theorem accepted_cons (statement : Statement) (outcome : Except DatabaseError Unit)
    (rest : List Statement) (outcomes : List (Except DatabaseError Unit)) :
    accepted (statement :: rest) (outcome :: outcomes)
      = accepted [statement] [outcome] ++ accepted rest outcomes := by
  cases outcome <;> rfl

/-- A statement fills an open transaction if it is accepted. -/
theorem send_filled {statement : Statement} {before : List Statement} {site filled : Site}
    {journal : Journal} (h : site.Filled filled journal before)
    (hplain : statement.isControl = false) :
    ∃ outcome next failure, statement.send filled
        = ⟨outcome, next, [.called statement.call failure]⟩ ∧
      site.Filled next (journal ++ [.called statement.call failure])
        (before ++ accepted [statement] [outcome]) := by
  rcases h.send_cases hplain with ⟨message, next, hsend, hnext⟩ | ⟨next, hsend, hnext⟩
  · exact ⟨_, next, _, hsend, by rwa [← List.append_nil before] at hnext⟩
  · exact ⟨_, next, _, hsend, hnext⟩

/-- An open transaction is filled with the statements that it accepts. -/
theorem sendEach_filled {statements before : List Statement} {site filled : Site}
    {journal : Journal} (h : site.Filled filled journal before)
    (hplain : ∀ statement ∈ statements, Engine.isControl statement.text = false) :
    ∃ outcomes after more, sendEach statements filled = ⟨.ok outcomes, after, more⟩ ∧
      site.Filled after (journal ++ more) (before ++ accepted statements outcomes) ∧
      more.controls = [] := by
  induction statements generalizing filled journal before with
  | nil =>
    refine ⟨[], filled, [], rfl, ?_, rfl⟩
    have hnone : before ++ accepted [] [] = before := List.append_nil before
    rwa [hnone, List.append_nil]
  | cons statement rest ih =>
    rw [List.forall_mem_cons] at hplain
    obtain ⟨outcome, next, failure, hsend, hnext⟩ :=
      send_filled h (isControl_of_text hplain.1)
    obtain ⟨outcomes, after, more, hrest, hfilled, hmore⟩ := ih hnext hplain.2
    refine ⟨outcome :: outcomes, after, [.called statement.call failure] ++ more, ?_, ?_, ?_⟩
    · rw [sendEach, Work.bind_of_ok (Work.attempt_of hsend), Work.bind_of_ok hrest,
        Work.pure_apply, List.append_nil]
    · rw [← List.append_assoc, accepted_cons, ← List.append_assoc]
      exact hfilled
    · rw [Journal.controls_append, Journal.controls_plain hplain.1, hmore, List.append_nil]

end Statement

namespace Transaction

/-! ## Ways to be done with a transaction -/

/-- How the holder of a transaction is done with it. -/
inductive Ending where
  | commit
  | rollback
  /-- The holder drops the transaction without having ended it. -/
  | drop
  /-- The holder panics. -/
  | unwind
  deriving DecidableEq, Repr, Inhabited

/-- Is done with the open transaction. -/
def Ending.perform : Ending → Work Site DatabaseError Unit
  | .commit => Transaction.commit
  | .rollback => Transaction.rollback
  | .drop => abandon
  | .unwind => do
    abandon
    Connection.poison

/-- Opens a transaction, sends statements inside it and is done with it.  Answers how each of the
statements and the end went. -/
def use (statements : List Statement) (ending : Ending) :
    Work Site DatabaseError (List (Except DatabaseError Unit) × Except DatabaseError Unit) := do
  Connection.begin
  let outcomes ← Statement.sendEach statements
  let outcome ← ending.perform.attempt
  pure (outcomes, outcome)

/-- What the holder is told of a rollback. -/
def rollbackOutcome : (failure : Option String) → Except DatabaseError Unit
  | none => .ok ()
  | some text => .error (.transaction ("ROLLBACK failed: " ++ text))

/-- The control statements that can be sent to end a transaction, and what the holder is told. -/
inductive Closes : Ending → List (String × Option String) → Except DatabaseError Unit → Prop where
  | committed : Closes .commit [(commitText, none)] (.ok ())
  | refused (text : String) (failure : Option String) :
      Closes .commit [(commitText, some text), (rollbackText, failure)]
        (.error ((DatabaseError.transaction ("COMMIT failed: " ++ text)).joinRollback
          (rollbackOutcome failure)))
  | discarded (failure : Option String) :
      Closes .rollback [(rollbackText, failure)] (rollbackOutcome failure)
  /-- Nobody is told. -/
  | dropped (failure : Option String) : Closes .drop [(rollbackText, failure)] (.ok ())
  | unwound (failure : Option String) : Closes .unwind [(rollbackText, failure)] (.ok ())

/-- The database after a transaction, whose private copy is `own`, was ended by control
statements. -/
def ended (own : Content) (db : Database) (controls : List (String × Option String)) : Database :=
  if (commitText, none) ∈ controls then { committed := own }
  else if controls.any fun control => control.1 = rollbackText && control.2.isSome then db
  else { db with working := none }

/-! ## What is sent to end a transaction -/

section Sends

variable {site : Site} {own : Content}

theorem controls_commit (failure : Option String) :
    Journal.controls [.called (.batch commitText) failure] = [(commitText, failure)] :=
  Journal.controls_control (by decide) failure

theorem controls_rollback (failure : Option String) :
    Journal.controls [.called (.batch rollbackText) failure] = [(rollbackText, failure)] :=
  Journal.controls_control (by decide) failure

/-- The call that discards a transaction. -/
theorem rollback_call (own : Content) (site : Site) :
    ∃ failure after, Site.batch rollbackText site
        = ⟨failure.elim (.ok ()) .error, after, [.called (.batch rollbackText) failure]⟩ ∧
      after.database = ended own site.database [(rollbackText, failure)] := by
  rcases rollback_call_cases site with ⟨message, after, hcall, hafter⟩ | ⟨after, hcall, hafter⟩
  · exact ⟨some message, after, hcall, hafter.database⟩
  · exact ⟨none, after, hcall, hafter.database⟩

theorem rollback_sends (own : Content) (site : Site) :
    ∃ failure after journal, rollback site = ⟨rollbackOutcome failure, after, journal⟩ ∧
      journal.controls = [(rollbackText, failure)] ∧
      after.database = ended own site.database [(rollbackText, failure)] := by
  obtain ⟨failure, after, hcall, hafter⟩ := rollback_call own site
  refine ⟨failure, after, _, ?_, controls_rollback failure, hafter⟩
  rw [rollback_eq, Work.mapError_of hcall]
  cases failure <;> rfl

/-- A failure of the rollback of an abandoned transaction is logged, and nobody is told. -/
theorem abandon_sends (own : Content) (site : Site) :
    ∃ failure after journal, (abandon : Work Site DatabaseError Unit) site
        = ⟨.ok (), after, journal⟩ ∧
      journal.controls = [(rollbackText, failure)] ∧
      after.database = ended own site.database [(rollbackText, failure)] := by
  obtain ⟨failure, after, hcall, hafter⟩ := rollback_call own site
  cases failure with
  | none =>
    exact ⟨none, after, _, Work.bind_of_ok (Work.attempt_of hcall), controls_rollback none, hafter⟩
  | some text =>
    have hlog : (Site.log .ofProcess (.rollbackLost text) : Work Site DatabaseError Unit) after
        = ⟨.ok (), after,
            (after.logging.deliver .ofProcess (.rollbackLost text)).toList.map .logged⟩ := rfl
    refine ⟨some text, after, _, Work.bind_of_ok_of (Work.attempt_of hcall) hlog, ?_, hafter⟩
    rw [Journal.controls_append, Journal.controls_logged, List.append_nil]
    exact controls_rollback (some text)

/-- However the holder is done with an open transaction, it is ended once. -/
theorem perform_closes (ending : Ending) (hopen : site.database.working = some own) :
    ∃ outcome after journal, ending.perform site = ⟨outcome, after, journal⟩ ∧
      Closes ending journal.controls outcome ∧
      after.database = ended own site.database journal.controls := by
  cases ending with
  | commit =>
    rcases Site.call_cases (.batch commitText) (Database.batch commitText) site with
      ⟨text, faults, hcall⟩ | ⟨answer, database, faults, hact, hcall⟩
    · obtain ⟨failure, after, journal, hrollback, hcontrols, hafter⟩ :=
        rollback_sends own { site with faults := faults }
      have hall : commit site = ⟨.error ((DatabaseError.transaction
          ("COMMIT failed: " ++ text)).joinRollback (rollbackOutcome failure)), after,
          [.called (.batch commitText) (some text)] ++ (journal ++ [])⟩ := by
        rw [commit_eq]
        exact Work.bind_of_ok_of (Work.attempt_of hcall)
          (Work.bind_of_ok_of (Work.attempt_of hrollback) (Work.fail_apply _ _))
      have hboth : Journal.controls ([.called (.batch commitText) (some text)] ++ (journal ++ []))
          = [(commitText, some text), (rollbackText, failure)] := by
        rw [List.append_nil, Journal.controls_append, controls_commit, hcontrols]
        rfl
      refine ⟨_, _, _, hall, ?_, ?_⟩
      · rw [hboth]
        exact .refused text failure
      · rw [hboth, hafter]
        cases failure <;> rfl
    · rw [Database.batch_commit, hopen] at hact
      obtain ⟨-, rfl⟩ := Prod.mk.inj (Except.ok.inj hact)
      have hall : commit site = ⟨.ok (),
          { site with faults := faults, database := { committed := own } },
          [.called (.batch commitText) none]⟩ := by
        rw [commit_eq]
        exact Work.bind_of_ok (Work.attempt_of hcall)
      refine ⟨_, _, _, hall, ?_, ?_⟩
      · rw [controls_commit]
        exact .committed
      · rw [controls_commit]
        rfl
  | rollback =>
    obtain ⟨failure, after, journal, hrollback, hcontrols, hafter⟩ := rollback_sends own site
    refine ⟨_, after, journal, hrollback, ?_, ?_⟩
    · rw [hcontrols]
      exact .discarded failure
    · rw [hcontrols, hafter]
  | drop =>
    obtain ⟨failure, after, journal, habandon, hcontrols, hafter⟩ := abandon_sends own site
    refine ⟨_, after, journal, habandon, ?_, ?_⟩
    · rw [hcontrols]
      exact .dropped failure
    · rw [hcontrols, hafter]
  | unwind =>
    obtain ⟨failure, after, journal, habandon, hcontrols, hafter⟩ := abandon_sends own site
    have hpoison : (Connection.poison : Work Site DatabaseError Unit) after
        = ⟨.ok (), { after with poisoned := true }, []⟩ := rfl
    refine ⟨_, _, _, Work.bind_of_ok_of habandon hpoison, ?_, ?_⟩
    · rw [List.append_nil, hcontrols]
      exact .unwound failure
    · rw [List.append_nil, hcontrols]
      exact hafter

end Sends

/-! ## The whole life of a transaction -/

/-- A commit tells that it succeeded exactly when it did. -/
theorem Closes.ok_iff {controls : List (String × Option String)}
    {outcome : Except DatabaseError Unit} (h : Closes .commit controls outcome) :
    outcome = .ok () ↔ (commitText, none) ∈ controls := by
  cases h with
  | committed => simp
  | refused text failure => simp [commitText, rollbackText]

/-- What is committed after a transaction. -/
theorem ended_committed (own : Content) (db : Database) (controls : List (String × Option String)) :
    (ended own db controls).committed
      = if (commitText, none) ∈ controls then own else db.committed := by
  rw [ended]
  split
  · rfl
  · split <;> rfl

/-- A transaction is left open exactly if a rollback failed. -/
theorem Closes.inTransaction_iff {ending : Ending} {controls : List (String × Option String)}
    {outcome : Except DatabaseError Unit} (h : Closes ending controls outcome) {own : Content}
    {db : Database} (hopen : db.inTransaction = true) :
    (ended own db controls).inTransaction = false
      ↔ ∀ text, (rollbackText, some text) ∉ controls := by
  have hdistinct : commitText ≠ rollbackText := by decide
  rw [Database.inTransaction] at hopen
  cases h with
  | committed => simp [ended, Database.inTransaction, hdistinct.symm]
  | refused text failure | discarded failure | dropped failure | unwound failure =>
    cases failure <;> simp [ended, Database.inTransaction, hopen, hdistinct, hdistinct.symm]

/-- However a transaction is used and ended, whatever the engine refuses: it is ended by exactly one
of the sequences of `Closes`; what is committed afterwards is what its accepted statements make of
the content at its beginning if it was published, and that content otherwise; a commit succeeds
exactly if it was published; and it is over unless a rollback failed. -/
theorem use_closes {site : Site} (statements : List Statement) (ending : Ending)
    (hbegin : (Connection.begin site).outcome = .ok ())
    (hplain : ∀ statement ∈ statements, Engine.isControl statement.text = false) :
    ∃ outcomes outcome controls,
      (use statements ending site).outcome = .ok (outcomes, outcome) ∧
      (use statements ending site).journal.controls = (beginText, none) :: controls ∧
      Closes ending controls outcome ∧
      (use statements ending site).state.database.committed
        = (if (commitText, none) ∈ controls then
            site.database.committed.performAll (Statement.accepted statements outcomes)
          else site.database.committed) ∧
      (ending = .commit → (outcome = .ok () ↔ (commitText, none) ∈ controls)) ∧
      ((use statements ending site).state.database.inTransaction = false
        ↔ ∀ text, (rollbackText, some text) ∉ controls) := by
  rcases Connection.begin_cases site with
    ⟨cause, after, journal, hfailed, -⟩ | ⟨opened, hopened, -, -, hempty⟩
  · rw [hfailed] at hbegin
    exact absurd hbegin (by simp)
  · obtain ⟨outcomes, filled, sent, hsend, hfilled, hsilent⟩ :=
      Statement.sendEach_filled hempty hplain
    rw [List.nil_append] at hfilled
    obtain ⟨outcome, after, last, hperform, hcloses, hafter⟩ :=
      perform_closes ending hfilled.working
    have huse : use statements ending site = ⟨.ok (outcomes, outcome), after,
        [.called (.batch beginText) none] ++ (sent ++ last)⟩ := by
      rw [use, Work.bind_of_ok hopened, Work.bind_of_ok hsend,
        Work.bind_of_ok (Work.attempt_of hperform), Work.pure_apply, List.append_nil]
    rw [huse]
    refine ⟨outcomes, outcome, last.controls, rfl, ?_, hcloses, ?_, ?_, ?_⟩
    · rw [Journal.controls_append, Journal.controls_append, hsilent, List.nil_append,
        Journal.controls_control (by decide)]
      rfl
    · dsimp only
      rw [hafter, ended_committed, hfilled.database]
    · rintro rfl
      exact hcloses.ok_iff
    · dsimp only
      rw [hafter]
      exact hcloses.inTransaction_iff hfilled.inTransaction

/-- The second insertion is refused because its id is known, then the commit is refused, and so is
the rollback after it. -/
theorem use_closes_refused :
    let site : Site := { faults := [{ on := .batch, containing := "COMMIT", message := "disk full" },
      { on := .batch, containing := "ROLLBACK", message := "disk gone" }] }
    let insertion : Statement := .execute "INSERT INTO a VALUES (?)" ["1"]
    let statements : List Statement := [.batch "CREATE TABLE a (id INT)", insertion, insertion]
    (Connection.begin site).outcome = .ok () ∧
      (∀ statement ∈ statements, Engine.isControl statement.text = false) ∧
      (use statements .commit site).journal.controls = [(beginText, none),
        (commitText, some "disk full"), (rollbackText, some "disk gone")] ∧
      ∃ outcomes outcome controls,
        (use statements .commit site).outcome = .ok (outcomes, outcome) ∧
        (use statements .commit site).journal.controls = (beginText, none) :: controls ∧
        Closes .commit controls outcome ∧
        (use statements .commit site).state.database.committed
          = (if (commitText, none) ∈ controls then
              site.database.committed.performAll (Statement.accepted statements outcomes)
            else site.database.committed) ∧
        (Ending.commit = .commit → (outcome = .ok () ↔ (commitText, none) ∈ controls)) ∧
        ((use statements .commit site).state.database.inTransaction = false
          ↔ ∀ text, (rollbackText, some text) ∉ controls) := by
  intro site insertion statements
  have hbegin : (Connection.begin site).outcome = .ok () := by rfl
  have hplain : ∀ statement ∈ statements, Engine.isControl statement.text = false := by decide
  have hcontrols : (use statements .commit site).journal.controls = [(beginText, none),
      (commitText, some "disk full"), (rollbackText, some "disk gone")] := by
    decide +kernel
  exact ⟨hbegin, hplain, hcontrols, use_closes statements .commit hbegin hplain⟩

end Transaction

end SchemaUpgrade
