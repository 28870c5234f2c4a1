import SchemaUpgrade.Proofs.Instruction
import SchemaUpgrade.Proofs.Replay
/-!
# Opening, filling and ending a transaction

A transaction is opened by `Connection.begin`, filled by the statements of a migration, and ended
by `Transaction.commit`, `Transaction.rollback` or `Transaction.abandon`.

While it is open, the site is *filled* (`Site.Filled`): the private copy is the committed content
after the statements sent so far.  Opening fills it with nothing, and every statement that is no
control statement keeps it filled (`Instruction.runAll_filled`).  Ending it publishes the
statements as one group (`Site.Filled.commit_cases`), or it publishes nothing
(`Site.Discarded.publishes`).

## Main definitions

* `Site.Filled`: the site while a transaction is open.
* `Site.Discarded`: the site after a transaction that was not published.
-/

namespace SchemaUpgrade

open Engine

/-! ## Control statements -/

namespace Engine.Database

variable (db : Database)

theorem batch_begin : batch beginText db
    = if db.inTransaction then .error alreadyOpen
      else .ok ((), { db with working := some db.committed }) := by
  rw [batch, if_pos rfl]

theorem batch_commit : batch commitText db
    = match db.working with
      | some content => .ok ((), { committed := content })
      | none => .error (noneOpen "commit") := by
  have hbegin : commitText ≠ beginText := by decide
  exact (if_neg hbegin).trans (if_pos rfl)

theorem batch_rollback : batch rollbackText db
    = match db.working with
      | some _ => .ok ((), { db with working := none })
      | none => .error (noneOpen "rollback") := by
  have hbegin : rollbackText ≠ beginText := by decide
  have hcommit : rollbackText ≠ commitText := by decide
  exact (if_neg hbegin).trans ((if_neg hcommit).trans (if_pos rfl))

end Engine.Database

/-! ## Filling a transaction -/

/-- A site where a transaction that was opened at `site` is filled with statements. -/
structure Site.Filled (site filled : Site) (journal : Journal) (statements : List Statement) :
    Prop where
  frame : site.Frame filled
  admits : site.database.committed.AdmitsAll statements
  database : filled.database
    = { site.database with working := some (site.database.committed.performAll statements) }
  trace : site.database.Trace (· = site.database.committed) journal filled.database
  quiet : journal.Quiet

namespace Site.Filled

variable {site filled : Site} {journal : Journal} {statements : List Statement}

theorem working (h : site.Filled filled journal statements) :
    filled.database.working = some (site.database.committed.performAll statements) := by
  rw [h.database]

theorem inTransaction (h : site.Filled filled journal statements) :
    filled.database.inTransaction = true := by
  rw [Database.inTransaction, h.working]
  rfl

/-- Telling something leaves the transaction as it is. -/
theorem logged (h : site.Filled filled journal statements) (events : List Log.Event) :
    site.Filled filled (journal ++ events.map .logged) statements where
  frame := h.frame
  admits := h.admits
  database := h.database
  trace := h.trace.append (.logged (by exact h.trace.final) events)
  quiet := h.quiet.append (Journal.quiet_logged events)

/-- A statement that neither opens nor ends a transaction fails, or is added to those that fill
it. -/
theorem send_cases {statement : Statement} (h : site.Filled filled journal statements)
    (hplain : statement.isControl = false) :
    (∃ message after, statement.send filled
        = ⟨.error (.ofEngine message), after, [.called statement.call (some message)]⟩ ∧
      site.Filled after (journal ++ [.called statement.call (some message)]) statements) ∨
    (∃ after, statement.send filled = ⟨.ok (), after, [.called statement.call none]⟩ ∧
      site.Filled after (journal ++ [.called statement.call none])
        (statements ++ [statement])) := by
  have hsent := statement.send_trace (P := (· = site.database.committed)) filled h.trace.final
  rcases Statement.send_inside h.working hplain with
    ⟨message, faults, hsend⟩ | ⟨faults, database, hadmits, hsend, hdatabase⟩
  · rw [hsend] at hsent
    refine .inl ⟨message, _, hsend, h.frame.trans ⟨rfl, rfl, rfl⟩, h.admits, h.database, ?_, ?_⟩
    · exact h.trace.append (hsent h.trace.final)
    · exact h.quiet.append (Statement.quiet_of_plain hplain _)
  · have hcommitted : database.committed = site.database.committed := by
      rw [hdatabase]
      exact h.trace.final
    rw [hsend] at hsent
    refine .inr ⟨_, hsend, h.frame.trans ⟨rfl, rfl, rfl⟩, ?_, ?_, ?_, ?_⟩
    · rw [Content.admitsAll_append]
      exact ⟨h.admits, hadmits, trivial⟩
    · rw [hdatabase, h.database, Content.performAll_append]
      rfl
    · exact h.trace.append (hsent hcommitted)
    · exact h.quiet.append (Statement.quiet_of_plain hplain _)

end Site.Filled

namespace Instruction

variable {code : List Instruction} {site filled : Site} {journal : Journal}
  {before : List Statement}

/-- Instructions that send no control statement fill the transaction with their statements up to
the first that fails, and with all of them if they succeed. -/
theorem runAll_filled (h : site.Filled filled journal before)
    (hplain : ∀ statement ∈ statements code, statement.isControl = false) :
    ∃ sent, site.Filled (runAll code filled).state (journal ++ (runAll code filled).journal)
        (before ++ sent) ∧
      ((runAll code filled).outcome = .ok () →
        sent = statements code ∧ ∀ instruction ∈ code, instruction.isStop = false) := by
  -- Every statement that is sent moves on what fills the transaction, so all of it is generalized.
  induction code generalizing filled journal before with
  | nil =>
    refine ⟨[], ?_, fun _ => ⟨rfl, fun _ hmem => absurd hmem List.not_mem_nil⟩⟩
    rw [runAll, Work.pure_apply, List.append_nil, List.append_nil]
    exact h
  | cons instruction rest ih =>
    cases instruction with
    | send statement sender =>
      rw [statements_cons_send, List.forall_mem_cons] at hplain
      rcases h.send_cases hplain.1 with ⟨message, after, hsend, hafter⟩ | ⟨after, hsend, hafter⟩
      · rw [runAll_send_of_error hsend]
        refine ⟨[], ?_, fun hok => absurd hok (by simp)⟩
        rw [List.append_nil]
        exact hafter
      · rw [runAll_send_of_ok hsend]
        obtain ⟨sent, hfilled, hok⟩ := ih hafter hplain.2
        refine ⟨statement :: sent, ?_, fun hdone => ?_⟩
        · rw [List.append_assoc, List.append_assoc, List.singleton_append] at hfilled
          exact hfilled
        · obtain ⟨hsent, hstop⟩ := hok hdone
          exact ⟨by rw [hsent, statements_cons_send], List.forall_mem_cons.2 ⟨rfl, hstop⟩⟩
    | tell route notice =>
      rw [runAll_tell]
      obtain ⟨sent, hfilled, hok⟩ :=
        ih (h.logged (filled.logging.deliver route notice).toList) hplain
      refine ⟨sent, ?_, fun hdone => ?_⟩
      · rw [← List.append_assoc]
        exact hfilled
      · exact ⟨(hok hdone).1, List.forall_mem_cons.2 ⟨rfl, (hok hdone).2⟩⟩
    | raise flag =>
      have hraised : site.Filled { filled with raised := flag :: filled.raised } journal
          before :=
        ⟨h.frame.trans ⟨rfl, rfl, rfl⟩, h.admits, h.database, h.trace, h.quiet⟩
      rw [runAll_raise]
      obtain ⟨sent, hfilled, hok⟩ := ih hraised hplain
      refine ⟨sent, hfilled, fun hdone => ?_⟩
      exact ⟨(hok hdone).1, List.forall_mem_cons.2 ⟨rfl, (hok hdone).2⟩⟩
    | stop halt =>
      rw [runAll_stop]
      refine ⟨[], ?_, fun hok => absurd hok (by simp)⟩
      rw [List.append_nil, List.append_nil]
      exact h

/-- Without faults, instructions that hold no stop succeed whenever the open transaction takes
all their statements. -/
theorem runAll_of_admitsAll {content : Content} (hopen : site.database.working = some content)
    (hplain : ∀ statement ∈ statements code, statement.isControl = false)
    (hstop : ∀ instruction ∈ code, instruction.isStop = false)
    (hadmits : content.AdmitsAll (statements code)) (hfaults : site.faults = []) :
    (runAll code site).outcome = .ok () ∧ (runAll code site).state.faults = [] := by
  induction code generalizing site content with
  | nil => exact ⟨rfl, hfaults⟩
  | cons instruction rest ih =>
    rw [List.forall_mem_cons] at hstop
    cases instruction with
    | send statement sender =>
      rw [statements_cons_send, List.forall_mem_cons] at hplain
      have hcarry := Statement.carryOut_of_admits hopen hplain.1 hadmits.1
      rw [runAll_send_of_ok (Statement.send_of_no_faults hfaults hcarry)]
      exact ih rfl hplain.2 hstop.2 hadmits.2 hfaults
    | tell route notice =>
      rw [runAll_tell]
      exact ih hopen hplain hstop.2 hadmits hfaults
    | raise flag =>
      rw [runAll_raise]
      exact ih hopen hplain hstop.2 hadmits hfaults
    | stop halt => exact absurd hstop.1 (by simp [isStop])

/-- A flag that no instruction sets is not set afterwards unless it was set before. -/
theorem not_mem_raised_runAll {flag : CancelFlag} (hflag : flag ∉ flags code)
    (hsite : flag ∉ site.raised) : flag ∉ (runAll code site).state.raised := by
  induction code generalizing site with
  | nil => exact hsite
  | cons instruction rest ih =>
    cases instruction with
    | send statement sender =>
      rcases statement.send_cases site with
        ⟨message, faults, hsend⟩ | ⟨database, faults, -, hsend⟩
      · rw [runAll_send_of_error hsend]
        exact hsite
      · rw [runAll_send_of_ok hsend]
        exact ih hflag hsite
    | tell route notice =>
      rw [runAll_tell]
      exact ih hflag hsite
    | raise other =>
      rw [flags_cons_raise] at hflag
      rw [runAll_raise]
      obtain ⟨hne, hrest⟩ := List.ne_and_not_mem_of_not_mem_cons hflag
      exact ih hrest (List.not_mem_cons_of_ne_of_not_mem hne hsite)
    | stop halt => exact hsite

end Instruction

/-! ## Opening a transaction -/

namespace Connection

variable {α : Type} {site : Site}

/-- Asking for the connection changes nothing. -/
theorem lock_apply (site : Site) :
    lock site = ⟨if site.poisoned then .error .lockPoisoned else .ok (), site, []⟩ := by
  rw [lock, Work.bind_of_silent (Work.state_apply site)]
  split <;> rfl

theorem lock_bind_of_poisoned {next : Unit → Work Site DatabaseError α}
    (h : site.poisoned = true) : (lock >>= next) site = ⟨.error .lockPoisoned, site, []⟩ :=
  Work.bind_of_error (by rw [lock_apply, if_pos h])

theorem lock_bind {next : Unit → Work Site DatabaseError α} (h : site.poisoned = false) :
    (lock >>= next) site = next () site :=
  Work.bind_of_silent (by rw [lock_apply, if_neg (by simp [h])])

theorem begin_trace {db : Database} (hidle : db.working = none) :
    db.Trace (· = db.committed) [.called (.batch beginText) none]
      { db with working := some db.committed } := by
  have hcarry : (Statement.batch beginText).carryOut db
      = .ok { db with working := some db.committed } := by
    rw [Statement.carryOut, Database.batch_begin, if_neg (by simp [Database.inTransaction, hidle])]
    rfl
  exact .singleton rfl (Database.afterEntry_of_carryOut hcarry) rfl

/-- How opening a transaction can end.  It fails without any effect on the database; or nobody had
one open, and now one is filled with nothing. -/
theorem begin_cases (site : Site) :
    (∃ cause after journal, begin site = ⟨.error cause, after, journal⟩ ∧
      site.Frame after ∧ after.database = site.database ∧
      site.database.Trace (· = site.database.committed) journal after.database ∧
      journal.Quiet) ∨
    (∃ opened, begin site = ⟨.ok (), opened, [.called (.batch beginText) none]⟩ ∧
      site.poisoned = false ∧ site.database.working = none ∧
      site.Filled opened [.called (.batch beginText) none] []) := by
  rcases Bool.eq_false_or_eq_true site.poisoned with hpoisoned | hsound
  · exact .inl ⟨_, _, _, lock_bind_of_poisoned hpoisoned, .refl site, rfl, .nil rfl,
      Journal.quiet_nil⟩
  · rw [begin, lock_bind hsound]
    rcases Site.call_cases (.batch beginText) (Database.batch beginText) site with
      ⟨message, faults, hcall⟩ | ⟨answer, database, faults, hact, hcall⟩
    · refine .inl ⟨_, _, _, Work.mapError_of_error hcall, ⟨rfl, rfl, rfl⟩, rfl, ?_, rfl, rfl⟩
      exact .singleton rfl (Database.afterEntry_failed _ _ _) rfl
    · rw [Database.batch_begin] at hact
      split at hact
      · exact absurd hact (by simp)
      · rename_i hclosed
        have hidle : site.database.working = none := by
          simpa [Database.inTransaction] using hclosed
        obtain ⟨-, rfl⟩ := Prod.mk.inj (Except.ok.inj hact)
        exact .inr ⟨_, Work.mapError_of_ok hcall, hsound, hidle, ⟨rfl, rfl, rfl⟩, trivial, rfl,
          begin_trace hidle, rfl, rfl⟩

theorem begin_of_no_faults (hfaults : site.faults = []) (hsound : site.poisoned = false)
    (hidle : site.database.working = none) :
    begin site = ⟨.ok (),
      { site with database := { site.database with working := some site.database.committed } },
      [.called (.batch beginText) none]⟩ := by
  have hact : Database.batch beginText site.database
      = .ok ((), { site.database with working := some site.database.committed }) := by
    rw [Database.batch_begin, if_neg (by simp [Database.inTransaction, hidle])]
  rw [begin, lock_bind hsound]
  exact Work.mapError_of_ok (Site.call_of_no_faults _ _ site hfaults hact)

end Connection

/-! ## Ending a transaction -/

/-- A site after a transaction that was not published: its private copy is gone, unless a rollback
failed, and then the database is as it was.  What is committed never changed. -/
structure Site.Discarded (site after : Site) (journal : Journal) : Prop where
  frame : site.Frame after
  database : after.database
    = if journal.rollbackFailed then site.database else { site.database with working := none }
  trace : site.database.Trace (· = site.database.committed) journal after.database
  unpublished : journal.published = false

namespace Site.Discarded

variable {site after : Site} {journal : Journal}

/-- A call that was refused before changes nothing of this. -/
theorem after_refusal {faults : List Fault} {call : Call} {message : String}
    (hcall : Journal.Quiet [.called call (some message)])
    (h : { site with faults := faults }.Discarded after journal) :
    site.Discarded after ([.called call (some message)] ++ journal) where
  frame := ⟨h.frame.surroundings, h.frame.arriving, h.frame.poisoned⟩
  database := by
    rw [Journal.rollbackFailed_append, hcall.rollbackFailed, Bool.false_or, h.database]
  trace := .append (.singleton rfl (Database.afterEntry_failed _ _ _) rfl) h.trace
  unpublished := by rw [Journal.published_append, hcall.published, h.unpublished, Bool.or_false]

theorem publishes {start : Site} {front : Journal} {statements : List Statement}
    (h : site.Discarded after journal) (hfilled : start.Filled site front statements) :
    start.database.Publishes (front ++ journal) after.database [] := by
  refine .nothing (hfilled.trace.append (h.trace.mono fun content hcontent => ?_)) ?_
  · exact hcontent.trans hfilled.trace.final
  · rw [Journal.rollbackFailed_append, hfilled.quiet.rollbackFailed, Bool.false_or, h.database]
    cases journal.rollbackFailed with
    | true => exact hfilled.inTransaction
    | false => rfl

end Site.Discarded

namespace Transaction

/-- Nothing is sent for a transaction that is finished. -/
theorem release_of_finished {ε : Type} {transaction : Transaction}
    (h : transaction.finished = true) :
    (transaction.release : Work Site ε Unit) = pure () := by
  rw [release, if_pos h]

/-- Where what is sent leaves the transaction finished, letting go of it adds nothing. -/
theorem endBy_of_finished {site after : Site} {journal : Journal}
    {send : Transaction → Work Site DatabaseError (Except DatabaseError Unit × Transaction)}
    {outcome : Except DatabaseError Unit} {transaction : Transaction}
    (hsend : send {} site = ⟨.ok (outcome, transaction), after, journal⟩)
    (hfinished : transaction.finished = true) : endBy send site = ⟨outcome, after, journal⟩ := by
  have hanswer : (Work.ofExcept outcome : Work Site DatabaseError Unit) after
      = ⟨outcome, after, []⟩ := by
    cases outcome <;> rfl
  have hrest : (transaction.release >>= fun _ => Work.ofExcept outcome) after
      = ⟨outcome, after, []⟩ := by
    rw [release_of_finished hfinished, pure_bind, hanswer]
  rw [endBy, Work.bind_of_ok_of hsend hrest, List.append_nil]

theorem sendRollback_apply (transaction : Transaction) {site after : Site}
    {answer : Except String Unit} {journal : Journal}
    (h : Site.batch rollbackText site = ⟨answer, after, journal⟩) :
    transaction.sendRollback site
      = ⟨.ok (answer.mapError fun text => .transaction ("ROLLBACK failed: " ++ text),
          { transaction with finished := true }), after, journal⟩ := by
  rw [sendRollback, Work.bind_of_ok (Work.attempt_of (Work.mapError_of h)), Work.pure_apply,
    List.append_nil]

/-- A rollback is the call that discards the transaction, and nothing else. -/
theorem rollback_eq : rollback
    = (Site.batch rollbackText).mapError fun text => .transaction ("ROLLBACK failed: " ++ text) := by
  funext site
  rcases h : Site.batch rollbackText site with ⟨answer, after, journal⟩
  rw [rollback, endBy_of_finished (sendRollback_apply {} h) rfl, Work.mapError_of h]

/-- A commit is the call that publishes the transaction and, if the engine refuses it, a rollback,
of which the error tells as well. -/
theorem commit_eq : commit = (do
    match ← (Site.batch commitText).attempt with
    | .ok () => pure ()
    | .error text =>
      let outcome ← rollback.attempt
      Work.fail ((DatabaseError.transaction ("COMMIT failed: " ++ text)).joinRollback outcome)) := by
  funext site
  rcases hcommit : Site.batch commitText site with ⟨text | ⟨⟩, mid, journal⟩
  · rcases hanswer : Site.batch rollbackText mid with ⟨answer, after, more⟩
    have hsent : sendRollback {} mid
        = ⟨.ok ((rollback mid).outcome, { finished := true }), after, more⟩ := by
      rw [sendRollback_apply {} hanswer, rollback_eq, Work.mapError_of hanswer]
    have hrollback : rollback mid = ⟨(rollback mid).outcome, after, more⟩ := by
      rw [rollback_eq, Work.mapError_of hanswer]
    have hsend : sendCommit {} site = ⟨.ok (.error ((DatabaseError.transaction
        ("COMMIT failed: " ++ text)).joinRollback (rollback mid).outcome), { finished := true }),
        after, journal ++ more⟩ := by
      rw [sendCommit, Work.bind_of_ok (Work.attempt_of hcommit)]
      dsimp only
      rw [Work.bind_of_ok hsent, Work.pure_apply, List.append_nil]
    rw [commit, endBy_of_finished hsend rfl, Work.bind_of_ok (Work.attempt_of hcommit)]
    dsimp only
    rw [Work.bind_of_ok (Work.attempt_of hrollback), Work.fail_apply, List.append_nil]
  · have hsend : sendCommit {} site = ⟨.ok (.ok (), { finished := true }), mid, journal⟩ := by
      rw [sendCommit, Work.bind_of_ok (Work.attempt_of hcommit)]
      dsimp only
      rw [Work.pure_apply, List.append_nil]
    rw [commit, endBy_of_finished hsend rfl, Work.bind_of_ok (Work.attempt_of hcommit)]
    dsimp only
    rw [Work.pure_apply, List.append_nil]

theorem rollback_call_cases (site : Site) :
    (∃ message after, Site.batch rollbackText site
        = ⟨.error message, after, [.called (.batch rollbackText) (some message)]⟩ ∧
      site.Discarded after [.called (.batch rollbackText) (some message)]) ∨
    (∃ after, Site.batch rollbackText site
        = ⟨.ok (), after, [.called (.batch rollbackText) none]⟩ ∧
      site.Discarded after [.called (.batch rollbackText) none]) := by
  rcases Site.call_cases (.batch rollbackText) (Database.batch rollbackText) site with
    ⟨message, faults, hcall⟩ | ⟨answer, database, faults, hact, hcall⟩
  · refine .inl ⟨message, _, hcall, ⟨rfl, rfl, rfl⟩, rfl, ?_, rfl⟩
    exact .singleton rfl (Database.afterEntry_failed _ _ _) rfl
  · have hcarry : (Statement.batch rollbackText).carryOut site.database = .ok database := by
      simp [Statement.carryOut, hact, Except.map]
    have hafter := Database.afterEntry_of_carryOut hcarry
    rw [Database.batch_rollback] at hact
    split at hact
    · obtain ⟨-, rfl⟩ := Prod.mk.inj (Except.ok.inj hact)
      exact .inr ⟨_, hcall, ⟨rfl, rfl, rfl⟩, rfl, .singleton rfl hafter rfl, rfl⟩
    · exact absurd hact (by simp)

/-- Discarding a transaction and then failing, with an error that tells how the rollback ended.  It
takes one call. -/
theorem rollback_then_fail_call {ε α : Type} (error : Except DatabaseError Unit → ε)
    (site : Site) :
    ∃ outcome after failure,
      (rollback.attempt >>= fun outcome => (Work.fail (error outcome) : Work Site ε α)) site
        = ⟨.error (error outcome), after, [.called (.batch rollbackText) failure]⟩ ∧
      site.Discarded after [.called (.batch rollbackText) failure] := by
  rw [rollback_eq]
  rcases rollback_call_cases site with ⟨message, after, hcall, hafter⟩ | ⟨after, hcall, hafter⟩
  · exact ⟨_, after, _, Work.bind_of_ok (Work.attempt_of (Work.mapError_of_error hcall)), hafter⟩
  · exact ⟨_, after, _, Work.bind_of_ok (Work.attempt_of (Work.mapError_of_ok hcall)), hafter⟩

theorem rollback_then_fail {ε α : Type} (error : Except DatabaseError Unit → ε) (site : Site) :
    ∃ outcome after journal,
      (rollback.attempt >>= fun outcome => (Work.fail (error outcome) : Work Site ε α)) site
        = ⟨.error (error outcome), after, journal⟩ ∧
      site.Discarded after journal := by
  obtain ⟨outcome, after, failure, hrollback, hafter⟩ :=
    rollback_then_fail_call (α := α) error site
  exact ⟨outcome, after, _, hrollback, hafter⟩

/-- Rolling back a transaction that nobody ended never fails. -/
theorem abandon_cases {ε : Type} (site : Site) :
    ∃ after journal, (abandon : Work Site ε Unit) site = ⟨.ok (), after, journal⟩ ∧
      site.Discarded after journal := by
  rcases rollback_call_cases site with ⟨message, after, hcall, hafter⟩ | ⟨after, hcall, hafter⟩
  · have habandon : (abandon : Work Site ε Unit) site = ⟨.ok (), after,
        [.called (.batch rollbackText) (some message)]
          ++ (after.logging.deliver .ofProcess (.rollbackLost message)).toList.map .logged⟩ :=
      Work.bind_of_ok (Work.attempt_of hcall)
    refine ⟨after, _, habandon, hafter.frame, ?_, ?_, ?_⟩
    · rw [hafter.database, Journal.rollbackFailed_append,
        (Journal.quiet_logged _).rollbackFailed, Bool.or_false]
    · refine hafter.trace.append (.logged ?_ _)
      exact hafter.trace.final
    · rw [Journal.published_append, hafter.unpublished, (Journal.quiet_logged _).published,
        Bool.or_false]
  · exact ⟨after, _, Work.bind_of_ok (Work.attempt_of hcall), hafter⟩

/-- How publishing a transaction can end: its private copy is committed, or it fails and the
transaction is rolled back. -/
theorem commit_cases (site : Site) :
    (∃ content faults, site.database.working = some content ∧
      commit site = ⟨.ok (), { site with faults := faults, database := { committed := content } },
        [.called (.batch commitText) none]⟩) ∨
    (∃ text outcome after journal, commit site
        = ⟨.error ((DatabaseError.transaction text).joinRollback outcome), after, journal⟩ ∧
      site.Discarded after journal) := by
  rw [commit_eq]
  rcases Site.call_cases (.batch commitText) (Database.batch commitText) site with
    ⟨message, faults, hcall⟩ | ⟨answer, database, faults, hact, hcall⟩
  · have hrefusal : Journal.Quiet [.called (.batch commitText) (some message)] := ⟨rfl, rfl⟩
    obtain ⟨outcome, after, journal, hrollback, hafter⟩ :=
      rollback_then_fail (α := Unit)
        (DatabaseError.transaction ("COMMIT failed: " ++ message)).joinRollback
        { site with faults := faults }
    exact .inr ⟨"COMMIT failed: " ++ message, outcome, after, _,
      Work.bind_of_ok_of (Work.attempt_of hcall) hrollback, hafter.after_refusal hrefusal⟩
  · rw [Database.batch_commit] at hact
    split at hact
    · rename_i content hopen
      obtain ⟨-, rfl⟩ := Prod.mk.inj (Except.ok.inj hact)
      exact .inl ⟨content, faults, hopen, Work.bind_of_ok (Work.attempt_of hcall)⟩
    · exact absurd hact (by simp)

theorem rollback_of_no_faults {site : Site} {content : Content} (hfaults : site.faults = [])
    (hopen : site.database.working = some content) :
    rollback site = ⟨.ok (), { site with database := { site.database with working := none } },
      [.called (.batch rollbackText) none]⟩ := by
  have hact : Database.batch rollbackText site.database
      = .ok ((), { site.database with working := none }) := by
    rw [Database.batch_rollback, hopen]
  rw [rollback_eq]
  exact Work.mapError_of_ok (Site.call_of_no_faults _ _ site hfaults hact)

theorem commit_of_no_faults {site : Site} {content : Content} (hfaults : site.faults = [])
    (hopen : site.database.working = some content) :
    commit site = ⟨.ok (), { site with database := { committed := content } },
      [.called (.batch commitText) none]⟩ := by
  have hact : Database.batch commitText site.database = .ok ((), { committed := content }) := by
    rw [Database.batch_commit, hopen]
  rw [commit_eq]
  exact Work.bind_of_ok (Work.attempt_of (Site.call_of_no_faults _ _ site hfaults hact))

end Transaction

/-- Publishing a filled transaction makes the statements that fill it one group; or it fails, and
nothing is published. -/
theorem Site.Filled.commit_cases {site filled : Site} {journal : Journal}
    {statements : List Statement} (h : site.Filled filled journal statements) :
    (∃ after, Transaction.commit filled
        = ⟨.ok (), after, [.called (.batch commitText) none]⟩ ∧
      site.Frame after ∧ after.database.working = none ∧
      site.database.Publishes (journal ++ [.called (.batch commitText) none]) after.database
        [statements]) ∨
    (∃ text outcome after more, Transaction.commit filled
        = ⟨.error ((DatabaseError.transaction text).joinRollback outcome), after, more⟩ ∧
      filled.Discarded after more) := by
  rcases Transaction.commit_cases filled with ⟨content, faults, hopen, hcommit⟩ | hfailed
  · obtain rfl : site.database.committed.performAll statements = content :=
      Option.some.inj (h.working.symm.trans hopen)
    have hcarry : (Statement.batch commitText).carryOut filled.database
        = .ok { committed := site.database.committed.performAll statements } := by
      rw [Statement.carryOut, Database.batch_commit, h.working]
      rfl
    refine .inl ⟨_, hcommit, h.frame.trans ⟨rfl, rfl, rfl⟩, rfl, ⟨?_, ?_, ?_⟩, ?_⟩
    · rw [List.flatten_singleton]
      exact h.admits
    · rw [List.flatten_singleton]
    · refine .append (h.trace.mono fun content hcontent => ⟨[], List.nil_prefix, hcontent⟩)
        (.singleton ⟨[], List.nil_prefix, h.trace.final⟩ (Database.afterEntry_of_carryOut hcarry)
          ⟨[statements], List.prefix_rfl, by rw [List.flatten_singleton]⟩)
    · rw [Journal.rollbackFailed_append, h.quiet.rollbackFailed]
      rfl
  · exact .inr hfailed

end SchemaUpgrade
