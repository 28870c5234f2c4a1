import SchemaUpgrade.Proofs.Bookkeeping
/-!
# A run is all or nothing, migration by migration

Whatever the engine refuses and whenever the run is cancelled, what is committed after a run is
what was committed before it, then the creating statement if its transaction was committed, and
then the whole changes of the first pending migrations, of nothing else (`Runner.run_atomic`).  How
many they are is told by how the run ended (`Runner.StopsAfter`).
-/

namespace SchemaUpgrade.Runner

open Engine

/-- How a run ends that applied the first `count` of the pending migrations. -/
inductive StopsAfter (runner : Runner) (site : Site) (count : Nat) : Prop where
  /-- It succeeded, and its report lists them. -/
  | finished (report : Report) (houtcome : (runner.run site).outcome = .ok report)
      (hcount : count = report.applied.length)
      (happlied : report.applied
        = (runner.pendingOn site.database.committed).map Migration.key)
  /-- Its plan failed, so there are none. -/
  | planned (error : UpgradeError) (hplan : (runner.plan site).outcome = .error error)
      (houtcome : (runner.run site).outcome = .error (.failure error)) (hcount : count = 0)
  /-- It saw that its flag was set, and its error tells their number. -/
  | cancelled (flag : CancelFlag) (hcancel : runner.cancel = some flag)
      (hraised : (runner.run site).state.isRaised flag = true)
      (hleft : count < (runner.pendingOn site.database.committed).length)
      (houtcome : (runner.run site).outcome = .error (.failure (.cancelled count)))
  /-- The migration after them failed, on the database that they left.  If its error says that the
  run was cancelled, then because the migration itself fails that way. -/
  | failed (migration : Migration) (before : Site) (halt : Halt UpgradeError)
      (hnext : (runner.pendingOn site.database.committed)[count]? = some migration)
      (hbefore : before.database = { committed := (runner.run site).state.database.committed })
      (happly : (runner.applyOne migration before).outcome = .error halt)
      (hstate : (runner.run site).state = (runner.applyOne migration before).state)
      (houtcome : (runner.run site).outcome = .error halt)
      (hself : ∀ n, halt = .failure (.cancelled n) →
        .stop halt ∈ migration.instructions site.files)

/-- A run that has passed some of the pending migrations and then ends stops after those. -/
theorem stopsAfter_of_ends {runner : Runner} {site mid : Site} {passed rest : List Migration}
    {journal : Journal} {finished : Finished Site (Halt UpgradeError) Report}
    {skipped : List String}
    (hsplit : runner.pendingOn site.database.committed = passed ++ rest)
    (hreached : runner.Reached site passed mid journal)
    (hends : runner.Ends { skipped := skipped } passed mid rest finished)
    (hplain : ∀ migration ∈ rest,
      ∀ statement ∈ Instruction.statements (migration.instructions site.files),
        statement.isControl = false)
    (hrun : runner.run site = ⟨finished.outcome, finished.state, journal ++ finished.journal⟩) :
    runner.StopsAfter site passed.length := by
  cases hends with
  | finished =>
    refine .finished _ (by rw [hrun]) ?_ ?_
    · rw [applied, List.nil_append, List.length_map]
    · rw [applied, List.nil_append, hsplit, List.append_nil]
  | @cancelled migration rest looked hlook =>
    obtain ⟨-, -, -, hflag⟩ := look_of_isCancelled hlook
    obtain ⟨flag, hcancel, hraised⟩ := hflag rfl
    refine .cancelled flag hcancel (by rw [hrun]; exact hraised) ?_ ?_
    · rw [hsplit, List.length_append, List.length_cons]
      omega
    · rw [hrun, List.length_nil, Nat.zero_add]
  | @failed migration rest looked after halt more hlook happly =>
    obtain ⟨haround, hdatabase, -⟩ := look_of_isCancelled hlook
    have hfiles : looked.files = site.files := by rw [haround, hreached.files]
    have hidle : looked.database.working = none := by rw [hdatabase, hreached.idle]
    have hplain' := hplain migration List.mem_cons_self
    rw [← hfiles] at hplain'
    rcases applyOne_cases hidle hplain' with
      ⟨other, failed, journal', hfailed, hpublishes, hself, -⟩ | ⟨applied, journal', happlied, -⟩
    · rw [happly] at hfailed
      obtain ⟨houtcome, rfl, -⟩ := Finished.mk.inj hfailed
      obtain rfl := Except.error.inj houtcome
      have hcommitted : after.database.committed = looked.database.committed :=
        hpublishes.committed
      refine .failed migration looked halt ?_ ?_ (by rw [happly]) (by rw [hrun, happly])
        (by rw [hrun]) (by rw [← hfiles]; exact hself)
      · rw [hsplit, List.getElem?_append_right (Nat.le_refl _), Nat.sub_self]
        rfl
      · rw [hrun, hcommitted, ← hidle]
    · exact absurd (congrArg Finished.outcome (happly.symm.trans happlied)) (by simp)

/-- A run publishes the creating statement, if its transaction was committed, and the changes of
the first pending migrations as a whole, and nothing else.  A transaction is open afterwards exactly
when a rollback failed. -/
theorem run_atomic (runner : Runner) (site : Site) (hplain : runner.Plain site.files)
    (hidle : site.database.working = none) :
    ∃ count, count ≤ (runner.pendingOn site.database.committed).length ∧
      runner.StopsAfter site count ∧
      (runner.run site).state.database.committed
        = site.database.committed.performAll ((runner.created site).flatten
            ++ ((runner.pendingOn site.database.committed).take count).flatMap
              (runner.change site.files)) ∧
      (runner.run site).state.database.inTransaction
        = (runner.run site).journal.rollbackFailed := by
  rcases run_cases hplain hidle with
    ⟨error, after, journal, hplan, hrun, -, hpublishes, -⟩ |
    ⟨plan, passed, rest, mid, journal, finished, -, -, hcreated, hsplit, hreached, hends, hrun⟩
  · refine ⟨0, Nat.zero_le _, .planned error (by rw [hplan]) (by rw [hrun]) rfl, ?_, ?_⟩
    · rw [hrun, List.take_zero, List.flatMap_nil, List.append_nil]
      exact hpublishes.committed
    · rw [hrun]
      exact hpublishes.inTransaction
  · have hrest : ∀ migration ∈ rest,
        ∀ statement ∈ Instruction.statements (migration.instructions site.files),
          statement.isControl = false := fun migration hmem =>
      hplain.migrations migration
        (mem_of_mem_pendingOn (hsplit ▸ List.mem_append_right passed hmem))
    have hend := hreached.publishes_end hends hrest
    refine ⟨passed.length, by rw [hsplit, List.length_append]; omega, ?_, ?_, ?_⟩
    · exact stopsAfter_of_ends hsplit hreached hends hrest hrun
    · rw [hrun, hend.committed, hcreated, hsplit, List.take_left, List.flatten_cons,
        List.flatMap_def]
      rfl
    · rw [hrun]
      exact hend.inTransaction

/-- A run of which the engine refuses the last commit. -/
theorem run_atomic_twoSteps :
    let site : Site :=
      { faults := [{ on := .batch, containing := "COMMIT", skip := 2, message := "disk full" }] }
    twoSteps.Plain site.files ∧ site.database.working = none ∧
      ∃ count, count ≤ (twoSteps.pendingOn site.database.committed).length ∧
        twoSteps.StopsAfter site count ∧
        (twoSteps.run site).state.database.committed
          = site.database.committed.performAll ((twoSteps.created site).flatten
              ++ ((twoSteps.pendingOn site.database.committed).take count).flatMap
                (twoSteps.change site.files)) ∧
        (twoSteps.run site).state.database.inTransaction
          = (twoSteps.run site).journal.rollbackFailed :=
  ⟨(twoSteps_keepsBooks _).plain, rfl, run_atomic twoSteps _ (twoSteps_keepsBooks _).plain rfl⟩

end SchemaUpgrade.Runner
