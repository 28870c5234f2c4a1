import SchemaUpgrade.Proofs.Disclosure
/-!
# Why a run fails

A run fails for one of four reasons (`Runner.run_fails`): the database failed, or a rollback after
an error did; the keys do not continue the history; the flag of the runner was set; or a migration
ended itself, with an error of its own or in a panic.  The first three are worded by the run, and
none of its words blames the setup.

So an error of the setup or of a cancellation that comes out of a migration was put there by the
migration itself (`Runner.error_of_applyOne`).

## Main definitions

* `Runner.Fails`: the reasons for which a run fails.
-/

namespace SchemaUpgrade

open Engine

namespace Runner

variable {runner : Runner} {migration : Migration} {site : Site} {halt : Halt UpgradeError}

/-- A plan fails because the database did, or at the comparison with the history. -/
theorem error_of_plan {error : UpgradeError} (h : (runner.plan site).outcome = .error error) :
    error.blamesDatabase = true ∨ ∃ mismatch, error = .history mismatch := by
  rcases hlisting : runner.listing site with ⟨cause | recorded, after, journal⟩
  · obtain ⟨phase, hplan⟩ := plan_of_unlisted hlisting
    rw [hplan] at h
    obtain rfl := Except.error.inj h
    exact .inl rfl
  · cases hresume : History.resumePoint runner.keys recorded with
    | ok resume =>
      obtain ⟨events, hplan⟩ := plan_of_continued hlisting hresume
      rw [hplan] at h
      exact absurd h (by simp)
    | error mismatch =>
      obtain ⟨events, hplan⟩ := plan_of_mismatch hlisting hresume
      rw [hplan] at h
      exact .inr ⟨mismatch, (Except.error.inj h).symm⟩

/-- A migration is not applied because it ended itself, or because the database failed. -/
theorem error_of_applyOne (h : (runner.applyOne migration site).outcome = .error halt) :
    .stop halt ∈ migration.instructions site.files ∨
      ∃ error, halt = .failure error ∧ error.blamesDatabase = true := by
  rcases runner.applyOne_steps migration site with
    ⟨cause, after, journal, hfailed, -⟩ | ⟨opened, -, -, hsteps⟩
  · rw [hfailed] at h
    exact .inr ⟨_, (Except.error.inj h).symm, rfl⟩
  · rcases hsteps with
      ⟨stop, other, filled, journal, after, more, hdone, -, houtcome, -, -, -, hself, -⟩ |
      ⟨filled, journal, -, hrest⟩
    · obtain rfl : halt = other := Except.error.inj (h.symm.trans houtcome)
      rcases hself with rfl | hblames
      · rcases Instruction.error_of_runAll (congrArg Finished.outcome hdone) with
          ⟨sender, cause, rfl⟩ | hstop
        · exact .inr ⟨_, rfl, sender.blamesDatabase_error cause⟩
        · exact .inl hstop
      · exact .inr hblames
    · rw [hrest] at h
      rcases runner.conclude_steps migration filled with
        ⟨error, mid, after, journal, more, hall, hblames, -⟩ |
        ⟨database, content, faults, -, -, hall⟩
      · rw [hall] at h
        exact .inr ⟨error, (Except.error.inj h).symm, hblames⟩
      · rw [hall] at h
        exact absurd h (by simp)

/-- A run reads the same files from its first migration to its last. -/
theorem Passes.files {migrations : List Migration} {after : Site} {journal : Journal}
    (h : runner.Passes migrations site after journal) : after.files = site.files := by
  induction h with
  | nil site => rfl
  | @cons migration rest site looked next after journal more hlook happly hrest ih =>
    obtain ⟨haround, -⟩ := look_of_isCancelled hlook
    have hnext := applyOne_files (congrArg Finished.outcome happly)
    rw [happly] at hnext
    calc after.files = next.files := ih
      _ = looked.files := hnext
      _ = site.files := by rw [haround]

/-- The reasons for which a run fails, or panics. -/
inductive Fails (runner : Runner) (files : Files) : Halt UpgradeError → Prop where
  /-- The database failed, or a rollback did. -/
  | database {error : UpgradeError} (hblames : error.blamesDatabase = true) :
      Fails runner files (.failure error)
  /-- The keys do not continue the history. -/
  | history (mismatch : HistoryError) : Fails runner files (.failure (.history mismatch))
  /-- The flag of the runner was set. -/
  | cancelled (count : Nat) : Fails runner files (.failure (.cancelled count))
  /-- A migration ended itself. -/
  | own {migration : Migration} {halt : Halt UpgradeError} (hmem : migration ∈ runner.migrations)
      (hstop : .stop halt ∈ migration.instructions files) : Fails runner files halt

theorem run_fails (h : (runner.run site).outcome = .error halt) :
    runner.Fails site.files halt := by
  rcases runner.run_stages site with
    ⟨error, after, journal, hplan, hrun⟩ |
    ⟨plan, listed, ready, planned, events, passed, rest, mid, journal, finished, -, -, -,
      hframe, hsplit, hpasses, hends, hrun⟩
  · rw [hrun] at h
    obtain rfl := Except.error.inj h
    rcases error_of_plan (congrArg Finished.outcome hplan) with hblames | ⟨mismatch, rfl⟩
    · exact .database hblames
    · exact .history mismatch
  · rw [hrun] at h
    have hfiles : mid.files = site.files := hpasses.files.trans hframe.files
    cases hends with
    | finished => exact absurd h (by simp)
    | cancelled hlook =>
      obtain rfl := Except.error.inj h
      exact .cancelled _
    | @failed migration rest looked after other journal hlook happly =>
      obtain rfl := Except.error.inj h
      obtain ⟨haround, -⟩ := look_of_isCancelled hlook
      rcases error_of_applyOne (congrArg Finished.outcome happly) with
        hstop | ⟨error, rfl, hblames⟩
      · rw [haround, hfiles] at hstop
        have hmem : migration ∈ passed ++ migration :: rest := by simp
        exact .own (mem_of_mem_pendingOn (hsplit ▸ hmem)) hstop
      · exact .database hblames

end Runner

/-- An error that blames the database does not lie in the setup. -/
theorem UpgradeError.isSetup_of_blamesDatabase {error : UpgradeError}
    (h : error.blamesDatabase = true) : error.isSetup = false := by
  cases error <;> simp_all [blamesDatabase, isSetup]

end SchemaUpgrade
