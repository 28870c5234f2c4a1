import SchemaUpgrade.Proofs.Errands
import SchemaUpgrade.Proofs.LateKeys
/-!
# A plan predicts the run after it

A run makes a plan of its own and then decides about every migration anew.  Still, whoever asks for
a plan first knows what the run after it will do, as long as nobody else touches the database in
between (`Runner.run_follows_plan`): the run takes up migrations in the order of the plan, it
applies all of them if it succeeds, and it skips exactly the others.  A mismatch with the history
that the plan found is found by the run as well.

A plan leaves the recorded keys as they are (`Runner.recorded_plan`), and a run resumes after the
last of them, so both have the same keys to compare.  For the mismatch it has to be known that the
run gets as far as the comparison: on a sound connection without an open transaction, keys that
cannot be listed are always due to a call that failed (`Runner.failures_listing_ne_nil`).

## Main definitions

* `Runner.Follows`: a run does what a plan says.
-/

namespace SchemaUpgrade

open Engine

namespace Runner

variable {runner : Runner} {plan : Plan} {recorded : List String} {site after : Site}

/-- On a sound connection, the recorded keys are listed unless a call fails. -/
theorem failures_listing_ne_nil (hplain : runner.creation.isControl = false)
    (hsound : site.poisoned = false) {cause : DatabaseError}
    (herror : (runner.listing site).outcome = .error cause) :
    (runner.listing site).journal.failures ≠ [] := by
  have hcourse : Course (.calm site.files) DatabaseError.Tells _ runner.listing _ :=
    runner.course_listing
  refine (hcourse.walks id rfl hsound rfl ?_).failures_ne_nil herror
  have hcreation : runner.creation.call ≠ .batch rollbackText := Statement.call_ne_rollback hplain
  have hbegin : beginText ≠ rollbackText := by decide
  have hcommit : commitText ≠ rollbackText := by decide
  simp [Errand.telling, hbegin, hcommit, hcreation]

/-! ## What a plan leaves -/

/-- A plan that found a mismatch has listed the recorded keys. -/
theorem listed_of_plan_mismatch {mismatch : HistoryError}
    (h : (runner.plan site).outcome = .error (.history mismatch)) :
    (∃ after, runner.Listed site after (runner.recorded site.database.committed)) ∧
      History.resumePoint runner.keys (runner.recorded site.database.committed)
        = .error mismatch := by
  rcases hlisting : runner.listing site with ⟨cause | recorded, after, journal⟩
  · obtain ⟨phase, hplan⟩ := plan_of_unlisted hlisting
    rw [hplan] at h
    exact absurd h (by simp)
  · obtain ⟨after, hlisted⟩ := listed_of_ok (congrArg Finished.outcome hlisting)
    obtain rfl := hlisted.reported
    refine ⟨⟨after, hlisted⟩, ?_⟩
    cases hresume : History.resumePoint runner.keys
        (runner.recorded site.database.committed) with
    | error other =>
      obtain ⟨events, hplan⟩ := plan_of_mismatch hlisted.listing hresume
      rw [hplan] at h
      rw [UpgradeError.history.inj (Except.error.inj h)]
    | ok resume =>
      obtain ⟨events, hplan⟩ := plan_of_continued hlisted.listing hresume
      rw [hplan] at h
      exact absurd h (by simp)

/-- Comparing the keys changes nothing. -/
theorem state_plan (h : runner.Listed site after recorded) : (runner.plan site).state = after := by
  obtain ⟨outcome, events, hplan⟩ := runner.exists_plan site
  rw [hplan, h.listing]

/-- A plan leaves the recorded keys as they are. -/
theorem recorded_plan (h : runner.Listed site after recorded) :
    runner.recorded (runner.plan site).state.database.committed
      = runner.recorded site.database.committed := by
  rw [state_plan h, h.database]
  rfl

/-! ## What a plan says -/

/-- The keys that a plan calls pending are those of the pending migrations. -/
theorem PlanFor.pending_eq {content : Content} (h : runner.PlanFor content plan) :
    plan.pending = (runner.pendingOn content).map Migration.key := by
  obtain ⟨hresume, -⟩ := History.resumePoint_eq_ok h.resumePoint
  rw [h.pending, hresume, keys, List.filter_map]
  rfl

theorem planFor_of_ok (h : (runner.plan site).outcome = .ok plan) :
    runner.PlanFor site.database.committed plan := by
  rcases runner.run_stages site with
    ⟨error, after, journal, hplan, -⟩ | ⟨other, _, _, _, _, _, _, _, _, _, hplan, -, hfor, -⟩
  · rw [hplan] at h
    exact absurd h (by simp)
  · rw [hplan] at h
    exact Except.ok.inj h ▸ hfor

/-- What can happen in a run from `again` according to a plan. -/
structure Follows (runner : Runner) (plan : Plan) (again : Site) : Prop where
  /-- If the run succeeds, it has applied all that was pending and skipped the rest, so each
  migration is reported once, in the order of the keys. -/
  report : ∀ report, (runner.run again).outcome = .ok report →
    report.applied = plan.pending ∧ report.skipped ++ report.applied = runner.keys
  /-- However the run ends, after its own plan, for which it asks the engine nothing but the
  listing, it has taken up the first of the pending migrations, in that order, and no others. -/
  takesUp : ∃ taken rest, (runner.plan again).journal.calls = (runner.listing again).journal.calls ∧
    (runner.run again).journal = (runner.plan again).journal ++ rest ∧
    runner.TakesUp taken (runner.plan again).state (runner.run again).state rest ∧
    taken.map Migration.key <+: plan.pending

/-- A run follows every plan that names the migrations pending at its start. -/
theorem follows_of_pending (again : Site)
    (hpending : plan.pending = (runner.pendingOn again.database.committed).map Migration.key) :
    runner.Follows plan again := by
  have hcalls := runner.calls_plan again
  rcases runner.run_stages again with
    ⟨error, after, journal, hplan, hrun⟩ |
    ⟨own, listed, ready, planned, events, passed, rest, mid, journal, finished, hplan, -, -, -,
      hsplit, hpasses, hends, hrun⟩
  · refine ⟨?_, [], [], hcalls, ?_, ?_, List.nil_prefix⟩
    · intro report hok
      rw [hrun] at hok
      exact absurd hok (by simp)
    · rw [hplan, hrun, List.append_nil]
    · rw [hplan, hrun]
      exact .nothing after
  · obtain ⟨last, hlast, htaken⟩ := hends.takesUp
    refine ⟨?_, passed ++ last, events.map .logged ++ (journal ++ finished.journal), hcalls, ?_, ?_,
      ?_⟩
    · intro report hok
      rw [hrun] at hok
      cases hends with
      | cancelled hlook => exact absurd hok (by simp)
      | failed hlook happly => exact absurd hok (by simp)
      | finished =>
        obtain rfl := Except.ok.inj hok
        have happlied : passed = runner.pendingOn again.database.committed := by
          rw [hsplit, List.append_nil]
        rw [hpending, ← happlied]
        refine ⟨rfl, ?_⟩
        rw [applied, List.nil_append, happlied, ← List.map_append, skippedOn_append_pendingOn]
        rfl
    · rw [hplan, hrun]
      simp only [List.append_assoc]
    · rw [hplan, hrun]
      exact .tells events (hpasses.takesUp htaken)
    · have hfirst : passed ++ last <+: runner.pendingOn again.database.committed := by
        rw [hsplit]
        exact (List.prefix_append_right_inj passed).2 hlast
      rw [hpending]
      exact hfirst.map Migration.key

/-- A run that starts on the database that a plan left follows this plan.  If the plan found a
mismatch with the history instead, so does a run over the same connection in which no call fails. -/
theorem run_follows_plan (runner : Runner) (site again : Site)
    (hdatabase : again.database = (runner.plan site).state.database) :
    (∀ plan, (runner.plan site).outcome = .ok plan → runner.Follows plan again) ∧
    (∀ mismatch, (runner.plan site).outcome = .error (.history mismatch) →
      again.poisoned = (runner.plan site).state.poisoned →
      (runner.run again).journal.failures = [] →
        (runner.run again).outcome = .error (.failure (.history mismatch))) := by
  constructor
  · intro plan hok
    obtain ⟨after, hlisted⟩ := listed_of_plan_ok hok
    have hsame : runner.pendingOn again.database.committed
        = runner.pendingOn site.database.committed := by
      rw [pendingOn, pendingOn, hdatabase, recorded_plan hlisted]
    refine follows_of_pending again ?_
    rw [hsame]
    exact (planFor_of_ok hok).pending_eq
  · intro mismatch hmismatch hpoisoned hsilent
    obtain ⟨⟨after, hlisted⟩, hresume⟩ := listed_of_plan_mismatch hmismatch
    have hsound : again.poisoned = false := by
      rw [hpoisoned, state_plan hlisted]
      exact hlisted.frame.poisoned.trans hlisted.sound
    -- Without a failed call, the second listing succeeds and answers the same keys.
    obtain ⟨taken, rest, hjournal, -⟩ := runner.run_takesUp again
    obtain ⟨events, hplanned⟩ := runner.exists_journal_plan again
    rw [hjournal, hplanned, Journal.failures_append, Journal.failures_append,
      List.append_eq_nil_iff, List.append_eq_nil_iff] at hsilent
    cases hlisting : (runner.listing again).outcome with
    | error cause =>
      have hfailed := failures_listing_ne_nil hlisted.creation hsound hlisting
      exact absurd hsilent.1.1 hfailed
    | ok recorded =>
      obtain ⟨last, hagain⟩ := listed_of_ok hlisting
      have hsame : recorded = runner.recorded site.database.committed := by
        rw [hagain.reported, hdatabase, recorded_plan hlisted]
      rw [hsame] at hagain
      exact (refuses_of_mismatch hagain hresume).run

/-- A plan and the run after it; and a history that the keys do not continue, which both refuse. -/
theorem run_follows_plan_twoSteps :
    let again : Site := { database := (twoSteps.plan {}).state.database }
    let plan : Plan := { resumePoint := none, applied := [], pending := ["01", "02"] }
    let late : Site := { database := { committed := { tables := [(TableName.default, ["02"])] } } }
    let after : Site := { database := (twoSteps.plan late).state.database }
    let mismatch : HistoryError := .unrelated (History.mismatchReason 0 "01" "02")
    again.database = (twoSteps.plan {}).state.database ∧
      (twoSteps.plan {}).outcome = .ok plan ∧
      (twoSteps.run again).outcome = .ok { applied := ["01", "02"] } ∧
      twoSteps.Follows plan again ∧
      after.database = (twoSteps.plan late).state.database ∧
      (twoSteps.plan late).outcome = .error (.history mismatch) ∧
      after.poisoned = (twoSteps.plan late).state.poisoned ∧
      (twoSteps.run after).journal.failures = [] ∧
      (twoSteps.run after).outcome = .error (.failure (.history mismatch)) := by
  intro again plan late after mismatch
  have hagain : again.database = (twoSteps.plan {}).state.database := by simp only [again]
  have hafter : after.database = (twoSteps.plan late).state.database := by simp only [after]
  obtain ⟨hok, hrun, hmismatch, hsound, hsilent⟩ : (twoSteps.plan {}).outcome = .ok plan ∧
      (twoSteps.run again).outcome = .ok { applied := ["01", "02"] } ∧
      (twoSteps.plan late).outcome = .error (.history mismatch) ∧
      after.poisoned = (twoSteps.plan late).state.poisoned ∧
      (twoSteps.run after).journal.failures = [] := by decide +kernel
  have hfollows := (run_follows_plan twoSteps {} again hagain).1 plan hok
  have hrefuses := (run_follows_plan twoSteps late after hafter).2 mismatch hmismatch hsound hsilent
  exact ⟨hagain, hok, hrun, hfollows, hafter, hmismatch, hsound, hsilent, hrefuses⟩

end Runner

end SchemaUpgrade
