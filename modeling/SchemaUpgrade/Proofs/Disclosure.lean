import SchemaUpgrade.Proofs.Bookkeeping
import SchemaUpgrade.Proofs.Operations
/-!
# No failure of the engine is swallowed

Whatever fails in a plan or a run, every failure of the engine ends up in the error that is told:
its message occurs in the message of that error (`Runner.run_discloses`).  On its way there, a
message is wrapped by the connection, by the part of the run or the migration that it stopped, and
by the joins with a rollback that failed as well.

Work *discloses* when its error tells all the calls that failed on its way; so work that succeeds
has met no failure.  All work that takes a course does (`Course.discloses`): where the error of a
piece of work is caught and something else is done about it, the last error has to keep telling the
first one, which is what a course asks of the way in which errors are passed on.

A panic has no message, and the rollback after it tells nobody, so panics are left out.

## Main definitions

* `Finished.Discloses`: the error tells every call that failed.
-/

namespace SchemaUpgrade

open Engine

variable {σ ε ε' α β : Type}

/-- The error with which the work ended tells every call that failed. -/
def Finished.Discloses (tells : ε → String → Prop) (done : Finished σ ε α) : Prop :=
  ∀ text ∈ done.journal.failures, ∃ error, done.outcome = .error error ∧ tells error text

namespace Finished.Discloses

variable {tells : ε → String → Prop} {tells' : ε' → String → Prop}

/-- Work that succeeds has met no failure. -/
theorem failures_of_ok {done : Finished σ ε α} {a : α} (h : done.Discloses tells)
    (hok : done.outcome = .ok a) : done.journal.failures = [] :=
  List.eq_nil_iff_forall_not_mem.2 fun text hmem => by
    obtain ⟨error, herror, -⟩ := h text hmem
    exact absurd (hok.symm.trans herror) (by simp)

theorem of_failures {done : Finished σ ε α} (h : done.journal.failures = []) :
    done.Discloses tells := fun _ hmem => absurd (h ▸ hmem) List.not_mem_nil

/-- A second piece of work after a first one whose outcome was caught: if the first one failed, the
second one fails as well, with an error that tells all that the first one told. -/
theorem caught {first : Finished σ ε α} {second : Finished σ ε' β} (h : first.Discloses tells)
    (h' : second.Discloses tells')
    (hkeeps : ∀ error, first.outcome = .error error → ∃ error', second.outcome = .error error' ∧
      ∀ text, tells error text → tells' error' text) :
    Discloses tells' ⟨second.outcome, second.state, first.journal ++ second.journal⟩ := by
  intro text hmem
  rw [Journal.failures_append] at hmem
  rcases List.mem_append.1 hmem with hfirst | hsecond
  · obtain ⟨error, herror, htells⟩ := h text hfirst
    obtain ⟨error', herror', hkept⟩ := hkeeps error herror
    exact ⟨error', herror', hkept text htells⟩
  · exact h' text hsecond

end Finished.Discloses

/-- Work that does not panic discloses. -/
theorem Course.discloses {terms : Terms} {tells : ε → String → Prop}
    {schedule : Option (Schedule ε)} {work other : Work Site ε α}
    (h : Course terms tells schedule work other) (hcalm : ¬terms.panics) {site : Site}
    (hsite : terms.At site) : (work site).Discloses tells := by
  induction h generalizing site with
  | pure | fail | raise | look => exact .of_failures rfl
  | log => exact .of_failures (Journal.failures_logged _)
  | @caught ε ε' α β tells tells' first second work other next next' passing h hok herror hpasses
      ih ihok iherror =>
    have hmid := hsite.of_surroundings (h.keeps hsite).1
    rw [Work.bind_of_ok (Work.attempt_apply site work)]
    cases houtcome : (work site).outcome with
    | ok a =>
      refine (ih hsite).caught (ihok a hmid) fun error herror => ?_
      exact absurd (houtcome.symm.trans herror) (by simp)
    | error e =>
      have hreaches : terms.Reaches work e := ⟨site, hsite, houtcome⟩
      refine (ih hsite).caught (iherror e hreaches hmid) fun error herror => ?_
      obtain rfl := Except.error.inj (houtcome.symm.trans herror)
      obtain ⟨⟨e', houtcome', hbecomes⟩, -⟩ := hpasses hcalm e hreaches (work site).state
      exact ⟨e', houtcome', fun text => passing.keeps hbecomes⟩
  | call request act =>
    rcases Site.call_cases request act site with
      ⟨message, faults, hcall⟩ | ⟨answer, database, faults, -, hcall⟩ <;> rw [hcall]
    · exact fun text hmem => ⟨message, rfl, (List.mem_singleton.1 hmem).symm⟩
    · exact .of_failures rfl
  | readColumn sql =>
    rcases Site.readColumn_cases sql site with ⟨message, faults, hread⟩ | ⟨faults, hread⟩ <;>
      rw [hread]
    · exact fun text hmem => ⟨message, rfl, (List.mem_singleton.1 hmem).symm⟩
    · exact .of_failures rfl
  | lock =>
    rw [Connection.lock_apply]
    exact .of_failures rfl
  | poison hpanics => exact absurd hpanics hcalm
  | unscheduled _ ih => exact ih hsite
  | congr hwork _ _ ih =>
    rw [hwork site hsite]
    exact ih hsite

namespace Runner

/-- No failure of the engine is swallowed: whatever call fails in a plan or a run of migrations that
do not panic, it ends with an error whose message has the message of that failure, and of every
other.  So a plan or a run that succeeds made no call that failed. -/
theorem run_discloses (runner : Runner) (site : Site)
    (hpanic : ∀ migration ∈ runner.migrations,
      .stop .panic ∉ migration.instructions site.files) :
    (∀ text ∈ (runner.plan site).journal.failures, ∃ error,
      (runner.plan site).outcome = .error error ∧ Text.occursIn text error.message = true) ∧
    (∀ text ∈ (runner.run site).journal.failures, ∃ error,
      (runner.run site).outcome = .error (.failure error) ∧
        Text.occursIn text error.message = true) ∧
    (∀ plan, (runner.plan site).outcome = .ok plan → (runner.plan site).journal.failures = []) ∧
    (∀ report, (runner.run site).outcome = .ok report →
      (runner.run site).journal.failures = []) := by
  have hplanned : Course (.calm site.files) UpgradeError.Tells none runner.plan runner.plan :=
    course_plan (.refl runner) fun _ => trivial
  have hplan := hplanned.discloses id rfl
  have hrun := (course_run (Terms.covers_calm hpanic)).discloses id rfl
  refine ⟨hplan, fun text hmem => ?_, fun _ => hplan.failures_of_ok, fun _ => hrun.failures_of_ok⟩
  obtain ⟨halt, houtcome, htells⟩ := hrun text hmem
  cases halt with
  | failure error => exact ⟨error, houtcome, htells⟩
  | panic => exact htells.elim

/-- The engine refuses the second registration and the rollback after it. -/
theorem run_discloses_twoSteps :
    let site : Site := { faults := [{ on := .execute, skip := 1, message := "disk full" },
      { on := .batch, containing := "ROLLBACK", message := "disk gone" }] }
    (∀ migration ∈ twoSteps.migrations, .stop .panic ∉ migration.instructions site.files) ∧
      (twoSteps.run site).journal.failures = ["disk full", "disk gone"] ∧
      (∀ text ∈ (twoSteps.plan site).journal.failures, ∃ error,
        (twoSteps.plan site).outcome = .error error ∧ Text.occursIn text error.message = true) ∧
      (∀ text ∈ (twoSteps.run site).journal.failures, ∃ error,
        (twoSteps.run site).outcome = .error (.failure error) ∧
          Text.occursIn text error.message = true) ∧
      (∀ plan, (twoSteps.plan site).outcome = .ok plan →
        (twoSteps.plan site).journal.failures = []) ∧
      (∀ report, (twoSteps.run site).outcome = .ok report →
        (twoSteps.run site).journal.failures = []) := by
  intro site
  have hpanic : ∀ migration ∈ twoSteps.migrations,
      .stop .panic ∉ migration.instructions site.files := by
    simp [twoSteps, Migration.instructions, instructionsOfActions, Action.instructions]
  have hfailures : (twoSteps.run site).journal.failures = ["disk full", "disk gone"] := by
    decide +kernel
  exact ⟨hpanic, hfailures, run_discloses twoSteps site hpanic⟩

end Runner

end SchemaUpgrade
