import SchemaUpgrade.Proofs.Chronicle
import SchemaUpgrade.Proofs.Failures
/-!
# The turns of a run

After its plan, a run takes up one pending migration after another.  A *turn* is a migration with
the site at which its transaction was opened, so that everything that was done for it can be read
off (`Runner.Turn.done`).  A run goes on after a turn only if the migration was completed: all of
its statements were carried out, its key was registered and the transaction was committed
(`Runner.Turn.completed_of_ok`).

`Runner.Takes` relates the turns to the journal of the run, and `Runner.run_turns` takes a run apart
into the turns that were completed and what comes after them.

## Main definitions

* `Runner.Turn`, `Runner.Turn.Completed`, `Runner.Turn.committedOf`.
* `Runner.Takes`: these are the turns of a run.
-/

namespace SchemaUpgrade

open Engine

/-! ## Instructions and migrations that succeed -/

/-- Instructions that succeed send all of their statements, none of which fails, and set all of
their flags. -/
theorem Instruction.runAll_of_ok {code : List Instruction} {site : Site}
    (hok : (runAll code site).outcome = .ok ()) :
    (runAll code site).journal.calls = (statements code).map Statement.call ∧
      (runAll code site).journal.failures = [] ∧
      (runAll code site).state.raised = (flags code).reverse ++ site.raised := by
  induction code generalizing site with
  | nil => exact ⟨rfl, rfl, rfl⟩
  | cons instruction rest ih =>
    cases instruction with
    | send statement sender =>
      rcases statement.send_cases site with
        ⟨message, faults, hsend⟩ | ⟨database, faults, -, hsend⟩
      · rw [runAll_send_of_error hsend] at hok
        exact absurd hok (by simp)
      · rw [runAll_send_of_ok hsend] at hok ⊢
        obtain ⟨hcalls, hfailures, hraised⟩ := ih hok
        refine ⟨?_, ?_, hraised⟩
        · rw [Journal.calls_append, hcalls]
          rfl
        · rw [Journal.failures_append, hfailures]
          rfl
    | tell route notice =>
      rw [runAll_tell] at hok ⊢
      obtain ⟨hcalls, hfailures, hraised⟩ := ih hok
      refine ⟨?_, ?_, hraised⟩
      · rw [Journal.calls_append, Journal.calls_logged, hcalls]
        rfl
      · rw [Journal.failures_append, Journal.failures_logged, hfailures]
        rfl
    | raise flag =>
      rw [runAll_raise] at hok ⊢
      obtain ⟨hcalls, hfailures, hraised⟩ := ih hok
      refine ⟨hcalls, hfailures, ?_⟩
      rw [hraised, flags_cons_raise, List.reverse_cons, List.append_assoc]
      rfl
    | stop halt =>
      rw [runAll_stop] at hok
      exact absurd hok (by simp)

/-! ## Turns -/

/-- A migration that a run took up, and the site at which its transaction was opened. -/
structure Runner.Turn where
  migration : Migration
  before : Site

namespace Runner

variable {runner : Runner} {site after : Site} {turns : List Turn}
  {journal : Journal}

namespace Turn

/-- What a run did in a turn. -/
def done (turn : Turn) (runner : Runner) : Finished Site (Halt UpgradeError) Unit :=
  runner.applyOne turn.migration turn.before

/-- The migration was completed: every statement of it was carried out, its key was registered and
the transaction was committed. -/
structure Completed (turn : Turn) (runner : Runner) : Prop where
  outcome : (turn.done runner).outcome = .ok ()
  calls : (turn.done runner).journal.calls = .batch beginText
    :: ((runner.change turn.before.files turn.migration).map Statement.call ++ [.batch commitText])
  failures : (turn.done runner).journal.failures = []

/-- The migrations whose transactions were committed, in order. -/
def committedOf (runner : Runner) (turns : List Turn) : List Migration :=
  (turns.filter fun turn => (turn.done runner).journal.closedByCommit).map migration

variable {turn : Turn}

/-- A turn that succeeds was completed, and then the flags that the migration names are set. -/
theorem completed_of_ok (hok : (turn.done runner).outcome = .ok ()) :
    turn.Completed runner ∧ ∀ flag ∈ Instruction.flags (turn.migration.instructions
      turn.before.files), flag ∈ (turn.done runner).state.raised := by
  have hdone : turn.done runner = runner.applyOne turn.migration turn.before := rfl
  rcases runner.applyOne_steps turn.migration turn.before with
    ⟨cause, after, journal, hfailed, -⟩ | ⟨opened, hbegin, -, hsteps⟩
  · rw [hdone, hfailed] at hok
    exact absurd hok (by simp)
  · rcases hsteps with
      ⟨stop, halt, filled, journal, after, more, -, -, houtcome, -⟩ |
      ⟨filled, journal, hall, hrest⟩
    · exact absurd (hok.symm.trans houtcome) (by simp)
    · obtain ⟨hcalls, hfailures, hraised⟩ :=
        Instruction.runAll_of_ok (congrArg Finished.outcome hall)
      rw [hall] at hcalls hfailures hraised
      rcases runner.conclude_steps turn.migration filled with
        ⟨error, mid, failed, other, more, hconclude, -⟩ |
        ⟨database, content, faults, -, -, hconclude⟩
      · rw [hdone, hrest, hconclude] at hok
        exact absurd hok (by simp)
      · refine ⟨⟨hok, ?_, ?_⟩, fun flag hflag => ?_⟩
        · rw [hdone, hrest, hconclude, Journal.calls_append, Journal.calls_append, hcalls, change,
            List.map_append, List.append_assoc, List.append_assoc]
          rfl
        · rw [hdone, hrest, hconclude, Journal.failures_append, Journal.failures_append, hfailures]
          rfl
        · rw [hdone, hrest, hconclude]
          show flag ∈ filled.raised
          rw [hraised]
          exact List.mem_append_left _ (List.mem_reverse.2 hflag)

theorem committedOf_of_completed (h : ∀ turn ∈ turns, turn.Completed runner) :
    committedOf runner turns = turns.map migration := by
  have hall : (turns.filter fun turn => (turn.done runner).journal.closedByCommit) = turns := by
    rw [List.filter_eq_self]
    intro turn hmem
    exact (runner.closedByCommit_applyOne _ _).2 ⟨(), (h turn hmem).outcome⟩
  rw [committedOf, hall]

/-- A turn that failed committed nothing. -/
theorem committedOf_failed {halt : Halt UpgradeError}
    (h : ∀ turn ∈ turns, turn.Completed runner)
    (hfailed : (turn.done runner).outcome = .error halt) :
    committedOf runner (turns ++ [turn]) = turns.map migration := by
  have hopen : (turn.done runner).journal.closedByCommit = false := by
    rw [Bool.eq_false_iff]
    intro hclosed
    obtain ⟨_, hok⟩ := (runner.closedByCommit_applyOne _ _).1 hclosed
    exact absurd (hfailed.symm.trans hok) (by simp)
  rw [committedOf, List.filter_append, List.map_append, List.filter_cons_of_neg (by simp [hopen])]
  exact (List.append_nil _).trans (committedOf_of_completed h)

end Turn

/-- What a run does after its plan: it tells events, looks at its flag, and takes turns as long as
it does not find the flag set, up to the first turn that fails. -/
inductive Takes (runner : Runner) : List Turn → Site → Site → Journal → Prop where
  | nothing (site : Site) : Takes runner [] site site []
  | tells {turns : List Turn} {site after : Site} {journal : Journal} (events : List Log.Event)
      (hrest : Takes runner turns site after journal) :
      Takes runner turns site after (events.map .logged ++ journal)
  | stops {site looked : Site}
      (hlook : runner.isCancelled site
        = (⟨.ok true, looked, []⟩ : Finished Site (Halt UpgradeError) Bool)) :
      Takes runner [] site looked []
  | completes {turn : Turn} {turns : List Turn} {site after : Site} {more : Journal}
      (hlook : runner.isCancelled site
        = (⟨.ok false, turn.before, []⟩ : Finished Site (Halt UpgradeError) Bool))
      (hok : (turn.done runner).outcome = .ok ())
      (hrest : Takes runner turns (turn.done runner).state after more) :
      Takes runner (turn :: turns) site after
        (runner.told turn.before (.applying turn.migration.key)
          ++ ((turn.done runner).journal
            ++ (runner.told (turn.done runner).state (.applied turn.migration.key) ++ more)))
  | fails {turn : Turn} {site : Site} {halt : Halt UpgradeError}
      (hlook : runner.isCancelled site
        = (⟨.ok false, turn.before, []⟩ : Finished Site (Halt UpgradeError) Bool))
      (herror : (turn.done runner).outcome = .error halt) :
      Takes runner [turn] site (turn.done runner).state
        (runner.told turn.before (.applying turn.migration.key) ++ (turn.done runner).journal)

namespace Takes

/-- After a turn that was not the last, the run goes on from where the turn left it. -/
theorem rest (h : runner.Takes turns site after journal) {front more : List Turn} {turn : Turn}
    (hturns : turns = front ++ turn :: more) :
    more = [] ∨ ((turn.done runner).outcome = .ok () ∧
      ∃ journal, runner.Takes more (turn.done runner).state after journal) := by
  induction h generalizing front with
  | nothing | stops => exact absurd hturns (by simp)
  | tells events _ ih => exact ih hturns
  | completes hlook hok hrest ih =>
    cases front with
    | nil =>
      obtain ⟨rfl, rfl⟩ := List.cons.inj hturns
      exact .inr ⟨hok, _, hrest⟩
    | cons first front => exact ih (List.cons.inj hturns).2
  | fails hlook herror =>
    cases front with
    | nil => exact .inl (List.cons.inj hturns).2.symm
    | cons first front => exact absurd (List.cons.inj hturns).2 (by simp)

/-- All turns have the same surroundings. -/
theorem surroundings (h : runner.Takes turns site after journal) :
    ∀ turn ∈ turns, turn.before.toSurroundings = site.toSurroundings := by
  induction h with
  | nothing | stops => simp
  | tells events _ ih => exact ih
  | completes hlook hok _ ih =>
    obtain ⟨haround, -⟩ := look_of_isCancelled hlook
    refine List.forall_mem_cons.2 ⟨haround, fun turn hmem => ?_⟩
    exact ((ih turn hmem).trans (applyOne_surroundings hok)).trans haround
  | fails hlook herror =>
    obtain ⟨haround, -⟩ := look_of_isCancelled hlook
    exact List.forall_mem_singleton.2 haround

end Takes

/-! ## From the stages of a run to its turns -/

theorem Passes.takes {passed : List Migration} {mid : Site}
    (h : runner.Passes passed site mid journal) :
    ∃ front, front.map Turn.migration = passed ∧
      (∀ turn ∈ front, turn.Completed runner) ∧
      ∀ {last : List Turn} {after : Site} {more : Journal}, runner.Takes last mid after more →
        runner.Takes (front ++ last) site after (journal ++ more) := by
  induction h with
  | nil site => exact ⟨[], rfl, by simp, fun hlast => hlast⟩
  | @cons migration rest site looked next mid journal more hlook happly _ ih =>
    obtain ⟨front, hfront, hcompleted, htakes⟩ := ih
    let turn : Turn := ⟨migration, looked⟩
    have hdone : turn.done runner = ⟨.ok (), next, journal⟩ := happly
    have hok : (turn.done runner).outcome = .ok () := congrArg Finished.outcome hdone
    refine ⟨turn :: front, ?_, ?_, fun hlast => ?_⟩
    · rw [List.map_cons, hfront]
    · exact List.forall_mem_cons.2 ⟨(Turn.completed_of_ok hok).1, hcompleted⟩
    · have hrest := htakes hlast
      have hthen : (turn.done runner).state = next := congrArg Finished.state hdone
      rw [← hthen] at hrest
      have hall : runner.Takes (turn :: (front ++ _)) site _ _ := .completes hlook hok hrest
      rw [hdone] at hall
      simpa only [List.append_assoc, List.cons_append] using hall

/-- A run whose plan succeeded completes some turns and then ends at the next migration. -/
theorem run_turns (runner : Runner) (site : Site) :
    (∃ error after journal, runner.plan site = ⟨.error error, after, journal⟩ ∧
      runner.run site = ⟨.error (.failure error), after, journal⟩) ∨
    (∃ plan ready planned front rest mid journal told finished,
      runner.plan site = ⟨.ok plan, ready, planned⟩ ∧
      runner.Listed site ready (runner.recorded site.database.committed) ∧
      runner.pendingOn site.database.committed = front.map Turn.migration ++ rest ∧
      (∀ turn ∈ front, turn.Completed runner) ∧
      runner.Passes (front.map Turn.migration) ready mid journal ∧
      (∀ {last : List Turn} {after : Site} {more : Journal}, runner.Takes last mid after more →
        runner.Takes (front ++ last) ready after (told ++ more)) ∧
      runner.Ends { skipped := (runner.skippedOn site.database.committed).map Migration.key }
        (front.map Turn.migration) mid rest finished ∧
      runner.run site
        = ⟨finished.outcome, finished.state, planned ++ (told ++ finished.journal)⟩) := by
  rcases runner.run_stages site with
    hfailed |
    ⟨plan, listed, ready, planned, events, passed, rest, mid, journal, finished, hplan, hlisted,
      hfor, -, hsplit, hpasses, hends, hrun⟩
  · exact .inl hfailed
  · obtain ⟨front, rfl, hcompleted, htakes⟩ := hpasses.takes
    -- The plan tells nothing to the engine after the listing, so it leaves what the listing left.
    obtain ⟨told, hcontinued⟩ := plan_of_continued hlisted.listing hfor.resumePoint
    obtain ⟨-, rfl, -⟩ := Finished.mk.inj (hplan.symm.trans hcontinued)
    refine .inr ⟨plan, ready, planned, front, rest, mid, journal, events.map .logged ++ journal,
      finished, hplan, hlisted, hsplit, hcompleted, hpasses, fun hlast => ?_, hends, ?_⟩
    · rw [List.append_assoc]
      exact .tells events (htakes hlast)
    · rw [hrun, List.append_assoc]

end Runner

end SchemaUpgrade
