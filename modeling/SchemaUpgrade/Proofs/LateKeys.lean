import SchemaUpgrade.Proofs.Bookkeeping
import SchemaUpgrade.Proofs.Listing
/-!
# Late keys are refused

A key is *late* when it is not recorded although it does not come after the last recorded key.  To
skip it would lose its migration, and to apply it would break the order of the history, so a plan
and a run refuse it before they touch anything but the bookkeeping table (`Runner.Refuses`).

The refusal does not look for late keys.  It comes from the comparison with the history, which
succeeds only if the history is a beginning of the ascending keys; every other key then comes after
the last recorded one (`History.exists_mismatch_of_late`).  For the same reason nothing that is
recorded is applied again, although a run compares with the last recorded key alone
(`History.not_mem_of_isPending`).

## Main definitions

* `Runner.Refuses`: plan and run end with a mismatch and leave the tables alone.
* `Runner.TakesUp`: what a run does after its plan, and for which migrations it opens a transaction.
-/

namespace SchemaUpgrade

open Engine

namespace Runner

variable {runner : Runner} {site : Site}

/-! ## Refusing -/

/-- A plan and a run from `site` end with a mismatch.  All they ask of the engine is the creation of
the bookkeeping table and the list of its keys, and the tables stay as they are. -/
structure Refuses (runner : Runner) (site : Site) (mismatch : HistoryError) : Prop where
  plan : (runner.plan site).outcome = .error (.history mismatch)
  run : (runner.run site).outcome = .error (.failure (.history mismatch))
  calls : (runner.plan site).journal.calls = [.batch beginText,
    .batch (Dialect.render runner.dialect.create runner.tableName), .batch commitText,
    .column (Dialect.render runner.dialect.applied runner.tableName)]
  /-- The run does what the plan does. -/
  journal : (runner.run site).journal = (runner.plan site).journal
  state : (runner.run site).state = (runner.plan site).state
  tables : (runner.plan site).state.database.committed.tables = site.database.committed.tables
  idle : (runner.plan site).state.database.working = none

theorem refuses_of_mismatch {after : Site} {recorded : List String} {mismatch : HistoryError}
    (h : runner.Listed site after recorded)
    (hresume : History.resumePoint runner.keys recorded = .error mismatch) :
    runner.Refuses site mismatch := by
  obtain ⟨events, hplan⟩ := plan_of_mismatch h.listing hresume
  have hrun : runner.run site = ⟨.error (.failure (.history mismatch)), after, _⟩ :=
    Work.bind_of_error (Work.mapError_of_error hplan)
  refine ⟨by rw [hplan], by rw [hrun], ?_, by rw [hrun, hplan], by rw [hrun, hplan], ?_, ?_⟩
  · rw [calls_plan, h.listing]
    rfl
  · rw [hplan, h.database]
    rfl
  · rw [hplan, h.database]

/-! ## What a run takes up -/

/-- What a run may do after its plan: it tells events, looks at its flag, and takes up migrations,
each of which it applies in a transaction of its own.  The list holds those that it takes up. -/
inductive TakesUp (runner : Runner) : List Migration → Site → Site → Journal → Prop where
  | nothing (site : Site) : TakesUp runner [] site site []
  | tells {taken : List Migration} {site after : Site} {journal : Journal}
      (events : List Log.Event) (hrest : TakesUp runner taken site after journal) :
      TakesUp runner taken site after (events.map .logged ++ journal)
  | looks {taken : List Migration} {site looked after : Site} {answer : Bool} {journal : Journal}
      (hlook : runner.isCancelled site
        = (⟨.ok answer, looked, []⟩ : Finished Site (Halt UpgradeError) Bool))
      (hrest : TakesUp runner taken looked after journal) :
      TakesUp runner taken site after journal
  | applies {migration : Migration} {taken : List Migration} {site next after : Site}
      {outcome : Except (Halt UpgradeError) Unit} {journal more : Journal}
      (happly : runner.applyOne migration site = ⟨outcome, next, journal⟩)
      (hrest : TakesUp runner taken next after more) :
      TakesUp runner (migration :: taken) site after (journal ++ more)

theorem Passes.takesUp {passed taken : List Migration} {mid after : Site} {journal more : Journal}
    (h : runner.Passes passed site mid journal) (hrest : runner.TakesUp taken mid after more) :
    runner.TakesUp (passed ++ taken) site after (journal ++ more) := by
  induction h with
  | nil site => exact hrest
  | cons hlook happly _ ih =>
    simp only [List.append_assoc]
    exact .looks hlook (.tells _ (.applies happly (.tells _ (ih hrest))))

theorem Ends.takesUp {report : Report} {passed rest : List Migration}
    {finished : Finished Site (Halt UpgradeError) Report}
    (h : runner.Ends report passed site rest finished) :
    ∃ taken, taken <+: rest ∧ runner.TakesUp taken site finished.state finished.journal := by
  cases h with
  | finished => exact ⟨[], List.nil_prefix, .nothing site⟩
  | cancelled hlook => exact ⟨[], List.nil_prefix, .looks hlook (.nothing _)⟩
  | @failed migration rest looked after halt journal hlook happly =>
    have htaken := TakesUp.applies happly (.nothing after)
    rw [List.append_nil] at htaken
    exact ⟨[migration], List.cons_prefix_cons.2 ⟨rfl, List.nil_prefix⟩,
      .looks hlook (.tells _ htaken)⟩

/-- After its plan, a run takes up migrations that are pending on the content it started with, and
none if the keys could not be listed. -/
theorem run_takesUp (runner : Runner) (site : Site) :
    ∃ taken rest, (runner.run site).journal = (runner.plan site).journal ++ rest ∧
      runner.TakesUp taken (runner.plan site).state (runner.run site).state rest ∧
      ∀ migration ∈ taken, ∃ recorded, (runner.listing site).outcome = .ok recorded ∧
        migration ∈ runner.migrations ∧ migration.key ∉ recorded := by
  rcases runner.run_stages site with
    ⟨error, after, journal, hplan, hrun⟩ |
    ⟨plan, listed, ready, planned, events, passed, rest, mid, journal, finished, hplan, hlisted,
      hfor, -, hsplit, hpasses, hends, hrun⟩
  · rw [hplan, hrun]
    exact ⟨[], [], (List.append_nil _).symm, .nothing after, fun _ hmem =>
      absurd hmem List.not_mem_nil⟩
  · obtain ⟨last, hlast, htaken⟩ := hends.takesUp
    rw [hplan, hrun]
    refine ⟨passed ++ last, events.map .logged ++ (journal ++ finished.journal), ?_,
      .tells events (hpasses.takesUp htaken), fun migration hmem => ?_⟩
    · simp only [List.append_assoc]
    · have hpending : migration ∈ runner.pendingOn site.database.committed := by
        rw [hsplit]
        exact ((List.prefix_append_right_inj passed).2 hlast).subset hmem
      have hresume := hfor.resumePoint
      have hafter := isPending_of_mem_pendingOn hpending
      rw [← (History.resumePoint_eq_ok hresume).1] at hafter
      exact ⟨_, by rw [hlisted.listing], mem_of_mem_pendingOn hpending,
        History.not_mem_of_isPending runner.keys_sorted hresume hafter⟩

/-- Let the bookkeeping table be created and the keys listed.  If some key of the runner is late,
plan and run refuse it.  Whatever happens in a run, all that it does after its plan, which itself
asks nothing more of the engine than the listing, is to take up migrations whose keys are not among
those that were listed. -/
theorem late_keys_refused (runner : Runner) (site : Site) :
    (∀ recorded last late, (runner.listing site).outcome = .ok recorded →
      recorded.getLast? = some last → late ∈ runner.keys → late ∉ recorded → ¬ last < late →
        ∃ mismatch, runner.Refuses site mismatch) ∧
    (runner.plan site).journal.calls = (runner.listing site).journal.calls ∧
    ∃ taken rest, (runner.run site).journal = (runner.plan site).journal ++ rest ∧
      runner.TakesUp taken (runner.plan site).state (runner.run site).state rest ∧
      ∀ migration ∈ taken, ∃ recorded, (runner.listing site).outcome = .ok recorded ∧
        migration ∈ runner.migrations ∧ migration.key ∉ recorded := by
  refine ⟨fun recorded last late hok hlast hmem hnew hlate => ?_, runner.calls_plan site,
    runner.run_takesUp site⟩
  obtain ⟨after, h⟩ := listed_of_ok hok
  obtain ⟨mismatch, hresume⟩ :=
    History.exists_mismatch_of_late runner.keys_sorted hlast hmem hnew hlate
  exact ⟨mismatch, refuses_of_mismatch h hresume⟩

/-- The second key is recorded and the first one is not. -/
theorem late_keys_refused_twoSteps :
    let site : Site := { database := { committed := { tables := [(TableName.default, ["02"])] } } }
    (twoSteps.listing site).outcome = .ok ["02"] ∧ ["02"].getLast? = some "02" ∧
      "01" ∈ twoSteps.keys ∧ "01" ∉ ["02"] ∧ ¬ "02" < "01" ∧
      ∃ mismatch, twoSteps.Refuses site mismatch := by
  intro site
  have hok : (twoSteps.listing site).outcome = .ok ["02"] := by decide +kernel
  have hmem : "01" ∈ twoSteps.keys := by decide
  have hnew : "01" ∉ ["02"] := by decide
  have hlate : ¬ "02" < "01" := by decide
  exact ⟨hok, rfl, hmem, hnew, hlate,
    (late_keys_refused twoSteps site).1 ["02"] "02" "01" hok rfl hmem hnew hlate⟩

end Runner

end SchemaUpgrade
