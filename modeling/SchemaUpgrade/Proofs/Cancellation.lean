import SchemaUpgrade.Proofs.Operations
import SchemaUpgrade.Proofs.Turns
/-!
# Cancellation is clean

A run looks at its flag before each migration that is pending, and nowhere else.  So a flag that is
set takes effect between two transactions: what the run is doing then goes the same way as if the
flag was not set (`Work.Heedless`), and the next look finds the flag set and ends the run, unless
nothing is left to be done (`Runner.cancellation_is_clean`).

What carries this is that flags are written but not read.  Work that takes a course without a look
at a flag only adds to the flags that are set, and nothing in it depends on them
(`Course.heedless`); a plan is such work, and so is the application of a migration.

## Main definitions

* `Work.Heedless`: the work goes the same way whatever flags are set.
* `Runner.Heeds`: the turns of a run heed its flag.
-/

namespace SchemaUpgrade

open Engine

variable {ε ε' α β : Type}

/-! ## Work that pays no heed to flags -/

/-- The site with other flags set, and others still to come. -/
def Site.withFlags (site : Site) (raised : List CancelFlag) (arriving : List (List CancelFlag)) :
    Site :=
  { site with raised := raised, arriving := arriving }

/-- The same end of a piece of work, with other flags set, and others still to come. -/
def Finished.withFlags (done : Finished Site ε α) (raised : List CancelFlag)
    (arriving : List (List CancelFlag)) : Finished Site ε α :=
  ⟨done.outcome, done.state.withFlags raised arriving, done.journal⟩

/-- From this site the work goes the same way whatever flags are set.  It may set some of `flags`
itself. -/
def Work.Heedless (flags : List CancelFlag) (work : Work Site ε α) (site : Site) : Prop :=
  ∃ set, set ⊆ flags ∧ ∀ raised arriving,
    work (site.withFlags raised arriving) = (work site).withFlags (set ++ raised) arriving

namespace Work

variable {flags : List CancelFlag} {site : Site}

/-- The flags that were set before stay set. -/
theorem Heedless.raised {work : Work Site ε α} (h : Heedless flags work site) :
    ∃ set, set ⊆ flags ∧ (work site).state.raised = set ++ site.raised ∧
      (work site).state.arriving = site.arriving := by
  obtain ⟨set, hset, hsame⟩ := h
  have hself : work site = (work site).withFlags (set ++ site.raised) site.arriving :=
    hsame site.raised site.arriving
  refine ⟨set, hset, ?_, ?_⟩
  · rw [hself]
    rfl
  · rw [hself]
    rfl

/-- Work that sets no flag leaves those that are set as they are. -/
theorem Heedless.withFlags_eq {work : Work Site ε α} (h : Heedless [] work site)
    (raised : List CancelFlag) (arriving : List (List CancelFlag)) :
    work (site.withFlags raised arriving) = (work site).withFlags raised arriving := by
  obtain ⟨set, hset, hsame⟩ := h
  obtain rfl : set = [] := List.subset_nil.1 hset
  exact hsame raised arriving

theorem Heedless.raised_eq {work : Work Site ε α} (h : Heedless [] work site) :
    (work site).state.raised = site.raised ∧ (work site).state.arriving = site.arriving := by
  obtain ⟨set, hset, hraised, harriving⟩ := h.raised
  obtain rfl : set = [] := List.subset_nil.1 hset
  exact ⟨hraised, harriving⟩

/-- Work that sets no flag, and goes the same way whatever flags are set. -/
theorem Heedless.of_same {work : Work Site ε α} (h : ∀ raised arriving,
    work (site.withFlags raised arriving) = (work site).withFlags raised arriving) :
    Heedless flags work site :=
  ⟨[], List.nil_subset _, h⟩

/-- Of two pieces of work, the first of which is caught, each has to be heedless. -/
theorem Heedless.caught {work : Work Site ε α} {next : Except ε α → Work Site ε' β}
    (h : Heedless flags work site)
    (hnext : Heedless flags (next (work site).outcome) (work site).state) :
    Heedless flags (work.attempt >>= next) site := by
  obtain ⟨set, hset, hsame⟩ := h
  obtain ⟨more, hmore, hthen⟩ := hnext
  refine ⟨more ++ set, List.append_subset.2 ⟨hmore, hset⟩, fun raised arriving => ?_⟩
  rw [bind_of_ok (attempt_apply _ work), bind_of_ok (attempt_apply site work), hsame]
  dsimp only [Finished.withFlags]
  rw [hthen, List.append_assoc]
  rfl

end Work

/-- Work that looks at no flag, and tells and does what it likes otherwise. -/
def Terms.heedless (files : Files) (flags : List CancelFlag) : Terms where
  files := files
  tells _ _ _ := True
  raises flag := flag ∈ flags
  looks := False
  panics := True
  lost _ _ := trivial

/-- Work that looks at no flag goes the same way whatever flags are set. -/
theorem Course.heedless {files : Files} {flags : List CancelFlag} {tells : ε → String → Prop}
    {schedule : Option (Schedule ε)} {work other : Work Site ε α}
    (h : Course (.heedless files flags) tells schedule work other) {site : Site}
    (hsite : (Terms.heedless files flags).At site) : Work.Heedless flags work site := by
  induction h generalizing site with
  | pure | fail | log | poison => exact .of_same fun _ _ => rfl
  | @caught ε ε' α β tells tells' first second work other next next' passing h hok herror hpasses
      ih ihok iherror =>
    have hmid := hsite.of_surroundings (h.keeps hsite).1
    refine (ih hsite).caught ?_
    cases houtcome : (work site).outcome with
    | ok a => exact ihok a hmid
    | error e => exact iherror e ⟨site, hsite, houtcome⟩ hmid
  | call request act =>
    obtain ⟨outcome, database, faults, failure, hanswer⟩ := Site.answersAlike_call request act site
    refine .of_same fun raised arriving => ?_
    rw [hanswer site rfl rfl, hanswer (site.withFlags raised arriving) rfl rfl]
    rfl
  | readColumn sql =>
    obtain ⟨outcome, database, faults, failure, hanswer⟩ := Site.answersAlike_readColumn sql site
    refine .of_same fun raised arriving => ?_
    rw [hanswer site rfl rfl, hanswer (site.withFlags raised arriving) rfl rfl]
    rfl
  | lock =>
    refine .of_same fun raised arriving => ?_
    rw [Connection.lock_apply, Connection.lock_apply]
    rfl
  | @raise ε tells flag hflag =>
    exact ⟨[flag], List.cons_subset.2 ⟨hflag, List.nil_subset _⟩, fun _ _ => rfl⟩
  | look hlooks => exact hlooks.elim
  | unscheduled _ ih => exact ih hsite
  | congr hwork _ _ ih =>
    obtain ⟨set, hset, hsame⟩ := ih hsite
    refine ⟨set, hset, fun raised arriving => ?_⟩
    rw [hwork site hsite, hwork (site.withFlags raised arriving) hsite]
    exact hsame raised arriving

namespace Runner

/-- A plan pays no heed to any flag, and sets none. -/
theorem heedless_plan (runner : Runner) (site : Site) : Work.Heedless [] runner.plan site := by
  have hcourse : Course (.heedless site.files []) UpgradeError.Tells none runner.plan runner.plan :=
    course_plan (.refl runner) fun _ => trivial
  exact hcourse.heedless rfl

/-- Applying a migration pays no heed to any flag, and sets those that the migration names. -/
theorem heedless_applyOne (runner : Runner) (migration : Migration) (site : Site) :
    Work.Heedless (Instruction.flags (migration.instructions site.files))
      (runner.applyOne migration) site := by
  let code := migration.instructions site.files
  have hpermits : (Terms.heedless site.files (Instruction.flags code)).Permits code code :=
    ⟨rfl, fun _ _ _ _ _ => trivial, fun flag hmem => List.mem_filterMap.2 ⟨_, hmem, rfl⟩,
      fun _ => trivial⟩
  exact (course_applyOne (.refl runner) rfl hpermits).heedless rfl

variable {runner : Runner} {flag : CancelFlag} {site after : Site} {turns : List Turn}
  {journal : Journal}

/-! ## Turns and flags -/

theorem raised_of_isCancelled {answer : Bool} {looked : Site}
    (hlook : runner.isCancelled site
      = (⟨.ok answer, looked, []⟩ : Finished Site (Halt UpgradeError) Bool)) :
    site.raised ⊆ looked.raised := by
  rw [isCancelled] at hlook
  cases hcancel : runner.cancel with
  | none =>
    rw [hcancel] at hlook
    obtain ⟨-, rfl, -⟩ := Finished.mk.inj hlook
    exact fun _ hmem => hmem
  | some flag =>
    rw [hcancel] at hlook
    obtain ⟨-, rfl, -⟩ := Finished.mk.inj hlook
    exact List.subset_append_right _ _

theorem Turn.raised_done (turn : Turn) :
    turn.before.raised ⊆ (turn.done runner).state.raised := by
  obtain ⟨set, -, hraised, -⟩ := (runner.heedless_applyOne turn.migration turn.before).raised
  rw [done, hraised]
  exact List.subset_append_right _ _

/-- A look at the flag of the runner. -/
theorem look_of_cancel {answer : Bool} {looked : Site} (hcancel : runner.cancel = some flag)
    (hlook : runner.isCancelled site
      = (⟨.ok answer, looked, []⟩ : Finished Site (Halt UpgradeError) Bool)) :
    looked = site.atLook ∧ answer = site.atLook.isRaised flag := by
  rw [isCancelled, hcancel] at hlook
  obtain ⟨hanswer, rfl, -⟩ := Finished.mk.inj hlook
  exact ⟨rfl, (Except.ok.inj hanswer).symm⟩

/-- If a look does not find the flag set, others set it only later. -/
theorem later_of_unset {looked : Site} {n : Nat} (hcancel : runner.cancel = some flag)
    (hlook : runner.isCancelled site
      = (⟨.ok false, looked, []⟩ : Finished Site (Halt UpgradeError) Bool))
    (harriving : flag ∈ (site.arriving.take (n + 1)).flatten) :
    ∃ m, n = m + 1 ∧ flag ∈ (site.arriving.tail.take (m + 1)).flatten := by
  obtain ⟨-, hanswer⟩ := look_of_cancel hcancel hlook
  have hnow : flag ∉ site.arriving.headD [] ++ site.raised := of_decide_eq_false hanswer.symm
  cases hsets : site.arriving with
  | nil =>
    rw [hsets] at harriving
    exact absurd harriving (by simp)
  | cons set sets =>
    rw [hsets] at hnow harriving
    rw [List.take_succ_cons, List.flatten_cons, List.mem_append] at harriving
    rcases harriving with hset | hlater
    · exact absurd (List.mem_append_left _ hset) hnow
    · cases n with
      | zero => exact absurd hlater (by simp)
      | succ m => exact ⟨m, rfl, hlater⟩

namespace Takes

/-- No turn begins after the flag was set. -/
theorem unset (h : runner.Takes turns site after journal) (hcancel : runner.cancel = some flag) :
    ∀ turn ∈ turns, turn.before.isRaised flag = false := by
  induction h with
  | nothing | stops => simp
  | tells events _ ih => exact ih
  | completes hlook hok _ ih =>
    obtain ⟨hbefore, hanswer⟩ := look_of_cancel hcancel hlook
    exact List.forall_mem_cons.2 ⟨by rw [hbefore, ← hanswer], ih⟩
  | fails hlook herror =>
    obtain ⟨hbefore, hanswer⟩ := look_of_cancel hcancel hlook
    exact List.forall_mem_singleton.2 (by rw [hbefore, ← hanswer])

/-- Flags that are set stay set. -/
theorem raised (h : runner.Takes turns site after journal) : site.raised ⊆ after.raised := by
  induction h with
  | nothing => exact fun _ hmem => hmem
  | tells events _ ih => exact ih
  | stops hlook => exact raised_of_isCancelled hlook
  | @completes turn turns site after more hlook hok _ ih =>
    exact List.Subset.trans
      (List.Subset.trans (raised_of_isCancelled hlook) turn.raised_done) ih
  | @fails turn site halt hlook herror =>
    exact List.Subset.trans (raised_of_isCancelled hlook) turn.raised_done

/-- A run that finds its flag set takes no turn at all. -/
theorem eq_nil_of_raised (h : runner.Takes turns site after journal)
    (hcancel : runner.cancel = some flag) (hraised : site.isRaised flag = true) : turns = [] := by
  induction h with
  | nothing | stops => rfl
  | tells events _ ih => exact ih hraised
  | @completes turn turns site after more hlook hok _ ih | @fails turn site halt hlook herror =>
    obtain ⟨-, hanswer⟩ := look_of_cancel hcancel hlook
    have hstill : site.atLook.isRaised flag = true := by
      simp only [Site.isRaised, Site.atLook, decide_eq_true_eq, List.mem_append] at hraised ⊢
      exact .inr hraised
    exact absurd (hanswer.trans hstill) (by simp)

/-- The number of turns is at most that of the looks before others have set the flag. -/
theorem length_le_of_arriving (h : runner.Takes turns site after journal)
    (hcancel : runner.cancel = some flag) {n : Nat}
    (harriving : flag ∈ (site.arriving.take (n + 1)).flatten) : turns.length ≤ n := by
  induction h generalizing n with
  | nothing | stops => exact Nat.zero_le n
  | tells events _ ih => exact ih harriving
  | @completes turn turns site after more hlook hok _ ih =>
    obtain ⟨m, rfl, hlater⟩ := later_of_unset hcancel hlook harriving
    have hkept : (turn.done runner).state.arriving = site.arriving.tail := by
      obtain ⟨-, -, -, hsame⟩ := (runner.heedless_applyOne turn.migration turn.before).raised
      exact hsame.trans (congrArg Site.arriving (look_of_cancel hcancel hlook).1)
    rw [← hkept] at hlater
    exact Nat.succ_le_succ (ih hlater)
  | @fails turn site halt hlook herror =>
    obtain ⟨m, rfl, -⟩ := later_of_unset hcancel hlook harriving
    exact Nat.succ_le_succ (Nat.zero_le m)

/-- A turn in which the flag gets set is the last one. -/
theorem eq_nil_of_raised_during (h : runner.Takes turns site after journal)
    (hcancel : runner.cancel = some flag) {front more : List Turn} {turn : Turn}
    (hturns : turns = front ++ turn :: more)
    (hraised : (turn.done runner).state.isRaised flag = true) : more = [] := by
  rcases h.rest hturns with hlast | ⟨-, journal, hmore⟩
  · exact hlast
  · exact hmore.eq_nil_of_raised hcancel hraised

/-- The turn of a migration that sets the flag is the last one, because either the migration failed,
or it did set the flag. -/
theorem eq_nil_of_mem_flags (h : runner.Takes turns site after journal)
    (hcancel : runner.cancel = some flag) {front more : List Turn} {turn : Turn}
    (hturns : turns = front ++ turn :: more)
    (hflag : flag ∈ Instruction.flags (turn.migration.instructions turn.before.files)) :
    more = [] := by
  rcases h.rest hturns with hlast | ⟨hok, -⟩
  · exact hlast
  · have hraised := (Turn.completed_of_ok hok).2 flag hflag
    exact h.eq_nil_of_raised_during hcancel hturns (decide_eq_true hraised)

end Takes

/-- A migration that does not return a cancellation is not cancelled: the database is never blamed
in that way. -/
theorem Turn.not_cancelled {turn : Turn} {n : Nat}
    (hown : .stop (.failure (.cancelled n)) ∉ turn.migration.instructions turn.before.files) :
    (turn.done runner).outcome ≠ .error (.failure (.cancelled n)) := by
  intro hcancelled
  rcases error_of_applyOne hcancelled with hstop | ⟨error, herror, hblames⟩
  · exact hown hstop
  · obtain rfl := Halt.failure.inj herror
    exact absurd hblames (by simp [UpgradeError.blamesDatabase])

/-- What a run comes to that took these turns. -/
inductive ComesTo (runner : Runner) (flag : CancelFlag) (site : Site) (turns : List Turn) :
    Prop where
  /-- Everything that was pending is applied, whether or not the flag was set in the meantime. -/
  | finished
      (hall : turns.map Turn.migration = runner.pendingOn site.database.committed)
      (hcompleted : ∀ turn ∈ turns, turn.Completed runner)
      (houtcome : (runner.run site).outcome = .ok {
        applied := turns.map fun turn => turn.migration.key
        skipped := (runner.skippedOn site.database.committed).map Migration.key })
  /-- The flag is set, and something is left to be applied. -/
  | cancelled
      (hleft : turns.length < (runner.pendingOn site.database.committed).length)
      (hcompleted : ∀ turn ∈ turns, turn.Completed runner)
      (hraised : (runner.run site).state.isRaised flag = true)
      (houtcome : (runner.run site).outcome
        = .error (.failure (.cancelled (Turn.committedOf runner turns).length)))
  /-- The last turn failed, with an error of its own. -/
  | failed (front : List Turn) (turn : Turn) (halt : Halt UpgradeError)
      (hturns : turns = front ++ [turn])
      (hcompleted : ∀ turn ∈ front, turn.Completed runner)
      (hfailed : (turn.done runner).outcome = .error halt)
      (hown : ∀ n, halt ≠ .failure (.cancelled n))
      (houtcome : (runner.run site).outcome = .error halt)

/-- A run is cancelled exactly if all of its turns were completed and something is left. -/
theorem ComesTo.cancelled_iff (h : runner.ComesTo flag site turns) (n : Nat) :
    (runner.run site).outcome = .error (.failure (.cancelled n)) ↔
      (∀ turn ∈ turns, turn.Completed runner) ∧
        turns.length < (runner.pendingOn site.database.committed).length ∧
        n = (Turn.committedOf runner turns).length := by
  cases h with
  | finished hall hcompleted houtcome =>
    refine iff_of_false (by simp [houtcome]) ?_
    rintro ⟨-, hleft, -⟩
    rw [← hall, List.length_map] at hleft
    exact Nat.lt_irrefl _ hleft
  | cancelled hleft hcompleted hraised houtcome =>
    rw [houtcome]
    refine ⟨fun hsame => ⟨hcompleted, hleft, ?_⟩, fun ⟨_, _, hcount⟩ => by rw [hcount]⟩
    exact (UpgradeError.cancelled.inj (Halt.failure.inj (Except.error.inj hsame))).symm
  | failed front turn halt hturns hcompleted hfailed hown houtcome =>
    refine iff_of_false ?_ ?_
    · rw [houtcome]
      exact fun hsame => hown n (Except.error.inj hsame)
    · rintro ⟨hall, -, -⟩
      have hok := (hall turn (by simp [hturns])).outcome
      exact absurd (hfailed.symm.trans hok) (by simp)

/-! ## Heeding the flag -/

/-- These turns are all that a run takes after its plan, and they heed the flag. -/
structure Heeds (runner : Runner) (flag : CancelFlag) (site : Site) (turns : List Turn) : Prop where
  takes : ∃ rest, (runner.run site).journal = (runner.plan site).journal ++ rest ∧
    runner.Takes turns (runner.plan site).state (runner.run site).state rest
  order : turns.map Turn.migration <+: runner.pendingOn site.database.committed
  /-- Flags that are set stay set. -/
  stays : site.raised ⊆ (runner.run site).state.raised
  /-- No transaction is opened while the flag is set. -/
  unset : ∀ turn ∈ turns, turn.before.isRaised flag = false
  /-- If the flag is set before the run, there is no turn at all. -/
  before : site.isRaised flag = true → turns = []
  /-- If the flag gets set in a turn, that is the last one. -/
  during : ∀ front turn rest, turns = front ++ turn :: rest →
    (turn.done runner).state.isRaised flag = true → rest = []
  /-- In particular, the turn of a migration that sets the flag is the last one. -/
  action : ∀ front turn rest, turns = front ++ turn :: rest →
    flag ∈ Instruction.flags (turn.migration.instructions site.files) → rest = []
  /-- If others set the flag by the look at number `n`, there are at most so many turns. -/
  others : ∀ n, flag ∈ (site.arriving.take (n + 1)).flatten → turns.length ≤ n
  /-- No turn depends on the flags that are set, whenever they are set. -/
  heedless : ∀ turn ∈ turns, Work.Heedless
    (Instruction.flags (turn.migration.instructions site.files))
    (runner.applyOne turn.migration) turn.before
  comesTo : runner.ComesTo flag site turns
  /-- The run is cancelled exactly if all that it took up was completed and something is left; it
  tells how many migrations it committed. -/
  cancelled_iff : ∀ n, (runner.run site).outcome = .error (.failure (.cancelled n)) ↔
    (∀ turn ∈ turns, turn.Completed runner) ∧
      turns.length < (runner.pendingOn site.database.committed).length ∧
      n = (Turn.committedOf runner turns).length
  /-- If no migration opens or ends a transaction itself, the changes of the migrations that were
  committed are all that the run published after the creating statement. -/
  published : runner.NeverControls site.files → (runner.run site).state.database.committed
    = (site.database.committed.perform runner.creation).performAll
        ((Turn.committedOf runner turns).flatMap (runner.change site.files))

/-- How a run goes on that has passed some migrations: it takes no turn, or one that fails. -/
inductive LastTurn (runner : Runner) (flag : CancelFlag) (report : Report)
    (passed rest : List Migration) (finished : Finished Site (Halt UpgradeError) Report) :
    List Turn → Prop where
  | finished (hrest : rest = []) (houtcome : finished.outcome = .ok (applied report passed)) :
      LastTurn runner flag report passed rest finished []
  | cancelled (hrest : rest ≠ []) (hraised : finished.state.isRaised flag = true)
      (houtcome : finished.outcome
        = .error (.failure (.cancelled (report.applied.length + passed.length)))) :
      LastTurn runner flag report passed rest finished []
  | failed (turn : Turn) (halt : Halt UpgradeError) (hfirst : [turn.migration] <+: rest)
      (hfailed : (turn.done runner).outcome = .error halt)
      (houtcome : finished.outcome = .error halt) :
      LastTurn runner flag report passed rest finished [turn]

theorem Ends.lastTurn {report : Report} {passed rest : List Migration} {mid : Site}
    {finished : Finished Site (Halt UpgradeError) Report} (hcancel : runner.cancel = some flag)
    (h : runner.Ends report passed mid rest finished) :
    ∃ last, runner.LastTurn flag report passed rest finished last ∧
      runner.Takes last mid finished.state finished.journal := by
  cases h with
  | finished => exact ⟨[], .finished rfl rfl, .nothing mid⟩
  | cancelled hlook =>
    obtain ⟨rfl, hanswer⟩ := look_of_cancel hcancel hlook
    exact ⟨[], .cancelled (List.cons_ne_nil _ _) hanswer.symm rfl, .stops hlook⟩
  | @failed migration rest looked after halt journal hlook happly =>
    let turn : Turn := ⟨migration, looked⟩
    have hdone : turn.done runner = ⟨.error halt, after, journal⟩ := happly
    have hfailed : (turn.done runner).outcome = .error halt := congrArg Finished.outcome hdone
    have htakes : runner.Takes [turn] mid _ _ := .fails hlook hfailed
    rw [hdone] at htakes
    refine ⟨[turn], .failed turn halt ?_ hfailed rfl, htakes⟩
    exact List.cons_prefix_cons.2 ⟨rfl, List.nil_prefix⟩

section LastTurn

variable {report : Report} {passed rest : List Migration} {front last : List Turn}
  {finished : Finished Site (Halt UpgradeError) Report}

theorem LastTurn.order (h : runner.LastTurn flag report passed rest finished last) :
    last.map Turn.migration <+: rest := by
  cases h with
  | finished | cancelled => exact List.nil_prefix
  | failed turn halt hfirst => exact hfirst

theorem LastTurn.committedOf (h : runner.LastTurn flag report passed rest finished last)
    (hcompleted : ∀ turn ∈ front, turn.Completed runner) :
    Turn.committedOf runner (front ++ last) = front.map Turn.migration := by
  cases h with
  | finished | cancelled =>
    rw [List.append_nil]
    exact Turn.committedOf_of_completed hcompleted
  | failed turn halt hfirst hfailed => exact Turn.committedOf_failed hcompleted hfailed

theorem LastTurn.comesTo (h : runner.LastTurn flag
      { skipped := (runner.skippedOn site.database.committed).map Migration.key }
      (front.map Turn.migration) rest finished last)
    (hcompleted : ∀ turn ∈ front, turn.Completed runner)
    (hsplit : runner.pendingOn site.database.committed = front.map Turn.migration ++ rest)
    (hrun : runner.run site = ⟨finished.outcome, finished.state, journal⟩)
    (hown : ∀ turn ∈ last, ∀ n, (turn.done runner).outcome ≠ .error (.failure (.cancelled n))) :
    runner.ComesTo flag site (front ++ last) := by
  have hcommitted := h.committedOf hcompleted
  cases h with
  | finished hrest houtcome =>
    rw [hrest, List.append_nil] at hsplit
    rw [List.append_nil]
    refine .finished hsplit.symm hcompleted ?_
    rw [hrun, houtcome, applied, List.map_map]
    rfl
  | cancelled hrest hraised houtcome =>
    rw [List.append_nil] at hcommitted ⊢
    refine .cancelled ?_ hcompleted ?_ ?_
    · rw [hsplit, List.length_append, List.length_map]
      exact Nat.lt_add_of_pos_right (List.length_pos_iff.2 hrest)
    · rw [hrun]
      exact hraised
    · rw [hrun, houtcome, hcommitted, List.length_nil, Nat.zero_add]
  | failed turn halt hfirst hfailed houtcome =>
    refine .failed front turn halt rfl hcompleted hfailed ?_ ?_
    · rintro n rfl
      exact hown turn List.mem_cons_self n hfailed
    · rw [hrun, houtcome]

end LastTurn

theorem exists_heeds {plan : Plan} (hcancel : runner.cancel = some flag)
    (hown : ∀ migration ∈ runner.migrations, ∀ n,
      .stop (.failure (.cancelled n)) ∉ migration.instructions site.files)
    (hplan : (runner.plan site).outcome = .ok plan) :
    ∃ turns, runner.Heeds flag site turns := by
  rcases runner.run_turns site with
    ⟨error, after, journal, hfailed, -⟩ |
    ⟨plan', ready, planned, front, rest, mid, journal, told, finished, hplanned, hlisted, hsplit,
      hcompleted, hpasses, hfront, hends, hrun⟩
  · rw [hfailed] at hplan
    exact absurd hplan (by simp)
  · obtain ⟨last, hlast, htaken⟩ := hends.lastTurn hcancel
    have htakes := hfront htaken
    have hready : ready.raised = site.raised ∧ ready.arriving = site.arriving := by
      have hkept := (runner.heedless_plan site).raised_eq
      rwa [hplanned] at hkept
    have hfiles : ∀ turn ∈ front ++ last, turn.before.files = site.files := by
      intro turn hturn
      rw [htakes.surroundings turn hturn, hlisted.frame.surroundings]
    have horder : (front ++ last).map Turn.migration
        <+: runner.pendingOn site.database.committed := by
      rw [hsplit, List.map_append, List.prefix_append_right_inj]
      exact hlast.order
    have hmem : ∀ turn ∈ front ++ last, turn.migration ∈ runner.migrations := fun turn hturn =>
      mem_of_mem_pendingOn (horder.subset (List.mem_map_of_mem hturn))
    have hcomesTo : runner.ComesTo flag site (front ++ last) := by
      refine hlast.comesTo hcompleted hsplit hrun fun turn hturn n => Turn.not_cancelled ?_
      have hturn' := List.mem_append_right front hturn
      rw [hfiles turn hturn']
      exact hown turn.migration (hmem turn hturn') n
    refine ⟨front ++ last, ?takes, horder, ?stays, htakes.unset hcancel, ?before, ?during, ?action,
      ?others, ?heedless, hcomesTo, hcomesTo.cancelled_iff, ?published⟩
    case takes =>
      refine ⟨told ++ finished.journal, by rw [hrun, hplanned], ?_⟩
      rw [hrun, hplanned]
      exact htakes
    case stays =>
      rw [hrun, ← hready.1]
      exact htakes.raised
    case before =>
      intro hraised
      refine htakes.eq_nil_of_raised hcancel ?_
      rw [Site.isRaised, hready.1]
      exact hraised
    case during =>
      intro front turn rest hturns hraised
      exact htakes.eq_nil_of_raised_during hcancel hturns hraised
    case action =>
      intro front turn rest hturns hflag
      rw [← hfiles turn (by simp [hturns])] at hflag
      exact htakes.eq_nil_of_mem_flags hcancel hturns hflag
    case others =>
      intro n harriving
      rw [← hready.2] at harriving
      exact htakes.length_le_of_arriving hcancel harriving
    case heedless =>
      intro turn hturn
      rw [← hfiles turn hturn]
      exact runner.heedless_applyOne turn.migration turn.before
    case published =>
      intro hplain
      have hcontent := published_of_ends hplain hlisted hsplit hpasses hends
      rw [hrun, hlast.committedOf hcompleted]
      exact hcontent

/-- Cancellation is clean at every moment.  Whatever flags are set, a plan goes the same way, and a
run goes the way of its plan as long as that lasts.  After that, its turns heed the flag, unless a
migration itself pretends that it was cancelled. -/
theorem cancellation_is_clean (runner : Runner) (flag : CancelFlag) (site : Site)
    (hcancel : runner.cancel = some flag)
    (hown : ∀ migration ∈ runner.migrations, ∀ n,
      .stop (.failure (.cancelled n)) ∉ migration.instructions site.files) :
    (∀ raised arriving, runner.plan (site.withFlags raised arriving)
      = (runner.plan site).withFlags raised arriving) ∧
    (∀ error, (runner.plan site).outcome = .error error →
      runner.run site
        = ⟨.error (.failure error), (runner.plan site).state, (runner.plan site).journal⟩) ∧
    (∀ plan, (runner.plan site).outcome = .ok plan → ∃ turns, runner.Heeds flag site turns) := by
  refine ⟨(runner.heedless_plan site).withFlags_eq, fun error herror => ?_, fun plan hplan => ?_⟩
  · have hplan : runner.plan site
        = ⟨.error error, (runner.plan site).state, (runner.plan site).journal⟩ := by rw [← herror]
    exact Work.bind_of_error (Work.mapError_of_error hplan)
  · exact exists_heeds hcancel hown hplan

/-- Two programs of which the first sets the flag of the runner. -/
def haltingSteps : Runner := { twoSteps with
  migrations := [.program "01" [.cancel (.named "stop"), .batch "CREATE TABLE a (id INT)"],
    .program "02" [.batch "DROP TABLE a"]]
  cancel := some (.named "stop")
  sorted := by decide
  nonempty := by simp }

/-- The first migration sets the flag and is completed nevertheless; the second is not begun. -/
theorem cancellation_is_clean_haltingSteps :
    let flag : CancelFlag := .named "stop"
    let site : Site := {}
    haltingSteps.cancel = some flag ∧
      (∀ migration ∈ haltingSteps.migrations, ∀ n,
        .stop (.failure (.cancelled n)) ∉ migration.instructions site.files) ∧
      (haltingSteps.run site).outcome = .error (.failure (.cancelled 1)) ∧
      ∃ turns, haltingSteps.Heeds flag site turns := by
  intro flag site
  have hown : ∀ migration ∈ haltingSteps.migrations, ∀ n,
      .stop (.failure (.cancelled n)) ∉ migration.instructions site.files := by
    simp [haltingSteps, Migration.instructions, instructionsOfActions, Action.instructions]
  obtain ⟨hplan, houtcome⟩ : (haltingSteps.plan site).outcome
        = .ok { resumePoint := none, applied := [], pending := ["01", "02"] } ∧
      (haltingSteps.run site).outcome = .error (.failure (.cancelled 1)) := by decide +kernel
  exact ⟨rfl, hown, houtcome,
    (cancellation_is_clean haltingSteps flag site rfl hown).2.2 _ hplan⟩

end Runner

end SchemaUpgrade
