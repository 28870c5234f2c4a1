import SchemaUpgrade.Proofs.Operations
/-!
# Errands, and the one that an error blames

Work *walks* its errands when it makes the calls of its schedule one after another, and if one of
them fails, makes no other call and ends with an error that blames the one that failed
(`Finished.Walks`).  It may also fail by itself, but only behind all of its errands.

Rollbacks are left out: they are what is done about a failure, and whether they succeed does not
change what is blamed.  What is left determines the call that failed by its place among the errands,
also where the same text is sent more than once.

On a sound connection, work that takes a course with a schedule walks its errands, unless it panics
(`Course.walks`).  The schedules of planning and of applying a migration are known from their
courses, so this holds of `Runner.plan` and of `Runner.applyOne`.

## Main definitions

* `Finished.EndsBy`, `Finished.Walks`: the calls that work made, against its schedule.
-/

namespace SchemaUpgrade

open Engine

variable {σ ε ε' α β : Type}

/-- The work succeeded, or it failed as was foreseen. -/
def Finished.EndsBy (own : Option (ε → Prop)) (done : Finished σ ε α) : Prop :=
  match own with
  | none => ∃ a, done.outcome = .ok a
  | some foreseen => ∃ e, done.outcome = .error e ∧ foreseen e

/-- The work made the calls of its errands, up to the first that failed, and its error blames that
one.  Behind all of them it succeeded, or failed as was foreseen. -/
inductive Finished.Walks (own : Option (ε → Prop)) (errands : List (Errand ε))
    (done : Finished σ ε α) : Prop
  | through (hattempts : done.journal.attempts = errands.map Errand.carriedOut)
      (hends : done.EndsBy own)
  | failed (front : List (Errand ε)) (errand : Errand ε) (rest : List (Errand ε)) {e : ε}
      {message : String} (herrands : errands = front ++ errand :: rest)
      (hattempts : done.journal.attempts
        = front.map Errand.carriedOut ++ [(errand.call, some message)])
      (houtcome : done.outcome = .error e) (hblames : errand.blames e message)

namespace Finished.Walks

variable {own : Option (ε → Prop)} {errands : List (Errand ε)} {done : Finished σ ε α}

/-- Work that succeeded has done all its errands, and was not foreseen to fail. -/
theorem of_ok (h : done.Walks own errands) {a : α} (hok : done.outcome = .ok a) :
    done.journal.attempts = errands.map Errand.carriedOut ∧ own = none := by
  cases h with
  | through hattempts hends =>
    refine ⟨hattempts, ?_⟩
    cases own with
    | none => rfl
    | some foreseen =>
      obtain ⟨e, he, -⟩ := hends
      exact absurd (hok.symm.trans he) (by simp)
  | failed _ _ _ _ _ houtcome _ => exact absurd (hok.symm.trans houtcome) (by simp)

/-- Work that failed was foreseen to fail behind its errands, or blames the one that failed. -/
theorem of_error (h : done.Walks own errands) {e : ε} (herror : done.outcome = .error e) :
    (∃ foreseen, own = some foreseen ∧ foreseen e ∧
      done.journal.attempts = errands.map Errand.carriedOut) ∨
    ∃ front errand rest message, errands = front ++ errand :: rest ∧
      done.journal.attempts = front.map Errand.carriedOut ++ [(errand.call, some message)] ∧
      errand.blames e message := by
  cases h with
  | through hattempts hends =>
    cases own with
    | none =>
      obtain ⟨a, ha⟩ := hends
      exact absurd (herror.symm.trans ha) (by simp)
    | some foreseen =>
      obtain ⟨other, hother, hforeseen⟩ := hends
      obtain rfl := Except.error.inj (herror.symm.trans hother)
      exact .inl ⟨foreseen, rfl, hforeseen, hattempts⟩
  | failed front errand rest herrands hattempts houtcome hblames =>
    obtain rfl := Except.error.inj (herror.symm.trans houtcome)
    exact .inr ⟨front, errand, rest, _, herrands, hattempts, hblames⟩

/-- What a failure blames, of work that could have panicked. -/
theorem of_halting_error {own : Option (Halt UpgradeError → Prop)}
    {errands : List (Errand UpgradeError)} {done : Finished σ (Halt UpgradeError) α}
    (h : done.Walks own (errands.map .halting)) {halt : Halt UpgradeError}
    (herror : done.outcome = .error halt) :
    (∃ foreseen, own = some foreseen ∧ foreseen halt ∧
      done.journal.attempts = errands.map Errand.carriedOut) ∨
    ∃ front errand rest message error, errands = front ++ errand :: rest ∧
      done.journal.attempts = front.map Errand.carriedOut ++ [(errand.call, some message)] ∧
      halt = .failure error ∧ errand.blames error message := by
  rcases h.of_error herror with
    ⟨foreseen, hown, hforeseen, hattempts⟩ | ⟨front, _, _, message, herrands, hattempts, hblames⟩
  · rw [Errand.map_carriedOut_halting] at hattempts
    exact .inl ⟨foreseen, hown, hforeseen, hattempts⟩
  · obtain ⟨front, tail, rfl, rfl, htail⟩ := List.map_eq_append_iff.1 herrands
    obtain ⟨errand, rest, rfl, rfl, -⟩ := List.map_eq_cons_iff.1 htail
    obtain ⟨error, rfl, hblamed⟩ := hblames
    rw [Errand.map_carriedOut_halting] at hattempts
    exact .inr ⟨front, errand, rest, message, error, rfl, hattempts, rfl, hblamed⟩

/-- Work that is not foreseen to fail does so only after a call that failed. -/
theorem failures_ne_nil (h : done.Walks none errands) {e : ε} (herror : done.outcome = .error e) :
    done.journal.failures ≠ [] := by
  rcases h.of_error herror with ⟨_, hnone, -⟩ | ⟨front, errand, rest, message, -, hattempts, -⟩
  · exact absurd hnone (by simp)
  · have hmem : (errand.call, some message) ∈ done.journal.attempts := by simp [hattempts]
    exact List.ne_nil_of_mem (Journal.mem_failures_of_mem_attempts hmem)

/-- Work that has nothing to do. -/
theorem idle (hschedule : some {} = some (⟨errands, own⟩ : Schedule ε)) {a : α}
    (houtcome : done.outcome = .ok a) (hattempts : done.journal.attempts = []) :
    done.Walks own errands := by
  obtain ⟨rfl, rfl⟩ := Schedule.mk.inj (Option.some.inj hschedule)
  exact .through hattempts ⟨a, houtcome⟩

/-- Work that consists of a single call. -/
theorem single {errand : Errand ε} {failure : Option String}
    (hcall : errand.call ≠ .batch rollbackText)
    (hjournal : done.journal = [.called errand.call failure])
    (hends : match failure with
      | none => ∃ a, done.outcome = .ok a
      | some message => ∃ e, done.outcome = .error e ∧ errand.blames e message) :
    done.Walks none [errand] := by
  have hattempts : done.journal.attempts = [(errand.call, failure)] := by
    rw [hjournal, Journal.attempts_call hcall]
  cases failure with
  | none => exact .through hattempts hends
  | some message =>
    obtain ⟨e, houtcome, hblames⟩ := hends
    exact .failed [] errand [] rfl hattempts houtcome hblames

/-- A second piece of work after a first one that did all its errands. -/
theorem after {own : Option (ε' → Prop)} {later : List (Errand ε')} {second : Finished σ ε' β}
    {g : Errand ε → Errand ε'} (hcall : ∀ errand, (g errand).call = errand.call)
    (hdone : done.journal.attempts = errands.map Errand.carriedOut) (h : second.Walks own later) :
    Walks own (errands.map g ++ later)
      ⟨second.outcome, second.state, done.journal ++ second.journal⟩ := by
  have hcarried := Errand.map_carriedOut_map hcall
  cases h with
  | through hattempts hends =>
    refine .through ?_ hends
    rw [Journal.attempts_append, hdone, hattempts, List.map_append, hcarried]
  | @failed front errand rest e message herrands hattempts hfailed hblamed =>
    refine .failed (errands.map g ++ front) errand rest ?_ ?_ hfailed hblamed
    · rw [herrands, List.append_assoc]
    · rw [Journal.attempts_append, hdone, hattempts, List.map_append, hcarried, List.append_assoc]

end Finished.Walks

/-! ## Courses -/

/-- On a sound connection, work that does not panic walks the errands of its schedule, if it has
one. -/
theorem Course.walks {terms : Terms} {tells : ε → String → Prop} {schedule : Option (Schedule ε)}
    {work other : Work Site ε α} (h : Course terms tells schedule work other)
    (hcalm : ¬terms.panics) {site : Site} (hsite : terms.At site) (hsound : site.poisoned = false)
    {errands : List (Errand ε)} {own : Option (ε → Prop)}
    (hschedule : schedule = some ⟨errands, own⟩)
    (hplain : ∀ errand ∈ errands, errand.call ≠ .batch rollbackText) :
    (work site).Walks own errands := by
  induction h generalizing site with
  | pure a => exact .idle hschedule rfl rfl
  | fail e =>
    obtain ⟨rfl, rfl⟩ := Schedule.mk.inj (Option.some.inj hschedule)
    exact .through rfl ⟨e, rfl, rfl⟩
  | @caught ε ε' α β tells tells' first second work other next next' passing h hok herror hpasses
      ih ihok =>
    obtain ⟨given, foreseen, later, rfl, rfl, hrest⟩ := Passing.schedule_eq_some hschedule
    have hcarried := Errand.map_carriedOut_map passing.call
    rw [List.forall_mem_append, List.forall_mem_map] at hplain
    have hfirst := ih hsite hsound rfl fun errand hmem => by
      rw [← passing.call]
      exact hplain.1 errand hmem
    obtain ⟨haround, hstill⟩ := h.keeps hsite
    have hmid := hsite.of_surroundings haround
    rw [Work.bind_of_ok (Work.attempt_apply site work)]
    cases houtcome : (work site).outcome with
    | ok a =>
      obtain ⟨hdone, rfl⟩ := hfirst.of_ok houtcome
      exact .after passing.call hdone
        (ihok a hmid ((hstill hcalm).trans hsound) hrest hplain.2)
    | error e =>
      obtain ⟨⟨e', houtcome', hbecomes⟩, hsilent⟩ :=
        hpasses hcalm e ⟨site, hsite, houtcome⟩ (work site).state
      rcases hfirst.of_error houtcome with ⟨foreseen, rfl, hforeseen, hattempts⟩ |
        ⟨front, errand, rest, message, rfl, hattempts, hblamed⟩
      · obtain ⟨rfl, rfl⟩ := hrest
        refine .through ?_ ⟨e', houtcome', e, hforeseen, hbecomes⟩
        rw [Journal.attempts_append, hattempts, hsilent, List.append_nil, List.append_nil,
          hcarried]
      · refine .failed (front.map passing.errand) (passing.errand errand)
          (rest.map passing.errand ++ later) ?_ ?_ houtcome'
          (passing.blames (List.mem_append_right _ (.head _)) hbecomes hblamed)
        · rw [List.map_append, List.map_cons, List.append_assoc, List.cons_append]
        · rw [Journal.attempts_append, hattempts, hsilent, List.append_nil, hcarried,
            passing.call]
  | call request act =>
    obtain ⟨rfl, rfl⟩ := Schedule.mk.inj (Option.some.inj hschedule)
    have hrequest := List.forall_mem_singleton.1 hplain
    rcases Site.call_cases request act site with
      ⟨message, faults, hcall⟩ | ⟨answer, database, faults, -, hcall⟩ <;> rw [hcall]
    · exact .single hrequest rfl ⟨message, rfl, rfl⟩
    · exact .single hrequest rfl ⟨answer, rfl⟩
  | readColumn sql =>
    obtain ⟨rfl, rfl⟩ := Schedule.mk.inj (Option.some.inj hschedule)
    have hrequest := List.forall_mem_singleton.1 hplain
    rcases Site.readColumn_cases sql site with ⟨message, faults, hread⟩ | ⟨faults, hread⟩ <;>
      rw [hread]
    · exact .single hrequest rfl ⟨message, rfl, rfl⟩
    · exact .single hrequest rfl ⟨_, rfl⟩
  | lock =>
    rw [Connection.lock_apply, hsound]
    exact .idle hschedule rfl rfl
  | log => exact .idle hschedule rfl (Journal.attempts_logged _)
  | raise | look => exact .idle hschedule rfl rfl
  | poison => exact absurd hschedule (by simp)
  | unscheduled => exact absurd hschedule (by simp)
  | congr hwork _ _ ih =>
    rw [hwork site hsite]
    exact ih hsite hsound hschedule hplain

/-! ## Operations -/

theorem Statement.call_ne_rollback {statement : Statement} (h : statement.isControl = false) :
    statement.call ≠ .batch rollbackText := by
  cases statement with
  | batch sql =>
    rintro hcall
    obtain rfl := Call.batch.inj hcall
    exact absurd h (by decide)
  | execute sql params => simp [call]

theorem Instruction.errands_ne_rollback {code : List Instruction}
    (hplain : ∀ statement ∈ statements code, statement.isControl = false) :
    ∀ errand ∈ errands code, errand.call ≠ .batch rollbackText := by
  induction code with
  | nil => simp [errands]
  | cons instruction rest ih =>
    cases instruction with
    | send statement sender =>
      rw [statements_cons_send, List.forall_mem_cons] at hplain
      exact List.forall_mem_cons.2 ⟨Statement.call_ne_rollback hplain.1, ih hplain.2⟩
    | tell route notice => exact ih hplain
    | raise flag => exact ih hplain
    | stop halt => simp [errands]

namespace Runner

variable {runner : Runner} {migration : Migration} {site : Site}

theorem preparation_ne_rollback (hplain : runner.creation.isControl = false) :
    ∀ errand ∈ runner.preparation, errand.call ≠ .batch rollbackText := by
  have hcreation : runner.creation.call ≠ .batch rollbackText := Statement.call_ne_rollback hplain
  have hbegin : beginText ≠ rollbackText := by decide
  have hcommit : commitText ≠ rollbackText := by decide
  simpa [preparation, Errand.naming, hbegin, hcommit, creation, Statement.call] using hcreation

/-- A plan fails behind its errands only if the migrations do not continue the history. -/
theorem walks_plan (hplain : runner.creation.isControl = false) (hsound : site.poisoned = false) :
    ∃ own, (runner.plan site).Walks own runner.preparation ∧
      ∀ foreseen ∈ own, ∀ error, foreseen error → ∃ mismatch, error = .history mismatch := by
  -- The keys that are compared depend on what the engine lists.
  let recorded : List String := (runner.inquiry site).outcome.toOption.getD []
  have hplan : runner.plan site
      = (runner.inquiry >>= fun _ => runner.comparison recorded) site := by
    rw [plan_eq_inquiry]
    refine Work.bind_congr_right fun listed hlisted => ?_
    have hsame : recorded = listed := by simp [recorded, hlisted, Except.toOption]
    rw [hsame]
  have hcourse : Course (.calm site.files) UpgradeError.Tells
      (some ⟨runner.preparation ++ [], runner.refusal recorded⟩)
      (runner.inquiry >>= fun _ => runner.comparison recorded) _ :=
    runner.course_inquiry.bind fun _ =>
      course_comparison (.refl runner) (fun _ => trivial) recorded
  rw [List.append_nil] at hcourse
  refine ⟨runner.refusal recorded, ?_, fun foreseen hforeseen error herror => ?_⟩
  · rw [hplan]
    exact hcourse.walks id rfl hsound rfl (preparation_ne_rollback hplain)
  · rw [refusal] at hforeseen
    cases hresume : History.resumePoint runner.keys recorded with
    | ok resume => simp [hresume] at hforeseen
    | error mismatch =>
      rw [hresume] at hforeseen
      obtain rfl := Option.some.inj hforeseen
      exact ⟨mismatch, herror⟩

/-- A migration that does not panic is walked from the opening of its transaction to the end. -/
theorem walks_applyOne (runner : Runner) (hsound : site.poisoned = false)
    (hplain : ∀ statement ∈ Instruction.statements (migration.instructions site.files),
      statement.isControl = false)
    (hpanic : .stop .panic ∉ migration.instructions site.files) :
    let assignment := runner.assignment migration (migration.instructions site.files)
    (runner.applyOne migration site).Walks assignment.own assignment.errands := by
  intro assignment
  have hcourse : Course (.calm site.files) Halt.Tells (some assignment) (runner.applyOne migration)
      (runner.applyOne migration) :=
    course_applyOne (.refl runner) rfl (Terms.permits_calm hpanic)
  refine hcourse.walks id rfl hsound rfl ?_
  refine List.forall_mem_map.2 (List.forall_mem_cons.2 ⟨by decide, ?_⟩)
  refine List.forall_mem_append.2 ⟨Instruction.errands_ne_rollback hplain, ?_⟩
  have hclosing : ∀ errand ∈ runner.closing migration, errand.call ≠ .batch rollbackText := by
    simp [closing, Errand.naming, registration, Statement.call, commitText, rollbackText]
  cases Instruction.halt? (migration.instructions site.files) with
  | none => exact hclosing
  | some halt => simp

end Runner

end SchemaUpgrade
