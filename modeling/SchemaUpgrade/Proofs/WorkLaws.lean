import SchemaUpgrade.Work
/-!
# Laws of work

Work is a lawful monad: doing nothing before or after a piece of work changes neither its outcome
nor its journal, and it does not matter how three pieces done in a row are grouped.

A composed piece of work is taken apart at its first piece: `bind_of_ok` and `bind_of_error` go
forward from how that piece ended, and `bind_cases` goes back from the whole to its two parts.
-/

namespace SchemaUpgrade.Work

variable {σ ε ε' α β : Type}

/-! ## One piece after another -/

theorem bind_of_ok {work : Work σ ε α} {next : α → Work σ ε β} {s t : σ} {a : α}
    {journal : Journal} (h : work s = ⟨.ok a, t, journal⟩) :
    (work >>= next) s
      = ⟨(next a t).outcome, (next a t).state, journal ++ (next a t).journal⟩ := by
  rw [bind_apply, h]

theorem bind_of_error {work : Work σ ε α} {next : α → Work σ ε β} {s t : σ} {e : ε}
    {journal : Journal} (h : work s = ⟨.error e, t, journal⟩) :
    (work >>= next) s = ⟨.error e, t, journal⟩ := by
  rw [bind_apply, h]

/-- Two pieces in a row of which both are known. -/
theorem bind_of_ok_of {work : Work σ ε α} {next : α → Work σ ε β} {s t u : σ} {a : α}
    {outcome : Except ε β} {journal more : Journal} (h : work s = ⟨.ok a, t, journal⟩)
    (hnext : next a t = ⟨outcome, u, more⟩) :
    (work >>= next) s = ⟨outcome, u, journal ++ more⟩ := by
  rw [bind_of_ok h, hnext]

theorem bind_of_silent {work : Work σ ε α} {next : α → Work σ ε β} {s t : σ} {a : α}
    (h : work s = ⟨.ok a, t, []⟩) : (work >>= next) s = next a t := by
  rw [bind_of_ok h, List.nil_append]

/-- How two pieces of work in a row end: either the first one failed, or the second one decides. -/
theorem bind_cases (work : Work σ ε α) (next : α → Work σ ε β) (s : σ) :
    (∃ e t journal, work s = ⟨.error e, t, journal⟩ ∧
      (work >>= next) s = ⟨.error e, t, journal⟩) ∨
    (∃ a t journal, work s = ⟨.ok a, t, journal⟩ ∧
      (work >>= next) s
        = ⟨(next a t).outcome, (next a t).state, journal ++ (next a t).journal⟩) := by
  rcases h : work s with ⟨outcome, t, journal⟩
  cases outcome with
  | error e => exact .inl ⟨e, t, journal, rfl, bind_of_error h⟩
  | ok a => exact .inr ⟨a, t, journal, rfl, bind_of_ok h⟩

/-- What comes first only matters at the state it starts in. -/
theorem bind_congr_left {work work' : Work σ ε α} {next : α → Work σ ε β} {s : σ}
    (h : work s = work' s) : (work >>= next) s = (work' >>= next) s := by
  rw [bind_apply, bind_apply, h]

/-- What comes second only matters for the state and the result that the first piece leaves. -/
theorem bind_congr_right {work : Work σ ε α} {next next' : α → Work σ ε β} {s : σ}
    (h : ∀ a, (work s).outcome = .ok a → next a (work s).state = next' a (work s).state) :
    (work >>= next) s = (work >>= next') s := by
  rcases bind_cases work next s with ⟨e, t, journal, hwork, hbind⟩ | ⟨a, t, journal, hwork, hbind⟩
  · rw [hbind, bind_of_error hwork]
  · have hnext : next a t = next' a t := by
      have := h a (by rw [hwork])
      rwa [hwork] at this
    rw [hbind, bind_of_ok hwork, hnext]

instance : LawfulMonad (Work σ ε) := LawfulMonad.mk' (Work σ ε)
  (fun work => by
    funext s
    rcases bind_cases work (fun a => pure (id a)) s with
      ⟨e, t, journal, hwork, hbind⟩ | ⟨a, t, journal, hwork, hbind⟩
    · exact hbind.trans hwork.symm
    · rw [pure_apply, List.append_nil] at hbind
      exact hbind.trans hwork.symm)
  (fun a next => by
    funext s
    rw [bind_of_ok (pure_apply s a), List.nil_append])
  (fun work next last => by
    funext s
    rcases bind_cases work next s with ⟨e, t, journal, hwork, hbind⟩ | ⟨a, t, journal, hwork, hbind⟩
    · rw [bind_of_error hbind, bind_of_error hwork]
    · rw [bind_of_ok hwork]
      rcases bind_cases (next a) last t with ⟨e, u, more, hnext, hlast⟩ | ⟨b, u, more, hnext, hlast⟩
      · rw [hlast, bind_of_error (by rw [hbind, hnext])]
      · rw [hlast, bind_of_ok (by rw [hbind, hnext]), List.append_assoc])

/-! ## Errors -/

theorem mapError_of_ok {f : ε → ε'} {work : Work σ ε α} {s t : σ} {a : α} {journal : Journal}
    (h : work s = ⟨.ok a, t, journal⟩) : mapError f work s = ⟨.ok a, t, journal⟩ := by
  rw [mapError_apply, h]
  rfl

theorem mapError_of_error {f : ε → ε'} {work : Work σ ε α} {s t : σ} {e : ε} {journal : Journal}
    (h : work s = ⟨.error e, t, journal⟩) : mapError f work s = ⟨.error (f e), t, journal⟩ := by
  rw [mapError_apply, h]
  rfl

theorem mapError_of {f : ε → ε'} {work : Work σ ε α} {s t : σ} {outcome : Except ε α}
    {journal : Journal} (h : work s = ⟨outcome, t, journal⟩) :
    mapError f work s = ⟨outcome.mapError f, t, journal⟩ := by
  rw [mapError_apply, h]

theorem attempt_of {work : Work σ ε α} {s t : σ} {outcome : Except ε α} {journal : Journal}
    (h : work s = ⟨outcome, t, journal⟩) :
    (attempt work : Work σ ε' (Except ε α)) s = ⟨.ok outcome, t, journal⟩ := by
  rw [attempt_apply, h]

/-- Renaming the errors of two pieces in a row is renaming those of each. -/
theorem mapError_bind (f : ε → ε') (work : Work σ ε α) (next : α → Work σ ε β) :
    mapError f (work >>= next) = mapError f work >>= fun a => mapError f (next a) := by
  funext s
  rcases bind_cases work next s with ⟨e, t, journal, hwork, hbind⟩ | ⟨a, t, journal, hwork, hbind⟩
  · rw [mapError_of_error hbind, bind_of_error (mapError_of_error hwork)]
  · rw [mapError_apply, hbind, bind_of_ok (mapError_of_ok hwork), mapError_apply]

@[simp] theorem mapError_pure (f : ε → ε') (a : α) :
    mapError f (pure a : Work σ ε α) = pure a := rfl

/-! ## Catching errors -/

/-- Goes on after a success, and fails with `f` of an error. -/
def handle (f : ε → ε') (next : α → Work σ ε' β) : Except ε α → Work σ ε' β
  | .ok a => next a
  | .error e => fail (f e)

/-- Doing two pieces of work in a row is catching the errors of the first and failing with them. -/
theorem bind_eq_handle (work : Work σ ε α) (next : α → Work σ ε β) :
    work >>= next = work.attempt >>= handle id next := by
  funext s
  rw [bind_of_ok (attempt_apply s work)]
  rcases bind_cases work next s with ⟨e, t, journal, hwork, hbind⟩ | ⟨a, t, journal, hwork, hbind⟩
  · rw [hbind, hwork, handle, fail_apply, List.append_nil]
    rfl
  · rw [hbind, hwork, handle]

/-- Renaming the errors of a piece of work is catching them and failing with others. -/
theorem mapError_eq_handle (f : ε → ε') (work : Work σ ε α) :
    mapError f work = work.attempt >>= handle f pure := by
  funext s
  rw [bind_of_ok (attempt_apply s work), mapError_apply]
  cases (work s).outcome with
  | ok a => rw [handle, pure_apply, List.append_nil]; rfl
  | error e => rw [handle, fail_apply, List.append_nil]; rfl

end SchemaUpgrade.Work
