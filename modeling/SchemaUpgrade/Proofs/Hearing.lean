import SchemaUpgrade.Proofs.Indifference
/-!
# What a sink hears

An injected sink hears the notices that a journal brings to its name (`Journal.heardBy`).  A notice
on the route to the sink is heard if the sink enables it; a notice on a route that leads elsewhere
is not, whatever is enabled there.

All that a run does between its own notices is *mute* as far as its sink is concerned
(`Runner.mute_listing`, `Runner.mute_applyOne`), provided that the migration tells its steps
elsewhere: calls are no notices, and the only notice that a transaction may cause goes to the logger
of the process.

## Main definitions

* `Journal.heardBy`: the notices that a sink heard.
* `Finished.Mute`: the work said nothing to a sink.
-/

namespace SchemaUpgrade

open Engine

variable {σ ε α : Type} {name : String}

/-! ## Hearing -/

/-- Whether a notice on this route goes to the sink of this name. -/
def Log.Route.leadsTo (name : String) : Log.Route → Bool
  | .ofProcess => false
  | .toSink sink => sink.name = name

/-- The notice that an entry brings to the sink of this name. -/
def Entry.heard? (name : String) : Entry → Option Log.Notice
  | .called _ _ => none
  | .logged event => if event.sink = some name then some event.notice else none

namespace Journal

/-- The notices that the sink of this name heard, in order. -/
def heardBy (name : String) (journal : Journal) : List Log.Notice :=
  journal.filterMap (Entry.heard? name)

@[simp] theorem heardBy_append (first second : Journal) :
    heardBy name (first ++ second) = heardBy name first ++ heardBy name second :=
  List.filterMap_append

/-- What is told on a route that leads elsewhere is not heard. -/
theorem heardBy_elsewhere {route : Log.Route} (h : route.leadsTo name = false)
    (settings : Log.Settings) (notice : Log.Notice) :
    heardBy name ((settings.deliver route notice).toList.map .logged) = [] := by
  cases route with
  | ofProcess =>
    rw [Log.Settings.deliver]
    split <;> rfl
  | toSink sink =>
    have hname : sink.name ≠ name := by simpa [Log.Route.leadsTo] using h
    rw [Log.Settings.deliver]
    split
    · simp [heardBy, Entry.heard?, hname]
    · rfl

/-- What is told to a sink that enables it is heard. -/
theorem heardBy_toSink {sink : Log.Sink} {notice : Log.Notice}
    (h : sink.enabled notice.level notice.target = true) (settings : Log.Settings) :
    heardBy sink.name ((settings.deliver (.toSink sink) notice).toList.map .logged)
      = [notice] := by
  rw [Log.Settings.deliver, if_pos h]
  simp [heardBy, Entry.heard?]

end Journal

/-! ## Saying nothing -/

/-- The work said nothing to the sink of this name. -/
def Finished.Mute (name : String) (done : Finished σ ε α) : Prop :=
  done.journal.heardBy name = []

/-- The same work twice at a site, with notices that go elsewhere. -/
def Contrast.elsewhere (name : String) (site : Site) : Contrast where
  files := site.files
  ours := site.logging
  theirs := site.logging
  routes route _ _ := route.leadsTo name = false

theorem Contrast.Journals.heardBy_elsewhere {site : Site} {journal other : Journal}
    (h : (elsewhere name site).Journals journal other) : journal.heardBy name = [] := by
  induction h with
  | nil => rfl
  | called call failure _ ih => exact ih
  | told hroutes _ ih =>
    rw [Journal.heardBy_append, Journal.heardBy_elsewhere hroutes, ih, List.append_nil]

theorem Course.mute {site : Site} {tells : ε → String → Prop} {schedule : Option (Schedule ε)}
    {work other : Work Site ε α}
    (h : Course (Contrast.elsewhere name site).terms tells schedule work other) :
    (work site).Mute name :=
  (h.twins site.toSurroundings rfl rfl rfl rfl).journal.heardBy_elsewhere

/-- Whether an instruction tells something to the sink of this name. -/
def Instruction.tellsTo (name : String) : Instruction → Bool
  | .tell route _ => route.leadsTo name
  | _ => false

namespace Runner

variable {runner : Runner} {migration : Migration} {site : Site}

theorem mute_listing (runner : Runner) (site : Site) : (runner.listing site).Mute name :=
  Course.mute runner.course_listing

/-- The migration has to tell its steps elsewhere. -/
theorem mute_applyOne
    (h : ∀ instruction ∈ migration.instructions site.files, instruction.tellsTo name = false) :
    (runner.applyOne migration site).Mute name := by
  have hpermits : (Contrast.elsewhere name site).terms.Permits
      (migration.instructions site.files) (migration.instructions site.files) :=
    ⟨rfl, fun _ _ _ htell _ => h _ htell, fun _ _ => trivial, fun _ _ => rfl⟩
  exact Course.mute (course_applyOne (.refl runner) rfl hpermits)

end Runner

end SchemaUpgrade
