import SchemaUpgrade.Proofs.Operations
/-!
# Work does not depend on the log

Nothing reads the journal, and no work looks at the log settings or asks whether a notice was
admitted.  So if the same work is done twice, under different log settings and on different routes,
it goes the same way both times: the same outcome, the same calls with the same answers, the same
state up to the settings, and the same notices told at the same moments, each of which becomes an
event or not (`Contrast.Twins`).  What directories list makes no difference either, as work reads
files and lists nothing.

This holds of all work that takes the same course (`Course.twins`), and so of the plans and the runs
of two runners that differ only in their routes (`Contrast.Between.covers`).

## Main definitions

* `Contrast`: two log set-ups over the same files.
* `Contrast.Journals`, `Contrast.Twins`: journals and work that differ only in what is logged.
* `Contrast.terms`: work that tells its notices on the routes of a contrast.
-/

namespace SchemaUpgrade

open Engine

/-- A call with the message of its failure, if it failed. -/
def Entry.exchange? : Entry → Option (Call × Option String)
  | .called call failure => some (call, failure)
  | .logged _ => none

namespace Journal

/-- The calls to the engine, each with the message of its failure, if it failed. -/
def exchanges (journal : Journal) : List (Call × Option String) :=
  journal.filterMap Entry.exchange?

theorem exchanges_logged_append (events : List Log.Event) (journal : Journal) :
    exchanges (events.map .logged ++ journal) = exchanges journal := by
  simp [exchanges, List.filterMap_append, List.filterMap_map, Entry.exchange?, Function.comp_def]

theorem events_logged_append (events : List Log.Event) (journal : Journal) :
    Journal.events (events.map .logged ++ journal) = events ++ journal.events := by
  simp [Journal.events, List.filterMap_append, List.filterMap_map, Entry.event?,
    Function.comp_def]

end Journal

/-- Two log set-ups over the same files, and the pairs of routes that a notice may take. -/
structure Contrast where
  files : Files
  ours : Log.Settings
  theirs : Log.Settings
  routes : Log.Route → Log.Route → Log.Notice → Prop

namespace Contrast

variable (contrast : Contrast) {ε ε' α β : Type}

/-! ## What differs only in what is logged -/

/-- Journals of the same work: the same calls with the same answers, and between them the same
notices, on each side told on its own route and admitted by its own settings. -/
inductive Journals : Journal → Journal → Prop where
  | nil : Journals [] []
  | called {journal other : Journal} (call : Call) (failure : Option String)
      (hrest : Journals journal other) :
      Journals (.called call failure :: journal) (.called call failure :: other)
  | told {route route' : Log.Route} {notice : Log.Notice} {journal other : Journal}
      (hroutes : contrast.routes route route' notice) (hrest : Journals journal other) :
      Journals ((contrast.ours.deliver route notice).toList.map .logged ++ journal)
        ((contrast.theirs.deliver route' notice).toList.map .logged ++ other)

/-- The same end of the same work: the same outcome, and the same state but for what surrounds
it. -/
structure Twins (around : Surroundings) (done other : Finished Site ε α) : Prop where
  outcome : other.outcome = done.outcome
  state : other.state = { done.state with toSurroundings := around }
  journal : contrast.Journals done.journal other.journal

/-- Work that tells its notices on the routes of the contrast. -/
def terms : Terms where
  files := contrast.files
  tells := contrast.routes
  raises _ := True
  looks := True
  panics := ∀ message, contrast.routes .ofProcess .ofProcess (.rollbackLost message)
  lost := id

variable {contrast}

namespace Journals

variable {first second journal other : Journal}

theorem append (h : contrast.Journals journal other) (h' : contrast.Journals first second) :
    contrast.Journals (journal ++ first) (other ++ second) := by
  induction h with
  | nil => exact h'
  | called call failure _ ih => exact .called call failure ih
  | told hroutes _ ih =>
    rw [List.append_assoc, List.append_assoc]
    exact .told hroutes ih

theorem exchanges (h : contrast.Journals journal other) :
    other.exchanges = journal.exchanges := by
  induction h with
  | nil => rfl
  | called call failure _ ih => exact congrArg ((call, failure) :: ·) ih
  | told hroutes _ ih => rw [Journal.exchanges_logged_append, Journal.exchanges_logged_append, ih]

/-- The events of both journals come from the same notices, told on one route each. -/
theorem tellings (h : contrast.Journals journal other) :
    ∃ tellings : List (Log.Route × Log.Route × Log.Notice),
      (∀ told ∈ tellings, contrast.routes told.1 told.2.1 told.2.2) ∧
      journal.events = tellings.filterMap (fun told => contrast.ours.deliver told.1 told.2.2) ∧
      other.events
        = tellings.filterMap fun told => contrast.theirs.deliver told.2.1 told.2.2 := by
  induction h with
  | nil => exact ⟨[], by simp, rfl, rfl⟩
  | called call failure _ ih => exact ih
  | @told route route' notice journal other hroutes _ ih =>
    obtain ⟨tellings, hall, hours, htheirs⟩ := ih
    refine ⟨(route, route', notice) :: tellings, List.forall_mem_cons.2 ⟨hroutes, hall⟩, ?_, ?_⟩
    · rw [Journal.events_logged_append, hours, List.filterMap_cons]
      cases contrast.ours.deliver route notice <;> rfl
    · rw [Journal.events_logged_append, htheirs, List.filterMap_cons]
      cases contrast.theirs.deliver route' notice <;> rfl

end Journals

end Contrast

/-- Work that takes the same course goes the same way, whatever the log settings are and whatever
directories list. -/
theorem Course.twins {contrast : Contrast} {ε α : Type} {tells : ε → String → Prop}
    {schedule : Option (Schedule ε)} {work other : Work Site ε α}
    (h : Course contrast.terms tells schedule work other) (around : Surroundings)
    (hread : around.files.read = contrast.files.read) (htheirs : around.logging = contrast.theirs)
    {site : Site} (hsite : contrast.terms.At site) (hours : site.logging = contrast.ours) :
    contrast.Twins around (work site) (other { site with toSurroundings := around }) := by
  induction h generalizing site with
  | pure | fail | raise | look | poison => exact ⟨rfl, rfl, .nil⟩
  | @caught ε ε' α β tells tells' first second work other next next' passing h hok herror hpasses
      ih ihok iherror =>
    obtain ⟨houtcome, hstate, hjournal⟩ := ih hsite hours
    have haround := (h.keeps hsite).1
    have hmid := hsite.of_surroundings haround
    have hours' : (work site).state.logging = contrast.ours :=
      (congrArg Surroundings.logging haround).trans hours
    rw [Work.bind_of_ok (Work.attempt_apply site work),
      Work.bind_of_ok (Work.attempt_apply { site with toSurroundings := around } other), houtcome,
      hstate]
    cases hdone : (work site).outcome with
    | ok a =>
      obtain ⟨houtcome', hstate', hjournal'⟩ := ihok a hmid hours'
      exact ⟨houtcome', hstate', hjournal.append hjournal'⟩
    | error e =>
      obtain ⟨houtcome', hstate', hjournal'⟩ := iherror e ⟨site, hsite, hdone⟩ hmid hours'
      exact ⟨houtcome', hstate', hjournal.append hjournal'⟩
  | call request act =>
    obtain ⟨outcome, database, faults, failure, hanswer⟩ := Site.answersAlike_call request act site
    rw [hanswer site rfl rfl, hanswer { site with toSurroundings := around } rfl rfl]
    exact ⟨rfl, rfl, .called _ failure .nil⟩
  | readColumn sql =>
    obtain ⟨outcome, database, faults, failure, hanswer⟩ := Site.answersAlike_readColumn sql site
    rw [hanswer site rfl rfl, hanswer { site with toSurroundings := around } rfl rfl]
    exact ⟨rfl, rfl, .called _ failure .nil⟩
  | lock =>
    rw [Connection.lock_apply, Connection.lock_apply]
    exact ⟨rfl, rfl, .nil⟩
  | log hroutes =>
    have htold := Contrast.Journals.told hroutes .nil
    rw [List.append_nil, List.append_nil, ← hours, ← htheirs] at htold
    exact ⟨rfl, rfl, htold⟩
  | unscheduled _ ih => exact ih hsite hours
  | congr hwork hother _ ih =>
    rw [hwork site hsite, hother { site with toSurroundings := around } hread]
    exact ih hsite hours

namespace Contrast

variable {contrast : Contrast} {runner other : Runner}

/-- Notices may take the routes on which the two runners speak. -/
def Between (contrast : Contrast) (runner other : Runner) : Prop :=
  ∀ route route' notice, runner.Speaks contrast.files route notice →
    other.Speaks contrast.files route' notice → contrast.routes route route' notice

theorem Between.covers (h : contrast.Between runner other) (halike : runner.Alike other) :
    contrast.terms.Covers runner other where
  alike := halike
  tells := h
  raises _ := trivial
  looks := trivial
  panics _ _ _ message := h _ _ _ (.ofConnection message) (.ofConnection message)

end Contrast

end SchemaUpgrade
