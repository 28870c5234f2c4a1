import SchemaUpgrade.Proofs.Bookkeeping
import SchemaUpgrade.Proofs.Hearing
/-!
# The log of a run tells the truth

Whoever injects a sink that enables every notice learns from it what a run did: the end of the
history that the run found, a history that is out of order, each migration that it skips, and for
each migration that it takes up that it starts and, exactly if its transaction was committed, that
it is applied (`Runner.log_is_true`).

A run tells that a migration is applied after the commit, so what has to be shown is that applying a
migration succeeds exactly if the last thing that was done for it is a commit that the engine
carried out (`Runner.closedByCommit_applyOne`).  Every other way out of a transaction makes at least
one more call, which publishes nothing, even if the migration itself ended the transaction before.

## Main definitions

* `Journal.closedByCommit`: the last entry is a commit that succeeded.
* `Runner.Attempt`: a migration that a run took up, and whether its transaction was committed.
* `Runner.Undertakes`: these are the attempts of a run.
* `Runner.Chronicle`: what the sink heard is what the run did.
-/

namespace SchemaUpgrade

open Engine

variable {σ ε ε' α β : Type}

/-! ## Closed by a commit -/

/-- Whether the last entry is a commit that the engine carried out. -/
def Journal.closedByCommit (journal : Journal) : Bool :=
  journal.getLast? = some (.called (.batch commitText) none)

namespace Journal

variable {journal more : Journal}

theorem closedByCommit_append (h : more ≠ []) :
    (journal ++ more).closedByCommit = more.closedByCommit := by
  rw [closedByCommit, closedByCommit, List.getLast?_append_of_ne_nil journal h]

/-- Without a publication there was no such commit. -/
theorem closedByCommit_of_unpublished (h : journal.published = false) :
    journal.closedByCommit = false := by
  rw [closedByCommit, decide_eq_false_iff_not]
  intro hlast
  have hentry := List.any_eq_false.1 h _ (List.mem_of_getLast? hlast)
  exact hentry rfl

end Journal

/-- The work ends with a commit that the engine carried out if it succeeds, and with something else
if it fails. -/
structure Finished.Settles (done : Finished σ ε α) : Prop where
  nonempty : done.journal ≠ []
  committed : done.journal.closedByCommit = true ↔ ∃ a, done.outcome = .ok a

namespace Work

variable {s : σ}

theorem settles_mapError {f : ε → ε'} {work : Work σ ε α} (h : (work s).Settles) :
    (mapError f work s).Settles := by
  refine ⟨h.nonempty, ?_⟩
  rw [mapError_apply, h.committed]
  cases (work s).outcome <;> simp [Except.mapError]

/-- After a piece of work that succeeded, the next one decides. -/
theorem settles_bind {work : Work σ ε α} {next : α → Work σ ε β} {t : σ} {a : α}
    {journal : Journal} (h : work s = ⟨.ok a, t, journal⟩) (hnext : (next a t).Settles) :
    ((work >>= next) s).Settles := by
  rw [bind_of_ok h]
  refine ⟨List.append_ne_nil_of_right_ne_nil _ hnext.nonempty, ?_⟩
  rw [Journal.closedByCommit_append hnext.nonempty]
  exact hnext.committed

/-- Where the outcome of a piece of work is caught, what is done then decides. -/
theorem settles_attempt {work : Work σ ε α} {next : Except ε α → Work σ ε' β}
    (hnext : ∀ outcome, (next outcome (work s).state).Settles) :
    ((work.attempt >>= next) s).Settles :=
  settles_bind (attempt_apply s work) (hnext (work s).outcome)

/-- The journal of two pieces of work starts with that of the first. -/
theorem journal_bind_ne_nil {work : Work σ ε α} {next : α → Work σ ε β}
    (h : (work s).journal ≠ []) : ((work >>= next) s).journal ≠ [] := by
  rcases bind_cases work next s with ⟨e, t, journal, hwork, hbind⟩ | ⟨a, t, journal, hwork, hbind⟩
  · rw [hwork] at h
    rw [hbind]
    exact h
  · rw [hwork] at h
    rw [hbind]
    exact List.append_ne_nil_of_left_ne_nil h _

end Work

variable {site : Site}

theorem Site.journal_call_ne_nil (request : Call)
    (act : Database → Except String (α × Database)) : (call request act site).journal ≠ [] := by
  rcases call_cases request act site with
    ⟨message, faults, hcall⟩ | ⟨answer, database, faults, -, hcall⟩ <;>
  · rw [hcall]
    exact List.cons_ne_nil _ _

namespace Transaction

theorem settles_commit : (commit site).Settles := by
  constructor
  · rw [commit_eq]
    exact Work.journal_bind_ne_nil (Site.journal_call_ne_nil _ _)
  · rcases commit_cases site with
      ⟨content, faults, -, hcommit⟩ | ⟨text, outcome, after, journal, hcommit, hafter⟩
    · rw [hcommit]
      exact ⟨fun _ => ⟨(), rfl⟩, fun _ => rfl⟩
    · rw [hcommit, Journal.closedByCommit_of_unpublished hafter.unpublished]
      simp

/-- A rollback and a failure after it. -/
theorem settles_rolledBack (error : Except DatabaseError Unit → ε) :
    ((rollback.attempt >>= fun outcome => (Work.fail (error outcome) : Work Site ε α))
      site).Settles := by
  constructor
  · rw [rollback_eq]
    exact Work.journal_bind_ne_nil (Site.journal_call_ne_nil _ _)
  · obtain ⟨outcome, after, journal, hall, hafter⟩ := rollback_then_fail (α := α) error site
    rw [hall, Journal.closedByCommit_of_unpublished hafter.unpublished]
    simp

/-- A rollback of which nobody is told, and a panic after it. -/
theorem settles_abandoned (halt : ε) :
    ((abandon >>= fun _ => Connection.poison >>= fun _ => (Work.fail halt : Work Site ε α))
      site).Settles := by
  constructor
  · exact Work.journal_bind_ne_nil (Work.journal_bind_ne_nil (Site.journal_call_ne_nil _ _))
  · obtain ⟨after, journal, habandon, hafter⟩ := abandon_cases (ε := ε) site
    have hpoison : (Connection.poison : Work Site ε Unit) after
        = ⟨.ok (), { after with poisoned := true }, []⟩ := rfl
    rw [Work.bind_of_ok_of habandon (Work.bind_of_ok_of hpoison (Work.fail_apply _ _)),
      List.append_nil, List.append_nil, Journal.closedByCommit_of_unpublished hafter.unpublished]
    simp

end Transaction

namespace Runner

variable {runner : Runner} {migration : Migration}

theorem settles_conclude : (runner.conclude migration site).Settles := by
  refine Work.settles_attempt ?_
  intro outcome
  cases outcome with
  | ok _ => exact Work.settles_mapError Transaction.settles_commit
  | error cause => exact Transaction.settles_rolledBack _

/-- A migration is applied exactly if the last thing that was done for it is a commit that the
engine carried out. -/
theorem closedByCommit_applyOne (runner : Runner) (migration : Migration) (site : Site) :
    (runner.applyOne migration site).journal.closedByCommit = true
      ↔ ∃ a, (runner.applyOne migration site).outcome = .ok a := by
  rcases Connection.begin_cases site with
    ⟨cause, after, journal, hbegin, -, -, -, hquiet⟩ | ⟨opened, hbegin, -⟩
  · rw [applyOne, Work.bind_of_error (Work.mapError_of_error hbegin),
      Journal.closedByCommit_of_unpublished hquiet.published]
    simp
  · refine (Work.settles_bind (Work.mapError_of_ok hbegin) (Work.settles_attempt ?_)).committed
    intro outcome
    cases outcome with
    | ok _ => exact settles_conclude
    | error halt =>
      cases halt with
      | failure error => exact Transaction.settles_rolledBack _
      | panic => exact Transaction.settles_abandoned _

end Runner

/-! ## Attempts -/

/-- A migration that a run took up, and whether its transaction was committed. -/
structure Runner.Attempt where
  migration : Migration
  committed : Bool

namespace Runner.Attempt

/-- What a run tells about an attempt. -/
def notices (attempt : Attempt) : List Log.Notice :=
  .applying attempt.migration.key ::
    if attempt.committed then [.applied attempt.migration.key] else []

/-- The migrations that were committed. -/
def committedOf (attempts : List Attempt) : List Migration :=
  (attempts.filter Attempt.committed).map Attempt.migration

end Runner.Attempt

/-- The key of a migration that is told to be applied. -/
def Log.Notice.appliedKey? : Log.Notice → Option String
  | .applied key => some key
  | _ => none

/-- The keys that are told to be applied are those of the migrations that were committed. -/
theorem Runner.Attempt.filterMap_appliedKey? (attempts : List Attempt) :
    (attempts.flatMap notices).filterMap Log.Notice.appliedKey?
      = (committedOf attempts).map Migration.key := by
  induction attempts with
  | nil => rfl
  | cons attempt rest ih =>
    rw [List.flatMap_cons, List.filterMap_append, ih]
    obtain ⟨migration, _ | _⟩ := attempt <;> rfl

namespace Runner

variable {runner : Runner} {attempts last : List Attempt} {after : Site} {journal more : Journal}

/-- What a run does after its plan: it tells notices, looks at its flag, and makes attempts, each of
which applies a migration in a transaction of its own, to be committed by the last call for it. -/
inductive Undertakes (runner : Runner) : List Attempt → Site → Site → Journal → Prop where
  | nothing (site : Site) : Undertakes runner [] site site []
  | tells {attempts : List Attempt} {site after : Site} {journal : Journal} (notice : Log.Notice)
      (hrest : Undertakes runner attempts site after journal) :
      Undertakes runner attempts site after (runner.told site notice ++ journal)
  | looks {attempts : List Attempt} {site looked after : Site} {answer : Bool} {journal : Journal}
      (hlook : runner.isCancelled site
        = (⟨.ok answer, looked, []⟩ : Finished Site (Halt UpgradeError) Bool))
      (hrest : Undertakes runner attempts looked after journal) :
      Undertakes runner attempts site after journal
  | applies {attempt : Attempt} {attempts : List Attempt} {site next after : Site}
      {outcome : Except (Halt UpgradeError) Unit} {journal more : Journal}
      (happly : runner.applyOne attempt.migration site = ⟨outcome, next, journal⟩)
      (hcommitted : attempt.committed = journal.closedByCommit)
      (hrest : Undertakes runner attempts next after more) :
      Undertakes runner (attempt :: attempts) site after (journal ++ more)

theorem Undertakes.tellsAll (notices : List Log.Notice)
    (h : runner.Undertakes attempts site after journal) :
    runner.Undertakes attempts site after (notices.flatMap (runner.told site) ++ journal) := by
  induction notices with
  | nil => exact h
  | cons notice rest ih =>
    rw [List.flatMap_cons, List.append_assoc]
    exact .tells notice ih

/-- The migrations that a run passed were committed. -/
def passedAttempts (passed : List Migration) : List Attempt :=
  passed.map fun migration => { migration := migration, committed := true }

theorem Passes.undertakes {passed : List Migration} {mid : Site}
    (h : runner.Passes passed site mid journal)
    (hrest : runner.Undertakes last mid after more) :
    runner.Undertakes (passedAttempts passed ++ last) site after (journal ++ more) := by
  induction h with
  | nil site => exact hrest
  | @cons migration rest site looked next mid journal more' hlook happly _ ih =>
    have hclosed : journal.closedByCommit = true := by
      have := (runner.closedByCommit_applyOne migration looked).2 ⟨(), by rw [happly]⟩
      rwa [happly] at this
    simp only [List.append_assoc]
    exact .looks hlook (.tells _ (.applies happly hclosed.symm (.tells _ (ih hrest))))

/-! ## What the sink of a run hears -/

/-- The run tells everything to an injected sink that enables every notice, and its migrations tell
their steps elsewhere. -/
structure TellsAllTo (runner : Runner) (sink : Log.Sink) (files : Files) : Prop where
  route : runner.route = .toSink sink
  enabled : ∀ notice : Log.Notice, sink.enabled notice.level notice.target = true
  elsewhere : ∀ migration ∈ runner.migrations, ∀ instruction ∈ migration.instructions files,
    instruction.tellsTo sink.name = false

variable {sink : Log.Sink} {files : Files}

theorem TellsAllTo.heardBy_told (h : runner.TellsAllTo sink files) (site : Site)
    (notice : Log.Notice) : (runner.told site notice).heardBy sink.name = [notice] := by
  rw [told, h.route]
  exact Journal.heardBy_toSink (h.enabled notice) site.logging

theorem TellsAllTo.heardBy_flatMap_told (h : runner.TellsAllTo sink files) (site : Site)
    (notices : List Log.Notice) :
    Journal.heardBy sink.name (notices.flatMap (runner.told site)) = notices := by
  induction notices with
  | nil => rfl
  | cons notice rest ih =>
    rw [List.flatMap_cons, Journal.heardBy_append, h.heardBy_told, ih]
    rfl

/-- Of each migration that a run passed, the sink hears that it starts and that it is applied. -/
theorem Passes.heard {passed : List Migration} {mid : Site}
    (h : runner.Passes passed site mid journal) (htells : runner.TellsAllTo sink site.files)
    (hpassed : ∀ migration ∈ passed, migration ∈ runner.migrations) :
    journal.heardBy sink.name = (passedAttempts passed).flatMap Attempt.notices ∧
      mid.files = site.files := by
  induction h with
  | nil site => exact ⟨rfl, rfl⟩
  | @cons migration rest site looked next mid journal more hlook happly _ ih =>
    obtain ⟨haround, -⟩ := look_of_isCancelled hlook
    have hfiles : looked.files = site.files := by rw [haround]
    rw [List.forall_mem_cons] at hpassed
    have hmute : (runner.applyOne migration looked).Mute sink.name := by
      refine mute_applyOne ?_
      rw [hfiles]
      exact htells.elsewhere migration hpassed.1
    have hnext := applyOne_files (congrArg Finished.outcome happly)
    rw [happly] at hmute hnext
    have hsilent : journal.heardBy sink.name = [] := hmute
    have hnext' : next.files = site.files := hnext.trans hfiles
    obtain ⟨hmore, hmid⟩ := ih (by rw [hnext']; exact htells) hpassed.2
    refine ⟨?_, hmid.trans hnext'⟩
    simp only [Journal.heardBy_append, htells.heardBy_told, hsilent, hmore]
    rfl

/-- How the end of a run goes on after the migrations that it passed: it makes no attempt, or one
that fails. -/
inductive LastAttempt (runner : Runner) (passed rest : List Migration)
    (finished : Finished Site (Halt UpgradeError) Report) : List Attempt → Prop where
  | finished (report : Report) (houtcome : finished.outcome = .ok report) (hrest : rest = []) :
      LastAttempt runner passed rest finished []
  | cancelled (houtcome : finished.outcome = .error (.failure (.cancelled passed.length))) :
      LastAttempt runner passed rest finished []
  | failed (migration : Migration) (before : Site) (halt : Halt UpgradeError)
      (hfirst : [migration] <+: rest) (houtcome : finished.outcome = .error halt)
      (happly : (runner.applyOne migration before).outcome = .error halt) :
      LastAttempt runner passed rest finished [{ migration := migration, committed := false }]

theorem Ends.lastAttempt {passed rest : List Migration} {mid : Site} {report : Report}
    {finished : Finished Site (Halt UpgradeError) Report}
    (h : runner.Ends report passed mid rest finished) (hreport : report.applied = [])
    (htells : runner.TellsAllTo sink mid.files)
    (hrest : ∀ migration ∈ rest, migration ∈ runner.migrations) :
    ∃ last, runner.LastAttempt passed rest finished last ∧
      runner.Undertakes last mid finished.state finished.journal ∧
      finished.journal.heardBy sink.name = last.flatMap Attempt.notices := by
  cases h with
  | finished => exact ⟨[], .finished _ rfl rfl, .nothing mid, rfl⟩
  | cancelled hlook =>
    refine ⟨[], .cancelled ?_, .looks hlook (.nothing _), rfl⟩
    rw [hreport, List.length_nil, Nat.zero_add]
  | @failed migration rest looked after halt journal hlook happly =>
    obtain ⟨haround, -⟩ := look_of_isCancelled hlook
    have hmute : (runner.applyOne migration looked).Mute sink.name := by
      refine mute_applyOne ?_
      rw [haround]
      exact htells.elsewhere migration (hrest migration List.mem_cons_self)
    have hclosed : journal.closedByCommit = false := by
      have hiff := runner.closedByCommit_applyOne migration looked
      rw [happly] at hiff
      rw [Bool.eq_false_iff]
      intro hcommit
      obtain ⟨_, hok⟩ := hiff.1 hcommit
      exact absurd hok (by simp)
    have htaken : runner.Undertakes [{ migration := migration, committed := false }] looked after
        (journal ++ []) := .applies happly hclosed.symm (.nothing after)
    rw [happly] at hmute
    have hsilent : journal.heardBy sink.name = [] := hmute
    rw [List.append_nil] at htaken
    refine ⟨_, .failed migration looked halt ?_ rfl (by rw [happly]),
      .looks hlook (.tells _ htaken), ?_⟩
    · exact List.cons_prefix_cons.2 ⟨rfl, List.nil_prefix⟩
    · rw [Journal.heardBy_append, htells.heardBy_told, hsilent]
      rfl

/-- The last attempt is not committed, so those that the run passed are all that were. -/
theorem LastAttempt.committedOf {passed rest : List Migration}
    {finished : Finished Site (Halt UpgradeError) Report}
    (h : runner.LastAttempt passed rest finished last) :
    Attempt.committedOf (passedAttempts passed ++ last) = passed := by
  have hlast : Attempt.committedOf last = [] := by
    cases h <;> rfl
  have hall : (passedAttempts passed).filter Attempt.committed = passedAttempts passed := by
    rw [List.filter_eq_self]
    intro attempt hmem
    obtain ⟨migration, -, rfl⟩ := List.mem_map.1 hmem
    rfl
  rw [Attempt.committedOf] at hlast
  rw [Attempt.committedOf, List.filter_append, List.map_append, hlast, List.append_nil, hall,
    passedAttempts, List.map_map]
  exact List.map_id passed

/-! ## What a run committed -/

/-- No migration opens or ends a transaction itself. -/
def NeverControls (runner : Runner) (files : Files) : Prop :=
  ∀ migration ∈ runner.migrations,
    ∀ statement ∈ Instruction.statements (migration.instructions files),
      statement.isControl = false

/-- The table that the keys are listed from. -/
def books (runner : Runner) : String :=
  queriedTable (Dialect.render runner.dialect.applied runner.tableName)

/-- The dialect records keys in the table that it lists them from. -/
def RecordsKeys (runner : Runner) : Prop :=
  insertedTable (Dialect.render runner.dialect.register runner.tableName) = runner.books

theorem recordsKeys_of_vendor {vendor : Vendor} (h : runner.dialect = vendor.dialect) :
    runner.RecordsKeys := by
  rw [RecordsKeys, books, h, vendor.insertedTable_register runner.named,
    vendor.queriedTable_applied runner.named]

/-- The ids that the change of a migration puts into the table of keys: those that the migration
itself inserts, and its key. -/
def recordedBy (runner : Runner) (files : Files) (migration : Migration) : List String :=
  (Instruction.statements (migration.instructions files)).flatMap
    (Statement.insertions runner.books) ++ [migration.key]

theorem insertions_change (h : runner.RecordsKeys) (migration : Migration) :
    (runner.change files migration).flatMap (Statement.insertions runner.books)
      = runner.recordedBy files migration := by
  rw [change, List.flatMap_append, recordedBy, List.flatMap_singleton]
  have hkey : Statement.insertions runner.books (runner.registration migration)
      = [migration.key] := if_pos h
  rw [hkey]

/-! ## The chronicle of a run -/

/-- How a run ends that got as far as its migrations, and the last thing that its sink hears then if
a migration failed. -/
inductive LastWord (runner : Runner) (name : String) (site : Site) (attempts : List Attempt) :
    Prop where
  /-- It succeeded: every pending migration was committed. -/
  | finished (report : Report) (houtcome : (runner.run site).outcome = .ok report)
      (hattempts : attempts = passedAttempts (runner.pendingOn site.database.committed))
  /-- It saw that it was cancelled: all that it had taken up was committed. -/
  | cancelled (houtcome : (runner.run site).outcome
        = .error (.failure (.cancelled attempts.length)))
      (hcommitted : ∀ attempt ∈ attempts, attempt.committed = true)
  /-- A migration failed: those before it were committed, and the last thing heard is that the
  migration which failed starts. -/
  | failed (passed : List Migration) (migration : Migration) (before : Site)
      (halt : Halt UpgradeError) (houtcome : (runner.run site).outcome = .error halt)
      (happly : (runner.applyOne migration before).outcome = .error halt)
      (hattempts : attempts
        = passedAttempts passed ++ [{ migration := migration, committed := false }])
      (hlast : ((runner.run site).journal.heardBy name).getLast?
        = some (.applying migration.key))

/-- What the sink of this name heard of a run that got as far as its migrations is what the run
did. -/
structure Chronicle (runner : Runner) (name : String) (site : Site) (recorded : List String)
    (attempts : List Attempt) : Prop where
  /-- The sink heard the end of the history, then of every migration that was skipped, then of the
  attempts, and nothing else. -/
  heard : (runner.run site).journal.heardBy name
    = historyEnd recorded
      :: ((runner.skippedOn site.database.committed).map
            (fun migration => .alreadyApplied migration.key)
          ++ attempts.flatMap Attempt.notices)
  /-- What was skipped and then attempted are the first migrations, in the order of the keys. -/
  order : runner.skippedOn site.database.committed ++ attempts.map Attempt.migration
    <+: runner.migrations
  /-- The attempts are those of the run, with the outcome of their transactions. -/
  undertakes : ∃ rest, (runner.run site).journal = (runner.plan site).journal ++ rest ∧
    runner.Undertakes attempts (runner.plan site).state (runner.run site).state rest
  /-- The keys that are told to be applied are those of the migrations that were committed. -/
  applied : ((runner.run site).journal.heardBy name).filterMap Log.Notice.appliedKey?
    = (Attempt.committedOf attempts).map Migration.key
  lastWord : runner.LastWord name site attempts
  /-- If no migration opens or ends a transaction itself, the changes of those that were committed
  are all that the run published after the creating statement. -/
  published : runner.NeverControls site.files → (runner.run site).state.database.committed
    = (site.database.committed.perform runner.creation).performAll
        ((Attempt.committedOf attempts).flatMap (runner.change site.files))
  /-- If moreover the dialect records keys where it lists them from, these migrations are those
  whose keys the run added, each behind what the migration itself inserted there. -/
  books : runner.NeverControls site.files → runner.RecordsKeys →
    runner.recorded (runner.run site).state.database.committed
      = runner.recorded site.database.committed
        ++ (Attempt.committedOf attempts).flatMap (runner.recordedBy site.files)

theorem appliedKey?_historyEnd (recorded : List String) :
    (historyEnd recorded).appliedKey? = none := by
  rw [historyEnd]
  cases recorded.getLast? <;> rfl

theorem filterMap_appliedKey?_skipped (skipped : List Migration) :
    (skipped.map fun migration => Log.Notice.alreadyApplied migration.key).filterMap
      Log.Notice.appliedKey? = [] := by
  rw [List.filterMap_eq_nil_iff]
  intro notice hmem
  obtain ⟨migration, -, rfl⟩ := List.mem_map.1 hmem
  rfl

theorem LastAttempt.first {passed rest : List Migration}
    {finished : Finished Site (Halt UpgradeError) Report}
    (h : runner.LastAttempt passed rest finished last) : last.map Attempt.migration <+: rest := by
  cases h with
  | finished report houtcome hrest => exact List.nil_prefix
  | cancelled houtcome => exact List.nil_prefix
  | failed migration before halt hfirst houtcome happly => exact hfirst

theorem LastAttempt.lastWord {name : String} {passed rest : List Migration}
    {finished : Finished Site (Halt UpgradeError) Report} {front : List Log.Notice}
    (h : runner.LastAttempt passed rest finished last)
    (hrun : (runner.run site).outcome = finished.outcome)
    (hsplit : runner.pendingOn site.database.committed = passed ++ rest)
    (hheard : (runner.run site).journal.heardBy name
      = front ++ (passedAttempts passed ++ last).flatMap Attempt.notices) :
    runner.LastWord name site (passedAttempts passed ++ last) := by
  cases h with
  | finished report houtcome hrest =>
    refine .finished report (hrun.trans houtcome) ?_
    rw [hsplit, hrest, List.append_nil, List.append_nil]
  | cancelled houtcome =>
    refine .cancelled ?_ ?_
    · rw [hrun, houtcome, List.append_nil, passedAttempts, List.length_map]
    · intro attempt hmem
      rw [List.append_nil] at hmem
      obtain ⟨migration, -, rfl⟩ := List.mem_map.1 hmem
      rfl
  | failed migration before halt hfirst houtcome happly =>
    refine .failed passed migration before halt (hrun.trans houtcome) happly rfl ?_
    rw [hheard, List.flatMap_append, ← List.append_assoc]
    exact List.getLast?_concat

theorem comparison_of_ok {recorded : List String} {resume : Option String} (after : Site)
    (h : History.resumePoint runner.keys recorded = .ok resume) :
    runner.comparison recorded after
      = ⟨.ok { resumePoint := resume, applied := recorded,
               pending := runner.keys.filter (History.isPending resume) },
          after, runner.told after (historyEnd recorded)⟩ := by
  rw [comparison, Work.bind_of_ok (logHistoryEnd_eq recorded after),
    Work.bind_of_silent (resumeAfter_of_ok after h), Work.pure_apply, List.append_nil]

theorem comparison_of_error {recorded : List String} {mismatch : HistoryError} (after : Site)
    (h : History.resumePoint runner.keys recorded = .error mismatch) :
    runner.comparison recorded after
      = ⟨.error (.history mismatch), after,
          (historyEnd recorded :: mismatchNotices mismatch).flatMap (runner.told after)⟩ :=
  Work.bind_of_ok_of (logHistoryEnd_eq recorded after)
    (Work.bind_of_error (resumeAfter_eq_error after h))

/-- What a run published that passed some migrations and then ended. -/
theorem published_of_ends {passed rest : List Migration} {mid : Site} {report : Report}
    {finished : Finished Site (Halt UpgradeError) Report} {recorded : List String}
    (hplain : runner.NeverControls site.files) (hlisted : runner.Listed site after recorded)
    (hsplit : runner.pendingOn site.database.committed = passed ++ rest)
    (hpasses : runner.Passes passed after mid journal)
    (hends : runner.Ends report passed mid rest finished) :
    finished.state.database.committed
      = (site.database.committed.perform runner.creation).performAll
          (passed.flatMap (runner.change site.files)) := by
  have hpending : ∀ migration ∈ passed ++ rest,
      ∀ statement ∈ Instruction.statements (migration.instructions site.files),
        statement.isControl = false := by
    intro migration hmem
    rw [← hsplit] at hmem
    exact hplain migration (mem_of_mem_pendingOn hmem)
  rw [List.forall_mem_append] at hpending
  have hfiles : after.files = site.files := hlisted.frame.files
  have hidle : after.database.working = none := by rw [hlisted.database]
  obtain ⟨haround, -, hmid, hpassed, -⟩ :=
    hpasses.publishes hidle (by rw [hfiles]; exact hpending.1)
  have hfiles' : mid.files = site.files := by rw [haround, hfiles]
  have hend := hends.publishes hmid (by rw [hfiles']; exact hpending.2)
  have hstill : finished.state.database.committed = mid.database.committed := hend.committed
  rw [hstill, hpassed.committed, hlisted.database, hfiles, List.flatMap_def]

/-- A run that listed its keys and continues the history has a chronicle. -/
theorem exists_chronicle {recorded : List String} {resume : Option String}
    (htells : runner.TellsAllTo sink site.files) (hlisted : runner.Listed site after recorded)
    (hresume : History.resumePoint runner.keys recorded = .ok resume) :
    ∃ attempts, runner.Chronicle sink.name site recorded attempts := by
  have hplan := plan_of_listing hlisted.listing (comparison_of_ok after hresume)
  obtain ⟨hlast, -⟩ := History.resumePoint_eq_ok hresume
  rw [hlisted.reported] at hlast
  obtain ⟨passed, rest, mid, journal, finished, hsplit, hpasses, hends, hgo⟩ :=
    applyFrom_stages hlast after
  rw [← List.flatMap_map] at hgo
  have hrun : runner.run site = ⟨finished.outcome, finished.state, _⟩ :=
    Work.bind_of_ok_of (Work.mapError_of_ok hplan) hgo
  have hmem : ∀ migration ∈ passed ++ rest, migration ∈ runner.migrations := by
    intro migration hmem
    rw [← hsplit] at hmem
    exact mem_of_mem_pendingOn hmem
  rw [List.forall_mem_append] at hmem
  have hfiles : after.files = site.files := hlisted.frame.files
  rw [← hfiles] at htells
  obtain ⟨hheard, hmid⟩ := hpasses.heard htells hmem.1
  obtain ⟨last, hlastAttempt, hundertakes, htail⟩ :=
    hends.lastAttempt rfl (by rw [hmid]; exact htells) hmem.2
  have hlisting : runner.listingJournal.heardBy sink.name = [] := rfl
  have hall : (runner.run site).journal.heardBy sink.name
      = historyEnd recorded
        :: ((runner.skippedOn site.database.committed).map
              (fun migration => .alreadyApplied migration.key)
            ++ (passedAttempts passed ++ last).flatMap Attempt.notices) := by
    rw [hrun]
    simp only [Journal.heardBy_append, hlisting, htells.heardBy_told,
      htells.heardBy_flatMap_told, hheard, htail, List.flatMap_append]
    rfl
  have hcommitted := hlastAttempt.committedOf
  have hpublished : runner.NeverControls site.files → (runner.run site).state.database.committed
      = (site.database.committed.perform runner.creation).performAll
          (passed.flatMap (runner.change site.files)) := by
    intro hplain
    rw [hrun]
    have hend := published_of_ends hplain hlisted hsplit hpasses hends
    exact hend
  refine ⟨passedAttempts passed ++ last, hall, ?order, ?undertakes, ?applied, ?lastWord,
    ?published, ?books⟩
  case order =>
    have hmigrations : (passedAttempts passed ++ last).map Attempt.migration
        = passed ++ last.map Attempt.migration := by
      rw [List.map_append, passedAttempts, List.map_map]
      exact congrArg (· ++ _) (List.map_id passed)
    rw [hmigrations, ← runner.skippedOn_append_pendingOn site.database.committed, hsplit,
      List.prefix_append_right_inj, List.prefix_append_right_inj]
    exact hlastAttempt.first
  case undertakes =>
    refine ⟨((runner.skippedOn site.database.committed).map
      fun migration => .alreadyApplied migration.key).flatMap (runner.told after)
        ++ (journal ++ finished.journal), ?_, ?_⟩
    · rw [hrun, hplan]
    · rw [hplan, hrun]
      exact (hpasses.undertakes hundertakes).tellsAll _
  case applied =>
    rw [hall, List.filterMap_cons, appliedKey?_historyEnd, List.filterMap_append,
      Attempt.filterMap_appliedKey?, filterMap_appliedKey?_skipped]
    rfl
  case lastWord =>
    exact hlastAttempt.lastWord (by rw [hrun]) hsplit (hall.trans List.cons_append.symm)
  case published =>
    intro hplain
    rw [hcommitted]
    exact hpublished hplain
  case books =>
    intro hplain hrecords
    have hids := Content.ids_performAll
      (site.database.committed.perform runner.creation) runner.books
      (passed.flatMap (runner.change site.files))
    rw [← hpublished hplain, List.flatMap_assoc] at hids
    simp only [insertions_change hrecords] at hids
    rw [hcommitted]
    exact hids

/-- A run whose plan could not list the keys says nothing to its sink. -/
theorem heardBy_of_unlisted {cause : DatabaseError}
    (h : (runner.listing site).outcome = .error cause) :
    (runner.run site).journal.heardBy sink.name = [] := by
  have hmute : (runner.listing site).Mute sink.name := runner.mute_listing site
  rcases hlisting : runner.listing site with ⟨outcome, after, journal⟩
  rw [hlisting] at h hmute
  obtain rfl : outcome = .error cause := h
  obtain ⟨phase, hplan⟩ := plan_of_unlisted hlisting
  have hrun : runner.run site = ⟨_, _, _⟩ := Work.bind_of_error (Work.mapError_of_error hplan)
  rw [hrun]
  exact hmute

/-- A run that found a mismatch with the history tells the end of the history, and the mismatch if
the history is out of order, and then stops. -/
theorem heardBy_of_mismatch {recorded : List String} {mismatch : HistoryError}
    (htells : runner.TellsAllTo sink files) (hlisted : runner.Listed site after recorded)
    (h : History.resumePoint runner.keys recorded = .error mismatch) :
    (runner.run site).outcome = .error (.failure (.history mismatch)) ∧
      (runner.run site).journal.heardBy sink.name
        = historyEnd recorded :: mismatchNotices mismatch := by
  have hplan := plan_of_listing hlisted.listing (comparison_of_error after h)
  have hrun : runner.run site = ⟨_, _, _⟩ := Work.bind_of_error (Work.mapError_of_error hplan)
  have hlisting : runner.listingJournal.heardBy sink.name = [] := rfl
  rw [hrun]
  refine ⟨rfl, ?_⟩
  rw [Journal.heardBy_append, hlisting, htells.heardBy_flatMap_told]
  rfl

/-- What an injected sink that enables every notice hears of a run is true.  It hears nothing if the
keys could not be listed.  Otherwise it hears the end of the history, and if the keys do not
continue it, only whether it is out of order.  If they do, it hears in the order of the keys which
migrations were skipped, which were attempted, and which of these were committed. -/
theorem log_is_true (runner : Runner) (sink : Log.Sink) (site : Site)
    (htells : runner.TellsAllTo sink site.files) :
    (∀ cause, (runner.listing site).outcome = .error cause →
      (runner.run site).journal.heardBy sink.name = []) ∧
    (∀ recorded mismatch, (runner.listing site).outcome = .ok recorded →
      History.resumePoint runner.keys recorded = .error mismatch →
        (runner.run site).outcome = .error (.failure (.history mismatch)) ∧
        (runner.run site).journal.heardBy sink.name
          = historyEnd recorded :: mismatchNotices mismatch) ∧
    (∀ recorded resume, (runner.listing site).outcome = .ok recorded →
      History.resumePoint runner.keys recorded = .ok resume →
        ∃ attempts, runner.Chronicle sink.name site recorded attempts) := by
  refine ⟨?_, ?_, ?_⟩
  · intro cause hcause
    exact heardBy_of_unlisted hcause
  · intro recorded mismatch hok hmismatch
    obtain ⟨after, hlisted⟩ := listed_of_ok hok
    exact heardBy_of_mismatch htells hlisted hmismatch
  · intro recorded resume hok hresume
    obtain ⟨after, hlisted⟩ := listed_of_ok hok
    exact exists_chronicle htells hlisted hresume

/-- The first two keys, with a sink for everything that a run tells. -/
def toldSteps : Runner := { twoSteps with route := .toSink { name := "audit" } }

/-- The engine refuses everything; the history is out of order; and the engine refuses to record the
second migration. -/
theorem log_is_true_toldSteps :
    let sink : Log.Sink := { name := "audit" }
    let down : Site := { faults := [{ on := .batch, message := "down" }] }
    let disordered : Site :=
      { database := { committed := { tables := [(TableName.default, ["02", "01"])] } } }
    let full : Site := { faults := [{ on := .execute, skip := 1, message := "disk full" }] }
    (∀ site : Site, toldSteps.TellsAllTo sink site.files) ∧
      (toldSteps.run down).journal.heardBy "audit" = [] ∧
      (toldSteps.run disordered).journal.heardBy "audit"
        = [.lastRecorded "01", .outOfOrder (.unsorted "02" "01")] ∧
      (toldSteps.run full).journal.heardBy "audit"
        = [.noHistory, .applying "01", .applied "01", .applying "02"] ∧
      toldSteps.RecordsKeys ∧
      ∃ attempts, toldSteps.Chronicle "audit" full [] attempts := by
  intro sink down disordered full
  have htells : ∀ site : Site, toldSteps.TellsAllTo sink site.files := by
    intro site
    refine ⟨rfl, fun _ => rfl, ?_⟩
    simp [toldSteps, twoSteps, Migration.instructions, instructionsOfActions,
      Action.instructions, Instruction.tellsTo]
  have hdown : (toldSteps.listing down).outcome
      = .error (.transaction "BEGIN failed: down") := by decide +kernel
  have hmismatch : History.resumePoint toldSteps.keys ["02", "01"]
      = .error (.unsorted "02" "01") := by decide +kernel
  obtain ⟨hdisordered, hfull, hheard⟩ :
      (toldSteps.listing disordered).outcome = .ok ["02", "01"] ∧
      (toldSteps.listing full).outcome = .ok [] ∧
      (toldSteps.run full).journal.heardBy "audit"
        = [.noHistory, .applying "01", .applied "01", .applying "02"] := by decide +kernel
  have hresume : History.resumePoint toldSteps.keys [] = .ok none := rfl
  have hdialect : toldSteps.dialect = Vendor.duckDb.dialect := rfl
  exact ⟨htells, (log_is_true toldSteps sink down (htells down)).1 _ hdown,
    ((log_is_true toldSteps sink disordered (htells disordered)).2.1 _ _ hdisordered hmismatch).2,
    hheard, recordsKeys_of_vendor hdialect,
    (log_is_true toldSteps sink full (htells full)).2.2 _ _ hfull hresume⟩

/-- One migration with one action, and a sink for everything that a run tells. -/
def auditedStep (action : Action) : Runner where
  dialect := Vendor.duckDb.dialect
  migrations := [.program "01" [action]]
  tableName := TableName.default
  route := .toSink { name := "audit" }
  sorted := List.pairwise_singleton _ _
  nonempty := List.cons_ne_nil _ _
  named := TableName.check_default

/-- If a migration commits its transaction itself, it is not told to be applied, although the
transaction was committed and the key is recorded.  Nor is a key told that a migration records
besides its own. -/
theorem told_ne_recorded :
    let sink : Log.Sink := { name := "audit" }
    let commits := auditedStep (.batch "COMMIT")
    let records := auditedStep (.recordKey Vendor.duckDb.dialect "00" TableName.default)
    let told (runner : Runner) : List String :=
      ((runner.run {}).journal.heardBy "audit").filterMap Log.Notice.appliedKey?
    let added (runner : Runner) : List String :=
      runner.recorded (runner.run {}).state.database.committed
    commits.TellsAllTo sink Files.none ∧ records.TellsAllTo sink Files.none ∧
      (commits.run {}).journal = (commits.plan {}).journal ++
        [.logged ⟨some "audit", .applying "01"⟩,
          .called (.batch beginText) none,
          .called (.batch commitText) none,
          .called (.execute "INSERT INTO \"migrations\" (id) VALUES (?)" ["01"]) none,
          .called (.batch commitText)
            (some "TransactionContext Error: cannot commit - no transaction is active"),
          .called (.batch rollbackText)
            (some "TransactionContext Error: cannot rollback - no transaction is active")] ∧
      told commits = [] ∧ added commits = ["01"] ∧
      (records.run {}).outcome = .ok { applied := ["01"] } ∧
      told records = ["01"] ∧ added records = ["00", "01"] := by
  intro sink commits records told added
  refine ⟨⟨rfl, fun _ => rfl, ?_⟩, ⟨rfl, fun _ => rfl, ?_⟩, by decide +kernel⟩
  · simp [commits, auditedStep, Migration.instructions, instructionsOfActions,
      Action.instructions, Instruction.tellsTo]
  · simp [records, auditedStep, Migration.instructions, instructionsOfActions,
      Action.instructions, Instruction.tellsTo]

end Runner

end SchemaUpgrade
