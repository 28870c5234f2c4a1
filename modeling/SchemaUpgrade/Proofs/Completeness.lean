import Mathlib.Data.List.Dedup
import SchemaUpgrade.Proofs.Listing
import SchemaUpgrade.Proofs.Session
/-!
# What a run that succeeds has recorded

Here nothing is assumed of the transactions: a migration may open and end them as it likes, as long
as it does not insert into the bookkeeping table.  A call then keeps the ids that the table *shows*,
to the transaction and to everybody else (`Database.Shows`), and only the registration of a key
adds to them.

A runner that is run again and again, whatever fails, records its keys from the first on
(`Runner.Records`), and a run that succeeds leaves all of them recorded, each once
(`Runner.recorded_of_ok`).  So the table lists the keys of the runner exactly when no two of them
are equal.

## Main definitions

* `Database.Shows`: the ids of a table, for the open transaction and for everybody else.
* `Runner.Records`: the table holds the keys of the runner up to some key.
-/

namespace SchemaUpgrade

open Engine

/-! ## What a table shows -/

/-- Everybody sees these ids in the table: they are committed, and an open transaction did not
change them. -/
structure Engine.Database.Shows (db : Database) (table : String) (ids : List String) : Prop where
  committed : db.committed.ids table = ids
  working : ∀ content, db.working = some content → content.ids table = ids

namespace Engine.Database.Shows

variable {db after : Database} {table : String} {ids : List String} {statement : Statement}

theorem current (h : db.Shows table ids) : db.current.ids table = ids := by
  rw [Database.current]
  cases hworking : db.working with
  | none => exact h.committed
  | some content => exact h.working content hworking

theorem of_idle (hidle : db.working = none) : db.Shows table (db.committed.ids table) :=
  ⟨rfl, fun content hcontent => absurd (hidle.symm.trans hcontent) (by simp)⟩

theorem put (h : db.Shows table ids) {content : Content} (hcontent : content.ids table = ids) :
    (db.put content).Shows table ids := by
  rw [Database.put]
  cases hworking : db.working with
  | none => exact ⟨hcontent, fun other hother => absurd hother (by simp)⟩
  | some before =>
    exact ⟨h.committed, fun other hother => Option.some.inj hother ▸ hcontent⟩

/-- A statement that does not insert into the table, control statement or not, keeps its ids. -/
theorem carryOut (h : db.Shows table ids) (htable : statement.insertsInto table = false)
    (hcarry : statement.carryOut db = .ok after) : after.Shows table ids := by
  cases statement with
  | batch sql =>
    by_cases hbegin : sql = beginText
    · subst hbegin
      rw [Statement.carryOut, Database.batch_begin] at hcarry
      split at hcarry
      · exact absurd hcarry (by simp [Except.map])
      · obtain rfl := Except.ok.inj hcarry
        exact ⟨h.committed, fun content hcontent => Option.some.inj hcontent ▸ h.committed⟩
    · by_cases hcommit : sql = commitText
      · subst hcommit
        rw [Statement.carryOut, Database.batch_commit] at hcarry
        split at hcarry
        · rename_i content hworking
          obtain rfl := Except.ok.inj hcarry
          exact ⟨h.working content hworking, fun other hother => absurd hother (by simp)⟩
        · exact absurd hcarry (by simp [Except.map])
      · by_cases hrollback : sql = rollbackText
        · subst hrollback
          rw [Statement.carryOut, Database.batch_rollback] at hcarry
          split at hcarry
          · obtain rfl := Except.ok.inj hcarry
            exact ⟨h.committed, fun other hother => absurd hother (by simp)⟩
          · exact absurd hcarry (by simp [Except.map])
        · rw [Statement.carryOut, Database.batch, if_neg hbegin, if_neg hcommit,
            if_neg hrollback] at hcarry
          obtain rfl := Except.ok.inj hcarry
          exact h.put h.current
  | execute sql params =>
    rw [Statement.carryOut, Database.execute] at hcarry
    split at hcarry
    · exact absurd hcarry (by simp [Except.map])
    · obtain rfl := Except.ok.inj hcarry
      refine h.put ?_
      have hkept := db.current.ids_perform_of_not_insertsInto htable
      exact hkept.trans h.current

/-- An insertion into the table brings a new id.  It shows in the open transaction, and without one
it is committed at once. -/
theorem carryOut_insertion {sql id : String} (h : db.Shows table ids)
    (hsql : insertedTable sql = table)
    (hcarry : (Statement.execute sql [id]).carryOut db = .ok after) :
    id ∉ ids ∧ (after.committed.ids table = ids ∨ after.committed.ids table = ids ++ [id]) ∧
      ∀ content, after.working = some content → content.ids table = ids ++ [id] := by
  have hinserted : (db.current.insert (insertedTable sql) id).ids table = ids ++ [id] := by
    rw [← h.current, ← hsql]
    exact db.current.ids_perform_execute sql [id]
  rw [Statement.carryOut, Database.execute] at hcarry
  split at hcarry
  · exact absurd hcarry (by simp [Except.map])
  · rename_i hnew
    obtain rfl := Except.ok.inj hcarry
    rw [hsql, h.current] at hnew
    refine ⟨hnew, ?_⟩
    simp only [List.headD_cons, Database.put]
    cases hworking : db.working with
    | none => exact ⟨.inr hinserted, fun content hcontent => absurd hcontent (by simp)⟩
    | some before =>
      exact ⟨.inl h.committed, fun content hcontent => Option.some.inj hcontent ▸ hinserted⟩

end Engine.Database.Shows

theorem Instruction.runAll_shows {code : List Instruction} {site : Site} {table : String}
    {ids : List String} (h : site.database.Shows table ids)
    (htable : ∀ statement ∈ statements code, statement.insertsInto table = false) :
    (runAll code site).state.database.Shows table ids := by
  induction code generalizing site with
  | nil => exact h
  | cons instruction rest ih =>
    cases instruction with
    | send statement sender =>
      rw [statements_cons_send, List.forall_mem_cons] at htable
      rcases statement.send_cases site with
        ⟨message, faults, hsend⟩ | ⟨database, faults, hcarry, hsend⟩
      · rw [runAll_send_of_error hsend]
        exact h
      · rw [runAll_send_of_ok hsend]
        exact @ih { site with faults := faults, database := database }
          (h.carryOut htable.1 hcarry) htable.2
    | tell route notice =>
      rw [runAll_tell]
      exact ih h htable
    | raise flag =>
      rw [runAll_raise]
      exact @ih { site with raised := flag :: site.raised } h htable
    | stop halt => exact h

theorem Site.Discarded.shows {site after : Site} {journal : Journal} {table : String}
    {ids : List String} (h : site.Discarded after journal)
    (hshows : site.database.Shows table ids) :
    after.database.Shows table ids := by
  rw [h.database]
  split
  · exact hshows
  · exact ⟨hshows.committed, fun content hcontent => absurd hcontent (by simp)⟩

namespace Runner

variable {runner : Runner} {vendor : Vendor} {site : Site} {migration : Migration}
  {ids : List String}

/-! ## One migration -/

/-- What one migration can do to the books: its key is added to them and was not in them, or they
stay as they are. -/
inductive Adds (ids : List String) (key : String) : List String → Prop where
  | kept : Adds ids key ids
  | added (hnew : key ∉ ids) : Adds ids key (ids ++ [key])

/-- Recording a key and publishing what was done adds the key at most; if it succeeds, the key is
new, added and committed. -/
theorem conclude_adds (migration : Migration) (hvendor : runner.dialect = vendor.dialect)
    (h : site.database.Shows runner.tableName ids) :
    let concluded := runner.conclude migration site
    Adds ids migration.key (concluded.state.database.committed.ids runner.tableName) ∧
      (concluded.outcome = .ok () → concluded.state.files = site.files ∧
        concluded.state.database.working = none ∧ migration.key ∉ ids ∧
        concluded.state.database.committed.ids runner.tableName = ids ++ [migration.key]) := by
  obtain ⟨sql, htable, hregistration⟩ := registration_of_vendor hvendor migration
  rcases runner.conclude_steps migration site with
    ⟨error, mid, after, journal, more, hall, -, -, hafter, hmid⟩ |
    ⟨database, content, faults, hcarry, hopen, hall⟩
  · have hfinal : after.database.committed = mid.database.committed := hafter.trace.final
    rw [hall]
    refine ⟨?_, fun hok => absurd hok (by simp)⟩
    rw [hfinal]
    rcases hmid with hsame | hcarry
    · rw [hsame, h.committed]
      exact .kept
    · rw [hregistration] at hcarry
      obtain ⟨hnew, hkept | hadded, -⟩ := h.carryOut_insertion htable hcarry
      · rw [hkept]
        exact .kept
      · rw [hadded]
        exact .added hnew
  · rw [hregistration] at hcarry
    obtain ⟨hnew, -, hworking⟩ := h.carryOut_insertion htable hcarry
    have hadded : content.ids runner.tableName = ids ++ [migration.key] := hworking content hopen
    rw [hall]
    refine ⟨?_, fun _ => ⟨rfl, rfl, hnew, hadded⟩⟩
    rw [hadded]
    exact .added hnew

/-- One migration adds its key at most; if it succeeds, the key is new, added and committed. -/
theorem applyOne_adds (hvendor : runner.dialect = vendor.dialect)
    (htable : ∀ statement ∈ Instruction.statements (migration.instructions site.files),
      statement.insertsInto runner.tableName = false)
    (h : site.database.Shows runner.tableName ids) :
    let done := runner.applyOne migration site
    Adds ids migration.key (done.state.database.committed.ids runner.tableName) ∧
      (done.outcome = .ok () → done.state.files = site.files ∧
        done.state.database.working = none ∧ migration.key ∉ ids ∧
        done.state.database.committed.ids runner.tableName = ids ++ [migration.key]) := by
  rcases runner.applyOne_steps migration site with
    ⟨cause, after, journal, hfailed, -, hafter, -⟩ | ⟨opened, -, hopened, hsteps⟩
  · rw [hfailed]
    refine ⟨?_, fun hok => absurd hok (by simp)⟩
    rw [hafter, h.committed]
    exact .kept
  · have hshows : opened.database.Shows runner.tableName ids := by
      rw [hopened.database]
      exact ⟨h.committed, fun content hcontent => Option.some.inj hcontent ▸ h.committed⟩
    have hfilled := Instruction.runAll_shows hshows htable
    have hframe := Instruction.runAll_frame (migration.instructions site.files) opened
    rcases hsteps with
      ⟨stop, halt, filled, journal, after, more, hdone, hafter, houtcome, hstate, -⟩ |
      ⟨filled, journal, hdone, hrest⟩
    · rw [hdone] at hfilled
      refine ⟨?_, fun hok => absurd (hok.symm.trans houtcome) (by simp)⟩
      rw [hstate, (hafter.shows hfilled).committed]
      exact .kept
    · rw [hdone] at hfilled hframe
      obtain ⟨hadds, hok⟩ := conclude_adds migration hvendor hfilled
      rw [hrest]
      refine ⟨hadds, fun houtcome => ?_⟩
      obtain ⟨hfiles, hrecorded⟩ := hok houtcome
      exact ⟨hfiles.trans (hframe.files.trans hopened.frame.files), hrecorded⟩

/-! ## One run -/

/-- The migrations that a run passed add their keys, all of them new. -/
theorem Passes.adds {migrations : List Migration} {after : Site} {journal : Journal}
    (h : runner.Passes migrations site after journal) (hvendor : runner.dialect = vendor.dialect)
    (htable : ∀ migration ∈ migrations,
      ∀ statement ∈ Instruction.statements (migration.instructions site.files),
        statement.insertsInto runner.tableName = false)
    (hidle : site.database.working = none)
    (hids : site.database.committed.ids runner.tableName = ids) (hnodup : ids.Nodup) :
    after.files = site.files ∧ after.database.working = none ∧
      after.database.committed.ids runner.tableName = ids ++ migrations.map Migration.key ∧
      (ids ++ migrations.map Migration.key).Nodup := by
  induction h generalizing ids with
  | nil site => exact ⟨rfl, hidle, by simpa using hids, by simpa using hnodup⟩
  | @cons migration rest site looked next after journal more hlook happly hrest ih =>
    obtain ⟨haround, hdatabase, -⟩ := look_of_isCancelled hlook
    have hfiles : looked.files = site.files := by rw [haround]
    have hshows : looked.database.Shows runner.tableName ids := by
      rw [hdatabase, ← hids]
      exact .of_idle hidle
    rw [List.forall_mem_cons, ← hfiles] at htable
    have hone := (applyOne_adds hvendor htable.1 hshows).2
    rw [happly] at hone
    obtain ⟨hfiles', hready, hnew, hadded⟩ := hone rfl
    have hlonger : (ids ++ [migration.key]).Nodup := by
      rw [← List.concat_eq_append]
      exact List.Nodup.concat hnew hnodup
    obtain ⟨hfiles'', hafter, hmore, hall⟩ :=
      ih (by rw [hfiles']; exact htable.2) hready hadded hlonger
    rw [List.append_assoc, List.singleton_append] at hmore hall
    exact ⟨hfiles''.trans (hfiles'.trans hfiles), hafter, hmore, hall⟩

/-- What ends a run adds the key of the next migration at most. -/
theorem Ends.adds {report : Report} {passed rest : List Migration}
    {finished : Finished Site (Halt UpgradeError) Report}
    (h : runner.Ends report passed site rest finished) (hvendor : runner.dialect = vendor.dialect)
    (htable : ∀ migration ∈ rest,
      ∀ statement ∈ Instruction.statements (migration.instructions site.files),
        statement.insertsInto runner.tableName = false)
    (hidle : site.database.working = none)
    (hids : site.database.committed.ids runner.tableName = ids) (hnodup : ids.Nodup) :
    ∃ last, last <+: rest ∧
      finished.state.database.committed.ids runner.tableName = ids ++ last.map Migration.key ∧
      (ids ++ last.map Migration.key).Nodup ∧
      ∀ other, finished.outcome = .ok other → rest = [] ∧ other = applied report passed := by
  have hsame : ids ++ List.map Migration.key [] = ids := List.append_nil ids
  cases h with
  | finished =>
    refine ⟨[], List.nil_prefix, by rwa [hsame], by rwa [hsame], fun other hok => ⟨rfl, ?_⟩⟩
    exact (Except.ok.inj hok).symm
  | cancelled hlook =>
    obtain ⟨-, hdatabase, -⟩ := look_of_isCancelled hlook
    rw [← hdatabase] at hids
    exact ⟨[], List.nil_prefix, by rwa [hsame], by rwa [hsame], fun other hok =>
      absurd hok (by simp)⟩
  | @failed migration rest looked after halt journal hlook happly =>
    obtain ⟨haround, hdatabase, -⟩ := look_of_isCancelled hlook
    have hfiles : looked.files = site.files := by rw [haround]
    have hshows : looked.database.Shows runner.tableName ids := by
      rw [hdatabase, ← hids]
      exact .of_idle hidle
    rw [List.forall_mem_cons, ← hfiles] at htable
    have hadds := (applyOne_adds hvendor htable.1 hshows).1
    rw [happly] at hadds
    dsimp only at hadds ⊢
    generalize after.database.committed.ids runner.tableName = left at hadds ⊢
    cases hadds with
    | kept =>
      exact ⟨[], List.nil_prefix, hsame.symm, by rwa [hsame], fun other hok =>
        absurd hok (by simp)⟩
    | added hnew =>
      refine ⟨[migration], List.cons_prefix_cons.2 ⟨rfl, List.nil_prefix⟩, rfl, ?_, fun other hok =>
        absurd hok (by simp)⟩
      rw [List.map_singleton, ← List.concat_eq_append]
      exact List.Nodup.concat hnew hnodup

/-- A run adds the keys of the first pending migrations, none of them twice.  If it succeeds, these
are all of the pending ones. -/
theorem run_adds (h : runner.SparesBooks site.files) (hidle : site.database.working = none)
    (hnodup : (runner.recorded site.database.committed).Nodup) :
    ∃ added, added <+: runner.pendingOn site.database.committed ∧
      runner.recorded (runner.run site).state.database.committed
        = runner.recorded site.database.committed ++ added.map Migration.key ∧
      (runner.recorded site.database.committed ++ added.map Migration.key).Nodup ∧
      ∀ report, (runner.run site).outcome = .ok report →
        added = runner.pendingOn site.database.committed ∧
        report.applied = (runner.pendingOn site.database.committed).map Migration.key ∧
        report.skipped = (runner.skippedOn site.database.committed).map Migration.key := by
  obtain ⟨vendor, hvendor⟩ := h.dialect
  rcases run_steps (creation_of_vendor hvendor) hidle with
    ⟨error, after, journal, -, hrun, -, hpublishes, -⟩ |
    ⟨plan, ready, planned, events, passed, rest, mid, journal, finished, -, -, hframe, hready,
      hpublishes, -, hsplit, hpasses, hends, hrun⟩
  · rw [hrun]
    refine ⟨[], List.nil_prefix, ?_, by simpa using hnodup, fun report hok => absurd hok (by simp)⟩
    rw [hpublishes.committed, recorded_of_vendor hvendor, recorded_of_vendor hvendor,
      ids_performAll_creation (runner.created_within site), List.map_nil, List.append_nil]
  · have htable : ∀ migration ∈ passed ++ rest,
        ∀ statement ∈ Instruction.statements (migration.instructions ready.files),
          statement.insertsInto runner.tableName = false := by
      intro migration hmem
      rw [hframe.files]
      exact h.table migration (mem_of_mem_pendingOn (hsplit ▸ hmem))
    rw [List.forall_mem_append] at htable
    rw [recorded_of_vendor hvendor] at hnodup
    have hids : ready.database.committed.ids runner.tableName
        = site.database.committed.ids runner.tableName := by
      rw [hpublishes.committed, ids_performAll_creation List.prefix_rfl]
    obtain ⟨hfiles, hmid, hmore, hnodup'⟩ := hpasses.adds hvendor htable.1 hready hids hnodup
    obtain ⟨last, hlast, hfinal, hnodup'', hok⟩ :=
      hends.adds hvendor (by rw [hfiles]; exact htable.2) hmid hmore hnodup'
    rw [hrun, recorded_of_vendor hvendor, recorded_of_vendor hvendor, hsplit]
    rw [List.append_assoc, ← List.map_append] at hfinal hnodup''
    refine ⟨passed ++ last, (List.prefix_append_right_inj passed).2 hlast, hfinal, hnodup'',
      fun report hreport => ?_⟩
    obtain ⟨rfl, rfl⟩ := hok report hreport
    obtain rfl := List.prefix_nil.1 hlast
    exact ⟨rfl, by rw [applied, List.nil_append, List.append_nil], rfl⟩

/-! ## Runs of one runner -/

/-- The recorded keys are keys of the runner, in strictly ascending order, and no key of the runner
is missing that does not come after them. -/
structure Records (runner : Runner) (recorded : List String) : Prop where
  ascending : Ascending recorded
  configured : ∀ key ∈ recorded, key ∈ runner.keys
  settled : ∀ key ∈ runner.keys, History.isPending recorded.getLast? key = false → key ∈ recorded

theorem records_nil (runner : Runner) : runner.Records [] where
  ascending := List.Pairwise.nil
  configured _ hmem := absurd hmem List.not_mem_nil
  settled _ _ hsettled := absurd hsettled (by simp [History.isPending])

/-- Recording the first pending keys leaves no gap. -/
theorem Records.append {content : Content} {added : List Migration}
    (h : runner.Records (runner.recorded content)) (hadded : added <+: runner.pendingOn content)
    (hnodup : (runner.recorded content ++ added.map Migration.key).Nodup) :
    runner.Records (runner.recorded content ++ added.map Migration.key) := by
  have hle := recorded_append_pending_le hadded h.ascending
  refine ⟨ascending_of_le_of_nodup hle hnodup, ?_, ?_⟩
  · intro key hmem
    rcases List.mem_append.1 hmem with hold | hnew
    · exact h.configured key hold
    · obtain ⟨migration, hin, rfl⟩ := List.mem_map.1 hnew
      exact List.mem_map_of_mem (mem_of_mem_pendingOn (hadded.subset hin))
  · intro key hkey hsettled
    obtain ⟨migration, hmem, rfl⟩ := List.mem_map.1 hkey
    rw [List.mem_append]
    cases hpending : History.isPending (runner.recorded content).getLast? migration.key with
    | false => exact .inl (h.settled _ hkey hpending)
    | true =>
      obtain ⟨rest, hrest⟩ := hadded
      have hin : migration ∈ added ++ rest := by
        rw [hrest]
        exact List.mem_filter.2 ⟨hmem, hpending⟩
      rcases List.mem_append.1 hin with hadded' | hrest'
      · exact .inr (List.mem_map_of_mem hadded')
      · -- It comes after the last key that was added, but not strictly.
        cases hlast : added.getLast? with
        | none =>
          rw [List.getLast?_eq_none_iff.1 hlast, List.map_nil, List.append_nil,
            hpending] at hsettled
          exact absurd hsettled (by simp)
        | some last =>
          have hlastKey : (runner.recorded content ++ added.map Migration.key).getLast?
              = some last.key := by
            rw [List.getLast?_append, List.getLast?_map, hlast]
            rfl
          have hlastMem : last ∈ added := List.mem_of_getLast? hlast
          have hsorted : (added ++ rest).Pairwise fun a b => a.key ≤ b.key := by
            rw [hrest]
            exact runner.sorted_keys.sublist List.filter_sublist
          have hbelow := (List.pairwise_append.1 hsorted).2.2 last hlastMem migration hrest'
          rw [hlastKey, History.isPending, decide_eq_false_iff_not, String.not_lt] at hsettled
          have hsame : migration.key = last.key := String.le_antisymm hsettled hbelow
          rw [hsame]
          exact .inr (List.mem_map_of_mem hlastMem)

/-- Where the runner records all its keys, none of them is pending, and the records are its keys,
each once. -/
theorem Records.eq_dedup {recorded : List String} (h : runner.Records recorded)
    (hall : ∀ key ∈ runner.keys, key ∈ recorded) : recorded = runner.keys.dedup := by
  have hperm : recorded.Perm runner.keys.dedup := by
    rw [List.perm_ext_iff_of_nodup h.ascending.nodup (List.nodup_dedup _)]
    intro key
    rw [List.mem_dedup]
    exact ⟨h.configured key, hall key⟩
  refine hperm.eq_of_pairwise (fun a b _ _ => String.le_antisymm) h.ascending.le ?_
  exact runner.keys_sorted.sublist (List.dedup_sublist _)

theorem idle_of_ok {report : Report} (hok : (runner.run site).outcome = .ok report) :
    site.database.working = none := by
  obtain ⟨after, h⟩ := listed_of_run_ok hok
  exact h.idle

/-- A run that succeeds on records without a gap leaves all keys recorded, each once. -/
theorem Records.run_of_ok {report : Report} (hbooks : runner.SparesBooks site.files)
    (h : runner.Records (runner.recorded site.database.committed))
    (hok : (runner.run site).outcome = .ok report) :
    let left := runner.recorded (runner.run site).state.database.committed
    left = runner.keys.dedup ∧
      left = runner.recorded site.database.committed ++ report.applied ∧
      report.skipped ++ report.applied = runner.keys := by
  obtain ⟨added, hadded, hleft, hnodup, hreport⟩ :=
    run_adds hbooks (idle_of_ok hok) h.ascending.nodup
  obtain ⟨rfl, happlied, hskipped⟩ := hreport report hok
  have hkeys : report.skipped ++ report.applied = runner.keys := by
    rw [hskipped, happlied, ← List.map_append, skippedOn_append_pendingOn]
    rfl
  have hrecords := h.append hadded hnodup
  rw [← happlied] at hleft hrecords
  rw [← hleft] at hrecords
  refine ⟨hrecords.eq_dedup fun key hkey => ?_, hleft, hkeys⟩
  rw [← hkeys, List.mem_append] at hkey
  rw [hleft, List.mem_append]
  refine hkey.imp_left fun hmem => ?_
  rw [hskipped] at hmem
  obtain ⟨migration, hin, rfl⟩ := List.mem_map.1 hmem
  obtain ⟨hconfigured, hsettled⟩ := List.mem_filter.1 hin
  exact h.settled _ (List.mem_map_of_mem hconfigured) (by simpa using hsettled)

end Runner

namespace Visit

variable {runner : Runner} {visit : Visit} {db : Database}

/-- The call is a call of this runner, and its migrations spare the books. -/
structure Repeats (visit : Visit) (runner : Runner) : Prop where
  runner : visit.runner = runner
  books : visit.runner.SparesBooks visit.around.files

/-- A call of the runner leaves no gap in its records. -/
theorem Repeats.records (h : visit.Repeats runner)
    (hrecords : runner.Records (db.committed.ids runner.tableName)) :
    runner.Records ((visit.perform db).1.committed.ids runner.tableName) := by
  obtain ⟨rfl, hbooks⟩ := h
  obtain ⟨vendor, hvendor⟩ := hbooks.dialect
  cases hworking : db.working with
  | some content =>
    have hopen : db.inTransaction = true := by
      rw [Database.inTransaction, hworking]
      rfl
    rw [(visit.perform_of_inTransaction hopen).1]
    exact hrecords
  | none =>
    have hidle : (visit.site db).database.working = none := hworking
    rw [perform]
    cases visit.request with
    | plan =>
      have hpublished : (visit.runner.plan (visit.site db)).state.database.committed
          = db.committed.performAll (visit.runner.created (visit.site db)).flatten := by
        rcases Runner.plan_cases hidle (Runner.creation_of_vendor hvendor) with
          ⟨error, after, journal, hplan, -, hpublishes, -⟩ |
          ⟨plan, after, journal, hplan, -, -, hpublishes, -⟩
        · rw [hplan]
          exact hpublishes.committed
        · rw [hplan]
          exact hpublishes.committed
      dsimp only
      rw [hpublished, Runner.ids_performAll_creation (visit.runner.created_within _)]
      exact hrecords
    | run =>
      rw [← Runner.recorded_of_vendor hvendor] at hrecords
      have hbooks' : visit.runner.SparesBooks (visit.site db).files := hbooks
      obtain ⟨added, hadded, hrecorded, hnodup, -⟩ :=
        Runner.run_adds hbooks' hidle hrecords.ascending.nodup
      dsimp only
      rw [← Runner.recorded_of_vendor hvendor, hrecorded]
      exact hrecords.append hadded hnodup

theorem records_performAll {visits : List Visit} (h : ∀ visit ∈ visits, visit.Repeats runner)
    (hrecords : runner.Records (db.committed.ids runner.tableName)) :
    runner.Records ((performAll db visits).committed.ids runner.tableName) := by
  induction visits generalizing db with
  | nil => exact hrecords
  | cons visit rest ih =>
    rw [List.forall_mem_cons] at h
    exact ih h.2 (h.1.records hrecords)

end Visit

namespace Runner

/-- After any calls of a runner on an empty bookkeeping table, a run that succeeds leaves every key
of the runner recorded, each once: what was recorded before and then what the report calls applied.
So the records are the keys of the runner exactly when no two of these are equal. -/
theorem recorded_of_ok (runner : Runner) (db : Database) (before : List Visit) (around : Site)
    (report : Report) (hempty : db.committed.ids runner.tableName = [])
    (hbefore : ∀ visit ∈ before, visit.Repeats runner) (hbooks : runner.SparesBooks around.files)
    (hok : (runner.run { around with database := Visit.performAll db before }).outcome
      = .ok report) :
    let start := (Visit.performAll db before).committed.ids runner.tableName
    let left := (runner.run { around with
      database := Visit.performAll db before }).state.database.committed.ids runner.tableName
    left = runner.keys.dedup ∧ (left = runner.keys ↔ runner.keys.Nodup) ∧
      left = start ++ report.applied ∧ report.skipped ++ report.applied = runner.keys := by
  intro start left
  let site : Site := { around with database := Visit.performAll db before }
  have hbooks' : runner.SparesBooks site.files := hbooks
  obtain ⟨vendor, hvendor⟩ := hbooks.dialect
  have hrecords : runner.Records start := by
    refine Visit.records_performAll hbefore ?_
    rw [hempty]
    exact runner.records_nil
  have hstart : runner.recorded site.database.committed = start := recorded_of_vendor hvendor _
  have hleft : runner.recorded (runner.run site).state.database.committed = left :=
    recorded_of_vendor hvendor _
  rw [← hstart] at hrecords
  obtain ⟨hdedup, happlied, hkeys⟩ := hrecords.run_of_ok hbooks' hok
  rw [hleft] at hdedup happlied
  rw [hstart] at happlied
  refine ⟨hdedup, ?_, happlied, hkeys⟩
  rw [hdedup]
  exact List.dedup_eq_self

/-- A run of which the engine refuses the second registration, and then another one. -/
theorem recorded_of_ok_twoSteps :
    let refused : Site := { faults := [{ on := .execute, skip := 1, message := "disk full" }] }
    let before : List Visit := [⟨twoSteps, .run, refused⟩]
    let around : Site := {}
    let report : Report := { applied := ["02"], skipped := ["01"] }
    let start := (Visit.performAll {} before).committed.ids twoSteps.tableName
    let left := (twoSteps.run { around with
      database := Visit.performAll {} before }).state.database.committed.ids twoSteps.tableName
    ({} : Database).committed.ids twoSteps.tableName = [] ∧
      (∀ visit ∈ before, visit.Repeats twoSteps) ∧ twoSteps.SparesBooks around.files ∧
      (twoSteps.run { around with database := Visit.performAll {} before }).outcome = .ok report ∧
      left = twoSteps.keys.dedup ∧ (left = twoSteps.keys ↔ twoSteps.keys.Nodup) ∧
      left = start ++ report.applied ∧ report.skipped ++ report.applied = twoSteps.keys := by
  intro refused before around report start left
  have hbefore : ∀ visit ∈ before, visit.Repeats twoSteps := by
    intro visit hmem
    obtain rfl := List.eq_of_mem_singleton hmem
    exact ⟨rfl, (twoSteps_keepsBooks _).toSparesBooks⟩
  have hbooks : twoSteps.SparesBooks around.files := (twoSteps_keepsBooks _).toSparesBooks
  have hok : (twoSteps.run { around with
      database := Visit.performAll {} before }).outcome = .ok report := by
    decide +kernel
  exact ⟨rfl, hbefore, hbooks, hok, recorded_of_ok twoSteps {} before around report rfl hbefore
    hbooks hok⟩

/-- Two programs under one key. -/
def sameKey : Runner where
  dialect := Vendor.duckDb.dialect
  migrations := [.program "01" [.batch "CREATE TABLE a (id INT)"],
    .program "01" [.batch "CREATE TABLE b (id INT)"]]
  tableName := TableName.default
  sorted := by decide
  nonempty := by simp
  named := TableName.check_default

/-- Of two migrations with one key, a first run applies one and fails at the other, and a second
run succeeds: it skips both, and the statement of the other was never committed. -/
theorem recorded_ne_keys_sameKey :
    let first := sameKey.run {}
    let second := sameKey.run { database := first.state.database }
    sameKey.SparesBooks ({} : Site).files ∧
      second.outcome = .ok { applied := [], skipped := ["01", "01"] } ∧
      second.state.database.committed.ids sameKey.tableName = ["01"] ∧
      sameKey.keys = ["01", "01"] ∧
      "CREATE TABLE b (id INT)" ∉ second.state.database.committed.batches := by
  intro first second
  refine ⟨⟨⟨.duckDb, rfl⟩, ?_⟩, by decide +kernel⟩
  simp [sameKey, Migration.instructions, instructionsOfActions, Action.instructions,
    Statement.insertsInto]

end Runner

end SchemaUpgrade
