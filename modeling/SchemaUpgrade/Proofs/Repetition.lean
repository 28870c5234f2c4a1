import SchemaUpgrade.Proofs.Listing
import SchemaUpgrade.Proofs.Resumption
/-!
# Running again changes nothing

A run that succeeds leaves the runner *settled*: exactly its keys are recorded, no transaction is
open and the connection is sound (`Runner.settled_of_ok`).  It does not matter what was recorded
before, as long as no two keys are equal; and if nothing was recorded, two equal keys could not have
been recorded both.

A settled runner finds nothing left to do.  Without faults, a run creates the bookkeeping table once
more and lists its keys, and that is all (`Runner.rests_of_settled`).

## Main definitions

* `Runner.Settled`: all keys of the runner are recorded, and nothing else.
* `Runner.Rests`: plan and run find nothing left to do.
-/

namespace SchemaUpgrade.Runner

open Engine

variable {runner : Runner} {site : Site}

/-- The database records the keys of the runner and nothing else, and it is free to be used. -/
structure Settled (runner : Runner) (site : Site) : Prop where
  sound : site.poisoned = false
  idle : site.database.working = none
  recorded : runner.recorded site.database.committed = runner.keys

/-! ## After a run that succeeded -/

/-- A run that succeeds on an empty bookkeeping table had no two equal keys. -/
theorem nodup_keys_of_ok {report : Report} (hbooks : runner.KeepsBooks site.files)
    (hok : (runner.run site).outcome = .ok report)
    (hempty : site.database.committed.ids runner.tableName = []) : runner.keys.Nodup := by
  obtain ⟨after, hlisted⟩ := listed_of_run_ok hok
  obtain ⟨-, -, hreached⟩ := reached_of_ok hbooks.plain hlisted.idle hok
  have hpending : runner.pendingOn site.database.committed = runner.migrations := by
    rw [pendingOn, hbooks.recorded, hempty]
    exact List.filter_eq_self.2 fun _ _ => rfl
  have hadmits := hreached.publishes.admits
  rw [hpending, List.flatten_cons, Content.admitsAll_append] at hadmits
  have hempty' : (site.database.committed.performAll [runner.creation]).ids runner.tableName = [] :=
    hempty
  have hnodup := hbooks.nodup_of_admitsAll (fun _ hmem => hmem) hadmits.2
    (by rw [hempty']; exact .nil)
  rwa [hempty', List.nil_append] at hnodup

/-- A run that succeeds leaves the runner settled, if no two keys are equal or nothing was recorded
before. -/
theorem settled_of_ok {report : Report} (hbooks : runner.KeepsBooks site.files)
    (hok : (runner.run site).outcome = .ok report)
    (hstart : runner.keys.Nodup ∨ site.database.committed.ids runner.tableName = []) :
    runner.Settled (runner.run site).state := by
  have hkeys : runner.keys.Nodup := hstart.elim id (nodup_keys_of_ok hbooks hok)
  obtain ⟨after, hlisted⟩ := listed_of_run_ok hok
  obtain ⟨hstarts, -, hreached⟩ := reached_of_ok hbooks.plain hlisted.idle hok
  refine ⟨hreached.poisoned.trans hlisted.sound, hreached.idle, ?_⟩
  calc runner.recorded (runner.run site).state.database.committed
      = runner.recorded site.database.committed
          ++ (runner.pendingOn site.database.committed).map Migration.key := by
        rw [hreached.publishes.committed, hbooks.recorded, hbooks.recorded, ← List.singleton_append,
          hbooks.ids_performAll List.prefix_rfl fun _ => mem_of_mem_pendingOn]
    _ = (runner.skippedOn site.database.committed ++ runner.pendingOn site.database.committed).map
          Migration.key := by
        rw [List.map_append, skippedOn_keys hkeys hstarts]
    _ = runner.keys := by
        rw [skippedOn_append_pendingOn, keys]

/-! ## Nothing left to do -/

/-- A plan and a run from `site` find nothing left to do: the run makes the four calls of a listing,
none of which fails, and leaves one more copy of the creating statement behind. -/
structure Rests (runner : Runner) (site : Site) : Prop where
  plan : (runner.plan site).outcome
    = .ok { resumePoint := runner.keys.getLast?, applied := runner.keys, pending := [] }
  run : (runner.run site).outcome = .ok { applied := [], skipped := runner.keys }
  calls : (runner.run site).journal.calls = [.batch beginText,
    .batch (Dialect.render runner.dialect.create runner.tableName), .batch commitText,
    .column (Dialect.render runner.dialect.applied runner.tableName)]
  failures : (runner.run site).journal.failures = []
  tables : (runner.run site).state.database.committed.tables = site.database.committed.tables
  batches : (runner.run site).state.database.committed.batches = site.database.committed.batches
    ++ [Dialect.render runner.dialect.create runner.tableName]
  idle : (runner.run site).state.database.working = none

theorem rests_of_settled (h : runner.Settled site) (hcreate : runner.creation.isControl = false)
    (hfaults : site.faults = []) : runner.Rests site := by
  have hlisted := listed_of_no_faults h.idle hcreate hfaults h.sound
  rw [h.recorded] at hlisted
  have hresume := History.resumePoint_of_starts runner.keys_sorted (List.prefix_refl runner.keys)
  have hold : ∀ migration ∈ runner.migrations,
      History.isPending runner.keys.getLast? migration.key = false := fun migration hmem =>
    History.isPending_getLast?_of_mem runner.keys_sorted (List.mem_map_of_mem hmem)
  have hpending : runner.keys.filter (History.isPending runner.keys.getLast?) = [] := by
    rw [List.filter_eq_nil_iff]
    intro key hkey
    rw [History.isPending_getLast?_of_mem runner.keys_sorted hkey]
    decide
  obtain ⟨told, hplan⟩ := plan_of_continued hlisted.listing hresume
  obtain ⟨skips, hskip⟩ := applyFrom_skip hold [] {} _
  rw [List.append_nil] at hskip
  have hrun : runner.run site = ⟨_, _, _⟩ :=
    Work.bind_of_ok_of (Work.mapError_of_ok hplan) hskip
  refine ⟨by rw [hplan, hpending], ?_, ?_, ?_, ?_, ?_, ?_⟩
  · rw [hrun]
    rfl
  · rw [hrun]
    simp only [applyFrom, Work.pure_apply, Journal.calls_append, Journal.calls_logged,
      List.append_nil]
    rfl
  · rw [hrun]
    simp only [applyFrom, Work.pure_apply, Journal.failures_append, Journal.failures_logged,
      List.append_nil]
    rfl
  · rw [hrun]
    rfl
  · rw [hrun]
    exact Content.batches_record _ _
  · rw [hrun]
    rfl

/-- Let a run succeed on a content where no key was recorded, or let no two keys be equal.  Without
faults, whatever else has changed around the connection, a plan or a run after it finds nothing left
to do. -/
theorem run_again (runner : Runner) (first second : Site) (report : Report)
    (hbooks : runner.KeepsBooks first.files) (hok : (runner.run first).outcome = .ok report)
    (hstart : runner.keys.Nodup ∨ first.database.committed.ids runner.tableName = [])
    (hfaults : second.faults = []) : runner.Rests (runner.siteAfter first second) := by
  have hsettled := settled_of_ok hbooks hok hstart
  have hagain : runner.Settled (runner.siteAfter first second) :=
    ⟨hsettled.sound, hsettled.idle, hsettled.recorded⟩
  exact rests_of_settled hagain hbooks.plain.creation hfaults

/-- The second run is asked to stop before it starts. -/
theorem run_again_twoSteps :
    let runner : Runner := { twoSteps with cancel := some (.named "stop") }
    let second : Site := { raised := [.named "stop"] }
    let report : Report := { applied := ["01", "02"] }
    runner.KeepsBooks ({} : Site).files ∧ (runner.run {}).outcome = .ok report ∧
      (runner.keys.Nodup ∨ ({} : Site).database.committed.ids runner.tableName = []) ∧
      second.faults = [] ∧ runner.Rests (runner.siteAfter {} second) := by
  intro runner second report
  have hplain := twoSteps_keepsBooks ({} : Site).files
  have hbooks : runner.KeepsBooks ({} : Site).files :=
    ⟨⟨hplain.dialect, hplain.table⟩, hplain.control⟩
  have hok : (runner.run {}).outcome = .ok report := by decide +kernel
  exact ⟨hbooks, hok, .inr rfl, rfl, run_again runner {} second report hbooks hok (.inr rfl) rfl⟩

end SchemaUpgrade.Runner
