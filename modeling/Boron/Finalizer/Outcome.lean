import Boron.Finalizer.Finalized

namespace Boron.Finalizer
open Sys

section
variable {args : Args} {world : World} {stage : Stage} {host start left : Host} {old new : String} {code : Nat}

structure Swapped (args : Args) (old new : String) (host : Host) : Prop where
  files : IsSwapped args old new host.files
  swapped : host.swapped = true
  failed : host.swapBackFailed = false
  status : host.job.status ≠ .completed
  rolledBack : host.job.rolledBack = false

theorem live_broken (differs : new ≠ old) (release : left.files.release args.live = some new) (linked : left.swapBackFailed = false)
    (failed : code ≠ 0) : ¬ Contract args world old code left := by
  intro contract
  rcases contract.kept failed with same | never
  · rw [release] at same
    exact differs (Option.some.inj same)
  · rw [linked] at never
    cases never

theorem contract_unlinked (differs : new ≠ old) (release : left.files.release args.live = some new)
    (unlinked : left.swapBackFailed = true) (status : left.job.status ≠ .completed) (rolledBack : left.job.rolledBack = false) :
    Contract args world old 2 left := by
  refine ⟨fun never => (by cases never), fun _ => .inr unlinked, ?_, fun never => (by cases never),
    fun _ => ⟨fun completed => absurd completed status, fun never => by cases never⟩, fun _ => ?_⟩
  · unfold Files.present
    rw [release]
    rfl
  · rw [rolledBack]
    refine ⟨fun never => (by cases never), fun undone => ?_⟩
    have same := undone.release
    rw [release] at same
    exact absurd (Option.some.inj same) differs

theorem contract_linked_iff (release : left.files.release args.live = some old) (swapped : left.swapped = true) (failed : code ≠ 0)
    (status : left.job.status ≠ .completed) :
    Contract args world old code left ↔
      (code = 1 → left.runtime.migrated = false ∧ left.config = some (.copy .recovery)) ∧
        (world.writable → (left.job.rolledBack = true ↔ left.runtime.migrated = false ∧ left.config = some (.copy .recovery))) := by
  have undone : IsUndone args old left ↔ left.runtime.migrated = false ∧ left.config = some (.copy .recovery) :=
    ⟨fun undone => ⟨undone.runtime, undone.config⟩, fun both => ⟨swapped, release, both.1, both.2⟩⟩
  constructor
  · intro contract
    exact ⟨fun one => (contract.restored one).2, fun writable => (contract.rolledBack writable).trans undone⟩
  · rintro ⟨restored, recorded⟩
    refine ⟨fun success => absurd success failed, fun _ => .inl release, ?_, fun one => ⟨release, restored one⟩,
      fun _ => ⟨fun completed => absurd completed status, fun success => absurd success failed⟩,
      fun writable => (recorded writable).trans undone.symm⟩
    unfold Files.present
    rw [release]
    rfl

theorem finish_incomplete {written rolledBack : Bool} (status : host.job.status ≠ .completed) :
    (host.finish written .failed rolledBack).job.status ≠ .completed := by
  rw [(finish_job host written rolledBack .failed).1]
  split
  · exact fun never => by cases never
  · exact status

theorem swapped_replaces (swapped : Swapped args old new host) (release : String) :
    host.files args.live ≠ some (.directory release) := by
  rw [swapped.files.live]
  exact fun never => by cases never

/-- The host once the link is swapped back, or could not be. -/
structure SwappedBack (args : Args) (world : World) (stage : Stage) (release : String) (host left : Host) : Prop where
  release : left.files.release args.live = some release
  swapped : left.swapped = true
  status : left.job.status ≠ .completed
  attempted : left.job.automaticRollbackAttempted = true
  runtime : left.runtime = (undoing args world stage host.runtime).2
  config : left.config = (recovering world stage host.config).2

theorem back_linked (layout : Layout args old new start) (swapped : Swapped args old new host) (links : linksBack world stage = true) :
    ∃ left, (swapBack args world stage).run (host.undone args world stage) = (.ok true, left) ∧
      SwappedBack args world stage old host left := by
  unfold linksBack at links
  rw [Bool.and_eq_true] at links
  have replaces (release : String) : (host.undone args world stage).files args.live ≠ some (.directory release) :=
    swapped_replaces swapped release
  refine ⟨_, swapBack_linked swapped.swapped layout.tmpLive swapped.files.tmp replaces links.1 links.2, ?_, swapped.swapped,
    swapped.status, rfl, rfl, rfl⟩
  exact Files.release_link Files.put_self ((Files.put_other (Ne.symm layout.liveOld)).trans swapped.files.old)

theorem back_unlinked (layout : Layout args old new start) (swapped : Swapped args old new host) (links : linksBack world stage = false) :
    ∃ left, (swapBack args world stage).run (host.undone args world stage) = (.ok false, left) ∧
      SwappedBack args world stage new host left ∧ left.swapBackFailed = true ∧ left.job.rolledBack = false := by
  have fails : ¬ (world.symlink stage = true ∧ world.rename stage = true ∧ (host.undone args world stage).files args.tmp = none) := by
    rintro ⟨linked, renamed, _⟩
    unfold linksBack at links
    rw [linked, renamed] at links
    cases links
  have carries : (host.undone args world stage).swapped = true := swapped.swapped
  obtain ⟨files, ends, rest⟩ := swapBack_failed carries fails
  have live : files args.live = some (.link args.newDir) := (rest _ (Ne.symm layout.tmpLive)).trans swapped.files.live
  have directory : files args.newDir = some (.directory new) := (rest _ (Ne.symm layout.tmpNew)).trans swapped.files.new
  exact ⟨_, ends, ⟨Files.release_link live directory, swapped.swapped, swapped.status, rfl, rfl, rfl⟩, rfl, swapped.rolledBack⟩

variable {mid : Host}

theorem SwappedBack.finish {release : String} (back : SwappedBack args world stage release host mid)
    (written rolledBack : Bool) : SwappedBack args world stage release host (mid.finish written .failed rolledBack) :=
  ⟨(congrArg (Files.release · args.live) (finish_files ..)).trans back.release, (finish_swapped ..).trans back.swapped,
    finish_incomplete back.status, (finish_attempted ..).trans back.attempted, (finish_runtime ..).trans back.runtime,
    (finish_config ..).trans back.config⟩

theorem told_iff (back : SwappedBack args world stage old host left) (failed : code ≠ 0)
    (codes : code = 1 ↔ isWhole args world stage host.runtime host.config = true)
    (rolledBack : world.writable → left.job.rolledBack = isWhole args world stage host.runtime host.config) :
    Contract args world old code left ↔ Reports args world stage host.runtime host.config := by
  rw [contract_linked_iff back.release back.swapped failed back.status, codes, back.runtime, back.config]
  have copied (whole : isWhole args world stage host.runtime host.config = true) :
      (recovering world stage host.config).2 = some (.copy .recovery) := by
    unfold isWhole at whole
    simp only [Bool.and_eq_true] at whole
    exact recovering_copy whole.1.1.2
  constructor
  · rintro ⟨clean, recorded⟩
    refine ⟨fun whole => (clean whole).1, fun writable => ?_⟩
    rw [← rolledBack writable]
    exact recorded writable
  · rintro ⟨clean, recorded⟩
    refine ⟨fun whole => ⟨clean whole, copied whole⟩, fun writable => ?_⟩
    rw [rolledBack writable]
    exact recorded writable

theorem linked_run (layout : Layout args old new start) (swapped : Swapped args old new host)
    (claimed : claimable world stage host = true) (stopped : stops args world stage = true) (links : linksBack world stage = true) :
    ∃ mid, SwappedBack args world stage old host mid ∧ (failAndSwapBack args world stage).run host =
      if resumes args world stage then
        let whole := (undoing args world stage host.runtime).1 && (recovering world stage host.config).1
        let finished := mid.finish (world.database .finish stage) .failed whole
        if alerted args world stage then (.ok (if whole then 1 else 2), finished.cleanup) else (.error (), finished)
      else (.error (), mid) := by
  obtain ⟨mid, run, back⟩ := back_linked layout swapped links
  have ends := fail_run claimed stopped run
  rw [back.swapped] at ends
  refine ⟨mid, back, ends.trans ?_⟩
  cases resumes args world stage <;> rfl

theorem unlinked_run (layout : Layout args old new start) (swapped : Swapped args old new host)
    (claimed : claimable world stage host = true) (stopped : stops args world stage = true) (links : linksBack world stage = false) :
    ∃ mid, SwappedBack args world stage new host mid ∧ mid.swapBackFailed = true ∧ mid.job.rolledBack = false ∧
      (failAndSwapBack args world stage).run host =
        if alerted args world stage then (.ok 2, (mid.finish (world.database .finish stage) .failed false).cleanup)
        else (.error (), mid.finish (world.database .finish stage) .failed false) := by
  obtain ⟨mid, run, back, failed, rolledBack⟩ := back_unlinked layout swapped links
  have ends := fail_run claimed stopped run
  refine ⟨mid, back, failed, rolledBack, ends.trans ?_⟩
  rw [back.swapped]
  rfl

theorem unlinked_contract (differs : new ≠ old) (back : SwappedBack args world stage new host mid)
    (failed : mid.swapBackFailed = true) (rolledBack : mid.job.rolledBack = false) (written : Bool) :
    Contract args world old 2 (mid.finish written .failed false).cleanup := by
  have ended := back.finish written false
  refine contract_unlinked differs ended.release ((finish_swapBackFailed ..).trans failed) ended.status ?_
  refine (finish_job _ _ _ _).2.trans ?_
  rw [rolledBack, ite_self]

theorem unclaimed_broken (layout : Layout args old new start) (swapped : Swapped args old new host)
    (unclaimed : claimable world stage host = false) :
    ∃ code left, (failAndSwapBack args world stage).run host = (.ok code, left) ∧ ¬ Contract args world old code left := by
  refine ⟨_, _, fail_unclaimed unclaimed, live_broken layout.differs ?_ ?_ (by decide)⟩
  · refine (congrArg (Files.release · args.live) (finish_files ..)).trans ?_
    exact Files.release_link swapped.files.live swapped.files.new
  · exact (finish_swapBackFailed ..).trans swapped.failed

theorem isWhole_ended (host : Host) (resumed : resumes args world stage = true) (quiet : alerted args world stage = true) :
    isWhole args world stage host.runtime host.config
      = ((undoing args world stage host.runtime).1 && (recovering world stage host.config).1) := by
  unfold isWhole
  rw [resumed, quiet, Bool.and_true, Bool.and_true]

theorem ended_iff (back : SwappedBack args world stage old host mid) :
    Contract args world old (if isWhole args world stage host.runtime host.config then 1 else 2)
        (mid.finish (world.database .finish stage) .failed (isWhole args world stage host.runtime host.config)).cleanup ↔
      Reports args world stage host.runtime host.config := by
  have ended := back.finish (world.database .finish stage) (isWhole args world stage host.runtime host.config)
  refine told_iff ⟨ended.release, ended.swapped, ended.status, ended.attempted, ended.runtime, ended.config⟩ ?_ ?_
    fun writable => ?_
  · split <;> decide
  · cases isWhole args world stage host.runtime host.config <;> simp
  · rw [writable .finish stage]
    rfl

theorem handler_iff (layout : Layout args old new start) (swapped : Swapped args old new host) :
    (∀ code left, (failAndSwapBack args world stage).run host = (.ok code, left) → Contract args world old code left) ↔
      claimable world stage host = true ∧
        (stops args world stage = true → resumes args world stage = true → alerted args world stage = true →
          linksBack world stage = true → Reports args world stage host.runtime host.config) := by
  cases claimed : claimable world stage host with
  | false =>
    obtain ⟨code, left, ends, broken⟩ := unclaimed_broken layout swapped claimed
    exact ⟨fun all => absurd (all code left ends) broken, fun never => by cases never.1⟩
  | true =>
    cases stopped : stops args world stage with
    | false =>
      rw [fail_unstopped claimed stopped]
      exact ⟨fun _ => ⟨rfl, fun never => by cases never⟩, fun _ code left never => by cases never⟩
    | true =>
      cases links : linksBack world stage with
      | false =>
        obtain ⟨mid, back, failed, rolledBack, ends⟩ := unlinked_run layout swapped claimed stopped links
        refine ⟨fun _ => ⟨rfl, fun _ _ _ never => by cases never⟩, fun _ code left returns => ?_⟩
        rw [ends] at returns
        split at returns
        · cases returns
          exact unlinked_contract layout.differs back failed rolledBack _
        · cases returns
      | true =>
        obtain ⟨mid, back, ends⟩ := linked_run layout swapped claimed stopped links
        cases resumed : resumes args world stage with
        | false =>
          rw [resumed] at ends
          rw [ends]
          exact ⟨fun _ => ⟨rfl, fun _ never => by cases never⟩, fun _ code left never => by cases never⟩
        | true =>
          cases quiet : alerted args world stage with
          | false =>
            rw [resumed, quiet] at ends
            rw [ends]
            exact ⟨fun _ => ⟨rfl, fun _ _ never => by cases never⟩, fun _ code left never => by cases never⟩
          | true =>
            rw [resumed, quiet] at ends
            have whole := isWhole_ended host resumed quiet
            have told := ended_iff back
            rw [← whole] at ends
            rw [ends]
            refine ⟨fun all => ⟨rfl, fun _ _ _ _ => told.mp (all _ _ rfl)⟩, fun reports code left returns => ?_⟩
            cases returns
            exact told.mpr (reports.2 rfl rfl rfl rfl)

theorem attempted_unclaimed (attempted : host.job.automaticRollbackAttempted = true) : claimable world stage host = false := by
  unfold claimable
  rw [attempted]
  exact Bool.and_false _

theorem interrupted_iff (back : SwappedBack args world .back old host mid)
    (interrupted : isWhole args world .back host.runtime host.config = false) :
    (∀ code left, (failAndSwapBack args world .handler).run mid = (.ok code, left) → Contract args world old code left) ↔
      Reports args world .back host.runtime host.config := by
  rw [fail_unclaimed (attempted_unclaimed back.attempted)]
  have told : Contract args world old 2 (mid.finish (world.database .finish .handler) .failed false).cleanup ↔
      Reports args world .back host.runtime host.config := by
    have ended := back.finish (world.database .finish .handler) false
    refine told_iff ⟨ended.release, ended.swapped, ended.status, ended.attempted, ended.runtime, ended.config⟩ (by decide) ?_
      fun writable => ?_
    · rw [interrupted]
      simp
    · rw [writable .finish .handler, interrupted]
      rfl
  refine ⟨fun all => told.mp (all _ _ rfl), fun reports code left returns => ?_⟩
  cases returns
  exact told.mpr reports

theorem back_iff (layout : Layout args old new start) (swapped : Swapped args old new host) :
    (∀ code left, (handle (failAndSwapBack args world .back) fun _ => failAndSwapBack args world .handler).run host = (.ok code, left) →
        Contract args world old code left) ↔
      claimable world .back host = true ∧ stops args world .back = true ∧
        (linksBack world .back = true → Reports args world .back host.runtime host.config) := by
  cases claimed : claimable world .back host with
  | false =>
    obtain ⟨code, left, ends, broken⟩ := unclaimed_broken layout swapped claimed
    exact ⟨fun all => absurd (all code left (handle_of_ok ends)) broken, fun never => by cases never.1⟩
  | true =>
    cases stopped : stops args world .back with
    | false =>
      have again : Swapped args old new host.claim := ⟨swapped.files, swapped.swapped, swapped.failed, swapped.status, swapped.rolledBack⟩
      have refused : claimable world .handler host.claim = false := attempted_unclaimed rfl
      obtain ⟨code, left, ends, broken⟩ := unclaimed_broken layout again refused
      have returns := (handle_of_error (h := fun _ => failAndSwapBack args world .handler) (fail_unstopped claimed stopped)).trans ends
      exact ⟨fun all => absurd (all code left returns) broken, fun never => by cases never.2.1⟩
    | true =>
      cases links : linksBack world .back with
      | false =>
        obtain ⟨mid, back, failed, rolledBack, ends⟩ := unlinked_run layout swapped claimed stopped links
        refine ⟨fun _ => ⟨rfl, rfl, fun never => by cases never⟩, fun _ code left returns => ?_⟩
        cases quiet : alerted args world .back with
        | true =>
          rw [quiet] at ends
          rw [handle_of_ok ends] at returns
          cases returns
          exact unlinked_contract layout.differs back failed rolledBack _
        | false =>
          rw [quiet] at ends
          have later := back.finish (world.database .finish .back) false
          have rolledBack' : (mid.finish (world.database .finish .back) .failed false).job.rolledBack = false := by
            refine (finish_job _ _ _ _).2.trans ?_
            rw [rolledBack, ite_self]
          rw [handle_of_error ends, fail_unclaimed (attempted_unclaimed later.attempted)] at returns
          cases returns
          exact unlinked_contract layout.differs later ((finish_swapBackFailed ..).trans failed) rolledBack' _
      | true =>
        obtain ⟨mid, back, ends⟩ := linked_run layout swapped claimed stopped links
        have interrupted (left : Host) (raised : (failAndSwapBack args world .back).run host = (.error (), left))
            (later : SwappedBack args world .back old host left)
            (incomplete : isWhole args world .back host.runtime host.config = false) :
            (∀ code left, (handle (failAndSwapBack args world .back) fun _ => failAndSwapBack args world .handler).run host
                = (.ok code, left) → Contract args world old code left) ↔
              true = true ∧ true = true ∧ (true = true → Reports args world .back host.runtime host.config) := by
          rw [handle_of_error raised, interrupted_iff later incomplete]
          exact ⟨fun reports => ⟨rfl, rfl, fun _ => reports⟩, fun all => all.2.2 rfl⟩
        cases resumed : resumes args world .back with
        | false =>
          rw [resumed] at ends
          refine interrupted mid ends back ?_
          unfold isWhole
          rw [resumed, Bool.and_false, Bool.false_and]
        | true =>
          cases quiet : alerted args world .back with
          | false =>
            rw [resumed, quiet] at ends
            refine interrupted _ ends (back.finish _ _) ?_
            unfold isWhole
            rw [quiet, Bool.and_false]
          | true =>
            rw [resumed, quiet] at ends
            have told := ended_iff back
            rw [← isWhole_ended host resumed quiet] at ends
            rw [handle_of_ok ends]
            refine ⟨fun all => ⟨rfl, rfl, fun _ => told.mp (all _ _ rfl)⟩, fun reports code left returns => ?_⟩
            cases returns
            exact told.mpr (reports.2.2 rfl)

theorem succeeded_contract (differs : new ≠ old) (swapped : Swapped args old new host) (written : Bool) (runtime : Runtime) :
    (world.writable → written = true) →
      Contract args world old 0 (({ host with runtime } : Host).finish written .completed false).cleanup := by
  intro writes
  have live : (({ host with runtime } : Host).finish written .completed false).cleanup.files.release args.live = some new := by
    refine (congrArg (Files.release · args.live) (finish_files ..)).trans ?_
    exact Files.release_link swapped.files.live swapped.files.new
  refine ⟨fun _ => ?_, fun failed => absurd rfl failed, ?_, fun never => (by cases never), fun writable => ?_, fun writable => ?_⟩
  · exact (congrFun (finish_files ..) args.live).trans swapped.files.live
  · unfold Files.present
    rw [live]
    rfl
  · rw [writes writable]
    exact ⟨fun _ => rfl, fun _ => rfl⟩
  · rw [writes writable]
    refine ⟨fun never => (by cases never), fun undone => ?_⟩
    have same := undone.release
    rw [writes writable] at live
    rw [live] at same
    exact absurd (Option.some.inj same) differs

/-- A run whose swap succeeds. -/
theorem swapped_iff (layout : Layout args old new start) (swaps : swapsIn args world start = true) :
    (∀ code left, (run args world).run start = (.ok code, left) → Contract args world old code left) ↔
      (course args world start.runtime = some false →
        claimable world .back start = true ∧ stops args world .back = true ∧ (linksBack world .back = true →
          Reports args world .back (courseRuntime args world start.runtime) (openedConfig args world start))) ∧
      (course args world start.runtime = none → claimable world .handler start = true ∧
          (stops args world .handler = true → resumes args world .handler = true → alerted args world .handler = true →
            linksBack world .handler = true →
              Reports args world .handler (courseRuntime args world start.runtime) (openedConfig args world start))) := by
  unfold swapsIn at swaps
  simp only [Bool.and_eq_true] at swaps
  obtain ⟨⟨begins, ready⟩, links⟩ := swaps
  have same : (opened args world start).files = start.files := rfl
  obtain ⟨files, done, isSwapped⟩ := swapLive_ok layout same ready links
  have swapped (runtime : Runtime) : Swapped args old new { opened args world start with files, swapped := true, runtime } := by
    refine ⟨isSwapped, rfl, layout.unswapped.2, ?_, layout.job.2⟩
    have running : start.job.status = .finalizing := layout.job.1
    exact fun completed => by cases running.symm.trans completed
  have begun : (protectedRun args world).run start
      = (afterSwap args world).run { opened args world start with files, swapped := true } := by
    have swapping : (swap args world).run (opened args world start) = (.ok (), { opened args world start with files, swapped := true }) :=
      bind_of_ok done
    exact (opened_run begins).trans (bind_of_ok swapping)
  rw [afterSwap_run] at begun
  have runtime : ({ opened args world start with files, swapped := true } : Host).runtime = start.runtime := rfl
  rw [runtime] at begun
  cases passes : course args world start.runtime with
  | none =>
    rw [passes] at begun
    have handled : (run args world).run start = (failAndSwapBack args world .handler).run _ := handle_of_error begun
    rw [handled]
    refine (handler_iff layout (swapped (courseRuntime args world start.runtime))).trans ⟨fun all => ?_, fun all => all.2 rfl⟩
    exact ⟨fun never => (by cases never), fun _ => all⟩
  | some passed =>
    rw [passes] at begun
    cases passed with
    | true =>
      have returns : (run args world).run start = _ := handle_of_ok begun
      rw [returns]
      refine ⟨fun _ => ⟨fun never => (by cases never), fun never => by cases never⟩, fun _ code left ends => ?_⟩
      cases ends
      exact succeeded_contract layout.differs (swapped start.runtime) _ _ fun writable => writable .finish .forward
    | false =>
      have returns : (run args world).run start
          = (handle (failAndSwapBack args world .back) fun _ => failAndSwapBack args world .handler).run
            { opened args world start with files, swapped := true, runtime := courseRuntime args world start.runtime } := by
        unfold run handle
        dsimp only
        rw [begun]
      rw [returns]
      refine (back_iff layout (swapped (courseRuntime args world start.runtime))).trans ⟨fun all => ?_, fun all => all.1 rfl⟩
      exact ⟨fun _ => all, fun never => by cases never⟩

end

def World.fine : World :=
  { stop := fun _ _ => .zero, restart := fun _ _ => .zero, probes := fun _ => [{ api := .good, daemon := .good }]
    restoring := fun _ _ => { supplied := true, safe := true, copied := true, movedAside := true, installed := true
                              movedBack := true, removed := true }
    symlink := fun _ => true, rename := fun _ => true, unlink := fun _ => true, script := true, python := true
    migrate := { succeeds := true, progress := .finished }, commit := { succeeds := true, progress := .finished }
    undo := fun _ => { succeeds := true, progress := .finished }, readiness := .checks [], report := true
    database := fun _ _ => true, alert := fun _ => .good }

/-- The first update of a panel, whose live path is a directory. -/
def firstUpdate : Args :=
  { live := "/opt/boron", tmp := "/opt/boron.swap.7", newDir := "/opt/boron-1.1", oldDir := "/opt/boron-1.0", mode := .update
    convertLiveDir := true, units := ["boron-provisiond", "boron-api"], alerts := true }

def installed : Host :=
  { files := fun path => if path = "/opt/boron" then some (.directory "1.0")
      else if path = "/opt/boron-1.1" then some (.directory "1.1") else none
    config := some .before, runtime := { migrated := false, backup := false }
    job := { status := .finalizing, rolledBack := false, automaticRollbackAttempted := false }
    privateState := true, swapped := false, swapBackFailed := false }

theorem firstUpdate_layout : Layout firstUpdate "1.0" "1.1" installed :=
  ⟨by decide, by decide, by decide, by decide, by decide, by decide, by decide, by decide, .inl (by decide),
    ⟨rfl, rfl⟩, rfl, ⟨rfl, rfl⟩⟩

/-- The symbolic link of the first update cannot be made. -/
def World.noLink : World := { World.fine with symlink := fun stage => decide (stage ≠ .forward) }

end Boron.Finalizer
