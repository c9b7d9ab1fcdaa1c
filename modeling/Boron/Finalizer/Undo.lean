import Boron.Finalizer.Finalize

namespace Boron.Finalizer
open Sys

namespace Files
variable {files : Files} {path other : String} {entry : Option Entry}

theorem put_self : files.put path entry path = entry := if_pos rfl

theorem put_other (different : other ≠ path) : files.put path entry other = files other := if_neg different

theorem unlink_other (different : other ≠ path) : files.unlink path other = files other := by
  unfold Files.unlink
  cases files path with
  | none => rfl
  | some entry =>
    cases entry with
    | directory release => rfl
    | link target => exact put_other different

theorem release_link {target release : String} (linked : files path = some (.link target))
    (directory : files target = some (.directory release)) : files.release path = some release := by
  unfold Files.release
  rw [linked]
  dsimp only
  rw [directory]

theorem release_directory {release : String} (stands : files path = some (.directory release)) :
    files.release path = some release := by
  unfold Files.release
  rw [stands]

end Files

section
variable {args : Args} {world : World} {stage : Stage} {host : Host}

section
variable (written : Bool)
include written

section
variable (status : JobStatus)
include status

section
variable (rolledBack : Bool)
include rolledBack

@[simp] theorem finish_files : (host.finish written status rolledBack).files = host.files := by
  cases written <;> rfl

@[simp] theorem finish_config : (host.finish written status rolledBack).config = host.config := by
  cases written <;> rfl

@[simp] theorem finish_runtime : (host.finish written status rolledBack).runtime = host.runtime := by
  cases written <;> rfl

@[simp] theorem finish_swapped : (host.finish written status rolledBack).swapped = host.swapped := by
  cases written <;> rfl

@[simp] theorem finish_swapBackFailed :
    (host.finish written status rolledBack).swapBackFailed = host.swapBackFailed := by
  cases written <;> rfl

@[simp] theorem finish_attempted :
    (host.finish written status rolledBack).job.automaticRollbackAttempted = host.job.automaticRollbackAttempted := by
  cases written <;> rfl

end

end

end

theorem orRaise_some {α : Type} (value : α) (host : Host) : (orRaise (some value)).run host = (.ok value, host) := rfl

theorem swapSymlink_ok {target : String} (apart : args.tmp ≠ args.live) (free : host.files args.tmp = none)
    (replaces : ∀ release, host.files args.live ≠ some (.directory release)) (linked : world.symlink stage = true)
    (renamed : world.rename stage = true) :
    (swapSymlink args world stage target).run host =
      (.ok (), { host with files := host.files.put args.live (some (.link target)) }) := by
  have made : host.files.symlink target args.tmp = some (host.files.put args.tmp (some (.link target))) := by
    unfold Files.symlink
    rw [free]
  have live : host.files.put args.tmp (some (.link target)) args.live = host.files args.live := Files.put_other (Ne.symm apart)
  have moved : (host.files.put args.tmp (some (.link target))).rename args.tmp args.live
      = some (((host.files.put args.tmp (some (.link target))).put args.live (some (.link target))).put args.tmp none) := by
    unfold Files.rename
    rw [Files.put_self, live]
    cases stands : host.files args.live with
    | none => rfl
    | some entry =>
      cases entry with
      | link => rfl
      | directory release => exact absurd stands (replaces release)
  have same : ((host.files.put args.tmp (some (.link target))).put args.live (some (.link target))).put args.tmp none
      = host.files.put args.live (some (.link target)) := by
    funext path
    by_cases scratch : path = args.tmp
    · rw [scratch, Files.put_self, Files.put_other apart, free]
    · rw [Files.put_other scratch]
      by_cases here : path = args.live
      · rw [here, Files.put_self, Files.put_self]
      · rw [Files.put_other here, Files.put_other scratch, Files.put_other here]
  refine handle_of_ok ?_
  have first : (osSymlink world stage target args.tmp).run host
      = (.ok (), { host with files := host.files.put args.tmp (some (.link target)) }) := by
    unfold osSymlink
    rw [run_get_bind, made, linked]
    rfl
  rw [bind_of_ok first]
  unfold osRename
  rw [run_get_bind]
  rw [moved, renamed, same]
  rfl

theorem swapSymlink_error {target : String}
    (fails : ¬ (world.symlink stage = true ∧ world.rename stage = true ∧ host.files args.tmp = none)) :
    ∃ files, (swapSymlink args world stage target).run host = (.error (), { host with files }) ∧
      ∀ path, path ≠ args.tmp → files path = host.files path := by
  have cleaned (left : Host) (same : ∀ path, path ≠ args.tmp → left.files path = host.files path) :
      ∃ files, ((do osUnlink world stage args.tmp; fail ()) : Act Unit).run left = (.error (), { left with files }) ∧
        ∀ path, path ≠ args.tmp → files path = host.files path := by
    refine ⟨if world.unlink stage then left.files.unlink args.tmp else left.files, ?_, fun path different => ?_⟩
    · unfold osUnlink
      split <;> rfl
    · split
      · rw [Files.unlink_other different]
        exact same path different
      · exact same path different
  unfold swapSymlink
  by_cases made : host.files args.tmp = none ∧ world.symlink stage = true
  · obtain ⟨free, linked⟩ := made
    have notRenamed : world.rename stage = false := by
      cases renamed : world.rename stage with
      | true => exact absurd ⟨linked, renamed, free⟩ fails
      | false => rfl
    have first : (osSymlink world stage target args.tmp).run host
        = (.ok (), { host with files := host.files.put args.tmp (some (.link target)) }) := by
      unfold osSymlink Files.symlink
      rw [run_get_bind, free, linked]
      rfl
    have second (left : Host) : (osRename world stage args.tmp args.live).run left = (.error (), left) := by
      unfold osRename
      rw [run_get_bind, notRenamed]
      cases left.files.rename args.tmp args.live <;> rfl
    obtain ⟨files, ends, same⟩ := cleaned { host with files := host.files.put args.tmp (some (.link target)) }
      fun path different => Files.put_other different
    refine ⟨files, ?_, same⟩
    rw [handle_of_error ((bind_of_ok first).trans (second _))]
    exact ends
  · have first : (osSymlink world stage target args.tmp).run host = (.error (), host) := by
      unfold osSymlink
      rw [run_get_bind]
      cases linked : world.symlink stage with
      | false => cases host.files.symlink target args.tmp <;> rfl
      | true =>
        unfold Files.symlink
        cases stands : host.files args.tmp with
        | none => exact absurd ⟨stands, linked⟩ made
        | some entry => rfl
    obtain ⟨files, ends, same⟩ := cleaned host fun _ _ => rfl
    refine ⟨files, ?_, same⟩
    rw [handle_of_error (bind_of_error first)]
    exact ends

theorem control_run (action : Runtime → Bool × Runtime) (host : Host) :
    (controlRuntimeMigration args world action).run host = (.ok (releaseCommand args world action host.runtime).1,
        { host with runtime := (releaseCommand args world action host.runtime).2 }) := rfl

theorem restore_run (snapshot : Snapshot) (stage : Stage) (host : Host) :
    (restoreConfig world snapshot stage).run host =
      (.ok ((world.restoring snapshot stage).run snapshot host.config).1,
        { host with config := ((world.restoring snapshot stage).run snapshot host.config).2 }) := rfl

theorem swapBack_unswapped (unswapped : host.swapped = false) : (swapBack args world stage).run host = (.ok true, host) := by
  unfold swapBack
  rw [run_get_bind, unswapped]
  rfl

theorem swapBack_linked (swapped : host.swapped = true) (apart : args.tmp ≠ args.live) (free : host.files args.tmp = none)
    (replaces : ∀ release, host.files args.live ≠ some (.directory release)) (linked : world.symlink stage = true)
    (renamed : world.rename stage = true) :
    (swapBack args world stage).run host =
      (.ok true, { host with files := host.files.put args.live (some (.link args.oldDir)) }) := by
  unfold swapBack
  rw [run_get_bind, if_pos swapped]
  exact handle_of_ok (bind_of_ok (swapSymlink_ok apart free replaces linked renamed))

theorem swapBack_failed (swapped : host.swapped = true)
    (fails : ¬ (world.symlink stage = true ∧ world.rename stage = true ∧ host.files args.tmp = none)) :
    ∃ files, (swapBack args world stage).run host = (.ok false, { host with files, swapBackFailed := true }) ∧
      ∀ path, path ≠ args.tmp → files path = host.files path := by
  have failing : ∃ files, (swapSymlink args world stage args.oldDir).run host = (.error (), { host with files }) ∧
      ∀ path, path ≠ args.tmp → files path = host.files path := swapSymlink_error fails
  obtain ⟨files, ends, same⟩ := failing
  refine ⟨files, ?_, same⟩
  unfold swapBack
  rw [run_get_bind, if_pos swapped]
  exact handle_of_error (bind_of_error ends)

/-- The health of the services does not matter to the rollback, unless a step raises. -/
def resumes (args : Args) (world : World) (stage : Stage) : Bool :=
  (restartAll (world.restart stage) args.units).isSome && (healthCheck false false (world.probes stage)).isSome

def alerted (args : Args) (world : World) (stage : Stage) : Bool :=
  decide ¬ (args.alerts = true ∧ world.alert stage = .raises)

theorem resume_run (swapBackOk : Bool) (host : Host) : (resume args world stage swapBackOk).run host =
    if swapBackOk && !resumes args world stage then (.error (), host) else (.ok (), host) := by
  unfold resume resumes
  cases swapBackOk with
  | false => rfl
  | true =>
    unfold restartServices
    cases restartAll (world.restart stage) args.units with
    | none => rfl
    | some restarted =>
      cases healthCheck false false (world.probes stage) with
      | none => rfl
      | some healthy => rfl

theorem alert_run (host : Host) : (alertAdmin args world stage).run host =
    if alerted args world stage then (.ok (), host) else (.error (), host) := by
  unfold alertAdmin alerted
  by_cases raises : args.alerts = true ∧ world.alert stage = .raises
  · simp [raises]
  · simp [raises]

def claimable (world : World) (stage : Stage) (host : Host) : Bool :=
  world.database .claim stage && !host.job.automaticRollbackAttempted

def stops (args : Args) (world : World) (stage : Stage) : Bool := (stopAll (world.stop stage) args.units).isSome

theorem fail_unclaimed (unclaimed : claimable world stage host = false) :
    (failAndSwapBack args world stage).run host =
      (.ok 2, (host.finish (world.database .finish stage) .failed false).cleanup) := by
  have claims : (claimAutomaticRollback world stage).run host = (.ok false, host) := by
    unfold claimable at unclaimed
    unfold claimAutomaticRollback
    rw [run_get_bind, unclaimed]
    rfl
  unfold failAndSwapBack
  rw [bind_of_ok claims]
  rfl

theorem claim_run (claimed : claimable world stage host = true) :
    (claimAutomaticRollback world stage).run host = (.ok true, host.claim) := by
  unfold claimable at claimed
  unfold claimAutomaticRollback
  rw [run_get_bind, claimed]
  rfl

theorem fail_unstopped (claimed : claimable world stage host = true) (unstopped : stops args world stage = false) :
    (failAndSwapBack args world stage).run host = (.error (), host.claim) := by
  have raised : (stopServicesForRollback args world stage).run host.claim = (.error (), host.claim) := by
    unfold stops at unstopped
    unfold stopServicesForRollback
    rw [Option.isSome_eq_false_iff, Option.isNone_iff_eq_none] at unstopped
    rw [unstopped]
    rfl
  unfold failAndSwapBack
  rw [bind_of_ok (claim_run claimed)]
  exact bind_of_error raised

/-- The command that rolls the host migration back, with its effect. -/
def undoing (args : Args) (world : World) (stage : Stage) (runtime : Runtime) : Bool × Runtime :=
  releaseCommand args world (Runtime.undo (world.undo stage)) runtime

def recovering (world : World) (stage : Stage) (config : Option Config) : Bool × Option Config :=
  (world.restoring .recovery stage).run .recovery config

/-- The state in which the link is swapped back. -/
def Host.undone (args : Args) (world : World) (stage : Stage) (host : Host) : Host :=
  { host.claim with
    runtime := (undoing args world stage host.runtime).2
    config := (recovering world stage host.config).2 }

theorem fail_run {swapBackOk : Bool} {left : Host} (claimed : claimable world stage host = true) (stopped : stops args world stage = true)
    (back : (swapBack args world stage).run (host.undone args world stage) = (.ok swapBackOk, left)) :
    (failAndSwapBack args world stage).run host =
      if swapBackOk && !resumes args world stage then (.error (), left)
      else
        let whole := swapBackOk && (undoing args world stage host.runtime).1 && (recovering world stage host.config).1
        let finished := left.finish (world.database .finish stage) .failed (left.swapped && whole)
        if alerted args world stage then (.ok (if whole then 1 else 2), finished.cleanup) else (.error (), finished) := by
  have quiet : (stopServicesForRollback args world stage).run host.claim = (.ok (), host.claim) := by
    unfold stopServicesForRollback
    obtain ⟨_, stopped⟩ := Option.isSome_iff_exists.mp stopped
    rw [stopped]
    rfl
  unfold failAndSwapBack
  rw [bind_of_ok (claim_run claimed)]
  dsimp only
  rw [if_pos rfl, bind_of_ok quiet, bind_of_ok (control_run _ _), bind_of_ok (restore_run _ _ _)]
  refine (bind_of_ok back).trans ?_
  cases halts : swapBackOk && !resumes args world stage with
  | true =>
    have raised : (resume args world stage swapBackOk).run left = (.error (), left) := by
      rw [resume_run, halts]
      rfl
    exact bind_of_error raised
  | false =>
    have resumed : (resume args world stage swapBackOk).run left = (.ok (), left) := by
      rw [resume_run, halts]
      rfl
    refine (bind_of_ok resumed).trans ?_
    have whole (wrote : Bool) : (left.swapped && wrote && (undoing args world stage host.runtime).1
        && (recovering world stage host.config).1) = (left.swapped && (wrote && (undoing args world stage host.runtime).1
        && (recovering world stage host.config).1)) := by
      rw [Bool.and_assoc, Bool.and_assoc, Bool.and_assoc]
    rw [run_get_bind]
    refine (run_modify_bind _ _ _).trans ?_
    cases quiets : alerted args world stage with
    | false =>
      have raised (host : Host) : (alertAdmin args world stage).run host = (.error (), host) := by
        rw [alert_run, quiets]
        rfl
      refine (bind_of_error (raised _)).trans ?_
      rw [← whole]
      rfl
    | true =>
      have quiet (host : Host) : (alertAdmin args world stage).run host = (.ok (), host) := by
        rw [alert_run, quiets]
        rfl
      refine (bind_of_ok (quiet _)).trans ?_
      rw [← whole]
      rfl

end

end Boron.Finalizer
