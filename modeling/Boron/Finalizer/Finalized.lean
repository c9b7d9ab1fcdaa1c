import Boron.Finalizer.Course

namespace Boron.Finalizer
open Sys

section
variable {args : Args} {world : World} {stage : Stage} {host start left : Host} {old new : String} {code : Nat}

/-- The commands of a rollback, up to the end, that its job row is about. -/
def isWhole (args : Args) (world : World) (stage : Stage) (runtime : Runtime) (config : Option Config) : Bool :=
  (undoing args world stage runtime).1 && (recovering world stage config).1 && resumes args world stage && alerted args world stage

/-- The rollback tells what became of the runtime and of the configuration. -/
structure Reports (args : Args) (world : World) (stage : Stage) (runtime : Runtime) (config : Option Config) : Prop where
  clean : isWhole args world stage runtime config = true → (undoing args world stage runtime).2.migrated = false
  recorded : world.writable → (isWhole args world stage runtime config = true ↔
    (undoing args world stage runtime).2.migrated = false ∧ (recovering world stage config).2 = some (.copy .recovery))

/-- No link fails once the live directory was moved away; a rollback after the swap is claimed,
its services stop, and it tells what it did. An exception may end the run instead. -/
structure Fair (args : Args) (world : World) (start : Host) : Prop where
  linked : strands args world start = true → claimable world .handler start = true ∧
      ¬ (stops args world .handler = true ∧ resumes args world .handler = true ∧ alerted args world .handler = true)
  failed : swapsIn args world start = true → course args world start.runtime = some false →
    claimable world .back start = true ∧ stops args world .back = true ∧ (linksBack world .back = true →
        Reports args world .back (courseRuntime args world start.runtime) (openedConfig args world start))
  raised : swapsIn args world start = true → course args world start.runtime = none →
    claimable world .handler start = true ∧
      (stops args world .handler = true → resumes args world .handler = true → alerted args world .handler = true →
        linksBack world .handler = true →
          Reports args world .handler (courseRuntime args world start.runtime) (openedConfig args world start))

theorem handler_contract (before : Unswapped host) (release : host.files.release args.live = some old)
    (ends : (failAndSwapBack args world stage).run host = (.ok code, left)) : Contract args world old code left := by
  obtain ⟨failed, files, swapped, runtime, config, status, rolledBack⟩ := handled_unswapped before ends
  refine contract_unswapped ?_ failed swapped runtime config status rolledBack
  rw [files]
  exact release

def opened (args : Args) (world : World) (start : Host) : Host := { start with config := openedConfig args world start }

theorem opened_unswapped (layout : Layout args old new start) (config : Option Config) (files : Files) :
    Unswapped { start with config, files } :=
  ⟨layout.unswapped.1, layout.unswapped.2, layout.runtime, layout.job.1, layout.job.2⟩

theorem start_release (layout : Layout args old new start) : start.files.release args.live = some old := by
  rcases layout.current with stands | ⟨linked, directory⟩
  · exact Files.release_directory stands
  · exact Files.release_link linked directory

theorem open_run (start : Host) : (openRollback args world).run start =
    if args.mode = .rollback then
      if stops args world .opening then
        (.ok ((world.restoring .target .opening).run .target start.config).1, opened args world start)
      else (.error (), start)
    else (.ok true, start) := by
  unfold openRollback stopServicesForRollback stops opened openedConfig
  by_cases back : args.mode = .rollback
  · rw [if_pos back, if_pos back, if_pos back]
    cases stopAll (world.stop .opening) args.units with
    | none => rfl
    | some quiet => rfl
  · rw [if_neg back, if_neg back]
    rfl

theorem opened_run (begins : opens args world start = true) :
    (protectedRun args world).run start = (do swap args world; afterSwap args world : Act Nat).run (opened args world start) := by
  have done : (openRollback args world).run start = (.ok true, opened args world start) := by
    rw [open_run]
    unfold opens at begins
    by_cases back : args.mode = .rollback
    · have other : args.mode ≠ .update := by
        rw [back]
        exact nofun
      simp only [decide_eq_false other, Bool.false_or, Bool.and_eq_true] at begins
      rw [if_pos back, if_pos begins.1, begins.2]
    · rw [if_neg back]
      unfold opened openedConfig
      rw [if_neg back]
  exact bind_of_ok done

theorem giveUp_contract (before : Unswapped host) (release : host.files.release args.live = some old)
    (ends : (handle (giveUp args world) fun _ => failAndSwapBack args world .handler).run host = (.ok code, left)) :
    Contract args world old code left := by
  cases restarts : restartAll (world.restart .opening) args.units with
  | none =>
    have raised : (giveUp args world).run host = (.error (), host) := by
      unfold giveUp restartServices
      rw [restarts]
      rfl
    rw [handle_of_error raised] at ends
    exact handler_contract before release ends
  | some restarted =>
    have quits : (giveUp args world).run host = (.ok 2, (host.finish (world.database .finish .opening) .failed false).cleanup) := by
      unfold giveUp restartServices
      rw [restarts]
      rfl
    rw [handle_of_ok quits] at ends
    cases ends
    obtain ⟨status, rolledBack⟩ := finish_job host (world.database .finish .opening) false .failed
    refine contract_unswapped ?_ (by decide) ?_ ?_ nofun (fun completed => ?_) ?_
    · exact (congrArg (Files.release · args.live) (finish_files ..)).trans release
    · exact (finish_swapped ..).trans before.swapped
    · exact (congrArg Runtime.migrated (finish_runtime ..)).trans before.runtime
    · have same := status.symm.trans completed
      rw [before.status] at same
      split at same <;> cases same
    · refine rolledBack.trans ?_
      rw [before.rolledBack, ite_self]

/-- A rollback that cannot begin. -/
theorem unopened_contract (layout : Layout args old new start) (begins : opens args world start = false)
    (ends : (run args world).run start = (.ok code, left)) : Contract args world old code left := by
  have before := opened_unswapped layout (openedConfig args world start) start.files
  unfold opens at begins
  rw [Bool.or_eq_false_iff, decide_eq_false_iff_not] at begins
  have back : args.mode = .rollback := by
    cases mode : args.mode with
    | update => exact absurd mode begins.1
    | rollback => rfl
  have opening : (openRollback args world).run start = _ := open_run start
  rw [if_pos back] at opening
  cases stopped : stops args world .opening with
  | false =>
    rw [stopped, if_neg (by simp)] at opening
    have raised : (protectedRun args world).run start = (.error (), start) := bind_of_error opening
    unfold run at ends
    rw [handle_of_error raised] at ends
    exact handler_contract (opened_unswapped layout start.config start.files) (start_release layout) ends
  | true =>
    have failing := begins.2
    rw [stopped, Bool.true_and] at failing
    rw [stopped, if_pos rfl, failing] at opening
    have begun : (protectedRun args world).run start = (giveUp args world).run (opened args world start) := bind_of_ok opening
    have same : (run args world).run start
        = (handle (giveUp args world) fun _ => failAndSwapBack args world .handler).run (opened args world start) := by
      unfold run handle
      dsimp only
      rw [begun]
    rw [same] at ends
    have live : start.files.release args.live = some old := start_release layout
    exact giveUp_contract before live ends

/-- A swap that fails with the old release live. -/
theorem kept_contract (layout : Layout args old new start) (begins : opens args world start = true)
    (ready : isReadyToLink args world start.files = false ∨
      converts args world start.files = false ∧ linksIn args world start.files = false)
    (ends : (run args world).run start = (.ok code, left)) : Contract args world old code left := by
  have same : (opened args world start).files = start.files := rfl
  obtain ⟨files, fails, release⟩ := swapLive_kept layout same ready
  have raised : (protectedRun args world).run start = (.error (), { opened args world start with files }) :=
    (opened_run begins).trans (bind_of_error (bind_of_error fails))
  unfold run at ends
  rw [handle_of_error raised] at ends
  exact handler_contract (opened_unswapped layout _ files) release ends

/-- Nothing is live any more, and the run returns unless the rollback raises. -/
theorem stranded_iff (layout : Layout args old new start) (stranded : strands args world start = true) :
    (∀ code left, (run args world).run start = (.ok code, left) → Contract args world old code left) ↔
      claimable world .handler start = true ∧
        ¬ (stops args world .handler = true ∧ resumes args world .handler = true ∧ alerted args world .handler = true) := by
  unfold strands at stranded
  simp only [Bool.and_eq_true, Bool.not_eq_true'] at stranded
  obtain ⟨⟨begins, converting⟩, links⟩ := stranded
  have same : (opened args world start).files = start.files := rfl
  obtain ⟨files, fails, gone⟩ := swapLive_stranded layout same converting links
  have raised : (protectedRun args world).run start = (.error (), { opened args world start with files }) :=
    (opened_run begins).trans (bind_of_error (bind_of_error fails))
  have handled : (run args world).run start = (failAndSwapBack args world .handler).run { opened args world start with files } :=
    handle_of_error raised
  have before : Unswapped { opened args world start with files } := opened_unswapped layout _ files
  have broken (code : Nat) (left : Host) (ends : (run args world).run start = (.ok code, left)) :
      ¬ Contract args world old code left := by
    rw [handled] at ends
    obtain ⟨_, files', _⟩ := handled_unswapped before ends
    have same : left.files = files := files'
    intro contract
    have present := contract.present
    unfold Files.present Files.release at present
    rw [same, gone] at present
    cases present
  have claims : claimable world .handler { opened args world start with files } = claimable world .handler start := rfl
  constructor
  · intro all
    cases claimed : claimable world .handler start with
    | false =>
      have ends : (failAndSwapBack args world .handler).run { opened args world start with files } = _ :=
        fail_unclaimed (claims.trans claimed)
      exact absurd (all _ _ (handled.trans ends)) (broken _ _ (handled.trans ends))
    | true =>
      refine ⟨rfl, fun ⟨stopped, resumed, quiet⟩ => ?_⟩
      have ends := fail_run (claims.trans claimed) stopped (swapBack_unswapped before.swapped)
      rw [resumed, quiet] at ends
      exact absurd (all _ _ (handled.trans ends)) (broken _ _ (handled.trans ends))
  · rintro ⟨claimed, interrupted⟩ code left ends
    rw [handled] at ends
    cases stopped : stops args world .handler with
    | false =>
      rw [fail_unstopped (claims.trans claimed) stopped] at ends
      cases ends
    | true =>
      rw [fail_run (claims.trans claimed) stopped (swapBack_unswapped before.swapped)] at ends
      cases resumed : resumes args world .handler with
      | false =>
        rw [resumed] at ends
        cases ends
      | true =>
        cases quiet : alerted args world .handler with
        | false =>
          rw [resumed, quiet] at ends
          cases ends
        | true => exact absurd ⟨stopped, resumed, quiet⟩ interrupted

end

end Boron.Finalizer
