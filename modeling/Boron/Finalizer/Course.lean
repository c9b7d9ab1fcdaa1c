import Boron.Finalizer.Undo

namespace Boron.Finalizer

/-- What stands before the run: the new release next to the live path, which is the directory
of the old release or a link to it. -/
structure Layout (args : Args) (old new : String) (start : Host) : Prop where
  liveNew : args.live ≠ args.newDir
  liveOld : args.live ≠ args.oldDir
  newOld : args.newDir ≠ args.oldDir
  tmpLive : args.tmp ≠ args.live
  tmpNew : args.tmp ≠ args.newDir
  tmpOld : args.tmp ≠ args.oldDir
  staged : start.files args.newDir = some (.directory new)
  differs : new ≠ old
  current : start.files args.live = some (.directory old) ∨
    start.files args.live = some (.link args.oldDir) ∧ start.files args.oldDir = some (.directory old)
  job : start.job.status = .finalizing ∧ start.job.rolledBack = false
  runtime : start.runtime.migrated = false
  unswapped : start.swapped = false ∧ start.swapBackFailed = false

def World.writable (world : World) : Prop := ∀ access stage, world.database access stage = true

/-- The swap was undone together with the runtime and the configuration. -/
structure IsUndone (args : Args) (old : String) (left : Host) : Prop where
  swapped : left.swapped = true
  release : left.files.release args.live = some old
  runtime : left.runtime.migrated = false
  config : left.config = some (.copy .recovery)

structure Contract (args : Args) (world : World) (old : String) (code : Nat) (left : Host) : Prop where
  applied : code = 0 → left.files args.live = some (.link args.newDir)
  kept : code ≠ 0 → left.files.release args.live = some old ∨ left.swapBackFailed = true
  present : left.files.present args.live = true
  restored : code = 1 → left.files.release args.live = some old ∧ left.runtime.migrated = false ∧
    left.config = some (.copy .recovery)
  completed : world.writable → (left.job.status = .completed ↔ code = 0)
  rolledBack : world.writable → (left.job.rolledBack = true ↔ IsUndone args old left)

section
variable (args : Args) (world : World)

def opens (start : Host) : Bool :=
  args.mode = .update || (stops args world .opening && ((world.restoring .target .opening).run .target start.config).1)

def openedConfig (start : Host) : Option Config :=
  if args.mode = .rollback then ((world.restoring .target .opening).run .target start.config).2 else start.config

/-- The live directory is moved to the path of the old release. -/
def converts (files : Files) : Bool :=
  args.convertLiveDir && !files.isLink args.live && !files.present args.oldDir
    && (files.rename args.live args.oldDir).isSome && world.rename .opening

def linksIn (files : Files) : Bool := world.symlink .forward && world.rename .forward && (files args.tmp).isNone

def isReadyToLink (files : Files) : Bool :=
  converts args world files || (!args.convertLiveDir && files.isLink args.live)

def swapsIn (start : Host) : Bool := opens args world start && isReadyToLink args world start.files && linksIn args world start.files

/-- The live directory is moved away, and no link takes its place. -/
def strands (start : Host) : Bool := opens args world start && converts args world start.files && !linksIn args world start.files

def migration (runtime : Runtime) : Bool × Runtime := releaseCommand args world (Runtime.migrate world.migrate) runtime

def commitment (runtime : Runtime) : Bool × Runtime :=
  releaseCommand args world (Runtime.commit world.commit) (migration args world runtime).2

/-- How the new release does until its migration is committed; an exception is none. -/
def isReady (runtime : Runtime) : Option Bool :=
  if (migration args world runtime).1 then
    match restartAll (world.restart .forward) args.units with
    | none => none
    | some false => some false
    | some true => match healthCheck false false (world.probes .forward) with
      | none => none
      | some false => some false
      | some true => match readiness args world with
        | none => none
        | some answer => some (answer = some false && recordRuntimeChanges args world)
  else some false

def course (runtime : Runtime) : Option Bool :=
  match isReady args world runtime with
  | some true => some (commitment args world runtime).1
  | other => other

def courseRuntime (runtime : Runtime) : Runtime :=
  match isReady args world runtime with
  | some true => (commitment args world runtime).2
  | _ => (migration args world runtime).2

def linksBack (stage : Stage) : Bool := world.symlink stage && world.rename stage

end

section
variable {args : Args} {world : World} {stage : Stage} {host start : Host} {old new : String}

theorem recovering_copy {config : Option Config} (restored : (recovering world stage config).1 = true) :
    (recovering world stage config).2 = some (.copy .recovery) := by
  unfold recovering Restoring.run at restored ⊢
  split at restored
  · next begins =>
    split at restored
    · next installed =>
      rw [if_pos begins, if_pos installed]
    · cases restored
  · cases restored

theorem undo_clean {command : Command} {runtime : Runtime} (clean : runtime.migrated = false) :
    (runtime.undo command).2.migrated = false := by
  unfold Runtime.undo
  split
  · split
    · rfl
    · split
      · rfl
      · exact clean
  · exact clean

theorem undoing_clean {runtime : Runtime} (clean : runtime.migrated = false) :
    (undoing args world stage runtime).2.migrated = false := by
  unfold undoing releaseCommand
  split
  · split
    · exact undo_clean clean
    · exact clean
  · exact clean

theorem isUndone_unswapped {left : Host} (unswapped : left.swapped = false) : ¬ IsUndone args old left := by
  intro undone
  rw [undone.swapped] at unswapped
  cases unswapped

structure Unswapped (host : Host) : Prop where
  swapped : host.swapped = false
  failed : host.swapBackFailed = false
  runtime : host.runtime.migrated = false
  status : host.job.status = .finalizing
  rolledBack : host.job.rolledBack = false

theorem finish_job (host : Host) (written rolledBack : Bool) (status : JobStatus) :
    (host.finish written status rolledBack).job.status = (if written then status else host.job.status) ∧
      (host.finish written status rolledBack).job.rolledBack = (if written then rolledBack else host.job.rolledBack) := by
  cases written <;> exact ⟨rfl, rfl⟩

theorem contract_unswapped {code : Nat} {left : Host} (release : left.files.release args.live = some old) (failed : code ≠ 0)
    (swapped : left.swapped = false) (runtime : left.runtime.migrated = false)
    (config : code = 1 → left.config = some (.copy .recovery)) (status : left.job.status ≠ .completed)
    (rolledBack : left.job.rolledBack = false) : Contract args world old code left := by
  refine ⟨fun success => absurd success failed, fun _ => .inl release, ?_, fun one => ⟨release, runtime, config one⟩, fun _ => ?_, fun _ => ?_⟩
  · unfold Files.present
    rw [release]
    rfl
  · exact ⟨fun completed => absurd completed status, fun success => absurd success failed⟩
  · rw [rolledBack]
    exact ⟨nofun, fun undone => absurd undone (isUndone_unswapped swapped)⟩

theorem handled_unswapped (before : Unswapped host) {code : Nat} {left : Host}
    (ends : (failAndSwapBack args world stage).run host = (.ok code, left)) :
    code ≠ 0 ∧ left.files = host.files ∧ left.swapped = false ∧ left.runtime.migrated = false ∧
      (code = 1 → left.config = some (.copy .recovery)) ∧ left.job.status ≠ .completed ∧ left.job.rolledBack = false := by
  have status (written : Bool) : (if written then JobStatus.failed else host.job.status) ≠ .completed := by
    cases written
    · rw [if_neg (by simp), before.status]
      exact nofun
    · exact nofun
  have rolledBack (written : Bool) : (if written then false else host.job.rolledBack) = false := by
    rw [before.rolledBack, ite_self]
  cases claimed : claimable world stage host with
  | false =>
    rw [fail_unclaimed claimed] at ends
    cases ends
    obtain ⟨status', rolledBack'⟩ := finish_job host (world.database .finish stage) false .failed
    refine ⟨by decide, finish_files .., ?_, ?_, nofun, ?_, ?_⟩
    · exact (finish_swapped ..).trans before.swapped
    · exact (congrArg Runtime.migrated (finish_runtime ..)).trans before.runtime
    · exact fun completed => status _ (status'.symm.trans completed)
    · exact rolledBack'.trans (rolledBack _)
  | true =>
    cases stopped : stops args world stage with
    | false =>
      rw [fail_unstopped claimed stopped] at ends
      cases ends
    | true =>
      have swapped : (host.undone args world stage).swapped = false := before.swapped
      rw [fail_run claimed stopped (swapBack_unswapped swapped)] at ends
      split at ends
      · cases ends
      · split at ends
        · cases ends
          rw [swapped, Bool.false_and]
          obtain ⟨status', rolledBack'⟩ := finish_job (host.undone args world stage) (world.database .finish stage) false .failed
          refine ⟨?_, finish_files .., ?_, ?_, fun one => ?_, ?_, ?_⟩
          · split <;> decide
          · exact (finish_swapped ..).trans swapped
          · exact (congrArg Runtime.migrated (finish_runtime ..)).trans (undoing_clean before.runtime)
          · refine (finish_config ..).trans (recovering_copy ?_)
            split at one
            · next whole => exact (Bool.and_eq_true_iff.mp whole).2
            · cases one
          · exact fun completed => status _ (status'.symm.trans completed)
          · exact rolledBack'.trans (rolledBack _)
        · cases ends

end

end Boron.Finalizer

namespace Boron.Finalizer

section
variable {args : Args} {world : World} {host start : Host} {old new : String}

/-- The paths after the swap. -/
structure IsSwapped (args : Args) (old new : String) (files : Files) : Prop where
  live : files args.live = some (.link args.newDir)
  new : files args.newDir = some (.directory new)
  old : files args.oldDir = some (.directory old)
  tmp : files args.tmp = none

theorem linksIn_iff {files : Files} :
    linksIn args world files = true ↔ world.symlink .forward = true ∧ world.rename .forward = true ∧ files args.tmp = none := by
  unfold linksIn
  rw [Bool.and_eq_true, Bool.and_eq_true, Option.isNone_iff_eq_none, and_assoc]

theorem converts_directory (layout : Layout args old new start) (ready : converts args world start.files = true) :
    args.convertLiveDir = true ∧ start.files.isLink args.live = false ∧ start.files.present args.oldDir = false ∧
      world.rename .opening = true ∧ start.files.rename args.live args.oldDir
        = some ((start.files.put args.oldDir (some (.directory old))).put args.live none) := by
  unfold converts at ready
  simp only [Bool.and_eq_true, Bool.not_eq_true'] at ready
  obtain ⟨⟨⟨⟨converting, noLink⟩, absent⟩, moves⟩, renames⟩ := ready
  refine ⟨converting, noLink, absent, renames, ?_⟩
  rcases layout.current with stands | ⟨linked, _⟩
  · unfold Files.rename at moves ⊢
    rw [stands] at moves ⊢
    cases target : start.files args.oldDir with
    | none => rfl
    | some entry =>
      rw [target] at moves
      cases moves
  · unfold Files.isLink at noLink
    rw [linked] at noLink
    cases noLink

/-- The old release is at its own path, and nothing is live. -/
def movedFiles (args : Args) (old : String) (files : Files) : Files :=
  (files.put args.oldDir (some (.directory old))).put args.live none

structure IsMoved (args : Args) (old new : String) (start files : Files) : Prop where
  live : files args.live = none
  new : files args.newDir = some (.directory new)
  old : files args.oldDir = some (.directory old)
  tmp : files args.tmp = start args.tmp

section
variable (layout : Layout args old new start)
include layout

theorem moved_files : IsMoved args old new start.files (movedFiles args old start.files) := by
  refine ⟨Files.put_self, ?_, ?_, ?_⟩
  · exact (Files.put_other (Ne.symm layout.liveNew)).trans ((Files.put_other layout.newOld).trans layout.staged)
  · exact (Files.put_other (Ne.symm layout.liveOld)).trans Files.put_self
  · exact (Files.put_other layout.tmpLive).trans (Files.put_other layout.tmpOld)

theorem convert_run (same : host.files = start.files) (ready : converts args world start.files = true) :
    (swapLive args world).run host = (swapSymlink args world .forward args.newDir).run
      { host with files := movedFiles args old start.files } := by
  obtain ⟨converting, noLink, absent, renames, moves⟩ := converts_directory layout ready
  have moved : (osRename world .opening args.live args.oldDir).run host
      = (.ok (), { host with files := movedFiles args old start.files }) := by
    unfold osRename
    rw [Sys.run_get_bind, same, moves, renames]
    rfl
  unfold swapLive convertLiveDir
  rw [if_pos converting, Sys.run_get_bind, same, noLink, absent]
  exact Sys.bind_of_ok moved

theorem swapped_put {files : Files} (new' : files args.newDir = some (.directory new))
    (old' : files args.oldDir = some (.directory old)) (tmp : files args.tmp = none) :
    IsSwapped args old new (files.put args.live (some (.link args.newDir))) :=
  ⟨Files.put_self, (Files.put_other (Ne.symm layout.liveNew)).trans new', (Files.put_other (Ne.symm layout.liveOld)).trans old',
    (Files.put_other layout.tmpLive).trans tmp⟩

theorem swapLive_ok (same : host.files = start.files)
    (ready : isReadyToLink args world start.files = true) (links : linksIn args world start.files = true) :
    ∃ files, (swapLive args world).run host = (.ok (), { host with files }) ∧ IsSwapped args old new files := by
  obtain ⟨linked, renamed, free⟩ := linksIn_iff.mp links
  unfold isReadyToLink at ready
  rw [Bool.or_eq_true] at ready
  rcases ready with converting | direct
  · obtain ⟨gone, new', old', tmp⟩ := moved_files layout
    have replaces (release : String) : movedFiles args old start.files args.live ≠ some (.directory release) := by
      rw [gone]
      exact nofun
    have done : (swapSymlink args world .forward args.newDir).run { host with files := movedFiles args old start.files }
        = (.ok (), { host with files := (movedFiles args old start.files).put args.live (some (.link args.newDir)) }) :=
      swapSymlink_ok layout.tmpLive (tmp.trans free) replaces linked renamed
    exact ⟨_, (convert_run layout same converting).trans done, swapped_put layout new' old' (tmp.trans free)⟩
  · simp only [Bool.and_eq_true, Bool.not_eq_true'] at direct
    obtain ⟨plain, isLink⟩ := direct
    rcases layout.current with stands | ⟨stands, directory⟩
    · unfold Files.isLink at isLink
      rw [stands] at isLink
      cases isLink
    · have replaces (release : String) : host.files args.live ≠ some (.directory release) := by
        rw [same, stands]
        exact nofun
      have done : (swapSymlink args world .forward args.newDir).run host
          = (.ok (), { host with files := host.files.put args.live (some (.link args.newDir)) }) :=
        swapSymlink_ok layout.tmpLive (by rw [same]; exact free) replaces linked renamed
      refine ⟨host.files.put args.live (some (.link args.newDir)), ?_, ?_⟩
      · unfold swapLive
        rw [plain, if_neg (by simp), Sys.run_get_bind, same, isLink]
        rw [same] at done
        exact done
      · rw [same]
        exact swapped_put layout layout.staged directory free

theorem swapLive_stranded (same : host.files = start.files)
    (ready : converts args world start.files = true) (links : linksIn args world start.files = false) :
    ∃ files, (swapLive args world).run host = (.error (), { host with files }) ∧ files args.live = none := by
  have moved := moved_files layout
  have fails : ¬ (world.symlink .forward = true ∧ world.rename .forward = true
      ∧ ({ host with files := movedFiles args old start.files } : Host).files args.tmp = none) := by
    rintro ⟨linked, renamed, free⟩
    rw [linksIn_iff.mpr ⟨linked, renamed, moved.tmp.symm.trans free⟩] at links
    cases links
  have failing : ∃ files, (swapSymlink args world .forward args.newDir).run { host with files := movedFiles args old start.files }
      = (.error (), { host with files }) ∧ ∀ path, path ≠ args.tmp → files path = movedFiles args old start.files path :=
    swapSymlink_error fails
  obtain ⟨files, ends, rest⟩ := failing
  exact ⟨files, (convert_run layout same ready).trans ends, (rest args.live (Ne.symm layout.tmpLive)).trans moved.live⟩

theorem swapLive_kept (same : host.files = start.files) (ready : isReadyToLink args world start.files = false ∨
      converts args world start.files = false ∧ linksIn args world start.files = false) :
    ∃ files, (swapLive args world).run host = (.error (), { host with files }) ∧ files.release args.live = some old := by
  have stays : start.files.release args.live = some old := by
    rcases layout.current with stands | ⟨linked, directory⟩
    · exact Files.release_directory stands
    · exact Files.release_link linked directory
  have still (ends : (swapLive args world).run host = (.error (), host)) :
      ∃ files, (swapLive args world).run host = (.error (), { host with files }) ∧ files.release args.live = some old :=
    ⟨host.files, ends, same ▸ stays⟩
  by_cases converting : args.convertLiveDir = true
  · have stuck : converts args world start.files = false := by
      rcases ready with never | ⟨stuck, _⟩
      · exact (Bool.or_eq_false_iff.mp never).1
      · exact stuck
    refine still ?_
    unfold swapLive convertLiveDir
    rw [if_pos converting, Sys.run_get_bind, same]
    cases noLink : start.files.isLink args.live with
    | true => rfl
    | false =>
      cases absent : start.files.present args.oldDir with
      | true => rfl
      | false =>
        have notMoved : (osRename world .opening args.live args.oldDir).run host = (.error (), host) := by
          unfold converts at stuck
          rw [converting, noLink, absent] at stuck
          unfold osRename
          rw [Sys.run_get_bind, same]
          cases moves : start.files.rename args.live args.oldDir with
          | none => rfl
          | some files =>
            cases renames : world.rename .opening with
            | false => rfl
            | true =>
              rw [moves, renames] at stuck
              cases stuck
        exact Sys.bind_of_error notMoved
  · rw [Bool.not_eq_true] at converting
    cases isLink : start.files.isLink args.live with
    | false =>
      refine still ?_
      unfold swapLive
      rw [converting, if_neg (by simp), Sys.run_get_bind, same, isLink]
      rfl
    | true =>
      have unlinked : linksIn args world start.files = false := by
        rcases ready with never | ⟨_, unlinked⟩
        · unfold isReadyToLink at never
          rw [converting, isLink, Bool.or_eq_false_iff] at never
          cases never.2
        · exact unlinked
      have fails : ¬ (world.symlink .forward = true ∧ world.rename .forward = true ∧ host.files args.tmp = none) := by
        rintro ⟨linked, renamed, free⟩
        rw [same] at free
        rw [linksIn_iff.mpr ⟨linked, renamed, free⟩] at unlinked
        cases unlinked
      have failing : ∃ files, (swapSymlink args world .forward args.newDir).run host = (.error (), { host with files }) ∧
          ∀ path, path ≠ args.tmp → files path = host.files path := swapSymlink_error fails
      obtain ⟨files, ends, rest⟩ := failing
      refine ⟨files, ?_, ?_⟩
      · unfold swapLive
        rw [converting, if_neg (by simp), Sys.run_get_bind, same, isLink]
        exact ends
      · rcases layout.current with stands | ⟨stands, directory⟩
        · unfold Files.isLink at isLink
          rw [stands] at isLink
          cases isLink
        · refine Files.release_link ((rest _ (Ne.symm layout.tmpLive)).trans ?_) ((rest _ (Ne.symm layout.tmpOld)).trans ?_)
          · rw [same]
            exact stands
          · rw [same]
            exact directory

end

theorem confirm_run (host : Host) : (confirm args world).run host = match readiness args world with
    | none => (.error (), host)
    | some answer =>
      if (answer = some false && recordRuntimeChanges args world : Bool) then
        let commit := releaseCommand args world (Runtime.commit world.commit) host.runtime
        if commit.1 then
          (.ok 0, (({ host with runtime := commit.2 } : Host).finish (world.database .finish .forward) .completed false).cleanup)
        else (failAndSwapBack args world .back).run { host with runtime := commit.2 }
      else (failAndSwapBack args world .back).run host := by
  unfold confirm
  cases readiness args world with
  | none => rfl
  | some answer =>
    rw [Sys.bind_of_ok (orRaise_some answer host)]
    dsimp only
    cases ready : (answer = some false && recordRuntimeChanges args world : Bool) with
    | false =>
      rw [if_neg (by simpa using ready), if_neg (by simp)]
    | true =>
      rw [if_pos (by simpa using ready), if_pos rfl]
      refine (Sys.bind_of_ok (control_run _ _)).trans ?_
      cases (releaseCommand args world (Runtime.commit world.commit) host.runtime).1 <;> rfl

theorem afterSwap_run (host : Host) : (afterSwap args world).run host = match course args world host.runtime with
    | none => (.error (), { host with runtime := courseRuntime args world host.runtime })
    | some false => (failAndSwapBack args world .back).run { host with runtime := courseRuntime args world host.runtime }
    | some true => (.ok 0, (({ host with runtime := courseRuntime args world host.runtime } : Host).finish
        (world.database .finish .forward) .completed false).cleanup) := by
  have migrates : (runRuntimeMigrations args world).run host =
      (.ok (migration args world host.runtime).1, { host with runtime := (migration args world host.runtime).2 }) := rfl
  unfold afterSwap course courseRuntime isReady
  rw [Sys.bind_of_ok migrates]
  cases migrated : (migration args world host.runtime).1 with
  | false => rfl
  | true =>
    cases restarts : restartAll (world.restart .forward) args.units with
    | none =>
      have raised (mid : Host) : (startRelease args world true).run mid = (.error (), mid) := by
        unfold startRelease restartServices
        rw [restarts]
        rfl
      exact Sys.bind_of_error (raised _)
    | some restarted =>
      have started (mid : Host) : (startRelease args world true).run mid = (.ok restarted, mid) := by
        unfold startRelease restartServices
        rw [restarts]
        rfl
      refine (Sys.bind_of_ok (started _)).trans ?_
      cases restarted with
      | false => rfl
      | true =>
        cases healths : healthCheck false false (world.probes .forward) with
        | none =>
          have raised (mid : Host) : (checkRelease world true).run mid = (.error (), mid) := by
            unfold checkRelease
            rw [healths]
            rfl
          exact Sys.bind_of_error (raised _)
        | some healthy =>
          have checked (mid : Host) : (checkRelease world true).run mid = (.ok healthy, mid) := by
            unfold checkRelease
            rw [healths]
            rfl
          refine (Sys.bind_of_ok (checked _)).trans ?_
          cases healthy with
          | false => rfl
          | true =>
            rw [if_pos rfl, confirm_run]
            cases readiness args world with
            | none => rfl
            | some answer =>
              dsimp only
              cases (answer = some false && recordRuntimeChanges args world : Bool) with
              | false => rfl
              | true =>
                unfold commitment
                cases (releaseCommand args world (Runtime.commit world.commit) (migration args world host.runtime).2).1 <;> rfl

end

end Boron.Finalizer
