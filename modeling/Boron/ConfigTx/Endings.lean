import Boron.ConfigTx.Outcomes

namespace Boron.ConfigTx
open List Sys
variable {Name : Type} [DecidableEq Name]

theorem commit_ends {host : Host Name} {contents : Name → String} {writer : Writer Name} {w : World Name}
    (steps : StepResult → StepResult → List (String × StepResult))
    (undo : StepResult → StepResult → Tx Name ConfigTxResult)
    (proceeds : Proceeds host contents writer.targets w) (accepted : host.Accepted)
    (undone : ¬ host.Unguarded → ¬ host.Committed → ∀ reloaded verified, Ends host contents writer w
      ((undo reloaded verified).run ((w.installed host contents writer.targets).afterReload host.reload))) :
    Ends host contents writer w (run (do
        let reloaded ← callReload host.reload
        let verified ← callVerify reloaded host.verify
        if reloaded.ok ∧ verified.ok then
          return { applied := true, rolledBack := false, steps := steps reloaded verified }
        else undo reloaded verified) (w.installed host contents writer.targets)) := by
  rcases reloadVerify_run host (fun reloaded verified => if reloaded.ok ∧ verified.ok then
      pure { applied := true, rolledBack := false, steps := steps reloaded verified }
      else undo reloaded verified) (w.installed host contents writer.targets) with
    ⟨unguarded, e, loaded, run⟩ | ⟨guarded, reloaded, verified, commits, run⟩
  · rw [run]
    exact .abandoned e loaded proceeds accepted unguarded
  · rw [run]
    by_cases committed : host.Committed
    · rw [if_pos (commits.mp committed), run_pure]
      exact .applied _ proceeds accepted committed rfl rfl
    · rw [if_neg (mt commits.mpr committed)]
      exact undone guarded committed reloaded verified

theorem ConfigWriterMulti.apply_ends (host : Host Name) (contents : Name → String) (targets : List Name)
    (distinct : targets.Nodup) (w : World Name) :
    Ends host contents (.multi targets distinct) w ((ConfigWriterMulti.apply host targets contents).run w) := by
  unfold ConfigWriterMulti.apply
  rcases allHold_cases host contents targets w with ⟨e, compared⟩ | compared | proceeds
  · rw [bind_of_error compared]
    exact .unreadable e compared
  · rw [bind_of_ok compared]
    exact .unchanged compared
  · obtain ⟨validated, validate, accepts⟩ := callValidate_run host.validate
      (w.onSlots targets fun n f => { f with temporary := some (host.writeText (contents n)) })
    rw [bind_of_ok proceeds, if_neg Bool.false_ne_true,
      bind_of_ok (writeTemporaries_run host contents distinct w), bind_of_ok validate]
    by_cases accepted : host.Accepted
    · have written : ∀ n ∈ targets, (((w.onSlots targets fun n f =>
          { f with temporary := some (host.writeText (contents n)) }).onSlots targets
          fun _ => Slot.backedUp).files n).temporary.isSome := by
        intro n member
        simp only [World.onSlots_files member, Slot.backedUp, Option.isSome_some]
      rw [if_neg (by simp [accepts.mpr accepted]), bind_of_ok (backUpAll_run distinct _),
        bind_of_ok (replaceTargets_run distinct written), World.onSlots_onSlots, World.onSlots_onSlots]
      generalize same : targets.filter _ = backups
      have found : ∀ n ∈ targets, n ∈ backups ↔ (w.files n).target.isSome := by
        intro n member
        simp only [← same, mem_filter, member, true_and, World.onSlots_files member]
      refine @commit_ends _ _ _ _ (.multi targets distinct) _ _ _ proceeds accepted
        fun guarded failed reloaded verified => ?_
      have kept : ∀ n ∈ targets, n ∈ backups →
          (((w.installed host contents targets).afterReload host.reload).files n).backup.isSome := by
        intro n member backedUp
        have present := (found n member).mp backedUp
        simp only [World.afterReload_files, World.installed, World.onSlots_files member, Slot.installed,
          Option.isSome_or, present, Bool.true_or]
      rw [Writer.multi_targets, bind_of_ok (restoreTargets_run distinct kept), World.afterReload_eq,
        World.restore_installed fun n member => ?undoes]
      case undoes =>
        simp only [Slot.installed, Slot.restored, found n member]
        cases (w.files n).target <;> simp
      rcases rollbackReload_run host ((w.restored targets).withLoaded
          ((w.installed host contents targets).afterReload host.reload).loaded) _ with
        ⟨e, run⟩ | ⟨result, loaded, run, agrees⟩
      · rw [run]
        exact .restoredThenRaised e _ proceeds accepted guarded failed (by rintro _ ⟨⟩)
      · rw [run]
        exact .restored result loaded proceeds accepted guarded failed (by rintro _ ⟨⟩) agrees
    · have rejects : validated.ok = false := Bool.eq_false_iff.mpr (mt accepts.mp accepted)
      rw [if_pos rejects, bind_of_ok (unlinkTemporaries_run distinct _), World.onSlots_onSlots]
      exact .rejected _ proceeds accepted rfl

theorem ConfigWriter.apply_ends (host : Host Name) (contents : Name → String) (n : Name) (w : World Name) :
    Ends host contents (.single n) w ((ConfigWriter.apply host n (contents n)).run w) := by
  unfold ConfigWriter.apply
  have compare := allHold_singleton host contents n w
  rcases allHold_cases host contents [n] w with ⟨e, compared⟩ | compared | proceeds
  · rw [bind_of_error (compare.symm.trans compared)]
    exact .unreadable e compared
  · rw [bind_of_ok (compare.symm.trans compared)]
    exact .unchanged compared
  · have written : (writeTemporary host (fun _ => contents n) n).run w = (.ok (), w.onSlots [n] fun _ f =>
        { f with temporary := some (host.writeText (contents n)) }) := by
      rw [← World.onSlot_eq_onSlots]
      rfl
    obtain ⟨validated, validate, accepts⟩ := callValidate_run host.validate
      (w.onSlots [n] fun _ f => { f with temporary := some (host.writeText (contents n)) })
    rw [bind_of_ok (compare.symm.trans proceeds), if_neg Bool.false_ne_true, bind_of_ok written,
      bind_of_ok validate]
    by_cases accepted : host.Accepted
    · have present : (((w.onSlots [n] fun _ f =>
          { f with temporary := some (host.writeText (contents n)) }).onSlot n
          Slot.backedUp).files n).temporary.isSome := by
        rw [World.onSlot_eq_onSlots, World.onSlots_onSlots, World.onSlots_files (mem_singleton_self n)]
        rfl
      rw [if_neg (by simp [accepts.mpr accepted]), bind_of_ok (backUp_run n _),
        bind_of_ok (replaceTarget_run present)]
      have installs : (((w.onSlots [n] fun _ f =>
          { f with temporary := some (host.writeText (contents n)) }).onSlot n Slot.backedUp).onSlot n
          fun f => { f with target := f.temporary, temporary := none }) = w.installed host contents [n] := by
        rw [World.onSlot_eq_onSlots, World.onSlot_eq_onSlots, World.onSlots_onSlots, World.onSlots_onSlots]
        refine World.onSlots_congr fun m member f => ?_
        rw [mem_singleton.mp member]
        rfl
      rw [installs, World.onSlots_files (mem_singleton_self n)]
      refine @commit_ends _ _ _ _ (.single n) _ _ _ proceeds accepted fun guarded failed reloaded verified => ?_
      have kept : ((w.installed host contents [n]).afterReload host.reload).files n =
          Slot.installed (host.writeText (contents n)) (w.files n) := by
        rw [World.afterReload_files, World.installed, World.onSlots_files (mem_singleton_self n)]
      have single : (Writer.single n).targets = [n] := rfl
      cases present : (w.files n).target with
      | some bytes =>
        have reloads : (Writer.single n).ReloadsOnRollback w := by
          intro m same
          rw [← Writer.single.inj same, present]
          rfl
        have copies : (((w.installed host contents [n]).afterReload host.reload).files n).backup.isSome := by
          rw [kept, Slot.installed, present]
          rfl
        rw [Option.isSome_some, if_pos rfl, single, bind_of_ok (copyBackup_run copies),
          World.onSlot_eq_onSlots, World.afterReload_eq, World.restore_installed fun m member => ?undoes]
        case undoes =>
          rw [mem_singleton.mp member]
          simp only [Slot.installed, Slot.restored, present, Option.some_or]
        rcases rollbackReload_run host ((w.restored [n]).withLoaded
            ((w.installed host contents [n]).afterReload host.reload).loaded) _ with
          ⟨e, run⟩ | ⟨result, loaded, run, agrees⟩
        · rw [run]
          exact .restoredThenRaised e _ proceeds accepted guarded failed reloads
        · rw [run]
          exact @Ends.restored _ _ _ _ (.single n) _ result loaded proceeds accepted guarded failed reloads agrees
      | none =>
        have removed : (unlinkTarget n).run ((w.installed host contents [n]).afterReload host.reload) =
            (.ok (), (w.restored [n]).withLoaded
              ((w.installed host contents [n]).afterReload host.reload).loaded) := by
          rw [unlinkTarget, run_modify, World.onSlot_eq_onSlots, World.afterReload_eq,
            World.restore_installed fun m member => ?undoes]
          case undoes =>
            rw [mem_singleton.mp member]
            simp only [Slot.installed, Slot.restored, present, Option.none_or]
          rfl
        rw [Option.isSome_none, if_neg Bool.false_ne_true, single, bind_of_ok removed]
        refine @Ends.removed _ _ _ _ (.single n) _ _ n rfl present proceeds accepted guarded failed rfl ?_
        simp [ConfigTxResult.RollbackReloaded]
    · have rejects : validated.ok = false := Bool.eq_false_iff.mpr (mt accepts.mp accepted)
      have unlinked : (unlinkTemporary n).run (w.onSlots [n] fun _ f =>
          { f with temporary := some (host.writeText (contents n)) }) =
          (.ok (), w.onSlots [n] fun _ => Slot.discarded) := by
        rw [unlinkTemporary, run_modify, World.onSlot_eq_onSlots, World.onSlots_onSlots]
        rfl
      rw [if_pos rejects, bind_of_ok unlinked]
      exact @Ends.rejected _ _ _ _ (.single n) _ _ proceeds accepted rfl

theorem Writer.apply_ends (host : Host Name) (contents : Name → String) (w : World Name) :
    (writer : Writer Name) → Ends host contents writer w ((writer.apply host contents).run w)
  | .single n => ConfigWriter.apply_ends host contents n w
  | .multi targets distinct => ConfigWriterMulti.apply_ends host contents targets distinct w

end Boron.ConfigTx

namespace Boron.ConfigTx
variable {Name : Type} [DecidableEq Name]

def Writer.AllNew (host : Host Name) (contents : Name → String) (writer : Writer Name) (w : World Name) : Prop :=
  ∀ n ∈ writer.targets, (w.files n).target = some (host.writeText (contents n))

def Writer.AllEarlier (writer : Writer Name) (before after : World Name) : Prop :=
  ∀ n ∈ writer.targets, (after.files n).target = (before.files n).target

/-- The temporary beside a target is gone, or is the one an earlier run left. -/
def Writer.NoneLeft (writer : Writer Name) (before after : World Name) : Prop :=
  ∀ n ∈ writer.targets, (after.files n).temporary = none ∨ (after.files n).temporary = (before.files n).temporary

/-- All the new content with an ok result, or all the earlier content, and in
both cases no temporary of the transaction. -/
def Writer.AllOrNothing (host : Host Name) (contents : Name → String) (writer : Writer Name)
    (w : World Name) : Except TxError ConfigTxResult × World Name → Prop
  | (result, after) => writer.NoneLeft w after ∧
      ((∃ r, result = .ok r ∧ r.ok ∧ writer.AllNew host contents after) ∨ writer.AllEarlier w after)

variable {host : Host Name} {contents : Name → String} {writer : Writer Name} {w : World Name}
  {loaded : Name → Option Bytes}

theorem installed_files {n : Name} (member : n ∈ writer.targets) :
    (w.installed host contents writer.targets).files n =
      Slot.installed (host.writeText (contents n)) (w.files n) := World.onSlots_files member

theorem restored_files {n : Name} (member : n ∈ writer.targets) :
    (w.restored writer.targets).files n = (w.files n).restored := World.onSlots_files member

theorem allOrNothing_restored (result : Except TxError ConfigTxResult) :
    writer.AllOrNothing host contents w (result, (w.restored writer.targets).withLoaded loaded) := by
  refine ⟨fun n member => .inl ?_, .inr fun n member => ?_⟩
  · rw [World.withLoaded_files, restored_files member, Slot.restored]
  · rw [World.withLoaded_files, restored_files member, Slot.restored]

/-- A transaction is all or nothing exactly when no exception from `reload` or
`verify` leaves it after the files were replaced, unless the replacement
changed nothing. -/
theorem apply_allOrNothing_iff (host : Host Name) (contents : Name → String) (writer : Writer Name)
    (w : World Name) :
    writer.AllOrNothing host contents w ((writer.apply host contents).run w) ↔
      ¬ (Differs host contents w writer.targets ∧ host.Accepted ∧ host.Unguarded) ∨
        writer.AllNew host contents w := by
  rw [← proceeds_iff]
  have ends := writer.apply_ends host contents w
  generalize (writer.apply host contents).run w = outcome at ends
  cases ends with
  | unreadable e compared =>
    have stops : ¬ Proceeds host contents writer.targets w := by
      intro proceeds
      simp [Proceeds, compared] at proceeds
    exact iff_of_true ⟨fun _ _ => .inr rfl, .inr fun _ _ => rfl⟩ (.inl fun all => stops all.1)
  | unchanged compared =>
    have stops : ¬ Proceeds host contents writer.targets w := by
      intro proceeds
      simp [Proceeds, compared] at proceeds
    exact iff_of_true ⟨fun _ _ => .inr rfl, .inr fun _ _ => rfl⟩ (.inl fun all => stops all.1)
  | rejected result proceeds refused kept =>
    refine iff_of_true ⟨fun n member => .inl ?_, .inr fun n member => ?_⟩ (.inl fun all => refused all.2.1)
    · rw [World.onSlots_files member, Slot.discarded]
    · rw [World.onSlots_files member, Slot.discarded]
  | abandoned e loaded proceeds accepted unguarded =>
    constructor
    · rintro ⟨-, ⟨r, isOk, -⟩ | earlier⟩
      · exact absurd isOk (by simp)
      · refine .inr fun n member => ?_
        rw [← earlier n member, World.withLoaded_files, installed_files member, Slot.installed]
    · rintro (guarded | same)
      · exact absurd ⟨proceeds, accepted, unguarded⟩ guarded
      · refine ⟨fun n member => .inl ?_, .inr fun n member => ?_⟩
        · rw [World.withLoaded_files, installed_files member, Slot.installed]
        · rw [World.withLoaded_files, installed_files member, Slot.installed, same n member]
  | applied result proceeds accepted committed ok kept =>
    refine iff_of_true ⟨fun n member => .inl ?_, .inl ⟨result, rfl, ok, fun n member => ?_⟩⟩
      (.inl fun all => committed.guarded all.2.2)
    · rw [World.afterReload_files, installed_files member, Slot.installed]
    · rw [World.afterReload_files, installed_files member, Slot.installed]
  | restoredThenRaised e loaded proceeds accepted guarded failed =>
    exact iff_of_true (allOrNothing_restored _) (.inl fun all => guarded all.2.2)
  | restored result loaded proceeds accepted guarded failed agrees =>
    exact iff_of_true (allOrNothing_restored _) (.inl fun all => guarded all.2.2)
  | removed result n single absent proceeds accepted guarded failed rolledBack silent =>
    exact iff_of_true (allOrNothing_restored _) (.inl fun all => guarded all.2.2)

/-- A host with an ASCII locale whose service cannot be reached at all. -/
def unreachableService : Host Unit where
  readText bytes := if bytes.all (· < 128) then some (String.ofList (bytes.map fun b => Char.ofNat b.toNat)) else none
  writeText text := text.toList.map fun c => UInt8.ofNat c.toNat
  backupPath _ := "/var/backups/boron/main.cf.1"
  validate := .returns ⟨true, ""⟩
  reload := .raises "timed out"
  rollbackReload := .returns ⟨true, ""⟩
  verify := .returns ⟨true, ""⟩

def liveFile : World Unit where
  files _ := { target := some (unreachableService.writeText "a"), temporary := none, backup := none }
  loaded _ := some (unreachableService.writeText "a")

theorem raising_reload_keeps_new_file : ¬ (Writer.single ()).AllOrNothing unreachableService (fun _ => "b") liveFile
      (((Writer.single ()).apply unreachableService fun _ => "b").run liveFile) := by
  rintro ⟨-, ⟨r, isOk, -⟩ | earlier⟩
  · cases isOk
  · have same := earlier () (List.mem_singleton_self ())
    revert same
    decide

end Boron.ConfigTx

namespace Boron.ConfigTx
variable {Name : Type}

def Writer.Agrees (writer : Writer Name) (w : World Name) : Prop :=
  ∀ n ∈ writer.targets, w.loaded n = (w.files n).target

/-- The rollback that only removes: a single target that did not exist, and a
service that took the new file and then failed its verification. -/
def Writer.RemovesBehindService (host : Host Name) (writer : Writer Name) (w : World Name) : Prop :=
  ∃ n, writer = .single n ∧ (w.files n).target = none ∧ host.Accepted ∧ host.Reloaded ∧
    ∃ message, host.verify = .returns ⟨false, message⟩

def Writer.RollbackAgrees (writer : Writer Name) : Except TxError ConfigTxResult × World Name → Prop
  | (result, after) => ∀ r, result = .ok r → r.rolledBack → r.RollbackReloaded → writer.Agrees after

variable {host : Host Name} {contents : Name → String} {writer : Writer Name} {w : World Name}

theorem Writer.RemovesBehindService.ends (removes : writer.RemovesBehindService host w) (contents : Name → String) :
    Proceeds host contents writer.targets w ∧ ¬ host.Unguarded ∧ ¬ host.Committed := by
  obtain ⟨n, rfl, absent, -, ⟨message, reload⟩, text, verify⟩ := removes
  refine ⟨(proceeds_iff host contents _ w).mpr ?_, ?_, ?_⟩
  · simp only [Writer.targets, Differs, absent]
  · simp [Host.Unguarded, Host.Reloaded, reload, verify]
  · simp [Host.Committed, Host.Reloaded, reload, verify]

theorem Writer.RemovesBehindService.silent (removes : writer.RemovesBehindService host w) :
    ¬ writer.ReloadsOnRollback w := by
  obtain ⟨n, single, absent, -⟩ := removes
  intro reloads
  have present := reloads n single
  rw [absent] at present
  cases present

variable [DecidableEq Name]

/-- After a rollback the service and the files agree, unless a single new file
was removed without a second reload. -/
theorem rollback_agrees_iff (host : Host Name) (contents : Name → String) (writer : Writer Name)
    (w : World Name) (before : writer.Agrees w) :
    writer.RollbackAgrees ((writer.apply host contents).run w) ↔ ¬ writer.RemovesBehindService host w := by
  have ends := writer.apply_ends host contents w
  generalize (writer.apply host contents).run w = outcome at ends
  cases ends with
  | unreadable e compared =>
    refine iff_of_true (by rintro r ⟨⟩) fun removes => ?_
    have proceeds := (removes.ends contents).1
    simp [Proceeds, compared] at proceeds
  | unchanged compared =>
    refine iff_of_true (fun _ _ _ _ => before) fun removes => ?_
    have proceeds := (removes.ends contents).1
    simp [Proceeds, compared] at proceeds
  | rejected result proceeds refused kept =>
    refine iff_of_true ?_ fun removes => ?_
    · rintro r ⟨⟩ rolledBack
      rw [kept] at rolledBack
      cases rolledBack
    · obtain ⟨-, -, -, accepted, -⟩ := removes
      exact refused accepted
  | abandoned e loaded proceeds accepted unguarded =>
    exact iff_of_true (by rintro r ⟨⟩) fun removes =>
      (removes.ends contents).2.1 unguarded
  | applied result proceeds accepted committed ok kept =>
    refine iff_of_true ?_ fun removes => (removes.ends contents).2.2 committed
    rintro r ⟨⟩ rolledBack
    rw [kept] at rolledBack
    cases rolledBack
  | restoredThenRaised e loaded proceeds accepted guarded failed reloads =>
    exact iff_of_true (by rintro r ⟨⟩) fun removes => removes.silent reloads
  | restored result loaded proceeds accepted guarded failed reloads agrees =>
    refine iff_of_true ?_ fun removes => removes.silent reloads
    rintro r ⟨⟩ - reloaded n member
    rw [agrees reloaded]
    rfl
  | removed result n single absent proceeds accepted guarded failed rolledBack silent =>
    subst single
    have member : n ∈ (Writer.single n).targets := List.mem_singleton_self n
    have gone : (((w.restored (Writer.single n).targets).withLoaded
        ((w.installed host contents (Writer.single n).targets).afterReload host.reload).loaded).files n).target =
        none := by
      rw [World.withLoaded_files, World.restored, World.onSlots_files member, Slot.restored, absent]
    by_cases reloaded : host.Reloaded
    · have refuses : ∃ message, host.verify = .returns ⟨false, message⟩ := by
        rcases verify : host.verify with ⟨⟨_ | _, message⟩⟩ | ⟨message⟩
        · exact ⟨message, rfl⟩
        · exact absurd ⟨reloaded, message, verify⟩ failed
        · exact absurd (.inr ⟨reloaded, message, verify⟩) guarded
      refine iff_of_false (fun agrees => ?_) (not_not_intro ⟨n, rfl, absent, accepted, reloaded, refuses⟩)
      have same := agrees result rfl rolledBack silent n member
      rw [gone, World.withLoaded, World.afterReload_loaded reloaded, World.installed,
        World.onSlots_files member] at same
      cases same
    · refine iff_of_true ?_ fun removes => ?_
      · rintro r ⟨⟩ - - m inside
        rw [List.mem_singleton.mp inside, gone, World.afterReload_of_not reloaded, ← absent]
        exact before n member
      · obtain ⟨-, -, -, -, loads, -⟩ := removes
        exact reloaded loads

/-- A service that takes the new file and then fails its verification. -/
def deadService (verify : StepResult) : Host Unit where
  readText bytes := if bytes.all (· < 128) then some (String.ofList (bytes.map fun b => Char.ofNat b.toNat)) else none
  writeText text := text.toList.map fun c => UInt8.ofNat c.toNat
  backupPath _ := "/var/backups/boron/domains.1"
  validate := .returns ⟨true, ""⟩
  reload := .returns ⟨true, ""⟩
  rollbackReload := .returns ⟨true, ""⟩
  verify := .returns verify

def noFile : World Unit where
  files _ := { target := none, temporary := none, backup := none }
  loaded _ := none

theorem rollback_agrees_iff_noFile :
    (Writer.single ()).RollbackAgrees (((Writer.single ()).apply (deadService ⟨true, ""⟩) fun _ => "b").run noFile) ↔
      ¬ (Writer.single ()).RemovesBehindService (deadService ⟨true, ""⟩) noFile :=
  rollback_agrees_iff (deadService ⟨true, ""⟩) (fun _ => "b") (.single ()) noFile fun _ _ => rfl

theorem removed_file_stays_loaded : (Writer.single ()).Agrees noFile ∧ ¬ (Writer.single ()).RollbackAgrees
      (((Writer.single ()).apply (deadService ⟨false, "inactive"⟩) fun _ => "b").run noFile) := by
  refine ⟨fun _ _ => rfl, fun agrees => ?_⟩
  have same := agrees _ rfl rfl (by simp [ConfigTxResult.RollbackReloaded]) () (List.mem_singleton_self ())
  revert same
  decide

end Boron.ConfigTx
