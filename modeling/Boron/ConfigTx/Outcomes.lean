import Mathlib.Data.List.Nodup
import Boron.ConfigTx.Writer

namespace Boron.ConfigTx
open List Sys
variable {Name : Type} [DecidableEq Name]

/-- Every target's files changed by its own `f`, all other files as they were. -/
def World.onSlots (w : World Name) (targets : List Name) (f : Name → Slot → Slot) : World Name :=
  { w with files := fun n => if n ∈ targets then f n (w.files n) else w.files n }

variable {targets : List Name} {w : World Name} {f : Name → Slot → Slot} {n : Name}

theorem World.onSlots_files (member : n ∈ targets) : (w.onSlots targets f).files n = f n (w.files n) := if_pos member

theorem World.onSlot_onSlots {rest : List Name} (f : Name → Slot → Slot)
    (fresh : n ∉ rest) : (w.onSlot n (f n)).onSlots rest f = w.onSlots (n :: rest) f := by
  simp only [World.onSlots, World.onSlot, World.mk.injEq, and_true]
  funext m
  by_cases same : m = n
  · subst same
    simp [fresh]
  · simp [same]

/-- A loop whose body touches only the files of its own target does to every
target what the body does to one. -/
theorem each_onSlots {p : Name → Tx Name Unit} (ready : Name → Slot → Prop)
    (step : ∀ n w, ready n (w.files n) → (p n).run w = (.ok (), w.onSlot n (f n)))
    (distinct : targets.Nodup) (all : ∀ n ∈ targets, ready n (w.files n)) :
    (each p targets).run w = (.ok (), w.onSlots targets f) := by
  induction targets generalizing w with
  | nil => simp [World.onSlots]
  | cons n rest ih =>
    obtain ⟨fresh, distinct⟩ := nodup_cons.mp distinct
    have later : ∀ m ∈ rest, ready m ((w.onSlot n (f n)).files m) := by
      intro m member
      have other : m ≠ n := fun same => fresh (same ▸ member)
      simpa only [World.onSlot, Function.update_of_ne other] using all m (mem_cons_of_mem n member)
    rw [each_cons, bind_of_ok (step n w (all n mem_cons_self)), ih distinct later, World.onSlot_onSlots f fresh]

theorem each_onSlots_always {p : Name → Tx Name Unit} (step : ∀ n w, (p n).run w = (.ok (), w.onSlot n (f n))) (distinct : targets.Nodup) (w : World Name) :
    (each p targets).run w = (.ok (), w.onSlots targets f) := by
  exact each_onSlots (fun _ _ => True) (fun n w _ => step n w) distinct fun _ _ => trivial

theorem writeTemporaries_run (host : Host Name) (contents : Name → String) (distinct : targets.Nodup) (w : World Name) :
    (each (writeTemporary host contents) targets).run w =
      (.ok (), w.onSlots targets fun n f => { f with temporary := some (host.writeText (contents n)) }) :=
  each_onSlots_always (fun _ _ => rfl) distinct w

theorem unlinkTemporaries_run (distinct : targets.Nodup) (w : World Name) : (each unlinkTemporary targets).run w =
      (.ok (), w.onSlots targets fun _ f => { f with temporary := none }) :=
  each_onSlots_always (fun _ _ => rfl) distinct w

theorem replaceTarget_run (written : (w.files n).temporary.isSome) : (replaceTarget n).run w =
      (.ok (), w.onSlot n fun f => { f with target := f.temporary, temporary := none }) := by
  obtain ⟨bytes, isBytes⟩ := Option.isSome_iff_exists.mp written
  simp only [replaceTarget, run_get_bind, World.onSlot, isBytes, run_modify]

theorem replaceTargets_run (distinct : targets.Nodup) (written : ∀ n ∈ targets, (w.files n).temporary.isSome) :
    (each replaceTarget targets).run w =
      (.ok (), w.onSlots targets fun _ f => { f with target := f.temporary, temporary := none }) :=
  each_onSlots (fun _ f => f.temporary.isSome) (fun _ _ present => replaceTarget_run present) distinct written

def Slot.backedUp (f : Slot) : Slot := { f with backup := f.target.or f.backup }

theorem backUp_run (n : Name) (w : World Name) :
    (backUp n).run w = (.ok (w.files n).target.isSome, w.onSlot n Slot.backedUp) := by
  cases present : (w.files n).target with
  | none =>
    have same : Function.update w.files n (w.files n).backedUp = w.files := by
      rw [Slot.backedUp, present, Option.none_or, ← present, Function.update_eq_self]
    simp only [backUp, run_get_bind, present, World.onSlot, same, run_pure, Option.isSome_none]
  | some bytes =>
    simp only [backUp, run_get_bind, present, run_modify_bind, World.onSlot, Slot.backedUp,
      Option.some_or, run_pure, Option.isSome_some]

theorem backUpAll_run (distinct : targets.Nodup) (w : World Name) :
    (backUpAll targets).run w = (.ok (targets.filter fun n => (w.files n).target.isSome),
      w.onSlots targets fun _ => Slot.backedUp) := by
  induction targets generalizing w with
  | nil => simp [backUpAll, World.onSlots]
  | cons n rest ih =>
    obtain ⟨fresh, distinct⟩ := nodup_cons.mp distinct
    have others : (rest.filter fun m => ((w.onSlot n Slot.backedUp).files m).target.isSome) =
        rest.filter fun m => (w.files m).target.isSome := by
      refine filter_congr fun m member => ?_
      have other : m ≠ n := fun same => fresh (same ▸ member)
      simp only [World.onSlot, Function.update_of_ne other]
    rw [backUpAll, bind_of_ok (backUp_run n w), bind_of_ok (ih distinct _), others,
      World.onSlot_onSlots (fun _ => Slot.backedUp) fresh, run_pure, filter_cons]

theorem copyBackup_run (kept : (w.files n).backup.isSome) :
    (copyBackup n).run w = (.ok (), w.onSlot n fun f => { f with target := f.backup }) := by
  obtain ⟨bytes, isBytes⟩ := Option.isSome_iff_exists.mp kept
  simp only [copyBackup, run_get_bind, World.onSlot, isBytes, run_modify]

theorem restoreTarget_run {backups : List Name} (kept : n ∈ backups → (w.files n).backup.isSome) :
    (restoreTarget backups n).run w =
      (.ok (), w.onSlot n fun f => { f with target := if n ∈ backups then f.backup else none }) := by
  by_cases member : n ∈ backups
  · simp only [restoreTarget, member, if_true, copyBackup_run (kept member)]
  · simp only [restoreTarget, member, if_false, unlinkTarget, run_modify]

theorem restoreTargets_run {targets backups : List Name} (distinct : targets.Nodup) (kept : ∀ n ∈ targets, n ∈ backups → (w.files n).backup.isSome) :
    (each (restoreTarget backups) targets).run w = (.ok (), w.onSlots targets fun n f =>
      { f with target := if n ∈ backups then f.backup else none }) :=
  each_onSlots (fun n f => n ∈ backups → f.backup.isSome)
    (fun _ _ present => restoreTarget_run present) distinct kept

end Boron.ConfigTx

namespace Boron.ConfigTx
variable {Name : Type}

/-- The comparison finds some target to write, so that a writer goes on. -/
def Proceeds (host : Host Name) (contents : Name → String) (targets : List Name) (w : World Name) : Prop :=
  (allHold host contents targets).run w = (.ok false, w)

def Host.Accepted (host : Host Name) : Prop := ∃ message, host.validate = .returns ⟨true, message⟩

def Host.Reloaded (host : Host Name) : Prop := ∃ message, host.reload = .returns ⟨true, message⟩

/-- An exception that reaches the writer after the files were replaced: from
`reload`, or from `verify` after a successful reload. -/
def Host.Unguarded (host : Host Name) : Prop :=
  (∃ message, host.reload = .raises message) ∨ host.Reloaded ∧ ∃ message, host.verify = .raises message

def Host.Committed (host : Host Name) : Prop := host.Reloaded ∧ ∃ message, host.verify = .returns ⟨true, message⟩

/-- What the service holds after a reload that ended with `reply`. -/
def World.afterReload (w : World Name) (reply : Reply) : World Name :=
  match reply with
  | .returns ⟨true, _⟩ => { w with loaded := fun n => (w.files n).target }
  | _ => w

def World.withLoaded (w : World Name) (loaded : Name → Option Bytes) : World Name := { w with loaded }

def ConfigTxResult.RollbackReloaded (result : ConfigTxResult) : Prop :=
  ∀ step ∈ result.steps, step.1 = "rollback_reload" → step.2.ok

theorem World.afterReload_eq (w : World Name) (reply : Reply) :
    w.afterReload reply = w.withLoaded (w.afterReload reply).loaded := by
  unfold World.afterReload
  split <;> rfl

variable {host : Host Name}

theorem World.afterReload_loaded {w : World Name} (reloaded : host.Reloaded) (n : Name) :
    (w.afterReload host.reload).loaded n = (w.files n).target := by
  obtain ⟨message, reload⟩ := reloaded
  rw [reload]
  rfl

theorem World.afterReload_of_not {w : World Name} (failed : ¬ host.Reloaded) : w.afterReload host.reload = w := by
  unfold World.afterReload
  split
  · rename_i message reload
    exact absurd ⟨message, reload⟩ failed
  · rfl

theorem World.withLoaded_files (w : World Name) (loaded : Name → Option Bytes) :
    (w.withLoaded loaded).files = w.files := rfl

theorem World.afterReload_files (w : World Name) (reply : Reply) : (w.afterReload reply).files = w.files := by
  unfold World.afterReload
  split <;> rfl

theorem Host.Committed.guarded (committed : host.Committed) : ¬ host.Unguarded := by
  obtain ⟨⟨message, reload⟩, text, verify⟩ := committed
  simp [Host.Unguarded, Host.Reloaded, reload, verify]

theorem targetHolds_keeps (host : Host Name) (content : String) (n : Name) :
    Sys.Keeps Eq (targetHolds host content n) := by
  refine Sys.Keeps.bind Sys.Keeps.get fun w => ?_
  split
  · exact Sys.Keeps.pure _
  · split
    · exact Sys.Keeps.fail _
    · exact Sys.Keeps.pure _

theorem allHold_keeps (host : Host Name) (contents : Name → String) :
    (targets : List Name) → Sys.Keeps Eq (allHold host contents targets)
  | [] => Sys.Keeps.pure _
  | n :: rest => by
    refine (targetHolds_keeps host (contents n) n).bind fun holds => ?_
    split
    · exact allHold_keeps host contents rest
    · exact Sys.Keeps.pure _

theorem allHold_cases (host : Host Name) (contents : Name → String) (targets : List Name) (w : World Name) :
    (∃ e, (allHold host contents targets).run w = (.error e, w)) ∨
      (allHold host contents targets).run w = (.ok true, w) ∨ Proceeds host contents targets w := by
  have kept := allHold_keeps host contents targets w
  cases compared : (allHold host contents targets).run w with
  | mk result after =>
    rw [compared] at kept
    cases kept
    cases result with
    | error e => exact .inl ⟨e, rfl⟩
    | ok holds => cases holds with
      | true => exact .inr (.inl rfl)
      | false => exact .inr (.inr compared)

/-- Some target reads differently from its new content, and every target before
it can be read. -/
def Differs (host : Host Name) (contents : Name → String) (w : World Name) : List Name → Prop
  | [] => False
  | n :: rest => match (w.files n).target with
    | none => True
    | some bytes => match host.readText bytes with
      | none => False
      | some text => text = contents n → Differs host contents w rest

theorem proceeds_iff (host : Host Name) (contents : Name → String) (targets : List Name) (w : World Name) :
    Proceeds host contents targets w ↔ Differs host contents w targets := by
  induction targets with
  | nil => simp [Proceeds, Differs, allHold]
  | cons n rest ih =>
    unfold Proceeds Differs allHold
    cases target : (w.files n).target with
    | none => simp [targetHolds, target, Sys.run_bind]
    | some bytes =>
      cases read : host.readText bytes with
      | none => simp [targetHolds, target, read, Sys.run_bind]
      | some text =>
        by_cases same : text = contents n
        · simpa [Proceeds, targetHolds, target, read, same, Sys.run_bind] using ih
        · simp [targetHolds, target, read, same, Sys.run_bind]

theorem allHold_singleton (host : Host Name) (contents : Name → String) (n : Name) (w : World Name) :
    (allHold host contents [n]).run w = (targetHolds host (contents n) n).run w := by
  rw [allHold, Sys.run_bind]
  cases compared : (targetHolds host (contents n) n).run w with
  | mk result after =>
    cases result with
    | error e => rfl
    | ok holds => cases holds <;> rfl

theorem callValidate_run (reply : Reply) (w : World Name) :
    ∃ validated, (callValidate reply).run w = (.ok validated, w) ∧
      (validated.ok = true ↔ ∃ message, reply = .returns ⟨true, message⟩) := by
  cases reply with
  | returns result =>
    obtain ⟨ok, message⟩ := result
    exact ⟨⟨ok, message⟩, rfl, by cases ok <;> simp⟩
  | raises message => exact ⟨_, rfl, by simp⟩

theorem callReload_run (reply : Reply) (w : World Name) :
    (∃ message, reply = .raises message ∧ (callReload reply).run w = (.error (.raised message), w)) ∨
      ∃ result, reply = .returns result ∧ (callReload reply).run w = (.ok result, w.afterReload reply) := by
  rcases reply with ⟨⟨_ | _, message⟩⟩ | ⟨message⟩
  · exact .inr ⟨_, rfl, rfl⟩
  · exact .inr ⟨_, rfl, rfl⟩
  · exact .inl ⟨_, rfl, rfl⟩

/-- Reload and verification end in an exception, in success or in a failure
the writer sees. In each the files stay as they are. -/
theorem reloadVerify_run {α : Type} (host : Host Name) (next : StepResult → StepResult → Tx Name α)
    (w : World Name) :
    let program : Tx Name α := do
      let reloaded ← callReload host.reload
      let verified ← callVerify reloaded host.verify
      next reloaded verified
    (host.Unguarded ∧ ∃ e loaded, program.run w = (.error e, w.withLoaded loaded)) ∨
      (¬ host.Unguarded ∧ ∃ reloaded verified, (host.Committed ↔ reloaded.ok = true ∧ verified.ok = true) ∧
        program.run w = (next reloaded verified).run (w.afterReload host.reload)) := by
  intro program
  rcases callReload_run host.reload w with ⟨message, raises, run⟩ | ⟨result, returns, run⟩
  · exact .inl ⟨.inl ⟨message, raises⟩, _, w.loaded, Sys.bind_of_error run⟩
  · have first : program.run w = _ := Sys.bind_of_ok run
    obtain ⟨_ | _, message⟩ := result
    · refine .inr ⟨?_, ⟨false, message⟩, ⟨false, "skipped: reload failed"⟩, ?_, first⟩
      · simp [Host.Unguarded, Host.Reloaded, returns]
      · simp [Host.Committed, Host.Reloaded, returns]
    · cases verify : host.verify with
      | raises text =>
        refine .inl ⟨.inr ⟨⟨message, returns⟩, text, verify⟩, .raised text, fun n => (w.files n).target, ?_⟩
        rw [first, returns, callVerify, verify]
        rfl
      | returns verified =>
        obtain ⟨ok, text⟩ := verified
        refine .inr ⟨?_, ⟨true, message⟩, ⟨ok, text⟩, ?_, ?_⟩
        · simp [Host.Unguarded, Host.Reloaded, returns, verify]
        · simp [Host.Committed, Host.Reloaded, returns, verify]
        · rw [first, callVerify, verify]
          rfl

theorem rollbackReload_run (host : Host Name) (w : World Name) (steps : List (String × StepResult)) :
    let program : Tx Name ConfigTxResult := do
      let restored ← callReload host.rollbackReload
      return { applied := true, rolledBack := true, steps := steps ++ [("rollback_reload", restored)] }
    (∃ e, program.run w = (.error e, w)) ∨ ∃ result loaded, program.run w = (.ok result, w.withLoaded loaded) ∧
        (result.RollbackReloaded → loaded = fun n => (w.files n).target) := by
  intro program
  rcases callReload_run host.rollbackReload w with ⟨message, raises, run⟩ | ⟨restored, returns, run⟩
  · exact .inl ⟨_, Sys.bind_of_error run⟩
  · refine .inr ⟨⟨true, true, steps ++ [("rollback_reload", restored)]⟩,
      (w.afterReload host.rollbackReload).loaded, (Sys.bind_of_ok run).trans ?_, ?_⟩
    · rw [Sys.run_pure, ← World.afterReload_eq]
    · intro reloaded
      have ok := reloaded _ (List.mem_append_right steps (List.mem_singleton_self _)) rfl
      obtain ⟨_ | _, message⟩ := restored
      · exact absurd ok Bool.false_ne_true
      · rw [returns]
        rfl

end Boron.ConfigTx

namespace Boron.ConfigTx
variable {Name : Type}

/-- The two writers. A dictionary of targets names each of its files once. -/
inductive Writer (Name : Type)
  | single (n : Name)
  | multi (targets : List Name) (distinct : targets.Nodup)

def Writer.targets : Writer Name → List Name
  | .single n => [n]
  | .multi targets _ => targets

theorem Writer.multi_targets (targets : List Name) (distinct : targets.Nodup) :
    (Writer.multi targets distinct).targets = targets := rfl

variable [DecidableEq Name]

def Writer.apply (host : Host Name) (contents : Name → String) : Writer Name → Tx Name ConfigTxResult
  | .single n => ConfigWriter.apply host n (contents n)
  | .multi targets _ => ConfigWriterMulti.apply host targets contents

def Slot.discarded (f : Slot) : Slot := { f with temporary := none }

def Slot.installed (content : Bytes) (f : Slot) : Slot :=
  { target := some content, temporary := none, backup := f.target.or f.backup }

def Slot.restored (f : Slot) : Slot := { f with temporary := none, backup := f.target.or f.backup }

def World.installed (w : World Name) (host : Host Name) (contents : Name → String)
    (targets : List Name) : World Name :=
  w.onSlots targets fun n => Slot.installed (host.writeText (contents n))

def World.restored (w : World Name) (targets : List Name) : World Name := w.onSlots targets fun _ => Slot.restored

/-- A single target that did not exist is removed without a second reload. -/
def Writer.ReloadsOnRollback (writer : Writer Name) (w : World Name) : Prop :=
  ∀ n, writer = .single n → (w.files n).target.isSome

/-- Every way in which `apply` can end, and the world each way leaves. -/
inductive Ends (host : Host Name) (contents : Name → String) (writer : Writer Name) (w : World Name) :
    Except TxError ConfigTxResult × World Name → Prop
  | unreadable (e : TxError) (compared : (allHold host contents writer.targets).run w = (.error e, w)) :
      Ends host contents writer w (.error e, w)
  | unchanged (compared : (allHold host contents writer.targets).run w = (.ok true, w)) :
      Ends host contents writer w (.ok unchanged, w)
  | rejected (result : ConfigTxResult) (proceeds : Proceeds host contents writer.targets w)
      (refused : ¬ host.Accepted) (kept : result.rolledBack = false) :
      Ends host contents writer w (.ok result, w.onSlots writer.targets fun _ => Slot.discarded)
  | abandoned (e : TxError) (loaded : Name → Option Bytes) (proceeds : Proceeds host contents writer.targets w)
      (accepted : host.Accepted) (unguarded : host.Unguarded) :
      Ends host contents writer w (.error e, (w.installed host contents writer.targets).withLoaded loaded)
  | applied (result : ConfigTxResult) (proceeds : Proceeds host contents writer.targets w)
      (accepted : host.Accepted) (committed : host.Committed) (ok : result.ok)
      (kept : result.rolledBack = false) :
      Ends host contents writer w (.ok result, (w.installed host contents writer.targets).afterReload host.reload)
  | restoredThenRaised (e : TxError) (loaded : Name → Option Bytes)
      (proceeds : Proceeds host contents writer.targets w) (accepted : host.Accepted)
      (guarded : ¬ host.Unguarded) (failed : ¬ host.Committed) (reloads : writer.ReloadsOnRollback w) :
      Ends host contents writer w (.error e, (w.restored writer.targets).withLoaded loaded)
  | restored (result : ConfigTxResult) (loaded : Name → Option Bytes)
      (proceeds : Proceeds host contents writer.targets w) (accepted : host.Accepted)
      (guarded : ¬ host.Unguarded) (failed : ¬ host.Committed) (reloads : writer.ReloadsOnRollback w)
      (agrees : result.RollbackReloaded → loaded = fun n => ((w.restored writer.targets).files n).target) :
      Ends host contents writer w (.ok result, (w.restored writer.targets).withLoaded loaded)
  | removed (result : ConfigTxResult) (n : Name) (single : writer = .single n)
      (absent : (w.files n).target = none) (proceeds : Proceeds host contents writer.targets w)
      (accepted : host.Accepted) (guarded : ¬ host.Unguarded) (failed : ¬ host.Committed)
      (rolledBack : result.rolledBack = true) (silent : result.RollbackReloaded) :
      Ends host contents writer w (.ok result, (w.restored writer.targets).withLoaded
        ((w.installed host contents writer.targets).afterReload host.reload).loaded)

theorem World.onSlots_onSlots (w : World Name) (targets : List Name) (f g : Name → Slot → Slot) :
    (w.onSlots targets f).onSlots targets g = w.onSlots targets fun n s => g n (f n s) := by
  simp only [World.onSlots, World.mk.injEq, and_true]
  funext n
  split <;> rfl

theorem World.onSlot_eq_onSlots (w : World Name) (n : Name) (f : Slot → Slot) :
    w.onSlot n f = w.onSlots [n] fun _ => f := by
  simp only [World.onSlot, World.onSlots, World.mk.injEq, and_true, List.mem_singleton]
  funext m
  by_cases same : m = n
  · subst same
    simp
  · simp [same]

theorem World.onSlots_congr {w : World Name} {targets : List Name} {f g : Name → Slot → Slot}
    (same : ∀ n ∈ targets, ∀ slot, f n slot = g n slot) : w.onSlots targets f = w.onSlots targets g := by
  simp only [World.onSlots, World.mk.injEq, and_true]
  funext n
  by_cases member : n ∈ targets
  · simp only [member, if_true, same n member]
  · simp only [member, if_false]

theorem World.withLoaded_onSlots (w : World Name) (targets : List Name) (f : Name → Slot → Slot)
    (loaded : Name → Option Bytes) :
    (w.withLoaded loaded).onSlots targets f = (w.onSlots targets f).withLoaded loaded := rfl

theorem World.restore_installed {w : World Name} {host : Host Name} {contents : Name → String}
    {targets : List Name} {undo : Name → Slot → Slot}
    (undoes : ∀ n ∈ targets,
      undo n (Slot.installed (host.writeText (contents n)) (w.files n)) = (w.files n).restored)
    (loaded : Name → Option Bytes) :
    ((w.installed host contents targets).withLoaded loaded).onSlots targets undo =
      (w.restored targets).withLoaded loaded := by
  rw [World.withLoaded_onSlots, World.installed, World.onSlots_onSlots, World.restored]
  simp only [World.withLoaded, World.onSlots, World.mk.injEq, and_true]
  funext n
  by_cases member : n ∈ targets
  · simp only [member, if_true, undoes n member]
  · simp only [member, if_false]

end Boron.ConfigTx
