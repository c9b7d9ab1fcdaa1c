import Boron.Confirmation.Confirmed
import Boron.Firewall.Rollback

namespace Boron.Confirmation
open Firewall Sys

section
variable {Id : Type} {s s' : Panel Id} {w : World Id}

def Confirms (fates : List (Nat × Fate)) : Prop := ∃ changeId token confirmedAt, (changeId, Fate.confirmed token confirmedAt) ∈ fates

/-- A change of `w` that can be taken back stays so, or is confirmed. -/
def Retracts [DecidableEq Id] (host : Host Id) (w : World Id) (s s' : Panel Id) : Prop :=
  ∃ added, s'.fates = added ++ s.fates ∧ (Reversible host w s.world → Reversible host w s'.world ∨ Confirms added)

/-- The panel between an operation and the next one. -/
abbrev Following [DecidableEq Id] (host : Host Id) (secrets : Secrets) : Panel Id → Panel Id → Prop :=
  Sys.Reaches (Panel.step host secrets) fun _ event => ∀ request, event ≠ .change request

theorem Rolled.fates (rolled : Rolled s s') : ∃ added, s'.fates = added ++ s.fates := by
  rcases rolled with closed | held
  · exact ⟨_, closed.fates⟩
  · exact ⟨[], held.fates⟩

theorem reversible_ticked [DecidableEq Id] {host : Host Id} {world : World Id} (reversible : Reversible host w world) (tick : Nat) :
    Reversible host w { world with tick } := by
  obtain ⟨steps, inverts, ⟨settled, same⟩ | ⟨journal, listed, near⟩⟩ := reversible
  · exact ⟨steps, inverts, .inl ⟨settled, same⟩⟩
  · exact ⟨steps, inverts, .inr ⟨journal, listed, near.tick tick⟩⟩

variable [DecidableEq Id] {host : Host Id} {secrets : Secrets}

theorem Retracts.same (fates : s'.fates = s.fates) (world : s'.world = s.world) : Retracts host w s s' :=
  ⟨[], fates, fun reversible => .inl (world ▸ reversible)⟩

theorem Retracts.ticked (tick : Nat) (fates : s'.fates = s.fates) (world : s'.world = { s.world with tick }) : Retracts host w s s' :=
  ⟨[], fates, fun reversible => .inl (world ▸ reversible_ticked reversible tick)⟩

theorem Retracts.trans {mid : Panel Id} (first : Retracts host w s mid) (second : Retracts host w mid s') : Retracts host w s s' := by
  obtain ⟨added, fates, kept⟩ := first
  obtain ⟨later, fates', kept'⟩ := second
  refine ⟨later ++ added, by rw [fates', fates, List.append_assoc], fun reversible => ?_⟩
  rcases kept reversible with still | ⟨changeId, token, confirmedAt, member⟩
  · refine (kept' still).imp_right fun ⟨changeId, token, confirmedAt, member⟩ => ?_
    exact ⟨changeId, token, confirmedAt, List.mem_append_left added member⟩
  · exact .inr ⟨changeId, token, confirmedAt, List.mem_append_right later member⟩

section
variable (faithful : host.Faithful)
include faithful

theorem rollbackChange_retracts (s : Panel Id) (reason : String) : Retracts host w s ((rollbackChange host reason).run s).2 := by
  have grown : ∃ added, ((rollbackChange host reason).run s).2.fates = added ++ s.fates := by
    unfold rollbackChange
    rw [run_get_bind]
    cases pending : s.world.journal with
    | none => exact ⟨[], rfl⟩
    | some journal => exact (rollbackState_spec host journal reason (by rw [pending]; rfl)).1.fates
  obtain ⟨added, fates⟩ := grown
  refine ⟨added, fates, fun ⟨steps, inverts, reverting⟩ => .inl ⟨steps, inverts, ?_⟩⟩
  have reverted := rollbackChange_reverting faithful inverts reason reverting
  rw [rollbackChange_projects reason s] at reverted
  exact reverted

theorem confirmChange_retracts (s : Panel Id) (token : String) : Retracts host w s ((confirmChange host secrets token).run s).2 := by
  unfold confirmChange
  rw [run_get_bind]
  cases pending : s.world.journal with
  | none => exact .same rfl rfl
  | some journal =>
    by_cases expired : journal.expiresAt ≤ host.now s.world.tick
    · have rolled := @rollbackChange_retracts _ w _ host faithful s "confirmation arrived after expiry"
      unfold rollbackChange at rolled
      rw [run_get_bind, pending] at rolled
      simp only [expired, if_true]
      rw [run_bind]
      dsimp only at rolled
      cases ran : (rollbackState host journal "confirmation arrived after expiry").run s with
      | mk result left =>
        rw [ran] at rolled
        cases result <;> exact rolled
    · simp only [expired, if_false]
      split
      · next accepted =>
        unfold clearPending
        rw [run_modify_bind]
        rcases noting_cases host "remove journal" (fun world => { world with journal := none })
          (Panel.close (.confirmed token (host.now s.world.tick))) { s with thread := false } with ⟨result, ran, -⟩ | ⟨fault, ran⟩
        · rw [ran]
          refine ⟨_, (fell_quiet result _).fates, fun _ => .inr ?_⟩
          cases present : s.ticket with
          | none =>
            rw [present] at accepted
            cases accepted
          | some ticket => exact ⟨ticket.changeId, token, _, List.mem_cons_self⟩
        · rw [ran]
          exact .ticked (s.world.tick + 1) (fell_quiet _ _).fates (fell_world _ _)
      · exact .same rfl rfl

theorem step_retracts (s : Panel Id) {event : Event Id} (other : ∀ request, event ≠ .change request) :
    Retracts host w s (s.step host secrets event) := by
  have stays : Retracts host w s s := .same rfl rfl
  have ticked (serving thread : Bool) (units : List Nat) : Retracts host w s { s.tick with serving, thread, units } :=
    .ticked (s.world.tick + 1) rfl rfl
  have recovered (units : List Nat) : Retracts host w s (Panel.recover host { s with units }) :=
    ((ticked s.serving s.thread units).trans (rollbackChange_retracts faithful _ _)).trans (.same rfl rfl)
  cases event with
  | change request => exact absurd rfl (other request)
  | confirm token =>
    simp only [Panel.step]
    split
    · exact (ticked ..).trans (confirmChange_retracts faithful _ token)
    · exact stays
  | rollback reason =>
    simp only [Panel.step]
    split
    · exact (ticked ..).trans (rollbackChange_retracts faithful _ reason)
    · exact stays
  | timer =>
    simp only [Panel.step]
    split
    · have stopped : Retracts host w s { s.tick with thread := false } := ticked ..
      have rolled := stopped.trans (rollbackChange_retracts faithful _ "confirmation window expired")
      unfold autoRollback onRaise handle
      dsimp only
      cases ran : (rollbackChange host "confirmation window expired").run { s.tick with thread := false } with
      | mk result left =>
        rw [ran] at rolled
        cases result with
        | ok value => exact rolled
        | error fault => cases fault <;> exact rolled
    · exact stays
  | unit changeId =>
    simp only [Panel.step]
    split
    · exact recovered _
    · exact stays
  | console => exact recovered s.units
  | kill => exact .same rfl rfl
  | restart =>
    simp only [Panel.step]
    split
    · exact stays
    · exact (ticked true s.thread s.units).trans (rollbackChange_retracts faithful _ _)

/-- However a change of the firewall and its rollbacks are cut short, and whoever asks for them, once no journal is left the
firewall is as it was before the change, unless a confirmation has been accepted since. -/
theorem unconfirmed_leaves_nothing {operation : Operation Id} {start : Panel Id} (wellFormed : WellFormed w)
    (sound : operation.Sound host w) (changed : start.world = ((operation.run host).run w).2)
    (following : Following host secrets start s) (settled : s.world.journal = none) :
    ∃ added, s.fates = added ++ start.fates ∧ (view s.world = view w ∨ Confirms added) := by
  have retracts : Retracts host w start s := following.invariant (I := Retracts host w start) (.same rfl rfl)
    fun s event other earlier => earlier.trans (step_retracts faithful s other)
  obtain ⟨added, fates, kept⟩ := retracts
  refine ⟨added, fates, (kept (changed ▸ sound.reversible faithful wellFormed)).imp_left fun ⟨steps, _, reverting⟩ => ?_⟩
  rcases reverting with ⟨-, restored⟩ | ⟨journal, -, near⟩
  · exact restored
  · cases settled.symm.trans near.steady.journal

end

end

/-- The daemon is killed once the rule is in place, and the console needs a second try to take it back. -/
theorem unconfirmed_leaves_nothing_killed :
    view (killed.after brokenHost plainSecrets [.console, .console]).world = view idle.tick.world := by
  have wellFormed : WellFormed idle.tick.world := ⟨rfl, List.nodup_nil, List.nodup_nil, fun _ member => absurd member List.not_mem_nil⟩
  have sound : Operation.Sound brokenHost idle.tick.world (.addRule { key := mailKey, comment := "" }) := by
    unfold Operation.Sound
    rfl
  have following : Following brokenHost plainSecrets killed (killed.after brokenHost plainSecrets [.console, .console]) :=
    .next Event.console (.next Event.console .start fun _ => nofun) fun _ => nofun
  obtain ⟨added, fates, restored | ⟨changeId, token, confirmedAt, member⟩⟩ :=
    unconfirmed_leaves_nothing ⟨fun _ _ => Sum.inl.inj, fun _ _ => Sum.inr.inj⟩ wellFormed sound rfl following rfl
  · exact restored
  · have only : added = [(0, .undone)] := (List.append_nil added).symm.trans fates.symm
    rw [only] at member
    cases List.mem_singleton.mp member

end Boron.Confirmation
