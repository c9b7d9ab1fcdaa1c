import Boron.Firewall.Reversible

namespace Boron.Firewall
open List Sys
variable {Id : Type} [DecidableEq Id] {host : Host Id} {w : World Id}

def Plan.steps (host : Host Id) (plan : Plan) : List (Coord × UndoStep Id) :=
  plan.deleteRules.map (fun rule =>
      (.rule rule.key, .addRule (host.ruleId rule.key) { key := rule.key, comment := rule.comment })) ++
    plan.deleteBypass.map (fun entry => (.bypass entry.address, .addBypass entry)) ++
    plan.addRules.map (fun item => (.rule item.key, .deleteRule (host.ruleId item.key))) ++
    plan.addBypass.map fun item => (.bypass item.address, .deleteBypass item.address)

omit [DecidableEq Id] in
theorem Plan.undo_eq (plan : Plan) : plan.undo host = (plan.steps host).map Prod.snd := by
  simp [Plan.undo, Plan.steps, Function.comp_def]

structure Plan.Fits (plan : Plan) (w : World Id) : Prop where
  addRules : ∀ item ∈ plan.addRules, view w (.rule item.key) = false
  deleteRules : ∀ rule ∈ plan.deleteRules, view w (.rule rule.key) = true
  addBypass : ∀ item ∈ plan.addBypass, view w (.bypass item.address) = false
  deleteBypass : ∀ entry ∈ plan.deleteBypass, view w (.bypass entry.address) = true

theorem plan_fits (config : Configuration) (replace : Bool) :
    (config.plan host w.rules w.bypassEntries replace).Fits w := by
  constructor
  · intro item member
    exact view_of_unknown (by simpa using (mem_filter.mp member).2)
  · intro rule member
    simp only [view, any_eq_true, decide_eq_true_eq]
    exact ⟨rule, mem_of_mem_filter member, rfl⟩
  · intro item member
    have unknown : item.address ∉ w.bypassEntries.map BypassParams.address := by
      simpa using (mem_filter.mp member).2
    by_contra present
    obtain ⟨entry, inside, at_⟩ := mem_bypassEntries.mpr (Bool.eq_true_of_not_eq_false present)
    exact unknown (at_ ▸ mem_map_of_mem inside)
  · intro entry member
    exact mem_bypassEntries.mp ⟨entry, mem_of_mem_filter member, rfl⟩

omit [DecidableEq Id] in
theorem Plan.Fits.inverts {plan : Plan} (fits : plan.Fits w) :
    ∀ step ∈ plan.steps host, Inverts host w (coords (plan.steps host)) step.1 step.2 := by
  intro step member
  simp only [Plan.steps, mem_append, mem_map] at member
  obtain ((⟨rule, inside, rfl⟩ | ⟨entry, inside, rfl⟩) | ⟨item, inside, rfl⟩) | ⟨item, inside, rfl⟩ := member
  · exact .addRule { key := rule.key, comment := rule.comment } (fits.deleteRules rule inside)
  · exact .addBypass entry (fits.deleteBypass entry inside)
  · exact .deleteRule item.key (fits.addRules item inside)
  · exact .deleteBypass item.address (fits.addBypass item inside)

theorem Plan.apply_near (faithful : host.Faithful) (plan : Plan) (journal : Option (Journal Id)) :
    Keeps (Stays (Near w (coords (plan.steps host)) journal)) (plan.apply host) := by
  have listed (step : Coord × UndoStep Id) (member : step ∈ plan.steps host) :
      {step.1} ⊆ coords (plan.steps host) := sub_coords member
  simp only [Plan.steps, mem_append, mem_map] at listed
  refine (Keeps.each fun item inside => ?_).bind fun _ => (Keeps.each fun item inside => ?_).bind
    fun _ => (Keeps.each fun rule inside => ?_).bind fun _ => Keeps.each fun entry inside => ?_
  · exact near_of_within (listed _ (.inl (.inr ⟨item, inside, rfl⟩))) (addRule_within item)
  · exact near_of_within (listed _ (.inr ⟨item, inside, rfl⟩)) (addBypass_within item true)
  · exact near_of_within (listed _ (.inl (.inl (.inl ⟨rule, inside, rfl⟩)))) (deleteRule_within faithful.rule rule.key)
  · exact near_of_within (listed _ (.inl (.inl (.inr ⟨entry, inside, rfl⟩))))
      (deleteBypass_within faithful.bypass entry.address true)

theorem importConfiguration_reversible (faithful : host.Faithful) (wellFormed : WellFormed w)
    (config : Configuration) (replace : Bool) :
    Reversible host w ((importConfiguration host config replace).run w).2 := by
  refine reversible_check wellFormed.idle fun _ => reversible_check wellFormed.idle fun _ => ?_
  refine reversible_rules wellFormed.idle fun s idle => reversible_ports idle fun s idle => ?_
  refine reversible_check idle fun _ => reversible_check idle fun _ => ?_
  exact startChange_reversible faithful wellFormed _ (Plan.undo_eq _) (plan_fits config replace).inverts
    (fun journal t _ => Plan.apply_near faithful _ journal t) _ _ idle

omit [DecidableEq Id] in
/-- A status that was read says whether the firewall is active; one that could
not be read says inactive. -/
theorem reversible_status {f : Bool → Fw Id Unit} {s : World Id} (idle : Idle w s)
    (rest : ∀ answered t, Idle w t → Reversible host w ((f (answered && w.active)).run t).2) :
    Reversible host w ((getStatus host >>= f).run s).2 := by
  refine reversible_bind (getStatus_keeps idle_ticked) idle fun active t ran idleNow => ?_
  simp only [getStatus, bind_eq_ok, run_get, run_pure, Prod.mk.injEq, Except.ok.injEq] at ran
  obtain ⟨answered, mid, asked, _, _, ⟨rfl, rfl⟩, _, _, _, rfl, rfl⟩ := ran
  have kept : Keeps (Stays (Idle w)) (onRaise (do probe host "ufw status"; return true) fun _ => pure false) :=
    onRaise_keeps ((probe_keeps idle_ticked _).bind fun _ => Keeps.pure _) fun _ => Keeps.pure _
  have before := kept s idle
  rw [asked] at before
  rw [before.same.active]
  exact rest answered _ idleNow

theorem transactionalEnable_reversible (faithful : host.Faithful) (wellFormed : WellFormed w) {confirm : Bool}
    (sound : confirm = false ∨ w.active = false) :
    Reversible host w ((transactionalEnable host confirm).run w).2 := by
  refine reversible_check wellFormed.idle fun confirmed => reversible_status wellFormed.idle fun answered s idle => ?_
  have inactive : w.active = false := sound.resolve_left (by simpa using confirmed)
  refine reversible_check idle fun _ => reversible_rules idle fun s idle => reversible_ports idle fun s idle => ?_
  let bare := host.protectedPorts.filter fun port => ¬ covers w.rules port
  let steps : List (Coord × UndoStep Id) := (.active, .disable) ::
    bare.map fun port => (.rule (baselineKey port), .deleteRule (host.ruleId (baselineKey port)))
  have missing : ∀ port ∈ bare, covers w.rules port = false := fun port member => by
    simpa using (mem_filter.mp member).2
  have touched : coords steps = enableCoords host w := by
    ext c
    simp only [coords, steps, map_cons, map_map, mem_cons, mem_map, Set.mem_ofPred_eq]
    constructor
    · rintro (rfl | ⟨port, inside, rfl⟩)
      · exact .inl rfl
      · exact .inr ⟨port, mem_of_mem_filter inside, missing port inside, rfl⟩
    · rintro (rfl | ⟨port, inside, free, rfl⟩)
      · exact .inl rfl
      · exact .inr ⟨port, mem_filter.mpr ⟨inside, by simp [free]⟩, rfl⟩
  refine startChange_reversible faithful wellFormed steps ?_ ?_ (fun journal t _ near => ?_) _ _ idle
  · simp [steps, bare, Function.comp_def]
  · intro step member
    rcases mem_cons.mp member with rfl | member
    · exact .disable inactive
    · obtain ⟨port, inside, rfl⟩ := mem_map.mp member
      exact .deleteRule (baselineKey port) (view_baseline (missing port inside))
  · rw [touched] at near ⊢
    exact (enableFirewall_within confirm t near).1

theorem transactionalDisable_reversible (faithful : host.Faithful) (wellFormed : WellFormed w) {confirm : Bool}
    (sound : confirm = false ∨ w.active = false ∨ ∀ port ∈ host.protectedPorts, covers w.rules port) :
    Reversible host w ((transactionalDisable host confirm).run w).2 := by
  refine reversible_check wellFormed.idle fun confirmed => reversible_status wellFormed.idle fun answered s idle => ?_
  refine reversible_check idle fun active => ?_
  have wasActive : w.active = true := (Bool.and_eq_true_iff.mp active).2
  have covered := (sound.resolve_left (by simpa using confirmed)).resolve_left (by simp [wasActive])
  refine startChange_reversible faithful wellFormed [(.active, .enable)] rfl ?_ (fun journal t _ => ?_) _ _ idle
  · intro step member
    rw [mem_singleton.mp member]
    exact .enable wasActive covered (by ext c; simp [coords])
  · exact near_of_within (sub_coords (mem_singleton_self _)) (disableFirewall_within confirm) t

theorem Operation.Sound.reversible (faithful : host.Faithful) (wellFormed : WellFormed w)
    {operation : Operation Id} (sound : operation.Sound host w) :
    Reversible host w ((operation.run host).run w).2 := by
  cases operation with
  | addRule params => exact addRule_reversible faithful wellFormed sound
  | deleteRule ruleId => exact deleteRule_reversible faithful wellFormed ruleId
  | addBypass params => exact addBypass_reversible faithful wellFormed sound
  | deleteBypass bypassId => exact deleteBypass_reversible faithful wellFormed bypassId
  | addTemporaryBan params => exact addTemporaryBan_reversible faithful wellFormed sound
  | deleteTemporaryBan id => exact deleteTemporaryBan_reversible faithful wellFormed id
  | applyServicePreset presetId action address =>
    exact applyServicePreset_reversible faithful wellFormed presetId action address
  | importConfiguration config replace => exact importConfiguration_reversible faithful wellFormed config replace
  | enable confirm => exact transactionalEnable_reversible faithful wellFormed sound
  | disable confirm => exact transactionalDisable_reversible faithful wellFormed sound

end Boron.Firewall

namespace Boron.Firewall
variable {Id : Type} {host : Host Id} {base s s' : World Id}

/-- From now on every command and probe is done. -/
def Prompt (host : Host Id) (s : World Id) : Prop := ∀ tick, s.tick ≤ tick → host.outcome tick = .done

theorem command_total {label : String} {effect : World Id → World Id} (timeless : ∀ s, (effect s).tick = s.tick) :
    Sys.Total (Prompt host) (command host label effect) := by
  intro s prompt
  refine ⟨(), _, command_eq_ok.mpr ⟨prompt s.tick le_rfl, rfl⟩, fun tick later => prompt tick ?_⟩
  rw [timeless] at later
  exact (Nat.le_succ s.tick).trans later

theorem probe_total (label : String) : Sys.Total (Prompt host) (probe host label) := command_total (by intro; rfl)

theorem protectedPorts_total : Sys.Total (Prompt host) (protectedPorts host) :=
  (probe_total _).bind fun _ => Sys.Total.pure _

theorem currentRules_total : Sys.Total (Prompt host) (currentRules host) :=
  Sys.Total.get.bind fun _ => protectedPorts_total.bind fun _ => Sys.Total.pure _

theorem getStatus_total : Sys.Total (Prompt host) (getStatus host) :=
  (Sys.Total.handle ((probe_total _).bind fun _ => Sys.Total.pure _)).bind fun _ => Sys.Total.get.bind
    fun _ => currentRules_total.bind fun _ => Sys.Total.pure _

theorem withRule_tick (rule : Rule) (s : World Id) : (s.withRule rule).tick = s.tick := by
  unfold World.withRule
  split <;> rfl

theorem ensureBaselineAllowRules_total : Sys.Total (Prompt host) (ensureBaselineAllowRules host) :=
  currentRules_total.bind fun _ => protectedPorts_total.bind fun _ => Sys.Total.each
    fun _ _ => command_total (withRule_tick _)

theorem enableFirewall_total : Sys.Total (Prompt host) (enableFirewall host true) :=
  (Sys.Total.pure ()).bind fun _ => ensureBaselineAllowRules_total.bind fun _ =>
    (command_total (by intro; rfl)).bind fun _ => getStatus_total.bind fun _ => Sys.Total.pure ()

theorem disableFirewall_total : Sys.Total (Prompt host) (disableFirewall host true) :=
  (Sys.Total.pure ()).bind fun _ => (command_total (by intro; rfl)).bind fun _ =>
    getStatus_total.bind fun _ => Sys.Total.pure ()

theorem syncFail2banBypass_total : Sys.Total (Prompt host) (syncFail2banBypass host false false) := by
  refine Sys.Total.bind (Sys.Total.handle ((probe_total _).bind fun _ => Sys.Total.pure true)) fun refreshed => ?_
  cases refreshed with
  | true => exact Sys.Total.pure ()
  | false => exact Sys.Total.pure ()

theorem dismissBan_total (row : Ban) : Sys.Total (Prompt host) (dismissBan host row) :=
  (command_total (by intro; rfl)).bind fun _ => command_total (by intro; rfl)

theorem enableFirewall_covers {confirm : Bool} {port : Nat} (protected_ : port ∈ host.protectedPorts)
    (bare : covers s.rules port = false) {ended : Unit}
    (ran : (enableFirewall host confirm).run s = (.ok ended, s')) : view s' (.rule (baselineKey port)) = true := by
  simp only [enableFirewall, ensureBaselineAllowRules, Sys.bind_eq_ok, run_check, Prod.mk.injEq, currentRules_eq_ok,
    protectedPorts_eq_ok, command_eq_ok, Sys.run_pure] at ran
  obtain ⟨_, _, ⟨-, rfl⟩, _, mid, ⟨_, _, ⟨-, rfl, rfl⟩, _, start, ⟨-, rfl, -⟩, added⟩, _, _, ⟨-, rfl⟩, _, _,
    status, -, rfl⟩ := ran
  rw [same_after (getStatus_keeps same_ticked) status]
  have every : ∀ (todo : List Nat) (t : World Id),
      (Sys.each (fun port => ufwAdd host { key := baselineKey port, comment := "boron-baseline-protected-port" })
        todo).run t = (.ok (), mid) →
      (port ∈ todo ∨ view t (.rule (baselineKey port)) = true) → view mid (.rule (baselineKey port)) = true := by
    intro todo
    induction todo with
    | nil =>
      intro t ended present
      cases ended
      exact present.resolve_left List.not_mem_nil
    | cons first rest ih =>
      intro t ended present
      simp only [Sys.each_cons, ufwAdd, Sys.bind_eq_ok, command_eq_ok] at ended
      obtain ⟨_, _, ⟨-, rfl⟩, ended⟩ := ended
      refine ih _ ended ?_
      rcases present with member | present
      · rcases List.mem_cons.mp member with rfl | member
        · exact .inr (by simp)
        · exact .inl member
      · exact .inr (by rw [view_withRule, view_tick, present]; rfl)
  exact every _ start added (.inl (List.mem_filter.mpr ⟨protected_, by simp [bare]⟩))

section
variable [DecidableEq Id]

theorem undo_deleteRule_total (ruleId : Id) : Sys.Total (Prompt host) (undoOne host (.deleteRule ruleId)) := by
  refine currentRules_total.bind fun current => ?_
  split
  · exact Sys.Total.pure ()
  · exact command_total (by intro; rfl)

theorem undo_deleteBypass_total (address : Address) :
    Sys.Total (Prompt host) (undoOne host (.deleteBypass address)) := by
  intro s prompt
  have entries : bypassEntries.run s = ((.ok s.bypassEntries, s) : Except Fault _ × World Id) := rfl
  simp only [undoOne, Sys.bind_of_ok entries]
  cases found : s.bypassEntries.find? (·.address = address) with
  | none => exact ⟨(), s, rfl, prompt⟩
  | some target =>
    simp only [deleteBypass, Sys.bind_of_ok entries]
    cases again : s.bypassEntries.find? fun entry => host.bypassId entry.address = host.bypassId target.address with
    | none => simpa using List.find?_eq_none.mp again target (List.mem_of_find?_eq_some found)
    | some entry =>
      exact (command_total (by intro; rfl)).bind (fun _ => syncFail2banBypass_total) s prompt

theorem startChange_killed (settled : s.journal = none) (killed : host.outcome s.tick = .killed true)
    (operation summary : String) (undo : List (UndoStep Id)) (apply : Fw Id Unit) :
    ∃ j : Journal Id, j.undo = undo ∧ ((startChange host operation summary undo apply).run s).2 =
      { s with tick := s.tick + 1, journal := some j } := by
  rw [startChange, Sys.run_get_bind]
  simp only [settled]
  rw [writePending, command, Sys.run_bind]
  simp only [killed]
  exact ⟨_, rfl, rfl⟩

theorem rollbackChange_clean {j : Journal Id} (pending : s.journal = some j) (reason : String)
    (ran : (Undo.all Fault.fatal (j.undo.map (undoOne host))).run s = (.ok [], s')) (prompt : Prompt host s') :
    ((rollbackChange host reason).run s).2.journal = none ∧
      view ((rollbackChange host reason).run s).2 = view s' := by
  have final : (rollbackChange host reason).run s = (.ok (), { s' with tick := s'.tick + 1, journal := none }) := by
    have read : readPending.run s = ((.ok (some j), s) : Except Fault _ × World Id) := by
      rw [readPending, Sys.run_get_bind, pending, Sys.run_pure]
    simp only [rollbackChange, Sys.bind_of_ok read, rollbackState, Sys.bind_of_ok ran, if_pos]
    exact command_eq_ok.mpr ⟨prompt s'.tick le_rfl, rfl⟩
  rw [final]
  exact ⟨rfl, Same.view ⟨rfl, rfl, rfl, rfl⟩⟩

end

end Boron.Firewall
