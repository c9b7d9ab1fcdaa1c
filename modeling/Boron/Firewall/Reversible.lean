import Boron.Firewall.Inverse

namespace Boron.Firewall
open List Sys
variable {Id : Type} {host : Host Id} {w s : World Id} {D : Set Coord}

/-- No change is pending, row ids and source rules are unique, and every row of
the table of temporary bans has its rule. -/
structure WellFormed (w : World Id) : Prop where
  settled : w.journal = none
  banIds : Rows.Unique Ban.id w.bans
  sources : Rows.Unique (fun source : SourceRule => (source.action, source.address)) w.sources
  ruled : ∀ row ∈ w.bans, view w (.ban row.value) = true

theorem WellFormed.steady (wellFormed : WellFormed w) : Steady w none w := by
  refine ⟨wellFormed.settled, wellFormed.banIds, fun address trusted source member allow at_ => ?_⟩
  simp only [view, SourceRule.isBypass, any_eq_true, Bool.and_eq_true, decide_eq_true_eq] at trusted
  obtain ⟨other, inside, ⟨otherAllow, bypass⟩, otherAt⟩ := trusted
  have same : (source.action, source.address) = (other.action, other.address) := by
    rw [allow, at_, otherAllow, otherAt]
  rw [inj_on_of_nodup_map wellFormed.sources member inside same]
  exact bypass

/-- Nothing has happened to the firewall yet. -/
structure Idle (w s : World Id) : Prop where
  same : Same w s
  settled : s.journal = none

theorem WellFormed.idle (wellFormed : WellFormed w) : Idle w w := ⟨Std.Refl.refl w, wellFormed.settled⟩

theorem Idle.near (idle : Idle w s) (wellFormed : WellFormed w) : Near w D none s :=
  ⟨idle.settled ▸ idle.same.steady wellFormed.steady, fun c _ => by rw [idle.same.view]⟩

theorem Idle.reverting (idle : Idle w s) (undo : List (UndoStep Id)) : Reverting w D undo s :=
  .inl ⟨idle.settled, idle.same.view⟩

theorem idle_ticked (s : World Id) : Stays (Idle w) s { s with tick := s.tick + 1 } :=
  fun idle => ⟨IsTrans.trans _ _ _ idle.same (same_ticked s), idle.settled⟩

theorem near_of_within {α : Type} {p : Fw Id α} {E : Set Coord} {journal : Option (Journal Id)} (sub : E ⊆ D)
    (keeps : Keeps (Undo.Within view (Steady w journal) E) p) : Keeps (Stays (Near w D journal)) p :=
  fun s near => (within_near sub (keeps s) near).1

variable [DecidableEq Id] {steps : List (Coord × UndoStep Id)} (faithful : host.Faithful)
  (inverts : ∀ step ∈ steps, Inverts host w (coords steps) step.1 step.2) {apply : Fw Id Unit}
  (applied : ∀ journal t, Same w t → Sys.Stays (Near w (coords steps) journal) t (apply.run t).2)
include faithful inverts applied

theorem guardedChange_reverting {j : Journal Id} (same : j.undo = steps.map Prod.snd) (idle : Same w s)
    (near : Near w (coords steps) (some j) s) :
    Reverting w (coords steps) (steps.map Prod.snd) ((guardedChange host j apply).run s).2 := by
  have body : Pending w (coords steps) (steps.map Prod.snd) ((do
      apply
      verifyProtectedAccess host
      writePending host { j with stage := .pendingConfirmation }
      armRollback host : Fw Id Unit).run s).2 := by
    have first : Stays (Pending w (coords steps) (steps.map Prod.snd)) s (apply.run s).2 :=
      fun _ => ⟨j, same, applied (some j) s idle near⟩
    refine Keeps.bind_at first (fun _ mid _ => ?_) ⟨j, same, near⟩
    refine ((verifyProtectedAccess_keeps pending_ticked).bind fun _ => ?_) mid
    refine Keeps.bind (writePending_pending ?_) fun _ => probe_keeps pending_ticked _
    exact same
  unfold guardedChange onRaise handle
  dsimp only
  split
  · rename_i ended mid run
    rw [run] at body
    exact .inr body
  · rename_i fault mid run
    rw [run] at body
    cases fault with
    | killed => exact .inr body
    | raised message =>
      have reverted := rollbackState_reverting faithful inverts same "change or verification failed" body
      rw [run_bind]
      split
      · rename_i back
        rw [back] at reverted
        exact reverted
      · rename_i back
        rw [back] at reverted
        exact reverted

theorem startChange_reverting (wellFormed : WellFormed w) (operation summary : String) (idle : Idle w s) :
    Reverting w (coords steps) (steps.map Prod.snd)
      ((startChange host operation summary (steps.map Prod.snd) apply).run s).2 := by
  have settled : Idle w { s with tick := s.tick + 1 } := idle_ticked s idle
  have written (j : Journal Id) : Near w (coords steps) (some j) { s with tick := s.tick + 1, journal := some j } :=
    ((idle.near wellFormed).tick (s.tick + 1)).withJournal (some j)
  rw [startChange, run_get_bind]
  simp only [idle.settled]
  rw [writePending, command, run_bind]
  dsimp only
  cases host.outcome s.tick with
  | done =>
    refine guardedChange_reverting faithful inverts applied rfl ?_ (written _)
    exact IsTrans.trans _ _ _ idle.same ⟨rfl, rfl, rfl, rfl⟩
  | failed => exact settled.reverting _
  | killed after => cases after with
    | true => exact .inr ⟨_, rfl, written _⟩
    | false => exact settled.reverting _

omit faithful inverts applied

/-- Reverted, or held by a journal whose steps give every coordinate of the
change its value in `w`. -/
def Reversible (host : Host Id) (w s : World Id) : Prop :=
  ∃ steps : List (Coord × UndoStep Id), (∀ step ∈ steps, Inverts host w (coords steps) step.1 step.2) ∧
    Reverting w (coords steps) (steps.map Prod.snd) s

omit [DecidableEq Id] in
theorem Idle.reversible (idle : Idle w s) : Reversible host w s :=
  ⟨[], fun _ member => absurd member not_mem_nil, idle.reverting _⟩

theorem startChange_reversible (faithful : host.Faithful) (wellFormed : WellFormed w) {undo : List (UndoStep Id)}
    (steps : List (Coord × UndoStep Id)) (listed : undo = steps.map Prod.snd)
    (inverts : ∀ step ∈ steps, Inverts host w (coords steps) step.1 step.2)
    (applied : ∀ journal t, Same w t → Stays (Near w (coords steps) journal) t (apply.run t).2)
    (operation summary : String) (idle : Idle w s) :
    Reversible host w ((startChange host operation summary undo apply).run s).2 := by
  subst listed
  exact ⟨steps, inverts, startChange_reverting faithful inverts applied wellFormed operation summary idle⟩

omit [DecidableEq Id] in
theorem reversible_bind {α : Type} {p : Fw Id α} {f : α → Fw Id Unit} (reads : Keeps (Stays (Idle w)) p)
    (idle : Idle w s) (rest : ∀ a t, p.run s = (.ok a, t) → Idle w t → Reversible host w ((f a).run t).2) :
    Reversible host w ((p >>= f).run s).2 := by
  have after := reads s idle
  rw [run_bind]
  cases run : p.run s with
  | mk result mid =>
    rw [run] at after
    cases result with
    | ok a => exact rest a mid run after
    | error fault => exact after.reversible

omit [DecidableEq Id] in
theorem reversible_check {c : Prop} [Decidable c] {message : String} {rest : Fw Id Unit} (idle : Idle w s)
    (passed : c → Reversible host w (rest.run s).2) :
    Reversible host w ((do check c message; rest : Fw Id Unit).run s).2 := by
  rw [run_bind, run_check]
  by_cases holds : c
  · simpa only [if_pos holds] using passed holds
  · simpa only [if_neg holds] using idle.reversible

omit [DecidableEq Id] in
theorem reversible_rules {f : List Rule → Fw Id Unit} (idle : Idle w s)
    (rest : ∀ t, Idle w t → Reversible host w ((f w.rules).run t).2) :
    Reversible host w ((currentRules host >>= f).run s).2 := by
  refine reversible_bind (currentRules_keeps idle_ticked) idle fun current t ran idleNow => ?_
  obtain ⟨-, rfl, -⟩ := currentRules_eq_ok.mp ran
  rw [idle.same.rules]
  exact rest t idleNow

omit [DecidableEq Id] in
theorem reversible_ports {f : List Nat → Fw Id Unit} (idle : Idle w s)
    (rest : ∀ t, Idle w t → Reversible host w ((f host.protectedPorts).run t).2) :
    Reversible host w ((protectedPorts host >>= f).run s).2 := by
  refine reversible_bind (protectedPorts_keeps idle_ticked) idle fun ports t ran idleNow => ?_
  obtain ⟨-, rfl, -⟩ := protectedPorts_eq_ok.mp ran
  exact rest t idleNow

end Boron.Firewall

namespace Boron.Firewall
variable {Id : Type} [DecidableEq Id] {host : Host Id} {w s : World Id}

/-- The condition under which the undo list of an operation matches the
firewall it was built from. -/
def Operation.Sound (host : Host Id) (w : World Id) : Operation Id → Prop
  | .addRule params => view w (.rule params.key) = false
  | .addBypass params => view w (.bypass params.address) = false
  | .addTemporaryBan params =>
    view w (.ban params.value) = false ∨ ((assertAddressCanBeBanned params.value params.actorIp).run w).1 ≠ .ok ()
  | .enable confirm => confirm = false ∨ w.active = false
  | .disable confirm =>
    confirm = false ∨ w.active = false ∨ ∀ port ∈ host.protectedPorts, covers w.rules port
  | _ => True

omit [DecidableEq Id] in
theorem sub_coords {steps : List (Coord × UndoStep Id)} {step : Coord × UndoStep Id} (member : step ∈ steps) :
    {step.1} ⊆ coords steps := Set.singleton_subset_iff.mpr (List.mem_map_of_mem member)

omit [DecidableEq Id] in
theorem view_of_unknown {key : RuleKey} (unknown : host.ruleId key ∉ knownIds host w.rules) :
    view w (.rule key) = false := by
  by_contra present
  simp only [view, Bool.not_eq_false, List.any_eq_true, decide_eq_true_eq] at present
  obtain ⟨rule, member, rfl⟩ := present
  exact unknown (List.mem_map_of_mem member)

theorem mem_presetAdditions {preset : Preset} {action : Action} {address : Option Address} {item : RuleParams}
    (member : item ∈ presetAdditions host w.rules preset action address) : view w (.rule item.key) = false := by
  obtain ⟨key, inside, rfl⟩ := List.mem_map.mp member
  have unknown := (List.mem_filter.mp inside).2
  exact view_of_unknown (by simpa using unknown)

section
variable (faithful : host.Faithful) (wellFormed : WellFormed w)
include faithful wellFormed

theorem addRule_reversible {params : RuleParams} (absent : view w (.rule params.key) = false) :
    Reversible host w ((transactionalAddRule host params).run w).2 := by
  refine startChange_reversible faithful wellFormed [(.rule params.key, .deleteRule (host.ruleId params.key))]
    (by rfl) ?_ (fun journal t _ => ?_) _ _ wellFormed.idle
  · intro step member
    rw [List.mem_singleton.mp member]
    exact .deleteRule params.key absent
  · exact near_of_within (sub_coords (List.mem_singleton_self _)) (addRule_within params) t

theorem deleteRule_reversible (ruleId : Id) :
    Reversible host w ((transactionalDeleteRule host ruleId).run w).2 := by
  refine reversible_rules wellFormed.idle fun s idle => ?_
  cases found : findRule host w.rules ruleId with
  | none => exact idle.reversible
  | some target =>
    have named : host.ruleId target.key = ruleId := by simpa using List.find?_some found
    have present : view w (.rule target.key) = true := by
      simp only [view, List.any_eq_true, decide_eq_true_eq]
      exact ⟨target, List.mem_of_find?_eq_some found, rfl⟩
    refine startChange_reversible faithful wellFormed
      [(.rule target.key, .addRule (host.ruleId target.key) { key := target.key, comment := target.comment })] rfl
      ?_ (fun journal t _ => ?_) _ _ idle
    · intro step member
      rw [List.mem_singleton.mp member]
      exact .addRule { key := target.key, comment := target.comment } present
    · rw [← named]
      exact near_of_within (sub_coords (List.mem_singleton_self _)) (deleteRule_within faithful.rule target.key) t

theorem addBypass_reversible {params : BypassParams} (absent : view w (.bypass params.address) = false) :
    Reversible host w ((transactionalAddBypass host params).run w).2 := by
  refine startChange_reversible faithful wellFormed [(.bypass params.address, .deleteBypass params.address)] rfl
    ?_ (fun journal t _ => ?_) _ _ wellFormed.idle
  · intro step member
    rw [List.mem_singleton.mp member]
    exact .deleteBypass params.address absent
  · exact near_of_within (sub_coords (List.mem_singleton_self _)) (addBypass_within params true) t

theorem deleteBypass_reversible (bypassId : Id) :
    Reversible host w ((transactionalDeleteBypass host bypassId).run w).2 := by
  refine reversible_bind bypassEntries_keeps wellFormed.idle fun entries s ran idle => ?_
  obtain ⟨rfl, -⟩ := bypassEntries_eq_ok.mp ran
  cases found : w.bypassEntries.find? fun entry => host.bypassId entry.address = bypassId with
  | none => exact idle.reversible
  | some target =>
    have named : host.bypassId target.address = bypassId := by simpa using List.find?_some found
    have present : view w (.bypass target.address) = true :=
      mem_bypassEntries.mp ⟨target, List.mem_of_find?_eq_some found, rfl⟩
    refine startChange_reversible faithful wellFormed [(.bypass target.address, .addBypass target)] rfl
      ?_ (fun journal t _ => ?_) _ _ idle
    · intro step member
      rw [List.mem_singleton.mp member]
      exact .addBypass target present
    · rw [← named]
      exact near_of_within (sub_coords (List.mem_singleton_self _))
        (deleteBypass_within faithful.bypass target.address true) t

theorem addTemporaryBan_reversible {params : BanParams} (sound : view w (.ban params.value) = false ∨
      ((assertAddressCanBeBanned params.value params.actorIp).run w).1 ≠ .ok ()) :
    Reversible host w ((transactionalAddTemporaryBan host params).run w).2 := by
  refine reversible_bind (assertAddressCanBeBanned_keeps _ _) wellFormed.idle fun _ s ran idle => ?_
  have absent : view w (.ban params.value) = false := by
    rcases sound with absent | refused
    · exact absent
    · exact absurd (congrArg Prod.fst ran) refused
  refine startChange_reversible faithful wellFormed [(.ban params.value, .deleteTempBan params.value)] rfl
    ?_ (fun journal t _ => ?_) _ _ idle
  · intro step member
    rw [List.mem_singleton.mp member]
    exact .deleteTempBan params.value absent
  · exact near_of_within (sub_coords (List.mem_singleton_self _)) (addTemporaryBan_within params) t

theorem deleteTemporaryBan_reversible (id : Nat) :
    Reversible host w ((transactionalDeleteTemporaryBan host id).run w).2 := by
  simp only [transactionalDeleteTemporaryBan, Sys.run_get_bind]
  cases found : w.bans.find? (·.id = id) with
  | none => exact wellFormed.idle.reversible
  | some row =>
    have present := wellFormed.ruled row (List.mem_of_find?_eq_some found)
    let restore : BanParams :=
      { value := row.value, reason := row.reason, actor := row.bannedBy, actorIp := none
        durationMinutes := max 1 ((row.expiresAt - host.now w.tick) / 60 + 1) }
    refine startChange_reversible faithful wellFormed [(.ban row.value, .addTempBan restore)] rfl
      ?_ (fun journal t same near => ?_) _ _ wellFormed.idle
    · intro step member
      rw [List.mem_singleton.mp member]
      exact .addTempBan restore present
    · rw [← same.bans] at found
      exact (within_near (sub_coords (List.mem_singleton_self _)) (deleteTemporaryBan_within found) near).1

theorem applyServicePreset_reversible (presetId : String) (action : Action) (address : Option Address) :
    Reversible host w ((applyServicePreset host presetId action address).run w).2 := by
  unfold applyServicePreset
  cases servicePresets.find? (·.id = presetId) with
  | none => exact wellFormed.idle.reversible
  | some preset =>
    refine reversible_rules wellFormed.idle fun s idle => reversible_check idle fun _ => ?_
    refine startChange_reversible faithful wellFormed ((presetAdditions host w.rules preset action address).map
      fun item => (Coord.rule item.key, UndoStep.deleteRule (host.ruleId item.key))) ?_ ?_ ?_ _ _ idle
    · simp [Function.comp_def]
    · intro step member
      obtain ⟨item, inside, rfl⟩ := List.mem_map.mp member
      exact .deleteRule item.key (mem_presetAdditions inside)
    · refine fun journal t _ => Sys.Keeps.each (fun item inside => ?_) t
      exact near_of_within (sub_coords (List.mem_map_of_mem inside)) (addRule_within item)

end

end Boron.Firewall
