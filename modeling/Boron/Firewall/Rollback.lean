import Boron.Firewall.Imported

namespace Boron.Firewall
open List Sys
variable {Id : Type} [DecidableEq Id] {host : Host Id} {w s : World Id}

/-- The firewall after an operation and any number of rollbacks: by an
administrator, the timer, the start of the daemon or the console. -/
inductive AfterChange (host : Host Id) (operation : Operation Id) (w : World Id) : World Id → Prop
  | ran : AfterChange host operation w ((operation.run host).run w).2
  | rolledBack {s : World Id} (reason : String) (earlier : AfterChange host operation w s) :
    AfterChange host operation w ((rollbackChange host reason).run s).2

/-- Once no journal is left, the firewall is as it was before the operation. -/
def Reverts (host : Host Id) (operation : Operation Id) (w : World Id) : Prop :=
  ∀ s, AfterChange host operation w s → s.journal = none → view s = view w

variable {operation : Operation Id}

theorem AfterChange.reversible (faithful : host.Faithful) (wellFormed : WellFormed w) (sound : operation.Sound host w) (after : AfterChange host operation w s) : Reversible host w s := by
  induction after with
  | ran => exact sound.reversible faithful wellFormed
  | rolledBack reason earlier ih =>
    obtain ⟨steps, inverts, reverting⟩ := ih
    exact ⟨steps, inverts, rollbackChange_reverting faithful inverts reason reverting⟩

theorem Operation.Sound.reverts (faithful : host.Faithful) (wellFormed : WellFormed w) (sound : operation.Sound host w) : Reverts host operation w := by
  intro s after settled
  obtain ⟨steps, -, ⟨-, restored⟩ | ⟨j, -, near⟩⟩ := after.reversible faithful wellFormed sound
  · exact restored
  · have held := near.steady.journal
    rw [settled] at held
    cases held

section
variable {operation : Operation Id} {t : World Id}

/-- A daemon killed once the journal is written, and a recovery that ends well
but leaves one coordinate different. -/
theorem not_reverts {label summary : String} {undo : List (UndoStep Id)} {apply : Fw Id Unit}
    (started : ((operation.run host).run w).2 = ((startChange host label summary undo apply).run t).2)
    (settled : t.journal = none) (killed : host.outcome t.tick = .killed true) {c : Coord}
    (undone : ∀ journal, ∃ s', (Undo.all Fault.fatal (undo.map (undoOne host))).run
      { t with tick := t.tick + 1, journal := journal } = (.ok [], s') ∧ Prompt host s' ∧ view s' c ≠ view w c) :
    ¬ Reverts host operation w := by
  intro reverts
  obtain ⟨j, listed, left⟩ := startChange_killed settled killed label summary undo apply
  obtain ⟨s', ran, prompt, differs⟩ := undone (some j)
  rw [← listed] at ran
  obtain ⟨cleared, viewed⟩ := rollbackChange_clean rfl "" ran prompt
  have after : AfterChange host operation w
      ((rollbackChange host "").run { t with tick := t.tick + 1, journal := some j }).2 := by
    rw [← left, ← started]
    exact .rolledBack "" .ran
  exact differs (by rw [← viewed, reverts _ after cleared])

theorem undo_single {step : UndoStep Id} (ends : ∃ ended s', (undoOne host step).run t = (.ok ended, s') ∧ Prompt host s')
    {c : Coord} {value : Bool}
    (undone : ∀ ended s', (undoOne host step).run t = (.ok ended, s') → view s' c = value)
    (before : view w c = !value) :
    ∃ s', (Undo.all Fault.fatal ([step].map (undoOne host))).run t = (.ok [], s') ∧ Prompt host s' ∧
      view s' c ≠ view w c := by
  obtain ⟨_, s', ran, prompt⟩ := ends
  refine ⟨s', Undo.all_cons_eq_nil.mpr ⟨s', ran, rfl⟩, prompt, ?_⟩
  rw [undone _ s' ran, before]
  cases value <;> decide

omit [DecidableEq Id] in
theorem prompt_later {last : Nat} (later : ∀ tick, last < tick → host.outcome tick = .done)
    (reached : last < t.tick) : Prompt host t := fun tick low => later tick (reached.trans_le low)

theorem addRule_unsound (faithful : host.Faithful) (wellFormed : WellFormed w)
    (killed : host.outcome w.tick = .killed true) (later : ∀ tick, w.tick < tick → host.outcome tick = .done)
    {params : RuleParams} (present : view w (.rule params.key) = true) : ¬ Reverts host (.addRule params) w :=
  not_reverts rfl wellFormed.settled killed fun _ => undo_single
    (undo_deleteRule_total _ _ (prompt_later later (Nat.lt_succ_self _)))
    (fun _ _ ran => undo_deleteRule_ok faithful.rule ran) present

theorem addBypass_unsound (faithful : host.Faithful) (wellFormed : WellFormed w)
    (killed : host.outcome w.tick = .killed true) (later : ∀ tick, w.tick < tick → host.outcome tick = .done)
    {params : BypassParams} (present : view w (.bypass params.address) = true) :
    ¬ Reverts host (.addBypass params) w :=
  not_reverts rfl wellFormed.settled killed fun _ => undo_single
    (undo_deleteBypass_total _ _ (prompt_later later (Nat.lt_succ_self _)))
    (fun _ _ ran => undo_deleteBypass_ok faithful.bypass ran) present

theorem addTemporaryBan_unsound (wellFormed : WellFormed w)
    (killed : host.outcome w.tick = .killed true) (later : ∀ tick, w.tick < tick → host.outcome tick = .done)
    {params : BanParams} (present : view w (.ban params.value) = true)
    (accepted : ((assertAddressCanBeBanned params.value params.actorIp).run w).1 = .ok ()) :
    ¬ Reverts host (.addTemporaryBan params) w := by
  have reads : Keeps Eq (assertAddressCanBeBanned params.value params.actorIp : Fw Id Unit) :=
    assertAddressCanBeBanned_keeps _ _
  have ran : (assertAddressCanBeBanned params.value params.actorIp).run w = (.ok (), w) :=
    Prod.ext accepted (reads w).symm
  refine not_reverts (by rw [Operation.run, transactionalAddTemporaryBan, bind_of_ok ran]) wellFormed.settled
    killed fun journal => undo_single ?_ (fun _ _ ended => undo_deleteTempBan_ok (by exact wellFormed.banIds) ended) present
  rw [undo_deleteTempBan_run (by exact wellFormed.banIds)]
  cases w.bans.find? (·.value = params.value) with
  | none => exact ⟨(), _, rfl, prompt_later later (Nat.lt_succ_self _)⟩
  | some row => exact dismissBan_total row _ (prompt_later later (Nat.lt_succ_self _))

omit [DecidableEq Id] in
theorem check_holds {c : Prop} [Decidable c] (holds : c) (message : String) (t : World Id) :
    (check c message : Fw Id Unit).run t = (.ok (), t) := by rw [run_check, if_pos holds]

omit [DecidableEq Id] in
theorem getStatus_run {answered : Bool} (asked : host.outcome t.tick = if answered then .done else .failed)
    (listed : host.outcome (t.tick + 1) = .done) :
    (getStatus host).run t = (.ok (answered && t.active), { t with tick := t.tick + 2 }) := by
  have status : (onRaise (do probe host "ufw status"; return true) fun _ => pure false : Fw Id Bool).run t =
      (.ok answered, { t with tick := t.tick + 1 }) := by
    cases answered with
    | true => exact onRaise_eq_ok.mpr (.inl (bind_eq_ok.mpr ⟨(), _, command_eq_ok.mpr ⟨asked, rfl⟩, rfl⟩))
    | false =>
      have failed : (do probe host "ufw status"; return true : Fw Id Bool).run t =
          (.error (.raised "ufw status"), { t with tick := t.tick + 1 }) := by
        refine bind_of_error ?_
        simp only [probe, command, asked, Bool.false_eq_true, if_false]
      exact onRaise_eq_ok.mpr (.inr ⟨_, _, failed, rfl⟩)
  have rules : (currentRules host).run { t with tick := t.tick + 1 } = (.ok t.rules, { t with tick := t.tick + 2 }) :=
    currentRules_eq_ok.mpr ⟨listed, rfl, rfl⟩
  rw [getStatus, bind_of_ok status, run_get_bind, bind_of_ok rules]
  rfl

theorem disable_unsound (wellFormed : WellFormed w) (asked : host.outcome w.tick = .done)
    (listed : host.outcome (w.tick + 1) = .done) (killed : host.outcome (w.tick + 2) = .killed true)
    (later : ∀ tick, w.tick + 2 < tick → host.outcome tick = .done) (active : w.active = true) {port : Nat}
    (protected_ : port ∈ host.protectedPorts) (bare : covers w.rules port = false) :
    ¬ Reverts host (.disable true) w := by
  have status : (getStatus host).run w = (.ok (true && w.active), { w with tick := w.tick + 2 }) :=
    getStatus_run asked listed
  have started : (transactionalDisable host true).run w = (startChange host "firewall.disable"
      "Disable UFW enforcement" [.enable] (disableFirewall host true)).run { w with tick := w.tick + 2 } := by
    rw [transactionalDisable, bind_of_ok (check_holds rfl _ _), bind_of_ok status, active, Bool.true_and,
      bind_of_ok (check_holds rfl _ _)]
  refine not_reverts (congrArg Prod.snd started) wellFormed.settled killed fun journal => undo_single
    (enableFirewall_total _ (prompt_later later (Nat.lt_succ_self _)))
    (fun _ _ ran => enableFirewall_covers protected_ (by exact bare) ran) (view_baseline bare)

theorem enable_unsound (faithful : host.Faithful) (wellFormed : WellFormed w)
    (asked : host.outcome w.tick = .failed) (listed : ∀ step, 1 ≤ step → step ≤ 3 → host.outcome (w.tick + step) = .done)
    (killed : host.outcome (w.tick + 4) = .killed true)
    (later : ∀ tick, w.tick + 4 < tick → host.outcome tick = .done) (active : w.active = true) :
    ¬ Reverts host (.enable true) w := by
  let bare := host.protectedPorts.filter fun port => ¬ covers w.rules port
  let steps : List (Coord × UndoStep Id) := (.active, .disable) ::
    bare.map fun port => (.rule (baselineKey port), .deleteRule (host.ruleId (baselineKey port)))
  have missing : ∀ port ∈ bare, covers w.rules port = false := fun port member => by
    simpa using (mem_filter.mp member).2
  have started : (transactionalEnable host true).run w = (startChange host "firewall.enable" "Enable UFW enforcement"
      (steps.map Prod.snd) (enableFirewall host true)).run { w with tick := w.tick + 4 } := by
    have status : (getStatus host).run w = (.ok (false && w.active), { w with tick := w.tick + 2 }) :=
      getStatus_run asked (listed 1 le_rfl (by decide))
    have rules : (currentRules host).run { w with tick := w.tick + 2 } = (.ok w.rules, { w with tick := w.tick + 3 }) :=
      currentRules_eq_ok.mpr ⟨listed 2 (by decide) (by decide), rfl, rfl⟩
    have ports : (protectedPorts host).run { w with tick := w.tick + 3 } =
        (.ok host.protectedPorts, { w with tick := w.tick + 4 }) :=
      protectedPorts_eq_ok.mpr ⟨listed 3 (by decide) le_rfl, rfl, rfl⟩
    have undo : steps.map Prod.snd =
        .disable :: bare.map fun port => .deleteRule (host.ruleId (baselineKey port)) := by
      simp [steps, Function.comp_def]
    rw [transactionalEnable, bind_of_ok (check_holds rfl _ _), bind_of_ok status, Bool.false_and,
      bind_of_ok (check_holds rfl _ _), bind_of_ok rules, bind_of_ok ports, undo]
  have differs (journal : Option (Journal Id)) : ∃ s', (Undo.all Fault.fatal
      ((steps.map Prod.snd).map (undoOne host))).run { w with tick := w.tick + 4 + 1, journal } = (.ok [], s') ∧
      Prompt host s' ∧ view s' .active ≠ view w .active := by
    have total : ∀ program ∈ (steps.map Prod.snd).map (undoOne host), Sys.Total (Prompt host) program := by
      intro program member
      obtain ⟨step, listed, rfl⟩ := mem_map.mp member
      obtain ⟨pair, inside, rfl⟩ := mem_map.mp listed
      rcases mem_cons.mp inside with rfl | inside
      · exact disableFirewall_total
      · obtain ⟨port, -, rfl⟩ := mem_map.mp inside
        exact undo_deleteRule_total _
    obtain ⟨s', ran, prompt⟩ := Undo.all_total total
      (prompt_later later (by exact Nat.lt_succ_self _) : Prompt host { w with tick := w.tick + 4 + 1, journal })
    -- The undo steps fit the firewall that is inactive.
    have inverts : ∀ step ∈ steps, Inverts host { w with active := false } (coords steps) step.1 step.2 := by
      intro step member
      rcases mem_cons.mp member with rfl | member
      · exact .disable rfl
      · obtain ⟨port, inside, rfl⟩ := mem_map.mp member
        exact .deleteRule (baselineKey port) (view_baseline (missing port inside))
    have near : Near { w with active := false } (coords steps) journal { w with tick := w.tick + 4 + 1, journal } := by
      refine ⟨⟨rfl, wellFormed.banIds, wellFormed.steady.ours⟩, fun c outside => ?_⟩
      cases c with
      | active => exact absurd mem_cons_self outside
      | rule | bypass | ban => rfl
    have inactive : view s' .active = false := congrFun (undo_restored faithful inverts near ran) .active
    have wasActive : view w .active = true := active
    exact ⟨s', ran, prompt, by rw [inactive, wasActive]; decide⟩
  exact not_reverts (congrArg Prod.snd started) wellFormed.settled killed differs

end

def exceptAt (tick : Nat) (outcome : Outcome) : Nat → Outcome := Function.update (fun _ => .done) tick outcome

/-- An operation that is not sound has a run that is rolled back without errors
to another firewall. -/
theorem exists_unsound (faithful : host.Faithful) (wellFormed : WellFormed w) (unsound : ¬ operation.Sound host w) : ∃ outcome, ¬ Reverts { host with outcome } operation w := by
  have at_ (last : Nat) : exceptAt last (.killed true) last = .killed true := Function.update_self _ _ _
  have other {last tick : Nat} (differ : tick ≠ last) : exceptAt last (.killed true) tick = .done :=
    Function.update_of_ne differ _ _
  have same (outcome : Nat → Outcome) : Host.Faithful { host with outcome } := ⟨faithful.rule, faithful.bypass⟩
  cases operation with
  | addRule params =>
    refine ⟨exceptAt w.tick (.killed true), addRule_unsound (same _) wellFormed (at_ _) ?_ ?_⟩
    · exact fun tick passed => other passed.ne'
    · simpa [Operation.Sound] using unsound
  | addBypass params =>
    refine ⟨exceptAt w.tick (.killed true), addBypass_unsound (same _) wellFormed (at_ _) ?_ ?_⟩
    · exact fun tick passed => other passed.ne'
    · simpa [Operation.Sound] using unsound
  | addTemporaryBan params =>
    simp only [Operation.Sound, not_or, not_not, Bool.not_eq_false] at unsound
    refine ⟨exceptAt w.tick (.killed true), addTemporaryBan_unsound wellFormed (at_ _) ?_ unsound.1 unsound.2⟩
    exact fun tick passed => other passed.ne'
  | enable confirm =>
    simp only [Operation.Sound, not_or, Bool.not_eq_false] at unsound
    obtain ⟨rfl, active⟩ := unsound
    have unread {tick : Nat} (differ : tick ≠ w.tick) : Function.update (exceptAt (w.tick + 4) (.killed true)) w.tick
        .failed tick = exceptAt (w.tick + 4) (.killed true) tick := Function.update_of_ne differ _ _
    refine ⟨Function.update (exceptAt (w.tick + 4) (.killed true)) w.tick .failed, enable_unsound (same _) wellFormed
      (Function.update_self _ _ _) (fun step low high => ?_) ?_ (fun tick passed => ?_) active⟩
    · exact (unread (by omega)).trans (other (by omega))
    · exact (unread (by omega)).trans (at_ _)
    · exact (unread (by omega)).trans (other (by omega))
  | disable confirm =>
    simp only [Operation.Sound, not_or, Bool.not_eq_false, not_forall, Bool.not_eq_true] at unsound
    obtain ⟨rfl, active, port, protected_, bare⟩ := unsound
    refine ⟨exceptAt (w.tick + 2) (.killed true), disable_unsound wellFormed ?_ ?_ (at_ _) ?_ active protected_ bare⟩
    · exact other (by omega)
    · exact other (by omega)
    · exact fun tick passed => other passed.ne'
  | deleteRule | deleteBypass | deleteTemporaryBan | applyServicePreset | importConfiguration =>
    exact absurd trivial unsound

def sshKey : RuleKey :=
  { action := .allow, port := 22, protocol := .tcp, fromAddr := none, direction := .inbound, toAddr := none }

def sshOnly : World (RuleKey ⊕ Address) :=
  { rules := [{ key := sshKey, comment := "ssh" }], sources := [], bans := [], active := true, journal := none, tick := 0 }

def smoothHost : Host (RuleKey ⊕ Address) :=
  { outcome := fun _ => .done, now := fun _ => 0, protectedPorts := [22], ruleId := .inl, bypassId := .inr }

theorem smoothHost_faithful : smoothHost.Faithful := ⟨fun _ _ => Sum.inl.inj, fun _ _ => Sum.inr.inj⟩

theorem sshOnly_wellFormed : WellFormed sshOnly :=
  ⟨rfl, nodup_nil, nodup_nil, fun _ member => absurd member not_mem_nil⟩

end Boron.Firewall
