import Boron.Firewall.Bounds

namespace Boron.Firewall
open List Sys
variable {Id : Type} {host : Host Id} {base : World Id} {journal : Option (Journal Id)} {s s' : World Id}

theorem command_eq_ok {label : String} {effect : World Id → World Id} {ended : Unit} :
    (command host label effect).run s = (.ok ended, s') ↔
      host.outcome s.tick = .done ∧ effect { s with tick := s.tick + 1 } = s' := by
  unfold command
  dsimp only
  cases host.outcome s.tick with
  | done => simp
  | failed => simp
  | killed after => simp

theorem onRaise_eq_ok {α : Type} {p : Fw Id α} {handler : String → Fw Id α} {a : α} :
    (onRaise p handler).run s = (.ok a, s') ↔ p.run s = (.ok a, s') ∨
      ∃ message mid, p.run s = (.error (.raised message), mid) ∧ (handler message).run mid = (.ok a, s') := by
  unfold onRaise handle
  cases run : p.run s with
  | mk result mid =>
    cases result with
    | ok b => simp [run]
    | error fault => cases fault with
      | raised message => simp [run]
      | killed => simp [run]

theorem protectedPorts_eq_ok {ports : List Nat} : (protectedPorts host).run s = (.ok ports, s') ↔
      host.outcome s.tick = .done ∧ host.protectedPorts = ports ∧ { s with tick := s.tick + 1 } = s' := by
  simp only [protectedPorts, probe, bind_eq_ok, command_eq_ok, run_pure, Prod.mk.injEq, Except.ok.injEq, id_eq]
  constructor
  · rintro ⟨_, _, ⟨done, rfl⟩, rfl, rfl⟩
    exact ⟨done, rfl, rfl⟩
  · rintro ⟨done, rfl, rfl⟩
    exact ⟨(), _, ⟨done, rfl⟩, rfl, rfl⟩

theorem currentRules_eq_ok {rules : List Rule} : (currentRules host).run s = (.ok rules, s') ↔
      host.outcome s.tick = .done ∧ s.rules = rules ∧ { s with tick := s.tick + 1 } = s' := by
  simp only [currentRules, run_get_bind, bind_eq_ok, protectedPorts_eq_ok, run_pure, Prod.mk.injEq, Except.ok.injEq]
  constructor
  · rintro ⟨_, _, ⟨done, rfl, rfl⟩, rfl, rfl⟩
    exact ⟨done, rfl, rfl⟩
  · rintro ⟨done, rfl, rfl⟩
    exact ⟨_, _, ⟨done, rfl, rfl⟩, rfl, rfl⟩

theorem bypassEntries_eq_ok {entries : List BypassParams} :
    bypassEntries.run s = (.ok entries, s') ↔ s.bypassEntries = entries ∧ s = s' := by
  simp [bypassEntries]

/-- What enabling the firewall may change: the flag, and the baseline rule of
every protected port that no rule covers. -/
def enableCoords (host : Host Id) (w : World Id) : Set Coord :=
  {c | c = .active ∨ ∃ port ∈ host.protectedPorts, covers w.rules port = false ∧ c = .rule (baselineKey port)}

theorem covers_iff {w : World Id} {port : Nat} : covers w.rules port = true ↔
      ∃ key : RuleKey, (key.action = .allow ∧ key.direction = .inbound ∧ key.port = port) ∧ view w (.rule key) := by
  simp only [covers, Rule.allowsInbound, view, any_eq_true, Bool.and_eq_true, decide_eq_true_eq]
  constructor
  · rintro ⟨rule, member, ⟨allow, inbound⟩, at_⟩
    exact ⟨rule.key, ⟨allow, inbound, at_⟩, rule, member, rfl⟩
  · rintro ⟨_, ⟨allow, inbound, at_⟩, rule, member, rfl⟩
    exact ⟨rule, member, ⟨allow, inbound⟩, at_⟩

theorem view_baseline {w : World Id} {port : Nat} (bare : covers w.rules port = false) :
    view w (.rule (baselineKey port)) = false := by
  by_contra present
  have covered := covers_iff.mpr ⟨baselineKey port, ⟨rfl, rfl, rfl⟩, Bool.eq_true_of_not_eq_false present⟩
  exact Bool.false_ne_true (bare.symm.trans covered)

/-- While only the coordinates of an enabling differ, a port covered before is
still covered. -/
theorem bare_before {s : World Id} (near : Near base (enableCoords host base) journal s) {port : Nat}
    (bare : covers s.rules port = false) : covers base.rules port = false := by
  by_contra covered
  obtain ⟨key, shape, present⟩ := covers_iff.mp (Bool.eq_true_of_not_eq_false covered)
  have outside : Coord.rule key ∉ enableCoords host base := by
    rintro (other | ⟨other, -, bareOther, same⟩)
    · cases other
    · cases same
      simp [view_baseline bareOther] at present
  have still := covers_iff.mpr ⟨key, shape, (near.elsewhere _ outside).trans present⟩
  simp [bare] at still

theorem Near.tick {D : Set Coord} {s : World Id} (near : Near base D journal s) (tick : Nat) :
    Near base D journal { s with tick := tick } :=
  ⟨near.steady.tick tick, fun c outside => by rw [view_tick, near.elsewhere c outside]⟩

theorem near_ticked {D E : Set Coord} (s : World Id) :
    Undo.Within view (Near base D journal) E s { s with tick := s.tick + 1 } :=
  fun near => ⟨near.tick _, fun c _ => by rw [view_tick]⟩

theorem ensureBaselineAllowRules_within :
    Keeps (Undo.Within view (Near base (enableCoords host base) journal) (enableCoords host base))
      (ensureBaselineAllowRules host) := by
  intro s near
  refine Keeps.bind_at (currentRules_keeps near_ticked s) (fun current mid first => ?_) near
  refine Keeps.bind_at (protectedPorts_keeps near_ticked mid) fun ports mid' second => ?_
  obtain ⟨-, rfl, -⟩ := currentRules_eq_ok.mp first
  obtain ⟨-, rfl, -⟩ := protectedPorts_eq_ok.mp second
  refine Keeps.each (fun port member => ?_) mid'
  obtain ⟨protected_, bare⟩ := mem_filter.mp member
  have missing := bare_before near (by simpa using bare)
  refine command_keeps near_ticked fun t => ?_
  have inside : {Coord.rule (baselineKey port)} ⊆ enableCoords host base := by
    rintro c rfl
    exact .inr ⟨port, protected_, missing, rfl⟩
  refine (within_near inside fun steady => ⟨steady.withRule _, fun c outside => ?_⟩).mono inside
  have other : c ≠ .rule (baselineKey port) := outside
  simp [other]

theorem withActive_within {D : Set Coord} (flag : Coord.active ∈ D) (active : Bool) (s : World Id) :
    Undo.Within view (Steady base journal) D s { s with active := active } := by
  refine fun steady => ⟨steady.withActive active, fun c outside => ?_⟩
  cases c with
  | active => exact absurd flag outside
  | rule | bypass | ban => rfl

theorem enableFirewall_within (confirm : Bool) :
    Keeps (Undo.Within view (Near base (enableCoords host base) journal) (enableCoords host base))
      (enableFirewall host confirm) := by
  have flag : Coord.active ∈ enableCoords host base := .inl rfl
  refine (check_keeps _ _).bind fun _ => ensureBaselineAllowRules_within.bind fun _ => ?_
  refine (command_keeps near_ticked fun s => ?_).bind fun _ => (getStatus_keeps near_ticked).bind
    fun _ => Keeps.pure ()
  exact within_near subset_rfl (withActive_within flag true s)

theorem disableFirewall_within (confirm : Bool) :
    Keeps (Undo.Within view (Steady base journal) {.active}) (disableFirewall host confirm) :=
  (check_keeps _ _).bind fun _ => (command_keeps steady_ticked (withActive_within (Set.mem_singleton _) false)).bind
    fun _ => (getStatus_keeps steady_ticked).bind fun _ => Keeps.pure ()

end Boron.Firewall

namespace Boron.Firewall
variable {Id : Type} {host : Host Id} {base s s' : World Id} {journal : Option (Journal Id)}

theorem same_after {α : Type} {p : Fw Id α} (keeps : Sys.Keeps Same p) {a : α} (ran : p.run s = (.ok a, s')) :
    view s' = view s := by
  have same := keeps s
  rw [ran] at same
  exact same.view

variable {ended : Unit}

theorem addRule_ok {params : RuleParams} (ran : (addRule host params).run s = (.ok ended, s')) :
    view s' (.rule params.key) = true := by
  simp only [addRule, ufwAdd, Sys.bind_eq_ok, command_eq_ok] at ran
  obtain ⟨_, _, -, _, _, -, _, _, -, _, _, -, -, rfl⟩ := ran
  simp

theorem disableFirewall_ok {confirm : Bool} (ran : (disableFirewall host confirm).run s = (.ok ended, s')) : view s' .active = false := by
  simp only [disableFirewall, Sys.bind_eq_ok, command_eq_ok, Sys.run_pure] at ran
  obtain ⟨_, _, -, _, _, ⟨-, rfl⟩, _, _, status, last⟩ := ran
  cases last
  rw [same_after (getStatus_keeps same_ticked) status]
  rfl

theorem enableFirewall_ok {confirm : Bool} (ran : (enableFirewall host confirm).run s = (.ok ended, s')) : view s' .active = true := by
  simp only [enableFirewall, Sys.bind_eq_ok, command_eq_ok, Sys.run_pure] at ran
  obtain ⟨_, _, -, _, _, -, _, _, ⟨-, rfl⟩, _, _, status, last⟩ := ran
  cases last
  rw [same_after (getStatus_keeps same_ticked) status]
  rfl

variable {address : Address}

theorem view_withSource_allow (steady : Steady base journal s) (trusted : view base (.bypass address)) (label : String) :
    view (s.withSource { action := .allow, address, comment := bypassCommentOf label }) (.bypass address) = true := by
  simp only [view, SourceRule.isBypass, List.any_eq_true, Bool.and_eq_true, decide_eq_true_eq]
  unfold World.withSource
  split
  case isTrue known =>
    simp only [List.any_eq_true, decide_eq_true_eq] at known
    obtain ⟨source, member, allow, at_⟩ := known
    exact ⟨source, member, ⟨allow, steady.ours address trusted source member allow at_⟩, at_⟩
  case isFalse => exact ⟨_, List.mem_cons_self, ⟨rfl, isBypassComment_of label⟩, rfl⟩

theorem addBypass_ok (steady : Steady base journal s) {params : BypassParams} {strict : Bool} (trusted : view base (.bypass params.address))
    (ran : (addBypass host params strict).run s = (.ok ended, s')) : view s' (.bypass params.address) = true := by
  simp only [addBypass, checkComment, ufwInsert, Sys.bind_eq_ok, bypassEntries_eq_ok, command_eq_ok, run_check,
    Sys.run_pure, Prod.mk.injEq] at ran
  obtain ⟨_, _, ⟨-, rfl⟩, label, _, ⟨_, _, ⟨-, rfl⟩, -, rfl⟩, _, _, ⟨-, rfl⟩, _, _, ⟨-, rfl⟩,
    _, _, ⟨-, rfl⟩, sync⟩ := ran
  rw [same_after (syncFail2banBypass_keeps same_ticked _ _) sync]
  exact view_withSource_allow (steady.tick _) trusted label

theorem admitBan_ok {row : Ban} (ran : (admitBan host row).run s = (.ok ended, s')) :
    view s' (.ban row.value) = true := by
  simp only [admitBan, ufwInsert, raise, Sys.bind_eq_ok, command_eq_ok, onRaise_eq_ok, Sys.run_fail] at ran
  obtain ⟨_, _, ⟨-, rfl⟩, ⟨-, rfl⟩ | ⟨_, _, -, _, _, _, failed⟩⟩ := ran
  · simp only [view, withSource_bans]
    unfold World.withSource
    split
    case isTrue known => simpa [World.withBan] using known
    case isFalse => simp [World.withBan]
  · cases failed

theorem addTemporaryBan_ok {params : BanParams} (ran : (addTemporaryBan host params).run s = (.ok ended, s')) : view s' (.ban params.value) = true := by
  simp only [addTemporaryBan, Sys.bind_eq_ok] at ran
  obtain ⟨_, _, -, _, _, -, _, _, -, _, _, -, admitted⟩ := ran
  exact admitBan_ok admitted

theorem dismissBan_ok {row : Ban} (ran : (dismissBan host row).run s = (.ok ended, s')) :
    view s' (.ban row.value) = false := by
  simp only [dismissBan, ufwDeleteSource, Sys.bind_eq_ok, command_eq_ok] at ran
  obtain ⟨_, _, ⟨-, rfl⟩, -, rfl⟩ := ran
  have unruled : ((s.withoutSource .deny row.value).sources.any
      fun source => source.action = .deny ∧ source.address = row.value) = false := by
    simp only [World.withoutSource, List.any_filter, List.any_eq_false, Bool.and_eq_true, decide_eq_true_eq]
    exact fun source _ held => held.1 held.2
  exact Bool.and_eq_false_imp.mpr fun _ => unruled

theorem ufwDelete_ok {key : RuleKey} (ran : (ufwDelete host key).run s = (.ok ended, s')) :
    view s' (.rule key) = false := by
  obtain ⟨-, rfl⟩ := command_eq_ok.mp ran
  simp

theorem undo_deleteRule_ok [DecidableEq Id] (injective : Function.Injective host.ruleId) {key : RuleKey} (ran : (undoOne host (.deleteRule (host.ruleId key))).run s = (.ok ended, s')) :
    view s' (.rule key) = false := by
  simp only [undoOne, Sys.bind_eq_ok, currentRules_eq_ok] at ran
  obtain ⟨_, _, ⟨-, rfl, rfl⟩, last⟩ := ran
  cases found : findRule host s.rules (host.ruleId key) with
  | none =>
    simp only [found, Sys.run_pure, Prod.mk.injEq] at last
    obtain ⟨-, rfl⟩ := last
    have absent : ∀ rule ∈ s.rules, ¬ rule.key = key := by
      intro rule member same
      simpa [same] using List.find?_eq_none.mp found rule member
    simpa [view] using absent
  | some target =>
    simp only [found] at last
    have named : host.ruleId target.key = host.ruleId key := by simpa using List.find?_some found
    rw [← injective named]
    exact ufwDelete_ok last

theorem undo_addRule_ok [DecidableEq Id] (injective : Function.Injective host.ruleId) {params : RuleParams} (ran : (undoOne host (.addRule (host.ruleId params.key) params)).run s = (.ok ended, s')) :
    view s' (.rule params.key) = true := by
  simp only [undoOne, Sys.bind_eq_ok, currentRules_eq_ok] at ran
  obtain ⟨_, _, ⟨-, rfl, rfl⟩, last⟩ := ran
  cases found : findRule host s.rules (host.ruleId params.key) with
  | none =>
    simp only [found] at last
    exact addRule_ok last
  | some target =>
    simp only [found, Sys.run_pure, Prod.mk.injEq] at last
    obtain ⟨-, rfl⟩ := last
    have named : host.ruleId target.key = host.ruleId params.key := by simpa using List.find?_some found
    simp only [view, List.any_eq_true, decide_eq_true_eq]
    exact ⟨target, List.mem_of_find?_eq_some found, injective named⟩

theorem mem_bypassEntries :
    (∃ entry ∈ s.bypassEntries, entry.address = address) ↔ view s (.bypass address) = true := by
  simp only [World.bypassEntries, view, List.mem_map, List.mem_filter, List.any_eq_true, decide_eq_true_eq]
  constructor
  · rintro ⟨_, ⟨source, ⟨member, bypass⟩, rfl⟩, at_⟩
    exact ⟨source, member, bypass, at_⟩
  · rintro ⟨source, member, bypass, at_⟩
    exact ⟨_, ⟨source, ⟨member, bypass⟩, rfl⟩, at_⟩

theorem deleteBypass_ok [DecidableEq Id] (injective : Function.Injective host.bypassId) {strict : Bool} (ran : (deleteBypass host (host.bypassId address) strict).run s = (.ok ended, s')) :
    view s' (.bypass address) = false := by
  simp only [deleteBypass, Sys.bind_eq_ok, bypassEntries_eq_ok] at ran
  obtain ⟨_, _, ⟨rfl, rfl⟩, last⟩ := ran
  split at last
  · cases last
  · rename_i target found
    have named : host.bypassId target.address = host.bypassId address := by simpa using List.find?_some found
    simp only [ufwDeleteSource, Sys.bind_eq_ok, command_eq_ok] at last
    obtain ⟨_, _, ⟨-, rfl⟩, sync⟩ := last
    rw [same_after (syncFail2banBypass_keeps same_ticked _ _) sync, injective named]
    simp only [view, World.withoutSource, List.any_filter, List.any_eq_false]
    intro source _ held
    simp only [SourceRule.isBypass, Bool.and_eq_true, decide_eq_true_eq] at held
    exact held.1 ⟨held.2.1.1, held.2.2⟩

theorem undo_deleteBypass_ok [DecidableEq Id] (injective : Function.Injective host.bypassId) (ran : (undoOne host (.deleteBypass address)).run s = (.ok ended, s')) :
    view s' (.bypass address) = false := by
  simp only [undoOne, Sys.bind_eq_ok, bypassEntries_eq_ok] at ran
  obtain ⟨_, _, ⟨rfl, rfl⟩, last⟩ := ran
  split at last
  · rename_i found
    obtain ⟨-, rfl⟩ := last
    by_contra present
    obtain ⟨entry, member, at_⟩ := mem_bypassEntries.mpr (Bool.eq_true_of_not_eq_false present)
    simpa [at_] using List.find?_eq_none.mp found entry member
  · rename_i target found
    have at_ : target.address = address := by simpa using List.find?_some found
    rw [at_] at last
    exact deleteBypass_ok injective last

theorem undo_addBypass_ok [DecidableEq Id] (steady : Steady base journal s) {params : BypassParams} (trusted : view base (.bypass params.address))
    (ran : (undoOne host (.addBypass params)).run s = (.ok ended, s')) :
    view s' (.bypass params.address) = true := by
  simp only [undoOne, Sys.bind_eq_ok, bypassEntries_eq_ok] at ran
  obtain ⟨_, _, ⟨rfl, rfl⟩, last⟩ := ran
  split at last
  · rename_i known
    obtain ⟨-, rfl⟩ := last
    exact mem_bypassEntries.mp (by simpa using known)
  · exact addBypass_ok steady trusted last

theorem find_row (unique : Rows.Unique Ban.id s.bans) {row : Ban} (member : row ∈ s.bans) :
    s.bans.find? (fun other => other.id = row.id) = some row :=
  Rows.byKey_of_mem unique member

theorem undo_deleteTempBan_run [DecidableEq Id] (unique : Rows.Unique Ban.id s.bans) (value : Address) :
    (undoOne host (.deleteTempBan value)).run s = match s.bans.find? (·.value = value) with
      | none => (.ok (), s)
      | some row => (dismissBan host row).run s := by
  simp only [undoOne, Sys.run_get_bind]
  cases found : s.bans.find? (·.value = value) with
  | none => rfl
  | some row =>
    simp only [deleteTemporaryBan, Sys.run_get_bind, find_row unique (List.mem_of_find?_eq_some found)]

theorem undo_deleteTempBan_ok [DecidableEq Id] (unique : Rows.Unique Ban.id s.bans) {value : Address}
    (ran : (undoOne host (.deleteTempBan value)).run s = (.ok ended, s')) : view s' (.ban value) = false := by
  rw [undo_deleteTempBan_run unique] at ran
  cases found : s.bans.find? (·.value = value) with
  | none =>
    simp only [found, Prod.mk.injEq] at ran
    obtain ⟨-, rfl⟩ := ran
    have absent : ∀ row ∈ s.bans, ¬ row.value = value := by simpa using List.find?_eq_none.mp found
    simpa [view] using fun row member same => absurd same (absent row member)
  | some row =>
    simp only [found] at ran
    have at_ : row.value = value := by simpa using List.find?_some found
    rw [← at_]
    exact dismissBan_ok ran

end Boron.Firewall
