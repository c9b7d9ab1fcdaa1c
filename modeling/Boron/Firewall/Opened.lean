import Boron.Firewall.Rollback

namespace Boron.Firewall
open Sys Text
variable {Id : Type} {host : Host Id} {w w' s s' : World Id} {port : Nat}

def RuleKey.opens (key : RuleKey) (port : Nat) : Bool :=
  decide (key.action = .allow) && decide (key.direction = .inbound) && decide (key.port = port) &&
    decide (key.protocol ≠ .udp) && decide (key.fromAddr = none)

def Limited (rules : List Rule) (port : Nat) : Prop :=
  ∀ rule ∈ rules, rule.allowsInbound = true → rule.key.port = port → rule.key.protocol = .udp ∨ rule.key.fromAddr ≠ none

def opened (rules : List Rule) (port : Nat) : Bool := rules.any fun rule => rule.key.opens port

def keys (rules : List Rule) : List RuleKey := rules.map Rule.key

def added (rules : List Rule) (rule : Rule) : List Rule :=
  if rules.any (·.key = rule.key) then rules else rules ++ [rule]

def undoRules [DecidableEq Id] (host : Host Id) (rules : List Rule) : UndoStep Id → List Rule
  | .deleteRule ruleId =>
    match findRule host rules ruleId with
    | none => rules
    | some target => rules.filter (·.key ≠ target.key)
  | .addRule ruleId params =>
    match findRule host rules ruleId with
    | none => added rules { key := params.key, comment := strip params.comment }
    | some _ => rules
  | .enable => (host.protectedPorts.filter fun port => ¬ covers rules port).foldl
      (fun rules port => added rules { key := baselineKey port, comment := "boron-baseline-protected-port" }) rules
  | .deleteBypass _ | .addBypass _ | .disable | .deleteTempBan _ | .addTempBan _ => rules

/-- The rules that a change starts from: an earlier one that was not confirmed in time is undone first. -/
def settledRules [DecidableEq Id] (host : Host Id) (w : World Id) : List Rule :=
  match w.journal with
  | none => w.rules
  | some journal => journal.undo.foldl (undoRules host) w.rules

def Configuration.wanted (config : Configuration) : List RuleKey := config.rules.map fun rule => (normalizeConfigRule rule).key

/-- After the operation the port is still open to everyone over TCP. -/
def Operation.LeavesOpen [DecidableEq Id] (host : Host Id) (w : World Id) (port : Nat) : Operation Id → Prop
  | .deleteRule ruleId => ∃ key ∈ keys (settledRules host w), key.opens port ∧ host.ruleId key ≠ ruleId
  | .applyServicePreset presetId action address => ∃ key : RuleKey, key.opens port ∧
      (key ∈ keys (settledRules host w) ∨ key ∉ keys w.rules ∧
        ∃ preset, servicePresets.find? (·.id = presetId) = some preset ∧ key ∈ preset.rules.map (presetKey preset action address))
  | .importConfiguration config replace => ∃ key : RuleKey, key.opens port ∧
      if key ∈ config.wanted then key ∈ keys (settledRules host w) ∨ key ∉ keys w.rules
      else key ∈ keys (settledRules host w) ∧ ¬(replace = true ∧ key ∈ keys w.rules)
  | _ => True

variable {rules : List Rule}

theorem opened_iff : opened rules port = true ↔ ∃ key ∈ keys rules, key.opens port := by
  simp [opened, keys]

variable {key : RuleKey}

theorem mem_added {rule : Rule} : key ∈ keys (added rules rule) ↔ key ∈ keys rules ∨ key = rule.key := by
  unfold added keys
  split
  · next known =>
    obtain ⟨other, member, same⟩ := List.any_eq_true.mp known
    refine ⟨.inl, fun either => either.elim id fun mine => ?_⟩
    rw [mine, ← of_decide_eq_true same]
    exact List.mem_map_of_mem member
  · rw [List.map_append, List.mem_append, List.map_cons, List.map_nil, List.mem_singleton]

theorem withRule_rules (w : World Id) (rule : Rule) : (w.withRule rule).rules = added w.rules rule := by
  unfold World.withRule added
  split <;> rfl

theorem mem_foldl_added {α : Type} {f : α → Rule} {items : List α} :
    key ∈ keys (items.foldl (fun rules item => added rules (f item)) rules) ↔ key ∈ keys rules ∨ ∃ item ∈ items, (f item).key = key := by
  induction items generalizing rules with
  | nil => simp
  | cons item items ih =>
    rw [List.foldl_cons, ih, mem_added, List.exists_mem_cons_iff, or_assoc, @eq_comm _ key]

def Ruled (s s' : World Id) : Prop := s'.rules = s.rules

instance : Std.Refl (@Ruled Id) := ⟨fun _ => rfl⟩

instance : IsTrans (World Id) Ruled := ⟨fun _ _ _ first second => second.trans first⟩

theorem ruled_ticked (s : World Id) : Ruled s { s with tick := s.tick + 1 } := rfl

theorem withSource_ruled (s : World Id) (source : SourceRule) : Ruled s (s.withSource source) := by
  unfold World.withSource
  split <;> rfl

theorem rules_after {α : Type} {p : Fw Id α} (keeps : Keeps Ruled p) {a : α} (ran : p.run s = (.ok a, s')) :
    s'.rules = s.rules := by
  have kept := keeps s
  rw [ran] at kept
  exact kept

theorem addBypass_ruled (params : BypassParams) (strict : Bool) : Keeps Ruled (addBypass host params strict) :=
  addBypass_keeps ruled_ticked fun s _ => withSource_ruled s _

theorem deleteBypass_ruled [DecidableEq Id] (bypassId : Id) (strict : Bool) : Keeps Ruled (deleteBypass host bypassId strict) :=
  deleteBypass_keeps ruled_ticked fun _ _ _ => rfl

theorem admitBan_ruled (row : Ban) : Keeps Ruled (admitBan host row) :=
  (command_keeps ruled_ticked (by intro; rfl)).bind fun _ =>
    onRaise_keeps (command_keeps ruled_ticked fun s => withSource_ruled s _) fun _ =>
      (command_keeps ruled_ticked (by intro; rfl)).bind fun _ => raise_keeps _

theorem addTemporaryBan_ruled (params : BanParams) : Keeps Ruled (addTemporaryBan host params) :=
  (check_keeps _ _).bind fun _ => (assertAddressCanBeBanned_keeps _ _).bind fun _ => Keeps.get.bind fun _ =>
    (check_keeps _ _).bind fun _ => admitBan_ruled _

theorem deleteTemporaryBan_ruled (id : Nat) : Keeps Ruled (deleteTemporaryBan host id) := by
  refine Keeps.get.bind fun w => ?_
  split
  · exact raise_keeps _
  · exact (command_keeps ruled_ticked (by intro; rfl)).bind fun _ => command_keeps ruled_ticked (by intro; rfl)

theorem disableFirewall_ruled (confirm : Bool) : Keeps Ruled (disableFirewall host confirm) :=
  (check_keeps _ _).bind fun _ => (command_keeps ruled_ticked (by intro; rfl)).bind fun _ =>
    (getStatus_keeps ruled_ticked).bind fun _ => Keeps.pure _

variable {ended : Unit}

theorem addRule_rules {params : RuleParams} (ran : (addRule host params).run s = (.ok ended, s')) :
    s'.rules = added s.rules { key := params.key, comment := strip params.comment } := by
  simp only [addRule, checkComment, ufwAdd, bind_eq_ok, run_check, run_pure, Prod.mk.injEq, command_eq_ok] at ran
  obtain ⟨comment, _, ⟨_, _, ⟨-, rfl⟩, same, rfl⟩, _, mid, refused, _, _, ⟨-, rfl⟩, _, _, ⟨-, rfl⟩, -, rfl⟩ := ran
  cases same
  rw [withRule_rules, ← rules_after (refuseProtectedDeny_keeps ruled_ticked _) refused]

theorem each_rules {α : Type} {p : α → Fw Id Unit} {f : α → Rule} {items : List α} (adds : ∀ item ∈ items, ∀ s s' ended, (p item).run s = (.ok ended, s') → s'.rules = added s.rules (f item))
    (ran : (each p items).run s = (.ok ended, s')) : s'.rules = items.foldl (fun rules item => added rules (f item)) s.rules := by
  induction items generalizing s with
  | nil =>
    cases ran
    rfl
  | cons item items ih =>
    obtain ⟨_, mid, first, rest⟩ := bind_eq_ok.mp ran
    rw [ih (fun other member => adds other (List.mem_cons_of_mem item member)) rest, adds item List.mem_cons_self _ _ _ first]
    rfl

theorem ensureBaselineAllowRules_rules (ran : (ensureBaselineAllowRules host).run s = (.ok ended, s')) :
    s'.rules = (host.protectedPorts.filter fun port => ¬ covers s.rules port).foldl
      (fun rules port => added rules { key := baselineKey port, comment := "boron-baseline-protected-port" }) s.rules := by
  unfold ensureBaselineAllowRules at ran
  obtain ⟨current, mid, read, ran⟩ := bind_eq_ok.mp ran
  obtain ⟨-, rfl, rfl⟩ := currentRules_eq_ok.mp read
  obtain ⟨ports, mid, probed, ran⟩ := bind_eq_ok.mp ran
  obtain ⟨-, rfl, rfl⟩ := protectedPorts_eq_ok.mp probed
  have adds : ∀ port, ∀ s s' : World Id, ∀ ended, (ufwAdd host { key := baselineKey port, comment := "boron-baseline-protected-port" }).run s =
      (.ok ended, s') → s'.rules = added s.rules { key := baselineKey port, comment := "boron-baseline-protected-port" } := by
    intro port before after _ ran
    obtain ⟨-, rfl⟩ := command_eq_ok.mp ran
    exact withRule_rules _ _
  have all := each_rules (fun port _ => adds port) ran
  exact all

theorem each_addRule {items : List RuleParams} (ran : (each (addRule host) items).run s = (.ok ended, s'))
    : key ∈ keys s'.rules ↔ key ∈ keys s.rules ∨ ∃ item ∈ items, item.key = key := by
  rw [each_rules (f := fun item => { key := item.key, comment := strip item.comment }) (fun item _ _ _ _ ran => addRule_rules ran) ran]
  exact mem_foldl_added

theorem mem_knownIds (injective : Function.Injective host.ruleId) :
    host.ruleId key ∈ knownIds host rules ↔ key ∈ keys rules := by
  have known : knownIds host rules = (keys rules).map host.ruleId := (List.map_map).symm
  rw [known]
  exact List.mem_map_of_injective injective

theorem limited_iff : opened rules port = true ↔ ¬Limited rules port := by
  unfold opened Limited RuleKey.opens Rule.allowsInbound
  push Not
  simp [and_assoc]

theorem ensureBaselineAllowRules_opened (ran : (ensureBaselineAllowRules host).run w = (.ok ended, w'))
    (protected_ : port ∈ host.protectedPorts) :
    opened w'.rules port = true ↔ covers w.rules port = false ∨ ¬Limited w.rules port := by
  have mem : ∀ key, key ∈ keys w'.rules ↔ key ∈ keys w.rules ∨
      ∃ port ∈ host.protectedPorts.filter (fun port => ¬ covers w.rules port), baselineKey port = key := by
    intro key
    rw [ensureBaselineAllowRules_rules ran]
    exact mem_foldl_added
  rw [← limited_iff, opened_iff, opened_iff]
  constructor
  · rintro ⟨key, member, opens⟩
    rcases (mem key).mp member with before | ⟨other, bare, rfl⟩
    · exact .inr ⟨key, before, opens⟩
    · obtain ⟨_, uncovered⟩ := List.mem_filter.mp bare
      unfold RuleKey.opens baselineKey at opens
      simp only [decide_true, Bool.true_and, Bool.and_true, decide_eq_true_eq, ne_eq, reduceCtorEq, not_false_eq_true] at opens
      subst opens
      exact .inl (by simpa using uncovered)
  · rintro (bare | ⟨key, before, opens⟩)
    · refine ⟨baselineKey port, (mem _).mpr (.inr ⟨port, List.mem_filter.mpr ⟨protected_, by simp [bare]⟩, rfl⟩), ?_⟩
      simp [RuleKey.opens, baselineKey]
    · exact ⟨key, (mem key).mpr (.inl before), opens⟩

theorem verifyProtectedAccess_covers (ran : (verifyProtectedAccess host).run w = (.ok ended, w'))
    (active : w.active = true) : ∀ port ∈ host.protectedPorts, covers w.rules port = true := by
  unfold verifyProtectedAccess at ran
  obtain ⟨_, mid, probed, ran⟩ := bind_eq_ok.mp ran
  obtain ⟨-, rfl⟩ := command_eq_ok.mp probed
  rw [run_get_bind, id_eq, if_pos active] at ran
  obtain ⟨current, mid, read, ran⟩ := bind_eq_ok.mp ran
  obtain ⟨-, rfl, rfl⟩ := currentRules_eq_ok.mp read
  obtain ⟨ports, mid, probed, ran⟩ := bind_eq_ok.mp ran
  obtain ⟨-, rfl, rfl⟩ := protectedPorts_eq_ok.mp probed
  rw [run_check] at ran
  split at ran
  · next passed => exact List.all_eq_true.mp passed
  · cases ran

variable [DecidableEq Id]

theorem deleteRule_rules {ruleId : Id} (ran : (deleteRule host ruleId).run s = (.ok ended, s')) :
    ∃ target, findRule host s.rules ruleId = some target ∧ s'.rules = s.rules.filter (·.key ≠ target.key) := by
  obtain ⟨current, mid, read, ran⟩ := bind_eq_ok.mp ran
  obtain ⟨-, rfl, rfl⟩ := currentRules_eq_ok.mp read
  cases found : findRule host s.rules ruleId with
  | none =>
    rw [found] at ran
    cases ran
  | some target =>
    rw [found] at ran
    obtain ⟨_, checked, passed, deleted⟩ := bind_eq_ok.mp ran
    obtain ⟨-, rfl⟩ := command_eq_ok.mp deleted
    refine ⟨target, rfl, ?_⟩
    have keeps : Keeps Ruled (refuseLastAllow host s.rules target) := by
      unfold refuseLastAllow
      split
      · exact (protectedPorts_keeps ruled_ticked).bind fun _ => check_keeps _ _
      · exact Keeps.pure ()
    have same := rules_after keeps passed
    unfold World.withoutRule
    dsimp only at same ⊢
    rw [same]

theorem undoOne_rules {step : UndoStep Id} (ran : (undoOne host step).run s = (.ok ended, s')) :
    s'.rules = undoRules host s.rules step := by
  cases step with
  | deleteRule ruleId =>
    obtain ⟨current, mid, read, ran⟩ := bind_eq_ok.mp ran
    obtain ⟨-, rfl, rfl⟩ := currentRules_eq_ok.mp read
    unfold undoRules
    dsimp only
    cases found : findRule host s.rules ruleId with
    | none =>
      rw [found] at ran
      cases ran
      rfl
    | some target =>
      rw [found] at ran
      obtain ⟨-, rfl⟩ := command_eq_ok.mp ran
      rfl
  | addRule ruleId params =>
    obtain ⟨current, mid, read, ran⟩ := bind_eq_ok.mp ran
    obtain ⟨-, rfl, rfl⟩ := currentRules_eq_ok.mp read
    unfold undoRules
    dsimp only
    cases found : findRule host s.rules ruleId with
    | none =>
      rw [found] at ran
      dsimp only at ran ⊢
      have same := addRule_rules ran
      exact same
    | some target =>
      rw [found] at ran
      cases ran
      rfl
  | deleteBypass address =>
    have keeps : Keeps Ruled (undoOne host (.deleteBypass address)) := by
      refine bypassEntries_keeps.bind fun current => ?_
      split
      · exact Keeps.pure ()
      · exact deleteBypass_ruled _ _
    have same := rules_after keeps ran
    exact same
  | addBypass params =>
    have keeps : Keeps Ruled (undoOne host (.addBypass params)) := by
      refine bypassEntries_keeps.bind fun current => ?_
      split
      · exact Keeps.pure ()
      · exact addBypass_ruled _ _
    have same := rules_after keeps ran
    exact same
  | disable =>
    have same := rules_after (disableFirewall_ruled true) ran
    exact same
  | enable =>
    obtain ⟨_, mid, checked, ran⟩ := bind_eq_ok.mp ran
    cases checked
    obtain ⟨_, mid, ensured, ran⟩ := bind_eq_ok.mp ran
    obtain ⟨_, enabled, command, ran⟩ := bind_eq_ok.mp ran
    obtain ⟨-, rfl⟩ := command_eq_ok.mp command
    obtain ⟨_, last, status, ran⟩ := bind_eq_ok.mp ran
    cases ran
    have same := rules_after (getStatus_keeps ruled_ticked) status
    have baseline := ensureBaselineAllowRules_rules ensured
    exact same.trans baseline
  | deleteTempBan value =>
    have keeps : Keeps Ruled (undoOne host (.deleteTempBan value)) := by
      unfold undoOne
      refine Keeps.get.bind fun w => ?_
      split
      · exact Keeps.pure ()
      · exact deleteTemporaryBan_ruled _
    have same := rules_after keeps ran
    exact same
  | addTempBan params =>
    have same := rules_after (addTemporaryBan_ruled params) ran
    exact same

theorem undoAll_rules {steps : List (UndoStep Id)}
    (ran : (Undo.all Fault.fatal (steps.map (undoOne host))).run s = (.ok [], s')) : s'.rules = steps.foldl (undoRules host) s.rules := by
  induction steps generalizing s with
  | nil =>
    cases ran
    rfl
  | cons step steps ih =>
    obtain ⟨mid, first, rest⟩ := Undo.all_cons_eq_nil.mp ran
    rw [List.foldl_cons, ← undoOne_rules first]
    exact ih rest

theorem rollbackState_rules {journal : Journal Id} {reason : String} (ran : (rollbackState host journal reason).run s = (.ok ended, s')) :
    s'.rules = journal.undo.foldl (undoRules host) s.rules := by
  obtain ⟨errors, mid, undone, ran⟩ := bind_eq_ok.mp ran
  split at ran
  · next none =>
    subst none
    obtain ⟨-, rfl⟩ := command_eq_ok.mp ran
    have same := undoAll_rules undone
    exact same
  · obtain ⟨_, _, _, raised⟩ := bind_eq_ok.mp ran
    cases raised

theorem startChange_rules {operation summary : String} {undo : List (UndoStep Id)} {apply : Fw Id Unit} (ran : (startChange host operation summary undo apply).run w = (.ok ended, w')) :
    ∃ before after, before.rules = settledRules host w ∧ apply.run before = (.ok (), after) ∧ w'.rules = after.rules := by
  unfold startChange at ran
  rw [run_get_bind] at ran
  have settled : ∃ settled, settled.rules = settledRules host w ∧
      (do writePending host { operation, summary, createdAt := host.now w.tick, expiresAt := host.now w.tick + changeConfirmSeconds,
                              stage := .applying, undo }
          guardedChange host { operation, summary, createdAt := host.now w.tick, expiresAt := host.now w.tick + changeConfirmSeconds,
                               stage := .applying, undo } apply : Fw Id Unit).run settled = (.ok ended, w') := by
    unfold settledRules
    cases pending : w.journal with
    | none =>
      rw [pending] at ran
      exact ⟨w, rfl, ran⟩
    | some existing =>
      rw [pending] at ran
      dsimp only at ran
      split at ran
      · obtain ⟨_, mid, undone, ran⟩ := bind_eq_ok.mp ran
        exact ⟨mid, rollbackState_rules undone, ran⟩
      · cases ran
  obtain ⟨settled, same, ran⟩ := settled
  obtain ⟨_, begun, written, ran⟩ := bind_eq_ok.mp ran
  obtain ⟨-, rfl⟩ := command_eq_ok.mp written
  rcases onRaise_eq_ok.mp ran with body | ⟨message, mid, -, handled⟩
  · obtain ⟨_, after, applied, body⟩ := bind_eq_ok.mp body
    refine ⟨_, after, ?_, applied, ?_⟩
    · exact same
    · refine rules_after ?_ body
      exact (verifyProtectedAccess_keeps ruled_ticked).bind fun _ =>
        (command_keeps ruled_ticked (by intro; rfl)).bind fun _ => probe_keeps ruled_ticked _
  · obtain ⟨_, _, _, raised⟩ := bind_eq_ok.mp handled
    cases raised

theorem mem_filter_keys {P : RuleKey → Bool} :
    key ∈ keys (rules.filter fun rule => P rule.key) ↔ key ∈ keys rules ∧ P key = true := by
  unfold keys
  rw [List.mem_map, List.mem_map]
  constructor
  · rintro ⟨rule, member, rfl⟩
    obtain ⟨inside, passes⟩ := List.mem_filter.mp member
    exact ⟨⟨rule, inside, rfl⟩, passes⟩
  · rintro ⟨⟨rule, inside, rfl⟩, passes⟩
    exact ⟨rule, List.mem_filter.mpr ⟨inside, passes⟩, rfl⟩

section
variable (injective : Function.Injective host.ruleId)
include injective

/-- Deleting by id, when no two keys share an id. -/
theorem deleteRule_keys {ruleId : Id} (ran : (deleteRule host ruleId).run s = (.ok ended, s')) :
    key ∈ keys s'.rules ↔ key ∈ keys s.rules ∧ host.ruleId key ≠ ruleId := by
  obtain ⟨target, found, same⟩ := deleteRule_rules ran
  have named : host.ruleId target.key = ruleId := by simpa using List.find?_some found
  rw [same, ← named, mem_filter_keys (P := fun other => decide (other ≠ target.key)), decide_eq_true_iff]
  exact and_congr Iff.rfl (not_congr ⟨congrArg _, fun same => injective same⟩)

theorem each_deleted (ran : (each (fun rule : Rule => deleteRule host (host.ruleId rule.key)) rules).run s = (.ok ended, s')) :
    key ∈ keys s'.rules ↔ key ∈ keys s.rules ∧ key ∉ keys rules := by
  induction rules generalizing s with
  | nil =>
    cases ran
    exact ⟨fun member => ⟨member, List.not_mem_nil⟩, And.left⟩
  | cons rule rules ih =>
    obtain ⟨_, mid, first, rest⟩ := bind_eq_ok.mp ran
    have cons : keys (rule :: rules) = rule.key :: keys rules := rfl
    rw [ih rest, deleteRule_keys injective first, cons, List.mem_cons, not_or, and_assoc]
    exact and_congr Iff.rfl (and_congr (not_congr ⟨fun same => injective same, congrArg _⟩) Iff.rfl)

theorem mem_firstOfEachId {rules : List RuleParams} {seen : List Id} :
    (∃ item ∈ firstOfEachId host rules seen, item.key = key) ↔ (∃ item ∈ rules, item.key = key) ∧ host.ruleId key ∉ seen := by
  induction rules generalizing seen with
  | nil => simp [firstOfEachId]
  | cons rule rules ih =>
    unfold firstOfEachId
    split
    · next known =>
      rw [ih, List.exists_mem_cons_iff]
      constructor
      · rintro ⟨later, unseen⟩
        exact ⟨.inr later, unseen⟩
      · rintro ⟨rfl | later, unseen⟩
        · exact absurd known unseen
        · exact ⟨later, unseen⟩
    · next fresh =>
      rw [List.exists_mem_cons_iff, List.exists_mem_cons_iff, ih, List.mem_cons, not_or]
      constructor
      · rintro (rfl | ⟨later, _, unseen⟩)
        · exact ⟨.inl rfl, fresh⟩
        · exact ⟨.inr later, unseen⟩
      · rintro ⟨rfl | later, unseen⟩
        · exact .inl rfl
        · by_cases same : rule.key = key
          · exact .inl same
          · exact .inr ⟨later, fun named => same (injective named.symm), unseen⟩

theorem mem_wanted {config : Configuration} :
    (∃ item ∈ firstOfEachId host (config.rules.map normalizeConfigRule) [], item.key = key) ↔ key ∈ config.wanted := by
  rw [mem_firstOfEachId injective, and_iff_left List.not_mem_nil]
  simp [Configuration.wanted]

end

section
variable (injective : Function.Injective host.ruleId) {config : Configuration} {rules : List Rule} {bypass : List BypassParams}
  {replace : Bool} {key : RuleKey}
include injective

theorem mem_plan_added : (∃ item ∈ (config.plan host rules bypass replace).addRules, item.key = key) ↔
    key ∈ config.wanted ∧ key ∉ keys rules := by
  rw [← mem_wanted injective, ← mem_knownIds injective]
  unfold Configuration.plan
  constructor
  · rintro ⟨item, member, rfl⟩
    obtain ⟨inside, absent⟩ := List.mem_filter.mp member
    exact ⟨⟨item, inside, rfl⟩, of_decide_eq_true absent⟩
  · rintro ⟨⟨item, inside, rfl⟩, absent⟩
    exact ⟨item, List.mem_filter.mpr ⟨inside, decide_eq_true absent⟩, rfl⟩

theorem mem_plan_deleted : key ∈ keys (config.plan host rules bypass replace).deleteRules ↔
    key ∈ keys rules ∧ replace = true ∧ key ∉ config.wanted := by
  have named : ∀ key, host.ruleId key ∈ (firstOfEachId host (config.rules.map normalizeConfigRule) []).map
      (fun item => host.ruleId item.key) ↔ key ∈ config.wanted := by
    intro key
    rw [← mem_wanted injective, List.mem_map]
    exact exists_congr fun item => and_congr Iff.rfl ⟨fun same => injective same, congrArg _⟩
  unfold Configuration.plan
  rw [mem_filter_keys (P := fun key => decide (replace = true ∧ host.ruleId key ∉
    (firstOfEachId host (config.rules.map normalizeConfigRule) []).map fun item => host.ruleId item.key)), decide_eq_true_iff, named]

end

/-- The requests that the claim of a safe change is made for. -/
def Operation.Edits : Operation Id → Prop
  | .deleteRule _ | .applyServicePreset _ _ _ | .importConfiguration _ _ => True
  | _ => False

theorem settledRules_tick (tick : Nat) : settledRules host { w with tick := tick } = settledRules host w := rfl

section
variable (injective : Function.Injective host.ruleId)
include injective

theorem transactionalDeleteRule_opened {ruleId : Id} (ran : (transactionalDeleteRule host ruleId).run w = (.ok ended, w')) :
    opened w'.rules port = true ↔ (Operation.deleteRule ruleId).LeavesOpen host w port := by
  obtain ⟨current, mid, read, ran⟩ := bind_eq_ok.mp ran
  obtain ⟨-, rfl, rfl⟩ := currentRules_eq_ok.mp read
  split at ran
  · cases ran
  · obtain ⟨before, after, same, applied, last⟩ := startChange_rules ran
    rw [last, opened_iff]
    simp only [deleteRule_keys injective applied, same, and_assoc]
    exact exists_congr fun key => and_congr Iff.rfl and_comm

theorem applyServicePreset_opened {presetId : String} {action : Action}
    {address : Option Address} (ran : (applyServicePreset host presetId action address).run w = (.ok ended, w')) :
    opened w'.rules port = true ↔ (Operation.applyServicePreset presetId action address : Operation Id).LeavesOpen host w port := by
  unfold applyServicePreset at ran
  split at ran
  · cases ran
  · next preset found =>
    obtain ⟨current, mid, read, ran⟩ := bind_eq_ok.mp ran
    obtain ⟨-, rfl, rfl⟩ := currentRules_eq_ok.mp read
    obtain ⟨_, mid, checked, ran⟩ := bind_eq_ok.mp ran
    rw [run_check] at checked
    obtain ⟨-, rfl⟩ := Prod.mk.inj checked
    obtain ⟨before, after, same, applied, last⟩ := startChange_rules ran
    rw [settledRules_tick] at same
    have additions : ∀ key, (∃ item ∈ presetAdditions host w.rules preset action address, item.key = key) ↔
        key ∉ keys w.rules ∧ key ∈ preset.rules.map (presetKey preset action address) := by
      intro key
      constructor
      · rintro ⟨item, member, rfl⟩
        obtain ⟨key, listed, rfl⟩ := List.mem_map.mp member
        obtain ⟨inside, absent⟩ := List.mem_filter.mp listed
        exact ⟨fun known => of_decide_eq_true absent ((mem_knownIds injective).mpr known), inside⟩
      · rintro ⟨absent, inside⟩
        refine ⟨_, List.mem_map_of_mem (List.mem_filter.mpr ⟨inside, decide_eq_true fun known => ?_⟩), rfl⟩
        exact absent ((mem_knownIds injective).mp known)
    rw [last, opened_iff]
    unfold Operation.LeavesOpen
    dsimp only
    rw [found]
    refine exists_congr fun key => ?_
    rw [each_addRule applied, same, additions, and_comm]
    simp

theorem importConfiguration_keys {config : Configuration} {replace : Bool}
    (ran : (importConfiguration host config replace).run w = (.ok ended, w')) :
    key ∈ keys w'.rules ↔ if key ∈ config.wanted then key ∈ keys (settledRules host w) ∨ key ∉ keys w.rules
      else key ∈ keys (settledRules host w) ∧ ¬(replace = true ∧ key ∈ keys w.rules) := by
  obtain ⟨_, mid, checked, ran⟩ := bind_eq_ok.mp ran
  rw [run_check] at checked
  obtain ⟨-, rfl⟩ := Prod.mk.inj checked
  obtain ⟨_, mid, checked, ran⟩ := bind_eq_ok.mp ran
  rw [run_check] at checked
  obtain ⟨-, rfl⟩ := Prod.mk.inj checked
  rw [run_get_bind] at ran
  obtain ⟨current, mid, read, ran⟩ := bind_eq_ok.mp ran
  obtain ⟨-, rfl, rfl⟩ := currentRules_eq_ok.mp read
  obtain ⟨ports, mid, probed, ran⟩ := bind_eq_ok.mp ran
  obtain ⟨-, rfl, rfl⟩ := protectedPorts_eq_ok.mp probed
  obtain ⟨_, mid, checked, ran⟩ := bind_eq_ok.mp ran
  rw [run_check] at checked
  obtain ⟨-, rfl⟩ := Prod.mk.inj checked
  obtain ⟨_, mid, checked, ran⟩ := bind_eq_ok.mp ran
  rw [run_check] at checked
  obtain ⟨-, rfl⟩ := Prod.mk.inj checked
  obtain ⟨before, after, same, applied, last⟩ := startChange_rules ran
  rw [settledRules_tick, settledRules_tick] at same
  obtain ⟨_, first, added, applied⟩ := bind_eq_ok.mp applied
  obtain ⟨_, second, bypassed, applied⟩ := bind_eq_ok.mp applied
  obtain ⟨_, third, deleted, applied⟩ := bind_eq_ok.mp applied
  have same_second := rules_after (Keeps.each fun item _ => addBypass_ruled item true) bypassed
  have same_last := rules_after (Keeps.each fun entry _ => deleteBypass_ruled _ true) applied
  rw [last, same_last, each_deleted injective deleted, same_second, each_addRule added, same, mem_plan_added injective,
    mem_plan_deleted injective]
  by_cases wanted : key ∈ config.wanted
  · simp [wanted]
  · rw [if_neg wanted]
    clear * - wanted
    tauto

theorem importConfiguration_opened {config : Configuration} {replace : Bool}
    (ran : (importConfiguration host config replace).run w = (.ok ended, w')) :
    opened w'.rules port = true ↔ (Operation.importConfiguration config replace : Operation Id).LeavesOpen host w port := by
  rw [opened_iff]
  exact exists_congr fun key => (and_congr_left' (importConfiguration_keys injective ran)).trans and_comm

end

/-- A protected port that was open to everyone over TCP stays so in a request that succeeds exactly under the condition
above, and the checks of the code pass over a port that only has allow rules for UDP or for one source. -/
theorem protected_ports_open (faithful : host.Faithful) (w w' : World Id) :
    (∀ operation : Operation Id, operation.Edits → (operation.run host).run w = (.ok (), w') →
      ∀ port ∈ host.protectedPorts, opened w.rules port = true → (opened w'.rules port = true ↔ operation.LeavesOpen host w port)) ∧
    (∀ ruleId, (deleteRule host ruleId).run w = (.ok (), w') → ∀ port ∈ host.protectedPorts, opened w.rules port = true →
      (opened w'.rules port = true ↔ ∃ key ∈ keys w.rules, key.opens port ∧ host.ruleId key ≠ ruleId)) ∧
    ((verifyProtectedAccess host).run w = (.ok (), w') → w.active = true → ∀ port ∈ host.protectedPorts,
      covers w.rules port = true ∧ (opened w.rules port = true ↔ ¬Limited w.rules port)) ∧
    ((ensureBaselineAllowRules host).run w = (.ok (), w') → ∀ port ∈ host.protectedPorts,
      (opened w'.rules port = true ↔ covers w.rules port = false ∨ ¬Limited w.rules port)) := by
  refine ⟨fun operation edits ran port _ _ => ?_, fun ruleId ran port _ _ => ?_, fun ran active port member => ?_,
    fun ran port member => ?_⟩
  · cases operation with
    | deleteRule ruleId => exact transactionalDeleteRule_opened faithful.rule ran
    | applyServicePreset presetId action address => exact applyServicePreset_opened faithful.rule ran
    | importConfiguration config replace => exact importConfiguration_opened faithful.rule ran
    | _ => cases edits
  · rw [opened_iff]
    simp only [deleteRule_keys faithful.rule ran, and_assoc]
    exact exists_congr fun key => and_congr Iff.rfl and_comm
  · exact ⟨verifyProtectedAccess_covers ran active port member, limited_iff⟩
  · exact ensureBaselineAllowRules_opened ran member

def office : Address where
  v6 := false
  base := 167772161
  prefixLen := 32
  network := false
  bounded := by decide
  short := by decide
  canonical := by decide
  host := by decide

def officeKey : RuleKey := { sshKey with fromAddr := some office }

def sshTwice : World (RuleKey ⊕ Address) :=
  { sshOnly with rules := [{ key := sshKey, comment := "ssh" }, { key := officeKey, comment := "office" }] }

theorem protected_ports_open_demo : ∃ w', ((Operation.deleteRule (.inl officeKey)).run smoothHost).run sshTwice = (.ok (), w') ∧
    opened w'.rules 22 = true := by
  refine ⟨_, rfl, ?_⟩
  refine ((protected_ports_open smoothHost_faithful sshTwice _).1 (.deleteRule (.inl officeKey)) trivial rfl 22 ?_ ?_).mpr ?_
  · decide
  · decide
  · exact ⟨sshKey, by decide, by decide, by decide⟩

/-- The rule for everyone may be deleted while the one for the office is there. -/
theorem office_rule_counts : ∃ w', (∀ port ∈ smoothHost.protectedPorts, opened sshTwice.rules port = true) ∧
    ((Operation.deleteRule (.inl sshKey)).run smoothHost).run sshTwice = (.ok (), w') ∧
    (verifyProtectedAccess smoothHost).run w' = (.ok (), { w' with tick := w'.tick + 3 }) ∧
    ¬∀ port ∈ smoothHost.protectedPorts, opened w'.rules port = true := by
  refine ⟨_, by decide, rfl, rfl, by decide⟩

end Boron.Firewall
