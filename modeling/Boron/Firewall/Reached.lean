import Mathlib.Data.List.DropRight
import Boron.Firewall.Lockdown

namespace Boron.Firewall
open List Sys Text
variable {Id : Type} {host : Host Id} {w s s' : World Id}

section
variable (host : Host Id)

/-- `ban_ip`. The table of permanent bans is left out: it only refuses a second ban of an address. -/
def banIp (value : Address) (actorIp : Option Address) : Fw Id Unit := do
  assertAddressCanBeBanned value actorIp
  ufwInsert host { action := .deny, address := value, comment := "" }

def unbanIp (value : Address) : Fw Id Unit := ufwDeleteSource host .deny value

/-- `expire_temporary_bans`: a ban that cannot be lifted is passed over. -/
def expireTemporaryBans : Fw Id Unit := do
  let w ← Sys.get
  Sys.each (fun row => onRaise (deleteTemporaryBan host row.id) fun _ => pure ())
    (w.bans.filter fun row => row.expiresAt ≤ host.now w.tick)

def confirmChange [DecidableEq Id] (tokenValid : Bool) : Fw Id Unit := do
  let w ← Sys.get
  match w.journal with
  | none => raise "there is no pending firewall change"
  | some journal =>
    if journal.expiresAt ≤ host.now w.tick then do
      rollbackState host journal "confirmation arrived after expiry"
      raise "the confirmation window expired and the change was reverted"
    else do
      check tokenValid "the firewall confirmation token is invalid"
      clearPending host

/-- `disable_boron_managed_blocks`, with the addresses of the permanent bans. -/
def disableBoronManagedBlocks (permanent : List Address) : Fw Id Unit := do
  let w ← Sys.get
  Sys.each (fun row => deleteTemporaryBan host row.id) w.bans
  Sys.each (fun value => ufwDeleteSource host .deny value) permanent
  let rules ← currentRules host
  if rules.any (·.comment = cfLockdownComment) then removeCfLockdown host else pure ()

end

inductive PanelOperation (Id : Type)
  | change (operation : Operation Id)
  | confirm (tokenValid : Bool)
  | rollback (reason : String)
  | expire
  | ban (value : Address) (actorIp : Option Address)
  | unban (value : Address)
  | lockDown (ranges : List Address)
  | liftLockdown
  | disableManagedBlocks (permanent : List Address)

def PanelOperation.run [DecidableEq Id] (host : Host Id) : PanelOperation Id → Fw Id Unit
  | .change operation => operation.run host
  | .confirm tokenValid => confirmChange host tokenValid
  | .rollback reason => rollbackChange host reason
  | .expire => expireTemporaryBans host
  | .ban value actorIp => banIp host value actorIp
  | .unban value => unbanIp host value
  | .lockDown ranges => applyCfLockdown host ranges
  | .liftLockdown => removeCfLockdown host
  | .disableManagedBlocks permanent => disableBoronManagedBlocks host permanent

/-- `_validate_port` -/
def ValidPort (port : Nat) : Prop := 1 ≤ port ∧ port ≤ 65535

/-- The ports of a request are validated before anything else is done. -/
def PanelOperation.Ported : PanelOperation Id → Prop
  | .change (.addRule params) => ValidPort params.key.port
  | .change (.importConfiguration config _) => ∀ rule ∈ config.rules, ValidPort rule.key.port
  | _ => True

def Host.Ported (host : Host Id) : Prop := ∀ port ∈ host.protectedPorts, ValidPort port

/-- The firewalls of a server whose rules are all made by the panel: on any host at each step, where any command can
fail and the daemon can be killed at any. -/
inductive Reached [DecidableEq Id] : World Id → Prop
  | fresh (active : Bool) (tick : Nat) :
    Reached { rules := [], sources := [], bans := [], active, journal := none, tick }
  | step {w : World Id} (host : Host Id) (operation : PanelOperation Id) (ported : host.Ported)
    (valid : operation.Ported) (earlier : Reached w) : Reached ((operation.run host).run w).2

structure Rule.Clean (rule : Rule) : Prop where
  port : ValidPort rule.key.port
  comment : validComment rule.comment = true
  stripped : strip rule.comment = rule.comment

structure SourceRule.Clean (source : SourceRule) : Prop where
  narrow : source.isBypass = true → source.address.isGlobal = false
  label : source.isBypass = true → validComment (bypassLabel source.comment) = true

def UndoStep.Clean : UndoStep Id → Prop
  | .addRule _ params => ValidPort params.key.port
  | _ => True

/-- What every operation keeps: the rules are those that the validators let in. -/
structure Clean (w : World Id) : Prop where
  rules : ∀ rule ∈ w.rules, rule.Clean
  sources : ∀ source ∈ w.sources, source.Clean
  journal : ∀ journal, w.journal = some journal → ∀ step ∈ journal.undo, step.Clean

abbrev KeepsClean {α : Type} (p : Fw Id α) : Prop := Sys.Keeps (Sys.Stays Clean) p

section
variable {rule : Rule} {source : SourceRule}

theorem trim_trim (P : Char → Bool) (text : List Char) : trim P (trim P text) = trim P text := by
  have ends (text : List Char) : trim P text = (text.dropWhile P).rdropWhile P := rfl
  have starts : ((text.dropWhile P).rdropWhile P).dropWhile P = (text.dropWhile P).rdropWhile P := by
    cases found : (text.dropWhile P).rdropWhile P with
    | nil => rfl
    | cons c rest =>
      obtain ⟨after, split⟩ := rdropWhile_prefix P (l := text.dropWhile P)
      rw [found, cons_append] at split
      have head : P c = false := by
        have first := head?_dropWhile_not P text
        rw [← split] at first
        simpa using first
      rw [dropWhile_cons_of_neg (by rw [head]; decide)]
  rw [ends, ends, starts, rdropWhile_idempotent]

theorem strip_strip (text : String) : strip (strip text) = strip text := by
  unfold strip
  rw [String.toList_ofList, trim_trim]

theorem validComment_sublist {text part : List Char} (sub : part.Sublist text) (valid : validComment (String.ofList text) = true) :
    validComment (String.ofList part) = true := by
  unfold validComment at valid ⊢
  rw [String.toList_ofList, Bool.and_eq_true, decide_eq_true_eq, all_eq_true] at valid
  rw [String.toList_ofList, Bool.and_eq_true, decide_eq_true_eq, all_eq_true]
  exact ⟨sub.length_le.trans valid.1, fun c member => valid.2 c (sub.subset member)⟩

theorem bypassLabel_of (label : String) :
    bypassLabel (bypassCommentOf label) = String.ofList (label.toList.dropWhile (· = '-')) := by
  have rest (text : List Char) : (bypassComment.toList ++ text).drop bypassComment.length = text := by
    exact drop_left
  unfold bypassCommentOf bypassLabel
  split
  · next empty =>
    rw [empty]
    have nothing := rest []
    rw [append_nil] at nothing
    rw [nothing]
    rfl
  · rw [String.toList_append, String.toList_append, rest]
    rfl

theorem bypassLabel_valid {label : String} (valid : validComment label = true) :
    validComment (bypassLabel (bypassCommentOf label)) = true := by
  rw [bypassLabel_of]
  refine validComment_sublist (dropWhile_sublist _) ?_
  rwa [String.ofList_toList]

theorem clean_ticked (s : World Id) : Stays Clean s { s with tick := s.tick + 1 } :=
  fun clean => ⟨clean.rules, clean.sources, clean.journal⟩

theorem Clean.withRule (clean : Clean s) (fits : rule.Clean) : Clean (s.withRule rule) := by
  unfold World.withRule
  split
  · exact clean
  · refine ⟨fun other member => ?_, clean.sources, clean.journal⟩
    rcases mem_append.mp member with member | member
    · exact clean.rules other member
    · rw [mem_singleton.mp member]
      exact fits

theorem Clean.withoutRule (clean : Clean s) (key : RuleKey) : Clean (s.withoutRule key) :=
  ⟨fun rule member => clean.rules rule (mem_of_mem_filter member), clean.sources, clean.journal⟩

theorem Clean.withSource (clean : Clean s) (fits : source.Clean) : Clean (s.withSource source) := by
  unfold World.withSource
  split
  · exact clean
  · refine ⟨clean.rules, fun other member => ?_, clean.journal⟩
    rcases mem_cons.mp member with rfl | member
    · exact fits
    · exact clean.sources other member

theorem Clean.withoutSource (clean : Clean s) (action : Action) (address : Address) :
    Clean (s.withoutSource action address) :=
  ⟨clean.rules, fun source member => clean.sources source (mem_of_mem_filter member), clean.journal⟩

theorem deny_clean (address : Address) (comment : String) : SourceRule.Clean { action := .deny, address, comment } := by
  have other : SourceRule.isBypass { action := .deny, address, comment } = false := rfl
  exact ⟨fun bypass => absurd (other.symm.trans bypass) Bool.false_ne_true,
    fun bypass => absurd (other.symm.trans bypass) Bool.false_ne_true⟩

end

section
variable [DecidableEq Id]

omit [DecidableEq Id] in
theorem checkComment_run (comment : String) (s : World Id) : (checkComment comment : Fw Id String).run s =
    (if validComment (strip comment) then .ok (strip comment)
      else .error (.raised "comment may only contain letters, digits, spaces, '.', '_', '-'"), s) := by
  unfold checkComment
  by_cases valid : validComment (strip comment) = true
  · have passed := check_holds valid "comment may only contain letters, digits, spaces, '.', '_', '-'" s
    rw [bind_of_ok passed, if_pos valid]
    rfl
  · have refused := @run_check Id (validComment (strip comment) = true) _
      "comment may only contain letters, digits, spaces, '.', '_', '-'" s
    rw [if_neg valid] at refused ⊢
    exact bind_of_error refused

omit [DecidableEq Id] in
theorem checkedComment_keeps {comment : String} {rest : String → Fw Id Unit}
    (kept : validComment (strip comment) = true → KeepsClean (rest (strip comment))) :
    KeepsClean (do let comment ← checkComment comment; rest comment) := by
  intro s
  have ran := checkComment_run comment s
  by_cases valid : validComment (strip comment) = true
  · rw [if_pos valid] at ran
    rw [bind_of_ok ran]
    exact kept valid s
  · rw [if_neg valid] at ran
    rw [bind_of_error ran]
    exact id

omit [DecidableEq Id] in
theorem addRule_clean {params : RuleParams} (port : ValidPort params.key.port) : KeepsClean (addRule host params) := by
  refine checkedComment_keeps fun valid => ?_
  have fits : Rule.Clean { key := params.key, comment := strip params.comment } := ⟨port, valid, strip_strip _⟩
  exact (refuseProtectedDeny_keeps clean_ticked _).bind fun _ => (check_keeps _ _).bind fun _ =>
    (check_keeps _ _).bind fun _ => command_keeps clean_ticked fun s clean => clean.withRule fits

theorem deleteRule_clean (ruleId : Id) : KeepsClean (deleteRule host ruleId) :=
  deleteRule_keeps clean_ticked fun _ key _ clean => clean.withoutRule key

omit [DecidableEq Id] in
theorem addBypass_clean (params : BypassParams) (strict : Bool) : KeepsClean (addBypass host params strict) := by
  by_cases narrow : params.address.isGlobal = true
  · intro s
    have refused := @run_check Id (¬ params.address.isGlobal = true) _
      "a global network cannot bypass the firewall; enter a specific trusted IP or CIDR" s
    rw [if_neg (not_not_intro narrow)] at refused
    rw [addBypass, bind_of_error refused]
    exact id
  · unfold addBypass
    refine (check_keeps _ _).bind fun _ => checkedComment_keeps fun valid => ?_
    have fits : SourceRule.Clean { action := .allow, address := params.address, comment := bypassCommentOf (strip params.label) } :=
      ⟨fun _ => eq_false_of_ne_true narrow, fun _ => bypassLabel_valid valid⟩
    exact bypassEntries_keeps.bind fun _ => (check_keeps _ _).bind fun _ =>
      (command_keeps clean_ticked fun s clean => clean.withSource fits).bind fun _ => syncFail2banBypass_keeps clean_ticked _ _

theorem deleteBypass_clean (bypassId : Id) (strict : Bool) : KeepsClean (deleteBypass host bypassId strict) :=
  deleteBypass_keeps clean_ticked fun _ address _ clean => clean.withoutSource .allow address

omit [DecidableEq Id] in
theorem deleteSource_clean (action : Action) (address : Address) : KeepsClean (ufwDeleteSource host action address) :=
  command_keeps clean_ticked fun _ clean => clean.withoutSource action address

omit [DecidableEq Id] in
theorem rows_clean {f : World Id → World Id} (same : ∀ s, (f s).rules = s.rules ∧ (f s).sources = s.sources ∧ (f s).journal = s.journal)
    (label : String) : KeepsClean (command host label f) := by
  refine command_keeps clean_ticked fun s clean => ?_
  obtain ⟨rules, sources, journal⟩ := same s
  exact ⟨rules ▸ clean.rules, sources ▸ clean.sources, journal ▸ clean.journal⟩

omit [DecidableEq Id] in
theorem addTemporaryBan_clean (params : BanParams) : KeepsClean (addTemporaryBan host params) :=
  (check_keeps _ _).bind fun _ => (assertAddressCanBeBanned_keeps _ _).bind fun _ => Keeps.get.bind fun _ =>
    (check_keeps _ _).bind fun _ => (rows_clean (by exact fun _ => ⟨rfl, rfl, rfl⟩) _).bind fun _ =>
      onRaise_keeps (command_keeps clean_ticked fun s clean => clean.withSource (deny_clean _ _)) fun _ =>
        (rows_clean (by exact fun _ => ⟨rfl, rfl, rfl⟩) _).bind fun _ => raise_keeps _

omit [DecidableEq Id] in
theorem deleteTemporaryBan_clean (id : Nat) : KeepsClean (deleteTemporaryBan host id) := by
  refine Keeps.get.bind fun w => ?_
  split
  · exact raise_keeps _
  · exact (deleteSource_clean _ _).bind fun _ => rows_clean (by exact fun _ => ⟨rfl, rfl, rfl⟩) _

omit [DecidableEq Id] in
theorem disableFirewall_clean (confirm : Bool) : KeepsClean (disableFirewall host confirm) :=
  (check_keeps _ _).bind fun _ => (rows_clean (by exact fun _ => ⟨rfl, rfl, rfl⟩) _).bind fun _ =>
    (getStatus_keeps clean_ticked).bind fun _ => Keeps.pure _

theorem fixed_clean {comment : String} {port : Nat} (valid : ValidPort port) {key : RuleKey} (same : key.port = port)
    (fixed : validComment comment = true ∧ strip comment = comment) : Rule.Clean { key, comment } :=
  ⟨by rw [same]; exact valid, fixed.1, fixed.2⟩

omit [DecidableEq Id] in
theorem enableFirewall_clean (ported : host.Ported) (confirm : Bool) : KeepsClean (enableFirewall host confirm) := by
  have comment : validComment "boron-baseline-protected-port" = true ∧
      strip "boron-baseline-protected-port" = "boron-baseline-protected-port" := by decide
  have baseline : KeepsClean (ensureBaselineAllowRules host) := by
    refine (currentRules_keeps clean_ticked).bind fun current s => ?_
    refine Keeps.bind_at (protectedPorts_keeps clean_ticked s) fun ports mid ran => ?_
    obtain ⟨-, rfl, -⟩ := protectedPorts_eq_ok.mp ran
    refine Keeps.each (fun port member => ?_) mid
    exact command_keeps clean_ticked fun s clean =>
      clean.withRule (fixed_clean (ported port (mem_of_mem_filter member)) rfl comment)
  exact (check_keeps _ _).bind fun _ => baseline.bind fun _ => (rows_clean (by exact fun _ => ⟨rfl, rfl, rfl⟩) _).bind fun _ =>
    (getStatus_keeps clean_ticked).bind fun _ => Keeps.pure _

theorem undoOne_clean (ported : host.Ported) {step : UndoStep Id} (fits : step.Clean) : KeepsClean (undoOne host step) := by
  cases step with
  | deleteRule ruleId =>
    refine (currentRules_keeps clean_ticked).bind fun current => ?_
    split
    · exact Keeps.pure ()
    · exact command_keeps clean_ticked fun _ clean => clean.withoutRule _
  | addRule ruleId params =>
    refine (currentRules_keeps clean_ticked).bind fun current => ?_
    split
    · exact addRule_clean fits
    · exact Keeps.pure ()
  | deleteBypass address =>
    refine bypassEntries_keeps.bind fun current => ?_
    split
    · exact Keeps.pure ()
    · exact deleteBypass_clean _ _
  | addBypass params =>
    refine bypassEntries_keeps.bind fun current => ?_
    split
    · exact Keeps.pure ()
    · exact addBypass_clean _ _
  | disable => exact disableFirewall_clean true
  | enable => exact enableFirewall_clean ported true
  | deleteTempBan value =>
    refine Keeps.get.bind fun w => ?_
    split
    · exact Keeps.pure ()
    · exact deleteTemporaryBan_clean _
  | addTempBan params => exact addTemporaryBan_clean params

omit [DecidableEq Id] in
theorem writePending_clean {journal : Journal Id} (fits : ∀ step ∈ journal.undo, step.Clean) : KeepsClean (writePending host journal) :=
  command_keeps clean_ticked fun _ clean => ⟨clean.rules, clean.sources, fun _ same => Option.some.inj same ▸ fits⟩

omit [DecidableEq Id] in
theorem clearPending_clean : KeepsClean (clearPending host) :=
  command_keeps clean_ticked fun _ clean => ⟨clean.rules, clean.sources, fun _ same => nomatch same⟩

theorem rollbackState_clean (ported : host.Ported) {journal : Journal Id} (fits : ∀ step ∈ journal.undo, step.Clean)
    (reason : String) : KeepsClean (rollbackState host journal reason) := by
  have undone : ∀ program ∈ journal.undo.map (undoOne host), KeepsClean program := by
    intro program member
    obtain ⟨step, listed, rfl⟩ := mem_map.mp member
    exact undoOne_clean ported (fits step listed)
  refine (Undo.all_keeps undone).bind fun errors => ?_
  split
  · exact clearPending_clean
  · exact (writePending_clean (by exact fits)).bind fun _ => raise_keeps _

theorem startChange_clean (ported : host.Ported) {operation summary : String} {undo : List (UndoStep Id)} {apply : Fw Id Unit}
    (fits : ∀ step ∈ undo, step.Clean) (applies : KeepsClean apply) : KeepsClean (startChange host operation summary undo apply) := by
  have change (journal : Journal Id) (same : journal.undo = undo) : KeepsClean (do
      writePending host journal
      guardedChange host journal apply) := by
    have kept : ∀ step ∈ journal.undo, step.Clean := by rwa [same]
    refine (writePending_clean kept).bind fun _ => onRaise_keeps ?_ fun message => ?_
    · exact applies.bind fun _ => (verifyProtectedAccess_keeps clean_ticked).bind fun _ =>
        (writePending_clean (by exact kept)).bind fun _ => probe_keeps clean_ticked _
    · exact (rollbackState_clean ported kept _).bind fun _ => raise_keeps _
  intro s clean
  unfold startChange
  rw [run_get_bind]
  cases pending : s.journal with
  | none => exact change _ rfl s clean
  | some existing =>
    dsimp only
    split
    · refine Keeps.bind_at (R := Stays Clean)
        (rollbackState_clean ported (clean.journal existing pending) _ s) (fun _ mid _ => ?_) clean
      exact change _ rfl mid
    · exact clean

theorem preset_clean : ∀ preset ∈ servicePresets, (∀ rule ∈ preset.rules, ValidPort rule.1) ∧
    validComment ("boron-preset-" ++ preset.id) = true ∧
    strip ("boron-preset-" ++ preset.id) = "boron-preset-" ++ preset.id := by
  unfold ValidPort
  decide

theorem normalizeConfigRule_port (rule : RuleParams) : (normalizeConfigRule rule).key.port = rule.key.port := rfl

theorem firstOfEachId_subset {rules : List RuleParams} {seen : List Id} {rule : RuleParams}
    (member : rule ∈ firstOfEachId host rules seen) : rule ∈ rules := by
  induction rules generalizing seen with
  | nil => exact member
  | cons first rest ih =>
    rw [firstOfEachId] at member
    split at member
    · exact mem_cons_of_mem first (ih member)
    · rcases mem_cons.mp member with rfl | member
      · exact mem_cons_self
      · exact mem_cons_of_mem first (ih member)

theorem plan_clean {config : Configuration} {current : List Rule} {bypass : List BypassParams} {replace : Bool}
    (valid : ∀ rule ∈ config.rules, ValidPort rule.key.port) (known : ∀ rule ∈ current, rule.Clean) :
    (∀ item ∈ (config.plan host current bypass replace).addRules, ValidPort item.key.port) ∧
      ∀ step ∈ (config.plan host current bypass replace).undo host, step.Clean := by
  constructor
  · intro item member
    obtain ⟨rule, listed, rfl⟩ := mem_map.mp (firstOfEachId_subset (mem_of_mem_filter member))
    rw [normalizeConfigRule_port]
    exact valid rule listed
  · intro step member
    unfold Plan.undo at member
    rw [mem_append, mem_append, mem_append] at member
    rcases member with ((member | member) | member) | member
    · obtain ⟨rule, listed, rfl⟩ := mem_map.mp member
      exact (known rule (mem_of_mem_filter listed)).port
    · obtain ⟨entry, -, rfl⟩ := mem_map.mp member
      trivial
    · obtain ⟨item, -, rfl⟩ := mem_map.mp member
      trivial
    · obtain ⟨item, -, rfl⟩ := mem_map.mp member
      trivial

theorem importConfiguration_clean (ported : host.Ported) {config : Configuration}
    (valid : ∀ rule ∈ config.rules, ValidPort rule.key.port) (replace : Bool) :
    KeepsClean (importConfiguration host config replace) := by
  refine (check_keeps _ _).bind fun _ => (check_keeps _ _).bind fun _ => ?_
  intro s clean
  rw [run_get_bind]
  refine Keeps.bind_at (R := Stays Clean) (currentRules_keeps clean_ticked s) (fun current mid ran => ?_) clean
  obtain ⟨-, rfl, rfl⟩ := currentRules_eq_ok.mp ran
  obtain ⟨items, steps⟩ := @plan_clean Id host _ config s.rules s.bypassEntries replace valid clean.rules
  generalize config.plan host s.rules s.bypassEntries replace = plan at items steps ⊢
  have applies : KeepsClean (plan.apply host) := by
    refine (Keeps.each fun item member => addRule_clean (items item member)).bind fun _ => ?_
    refine (Keeps.each fun item _ => addBypass_clean item true).bind fun _ => ?_
    exact (Keeps.each fun rule _ => deleteRule_clean _).bind fun _ => Keeps.each fun entry _ => deleteBypass_clean _ true
  have rest : KeepsClean (do
      let ports ← protectedPorts host
      check (ports.all (covers (config.final host s.rules plan replace)))
        "import would leave protected ports without inbound allow rules"
      check (plan.isEmpty = false) "the imported configuration makes no changes"
      startChange host "configuration.import" "Import firewall configuration" (plan.undo host) (plan.apply host)) :=
    (protectedPorts_keeps clean_ticked).bind fun _ => (check_keeps _ _).bind fun _ => (check_keeps _ _).bind fun _ =>
      startChange_clean ported steps applies
  exact rest _

/-- Every operation on the rules of the firewall keeps it clean. -/
theorem Operation.clean (ported : host.Ported) {operation : Operation Id}
    (valid : PanelOperation.Ported (.change operation)) : KeepsClean (operation.run host) := by
  have plain {steps : List (UndoStep Id)} (other : ∀ step ∈ steps, ∀ ruleId params, step ≠ .addRule ruleId params) :
      ∀ step ∈ steps, step.Clean := by
    intro step member
    have differs := other step member
    cases step with
    | addRule ruleId params => exact absurd rfl (differs ruleId params)
    | _ => trivial
  cases operation with
  | addRule params => exact startChange_clean ported (plain (by simp)) (addRule_clean valid)
  | addBypass params => exact startChange_clean ported (plain (by simp)) (addBypass_clean _ _)
  | deleteRule ruleId =>
    intro s clean
    refine Keeps.bind_at (R := Stays Clean) (currentRules_keeps clean_ticked s) (fun current mid ran => ?_) clean
    obtain ⟨-, rfl, rfl⟩ := currentRules_eq_ok.mp ran
    cases found : findRule host s.rules ruleId with
    | none => exact raise_keeps _ _
    | some target =>
      have own : target.Clean := clean.rules target (List.mem_of_find?_eq_some found)
      refine startChange_clean ported (fun step member => ?_) (deleteRule_clean ruleId) _
      rw [mem_singleton.mp member]
      exact own.port
  | deleteBypass bypassId =>
    refine bypassEntries_keeps.bind fun entries => ?_
    split
    · exact raise_keeps _
    · exact startChange_clean ported (plain (by simp)) (deleteBypass_clean _ _)
  | addTemporaryBan params =>
    exact (assertAddressCanBeBanned_keeps _ _).bind fun _ =>
      startChange_clean ported (plain (by simp)) (addTemporaryBan_clean _)
  | deleteTemporaryBan id =>
    refine Keeps.get.bind fun w => ?_
    split
    · exact raise_keeps _
    · exact startChange_clean ported (plain (by simp)) (deleteTemporaryBan_clean _)
  | applyServicePreset presetId action address =>
    change KeepsClean (Firewall.applyServicePreset host presetId action address)
    unfold Firewall.applyServicePreset
    cases found : servicePresets.find? (·.id = presetId) with
    | none => exact raise_keeps _
    | some preset =>
      obtain ⟨ports, -, -⟩ := preset_clean preset (List.mem_of_find?_eq_some found)
      refine (currentRules_keeps clean_ticked).bind fun current => (check_keeps _ _).bind fun _ => ?_
      refine startChange_clean ported (plain (by simp)) (Keeps.each fun item member => addRule_clean ?_)
      obtain ⟨key, listed, rfl⟩ := mem_map.mp member
      obtain ⟨rule, inside, rfl⟩ := mem_map.mp (mem_of_mem_filter listed)
      exact ports rule inside
  | importConfiguration config replace =>
    exact importConfiguration_clean ported valid replace
  | enable confirm =>
    refine (check_keeps _ _).bind fun _ => (getStatus_keeps clean_ticked).bind fun active => (check_keeps _ _).bind fun _ =>
      (currentRules_keeps clean_ticked).bind fun current => (protectedPorts_keeps clean_ticked).bind fun ports => ?_
    refine startChange_clean ported (plain fun step member ruleId params same => ?_) (enableFirewall_clean ported confirm)
    rw [same, mem_cons] at member
    rcases member with other | member
    · cases other
    · obtain ⟨port, -, other⟩ := mem_map.mp member
      cases other
  | disable confirm =>
    refine (check_keeps _ _).bind fun _ => (getStatus_keeps clean_ticked).bind fun active => (check_keeps _ _).bind fun _ => ?_
    exact startChange_clean ported (plain (by simp)) (disableFirewall_clean confirm)

omit [DecidableEq Id] in
theorem tryDelete_clean (keys : List RuleKey) : KeepsClean (each (ufwTryDelete host) keys) :=
  Keeps.each fun key _ => onRaise_keeps (command_keeps clean_ticked fun _ clean => clean.withoutRule key) fun _ =>
    Keeps.pure _

theorem cfLockdownPort_valid : ∀ port ∈ cfLockdownPorts, ValidPort port := by
  unfold ValidPort
  decide

omit [DecidableEq Id] in
theorem applyCfLockdown_clean (ranges : List Address) : KeepsClean (applyCfLockdown host ranges) := by
  have comment : validComment cfLockdownComment = true ∧ strip cfLockdownComment = cfLockdownComment := by decide
  refine (check_keeps _ _).bind fun _ => (currentRules_keeps clean_ticked).bind fun existing => ?_
  refine (Keeps.each fun key member => ?_).bind fun _ => (currentRules_keeps clean_ticked).bind fun _ => tryDelete_clean _
  obtain ⟨port, web, listed⟩ := mem_flatMap.mp member
  obtain ⟨cidr, -, rfl⟩ := mem_map.mp listed
  exact command_keeps clean_ticked fun s clean => clean.withRule (fixed_clean (cfLockdownPort_valid port web) rfl comment)

omit [DecidableEq Id] in
theorem removeCfLockdown_clean : KeepsClean (removeCfLockdown host) := by
  have comment : validComment "" = true ∧ strip "" = "" := by decide
  refine (Keeps.each fun port web => ?_).bind fun _ => (currentRules_keeps clean_ticked).bind fun _ => tryDelete_clean _
  exact command_keeps clean_ticked fun s clean => clean.withRule (fixed_clean (cfLockdownPort_valid port web) rfl comment)

theorem PanelOperation.clean (ported : host.Ported) {operation : PanelOperation Id} (valid : operation.Ported) :
    KeepsClean (operation.run host) := by
  cases operation with
  | change operation => exact operation.clean ported valid
  | confirm tokenValid =>
    intro s clean
    change Clean ((confirmChange host tokenValid).run s).2
    unfold confirmChange
    rw [run_get_bind]
    cases pending : s.journal with
    | none => exact clean
    | some journal =>
      dsimp only
      split
      · exact ((rollbackState_clean ported (clean.journal journal pending) _).bind fun _ => raise_keeps _) s clean
      · exact ((check_keeps _ _).bind fun _ => clearPending_clean) s clean
  | rollback reason =>
    intro s clean
    change Clean ((rollbackChange host reason).run s).2
    unfold rollbackChange
    have read : (readPending : Fw Id (Option (Journal Id))).run s = (.ok s.journal, s) := rfl
    rw [bind_of_ok read]
    cases pending : s.journal with
    | none => exact clean
    | some journal => exact rollbackState_clean ported (clean.journal journal pending) reason s clean
  | expire =>
    exact Keeps.get.bind fun w => Keeps.each fun row _ =>
      onRaise_keeps (deleteTemporaryBan_clean _) fun _ => Keeps.pure _
  | ban value actorIp =>
    exact (assertAddressCanBeBanned_keeps _ _).bind fun _ =>
      command_keeps clean_ticked fun s clean => clean.withSource (deny_clean _ _)
  | unban value => exact deleteSource_clean _ _
  | lockDown ranges => exact applyCfLockdown_clean ranges
  | liftLockdown => exact removeCfLockdown_clean
  | disableManagedBlocks permanent =>
    refine Keeps.get.bind fun w => (Keeps.each fun row _ => deleteTemporaryBan_clean _).bind fun _ => ?_
    refine (Keeps.each fun value _ => deleteSource_clean _ _).bind fun _ => (currentRules_keeps clean_ticked).bind fun rules => ?_
    split
    · exact removeCfLockdown_clean
    · exact Keeps.pure _

theorem Reached.clean (reached : Reached w) : Clean w := by
  induction reached with
  | fresh active tick =>
    exact ⟨fun _ member => absurd member not_mem_nil, fun _ member => absurd member not_mem_nil,
      fun _ pending => absurd pending (by simp)⟩
  | step host operation ported valid _ ih => exact PanelOperation.clean ported valid _ ih

end

end Boron.Firewall
