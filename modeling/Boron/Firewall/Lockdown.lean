import Boron.Firewall.Opened

namespace Boron.Firewall
open List Sys
variable {Id : Type} {host : Host Id} {w w' s s' : World Id} {port : Nat} {ranges : List Address}

def cfLockdownComment : String := "boron-cf-lockdown"

def cfLockdownPorts : List Nat := [80, 443]

/-- An address that a packet comes from. -/
structure Ip where
  v6 : Bool
  value : Nat

def Address.contains (network : Address) (ip : Ip) : Bool :=
  let shift := width network.v6 - network.prefixLen
  decide (network.v6 = ip.v6) && decide (network.base / 2 ^ shift = ip.value / 2 ^ shift)

def RuleKey.admits (key : RuleKey) (port : Nat) (ip : Ip) : Bool :=
  decide (key.action = .allow) && decide (key.direction = .inbound) && decide (key.port = port) &&
    decide (key.protocol ≠ .udp) && key.fromAddr.all (·.contains ip)

/-- The address is let in to the port over TCP. Bans are left out of account: a lockdown never touches one. -/
def Reaches (w : World Id) (ip : Ip) (port : Nat) : Prop :=
  (∃ rule ∈ w.rules, rule.key.admits port ip = true) ∨
    ∃ source ∈ w.sources, source.action = .allow ∧ source.address.contains ip = true

def Rule.isScoped (rule : Rule) (port : Nat) : Bool :=
  rule.allowsInbound && decide (rule.key.port = port) && decide (rule.key.fromAddr ≠ none)

def Rule.isGeneral (rule : Rule) (port : Nat) : Bool :=
  rule.allowsInbound && decide (rule.key.port = port) && decide (rule.key.fromAddr = none)

def scopedKey (port : Nat) (cidr : Address) : RuleKey :=
  { action := .allow, port, protocol := .tcp, fromAddr := some cidr, direction := .inbound, toAddr := none }

/-- `(port, cidr) in have` -/
def scopedTo (rules : List Rule) (port : Nat) (cidr : Address) : Bool :=
  rules.any fun rule => rule.isScoped port && decide (rule.key.fromAddr = some cidr)

def missing (rules : List Rule) (ranges : List Address) : List RuleKey :=
  cfLockdownPorts.flatMap fun port => (ranges.filter fun cidr => !scopedTo rules port cidr).map (scopedKey port)

def generalKeys (rules : List Rule) (port : Nat) : List RuleKey := (rules.filter (·.isGeneral port)).map Rule.key

def staleKeys (rules : List Rule) (ranges : List Address) (port : Nat) : List RuleKey :=
  (rules.filter fun rule => rule.isScoped port && decide (rule.comment = cfLockdownComment) &&
    rule.key.fromAddr.all fun cidr => !ranges.contains cidr).map Rule.key

/-- What a lockdown deletes, port by port; nothing of a port without a rule that is limited to a source. -/
def obsolete (rules : List Rule) (ranges : List Address) : List RuleKey :=
  cfLockdownPorts.flatMap fun port =>
    if (rules.filter (·.isScoped port)).isEmpty then [] else generalKeys rules port ++ staleKeys rules ranges port

/-- A `ufw delete` whose result is not looked at. -/
def ufwTryDelete (host : Host Id) (key : RuleKey) : Fw Id Unit := onRaise (ufwDelete host key) fun _ => pure ()

def applyCfLockdown (host : Host Id) (ranges : List Address) : Fw Id Unit := do
  check (ranges ≠ []) "refusing to lock down web ports with an empty Cloudflare allowlist -- run cf.refresh_ranges first so the ranges file exists"
  let existing ← currentRules host
  Sys.each (fun key => ufwAdd host { key, comment := cfLockdownComment }) (missing existing ranges)
  let current ← currentRules host
  Sys.each (ufwTryDelete host) (obsolete current ranges)

def removeCfLockdown (host : Host Id) : Fw Id Unit := do
  Sys.each (fun port => ufwAdd host { key := baselineKey port, comment := "" }) cfLockdownPorts
  let current ← currentRules host
  Sys.each (ufwTryDelete host) ((current.filter fun rule => cfLockdownPorts.any rule.isScoped &&
    decide (rule.comment = cfLockdownComment)).map Rule.key)

def Unscoped (w : World Id) : Prop := ∃ rule ∈ w.rules, ∃ port ∈ cfLockdownPorts, rule.isGeneral port = true

def Secured (w : World Id) (ranges : List Address) (ip : Ip) (port : Nat) : Prop :=
  (∃ cidr ∈ ranges, cidr.contains ip = true ∧ scopedTo w.rules port cidr = false) ∨
  (∃ rule ∈ w.rules, rule.key.admits port ip = true ∧ rule.key.fromAddr ≠ none ∧ rule.key ∉ staleKeys w.rules ranges port) ∨
  ∃ source ∈ w.sources, source.action = .allow ∧ source.address.contains ip = true

def Within (ranges : List Address) (ip : Ip) : Prop := ∃ cidr ∈ ranges, cidr.contains ip = true

/-- What a lockdown is to do, and what it is never to do, wherever it ends. -/
structure LocksDown (host : Host Id) (w : World Id) (ranges : List Address) : Prop where
  reaches : ∀ w', (applyCfLockdown host ranges).run w = (.ok (), w') →
    ∀ ip, Within ranges ip → ∀ port ∈ cfLockdownPorts, Reaches w' ip port
  closed : ∀ w', (applyCfLockdown host ranges).run w = (.ok (), w') → ¬Unscoped w'
  keeps : ∀ ip, Within ranges ip → ∀ port ∈ cfLockdownPorts, Reaches w ip port →
    Reaches ((applyCfLockdown host ranges).run w).2 ip port

/-- The number of the first `ufw delete`. -/
def firstDelete (w : World Id) (ranges : List Address) : Nat := w.tick + (missing w.rules ranges).length + 2

section
variable {keys : List RuleKey} {ended : Unit}

theorem each_tryDelete_ok (ran : (each (ufwTryDelete host) keys).run s = (.ok ended, s')) :
    s'.sources = s.sources ∧ (∀ rule, rule ∈ s'.rules ↔ rule ∈ s.rules ∧
      ∀ index, keys[index]? = some rule.key → host.outcome (s.tick + index) ≠ .done) ∧
    ∀ index, index < keys.length → host.outcome (s.tick + index) = .done ∨ host.outcome (s.tick + index) = .failed := by
  induction keys generalizing s with
  | nil =>
    cases ran
    have none_left (rule : Rule) (index : Nat) : ([] : List RuleKey)[index]? ≠ some rule.key := by simp
    exact ⟨rfl, fun rule => ⟨fun member => ⟨member, fun index at_ => absurd at_ (none_left rule index)⟩, And.left⟩,
      fun _ short => absurd short (Nat.not_lt_zero _)⟩
  | cons key keys ih =>
    obtain ⟨_, mid, first, rest⟩ := bind_eq_ok.mp ran
    obtain ⟨sources, rules, ended⟩ := ih rest
    have step : mid.tick = s.tick + 1 ∧ mid.sources = s.sources ∧ (∀ rule, rule ∈ mid.rules ↔ rule ∈ s.rules ∧
        (key = rule.key → host.outcome s.tick ≠ .done)) ∧ (host.outcome s.tick = .done ∨ host.outcome s.tick = .failed) := by
      rcases onRaise_eq_ok.mp first with deleted | ⟨message, _, failed, passed⟩
      · obtain ⟨done, rfl⟩ := command_eq_ok.mp deleted
        refine ⟨rfl, rfl, fun rule => ?_, .inl done⟩
        rw [World.withoutRule, mem_filter, decide_eq_true_iff]
        refine and_congr Iff.rfl ⟨fun differs same => absurd same.symm differs, fun only same => only same.symm done⟩
      · unfold ufwDelete command at failed
        cases passed
        dsimp only at failed
        split at failed
        · cases failed
        · next fails =>
          cases failed
          exact ⟨rfl, rfl, fun rule => ⟨fun member => ⟨member, fun _ => by rw [fails]; decide⟩, And.left⟩, .inr fails⟩
        · cases failed
    obtain ⟨tick, same, kept, own⟩ := step
    rw [tick] at ended
    refine ⟨sources.trans same, fun rule => ?_, fun index short => ?_⟩
    rotate_left
    · cases index with
      | zero => exact own
      | succ index =>
        have other := ended index (Nat.lt_of_succ_lt_succ short)
        rwa [Nat.add_assoc, Nat.add_comm 1] at other
    rw [rules, kept, tick, and_assoc]
    refine and_congr Iff.rfl ⟨?_, fun all => ⟨fun own => ?_, fun index at_ => ?_⟩⟩
    · rintro ⟨own, later⟩ index at_
      cases index with
      | zero => exact own (Option.some.inj at_)
      | succ index =>
        have other := later index at_
        rwa [Nat.add_right_comm, Nat.add_assoc] at other
    · exact all 0 (congrArg some own)
    · have other := all (index + 1) at_
      rwa [← Nat.add_assoc, Nat.add_right_comm] at other

theorem each_tryDelete_keeps (host : Host Id) (keys : List RuleKey) : Keeps (fun s s' : World Id => s'.sources = s.sources ∧
    ∀ rule ∈ s.rules, rule.key ∉ keys → rule ∈ s'.rules) (each (ufwTryDelete host) keys) := by
  have refl : Std.Refl fun s s' : World Id => s'.sources = s.sources ∧ ∀ rule ∈ s.rules, rule.key ∉ keys → rule ∈ s'.rules :=
    ⟨fun _ => ⟨rfl, fun _ member _ => member⟩⟩
  have trans : IsTrans (World Id) fun s s' => s'.sources = s.sources ∧ ∀ rule ∈ s.rules, rule.key ∉ keys → rule ∈ s'.rules :=
    ⟨fun _ _ _ first second => ⟨second.1.trans first.1,
      fun rule member outside => second.2 rule (first.2 rule member outside) outside⟩⟩
  refine Keeps.each fun key member => ?_
  refine onRaise_keeps (command_keeps (fun _ => ⟨rfl, fun _ member _ => member⟩) fun s => ⟨rfl, fun rule inside outside => ?_⟩)
    fun _ => Keeps.pure _
  exact mem_filter.mpr ⟨inside, decide_eq_true fun same => outside (same ▸ member)⟩

end

def Grows (s s' : World Id) : Prop := s'.sources = s.sources ∧ ∀ rule ∈ s.rules, rule ∈ s'.rules

instance : Std.Refl (@Grows Id) := ⟨fun _ => ⟨rfl, fun _ member => member⟩⟩

instance : IsTrans (World Id) Grows :=
  ⟨fun _ _ _ first second => ⟨second.1.trans first.1, fun rule member => second.2 rule (first.2 rule member)⟩⟩

theorem grows_ticked (s : World Id) : Grows s { s with tick := s.tick + 1 } := ⟨rfl, fun _ member => member⟩

theorem withRule_grows (s : World Id) (rule : Rule) : Grows s (s.withRule rule) := by
  unfold World.withRule
  split
  · exact Std.Refl.refl s
  · exact ⟨rfl, fun other member => mem_append_left _ member⟩

theorem each_ufwAdd_grows (host : Host Id) {α : Type} (f : α → Rule) (items : List α) :
    Keeps Grows (each (fun item => ufwAdd host (f item)) items) :=
  Keeps.each fun item _ => command_keeps grows_ticked fun s => withRule_grows s (f item)

theorem Reaches.grows {ip : Ip} (reaches : Reaches s ip port) (grows : Grows s s') : Reaches s' ip port := by
  rcases reaches with ⟨rule, member, admits⟩ | ⟨source, member, allows⟩
  · exact .inl ⟨rule, grows.2 rule member, admits⟩
  · exact .inr ⟨source, grows.1 ▸ member, allows⟩

/-- The rules between the additions and the deletions of a lockdown. -/
structure Midway (w : World Id) (ranges : List Address) (extra : List Rule) (mid : World Id) : Prop where
  rules : mid.rules = w.rules ++ extra
  sources : mid.sources = w.sources
  tick : mid.tick = firstDelete w ranges
  listed : ∀ rule ∈ extra, rule.key ∈ missing w.rules ranges ∧ rule.comment = cfLockdownComment
  added : ∀ key ∈ missing w.rules ranges, ∃ rule ∈ w.rules ++ extra, rule.key = key

def schedule (w : World Id) (ranges : List Address) : List RuleKey :=
  cfLockdownPorts.flatMap fun port => generalKeys w.rules port ++ staleKeys w.rules ranges port

theorem foldl_added {α : Type} {f : α → Rule} {items : List α} {rules : List Rule} : ∃ extra,
    items.foldl (fun rules item => added rules (f item)) rules = rules ++ extra ∧ (∀ rule ∈ extra, ∃ item ∈ items, rule = f item) ∧
      ∀ item ∈ items, ∃ rule ∈ rules ++ extra, rule.key = (f item).key := by
  induction items generalizing rules with
  | nil => exact ⟨[], (append_nil rules).symm, fun _ member => absurd member not_mem_nil,
      fun _ member => absurd member not_mem_nil⟩
  | cons item items ih =>
    obtain ⟨extra, same, listed, all⟩ := @ih (added rules (f item))
    rw [foldl_cons, same]
    unfold added at all ⊢
    split at all
    · next known =>
      rw [if_pos known]
      refine ⟨extra, rfl, fun rule member => ?_, fun other member => ?_⟩
      · obtain ⟨other, inside, same⟩ := listed rule member
        exact ⟨other, mem_cons_of_mem item inside, same⟩
      · rcases mem_cons.mp member with rfl | inside
        · obtain ⟨rule, inside, same⟩ := any_eq_true.mp known
          exact ⟨rule, mem_append_left _ inside, of_decide_eq_true same⟩
        · exact all other inside
    · next fresh =>
      rw [if_neg fresh]
      refine ⟨f item :: extra, by rw [append_assoc, singleton_append], fun rule member => ?_, fun other member => ?_⟩
      · rcases mem_cons.mp member with rfl | member
        · exact ⟨item, mem_cons_self, rfl⟩
        · obtain ⟨other, inside, same⟩ := listed rule member
          exact ⟨other, mem_cons_of_mem item inside, same⟩
      · rw [append_assoc, singleton_append] at all
        rcases mem_cons.mp member with rfl | inside
        · exact ⟨f other, mem_append_right _ mem_cons_self, rfl⟩
        · exact all other inside

theorem each_ufwAdd_ok {α : Type} {f : α → Rule} {items : List α} {ended : Unit}
    (ran : (each (fun item => ufwAdd host (f item)) items).run s = (.ok ended, s')) :
    s'.rules = items.foldl (fun rules item => added rules (f item)) s.rules ∧ s'.sources = s.sources ∧
      s'.tick = s.tick + items.length := by
  induction items generalizing s with
  | nil =>
    cases ran
    exact ⟨rfl, rfl, rfl⟩
  | cons item items ih =>
    obtain ⟨_, mid, first, rest⟩ := bind_eq_ok.mp ran
    obtain ⟨-, rfl⟩ := command_eq_ok.mp first
    obtain ⟨rules, sources, tick⟩ := ih rest
    rw [withRule_rules] at rules
    refine ⟨rules, sources.trans (withRule_grows _ _).1, ?_⟩
    rw [tick, withRule_tick, length_cons, Nat.add_right_comm, Nat.add_assoc]

variable {key : RuleKey} {rules : List Rule}

theorem mem_missing : key ∈ missing rules ranges ↔
    ∃ port ∈ cfLockdownPorts, ∃ cidr ∈ ranges, scopedTo rules port cidr = false ∧ key = scopedKey port cidr := by
  unfold missing
  rw [mem_flatMap]
  refine exists_congr fun port => and_congr Iff.rfl ?_
  rw [mem_map]
  refine exists_congr fun cidr => ?_
  rw [mem_filter, Bool.not_eq_true', and_assoc, @eq_comm _ key]

theorem scopedTo_iff {cidr : Address} : scopedTo rules port cidr = true ↔
    ∃ rule ∈ rules, rule.isScoped port = true ∧ rule.key.fromAddr = some cidr := by
  unfold scopedTo
  rw [any_eq_true]
  refine exists_congr fun rule => and_congr Iff.rfl ?_
  rw [Bool.and_eq_true, decide_eq_true_iff]

theorem isScoped_scopedKey {comment : String} {cidr : Address} : Rule.isScoped { key := scopedKey port cidr, comment } port = true := by
  simp [Rule.isScoped, Rule.allowsInbound, scopedKey]

theorem mem_staleKeys : key ∈ staleKeys rules ranges port ↔
    ∃ rule ∈ rules, rule.key = key ∧ rule.isScoped port = true ∧ rule.comment = cfLockdownComment ∧
      ∀ cidr, rule.key.fromAddr = some cidr → cidr ∉ ranges := by
  unfold staleKeys
  rw [mem_map]
  refine exists_congr fun rule => ?_
  rw [mem_filter, Bool.and_eq_true, Bool.and_eq_true, decide_eq_true_iff]
  cases rule.key.fromAddr <;> simp [and_assoc, and_comm, and_left_comm]

theorem mem_generalKeys : key ∈ generalKeys rules port ↔
    ∃ rule ∈ rules, rule.key = key ∧ rule.isGeneral port = true := by
  unfold generalKeys
  rw [mem_map]
  refine exists_congr fun rule => ?_
  rw [mem_filter, and_assoc, and_comm (a := rule.isGeneral port = true)]

theorem isScoped_from {rule : Rule} (limited : rule.isScoped port = true) : rule.key.fromAddr ≠ none ∧ rule.key.port = port := by
  unfold Rule.isScoped at limited
  rw [Bool.and_eq_true, Bool.and_eq_true, decide_eq_true_iff, decide_eq_true_iff] at limited
  exact ⟨limited.2, limited.1.2⟩

theorem isGeneral_from {rule : Rule} (general : rule.isGeneral port = true) : rule.key.fromAddr = none := by
  unfold Rule.isGeneral at general
  rw [Bool.and_eq_true, decide_eq_true_iff] at general
  exact general.2

variable {extra : List Rule} {mid : World Id}

theorem obsolete_eq (some : ranges ≠ []) (midway : Midway w ranges extra mid) :
    obsolete mid.rules ranges = schedule w ranges := by
  have extras : ∀ rule ∈ extra, ∃ port ∈ cfLockdownPorts, ∃ cidr ∈ ranges, rule.key = scopedKey port cidr := by
    intro rule member
    obtain ⟨port, web, cidr, wanted, _, same⟩ := mem_missing.mp (midway.listed rule member).1
    exact ⟨port, web, cidr, wanted, same⟩
  refine flatMap_congr fun port web => ?_
  rw [if_neg]
  · unfold generalKeys staleKeys
    rw [midway.rules, filter_append, filter_append]
    have nothing : extra.filter (·.isGeneral port) = [] := by
      refine filter_eq_nil_iff.mpr fun rule member general => ?_
      obtain ⟨_, _, cidr, _, same⟩ := extras rule member
      have absent := isGeneral_from general
      rw [same] at absent
      cases absent
    have fresh : extra.filter (fun rule => rule.isScoped port && decide (rule.comment = cfLockdownComment) &&
        rule.key.fromAddr.all fun cidr => !ranges.contains cidr) = [] := by
      refine filter_eq_nil_iff.mpr fun rule member stale => ?_
      obtain ⟨_, _, cidr, wanted, same⟩ := extras rule member
      rw [same] at stale
      simp [scopedKey, wanted] at stale
    rw [nothing, fresh, append_nil, append_nil]
  · rw [List.isEmpty_iff, filter_eq_nil_iff]
    intro none
    obtain ⟨cidr, wanted⟩ := exists_mem_of_ne_nil ranges some
    cases known : scopedTo w.rules port cidr with
    | true =>
      obtain ⟨rule, member, own, _⟩ := scopedTo_iff.mp known
      exact none rule (midway.rules ▸ mem_append_left _ member) own
    | false =>
      obtain ⟨rule, member, same⟩ := midway.added _ (mem_missing.mpr ⟨port, web, cidr, wanted, known, rfl⟩)
      refine none rule (midway.rules ▸ member) ?_
      obtain ⟨key, comment⟩ := rule
      subst same
      exact isScoped_scopedKey

theorem applyCfLockdown_run (some : ranges ≠ []) :
    (∃ fault s', (applyCfLockdown host ranges).run w = (.error fault, s') ∧ Grows w s') ∨
    ∃ extra mid, Midway w ranges extra mid ∧
      (applyCfLockdown host ranges).run w = (each (ufwTryDelete host) (schedule w ranges)).run mid := by
  have early : ∀ {α : Type} (p : Fw Id α) (f : α → Fw Id Unit) (s : World Id), Keeps Grows p → Grows w s →
      (∃ fault s', (p >>= f).run s = (.error fault, s') ∧ Grows w s') ∨ ∃ a mid, p.run s = (.ok a, mid) ∧ (p >>= f).run s = (f a).run mid := by
    intro α p f s keeps grown
    cases run : p.run s with
    | mk result mid =>
      cases result with
      | ok a => exact .inr ⟨a, mid, rfl, bind_of_ok run⟩
      | error fault =>
        have kept := keeps s
        rw [run] at kept
        exact .inl ⟨fault, mid, bind_of_error run, IsTrans.trans _ _ _ grown kept⟩
  have refl : Grows w w := Std.Refl.refl w
  have passed : (applyCfLockdown host ranges).run w = (do
      let existing ← currentRules host
      each (fun key => ufwAdd host { key, comment := cfLockdownComment }) (missing existing ranges)
      let current ← currentRules host
      each (ufwTryDelete host) (obsolete current ranges) : Fw Id Unit).run w := by
    refine bind_of_ok (a := ()) ?_
    rw [run_check, if_pos some]
  rw [passed]
  rcases early (currentRules host) _ w (currentRules_keeps grows_ticked) refl with failed | ⟨existing, s, read, goes⟩
  · exact .inl failed
  rw [goes]
  obtain ⟨-, rfl, rfl⟩ := currentRules_eq_ok.mp read
  rcases early (each (fun key => ufwAdd host { key, comment := cfLockdownComment }) (missing w.rules ranges)) _
    { w with tick := w.tick + 1 } (each_ufwAdd_grows host _ _) (grows_ticked w) with failed | ⟨_, s, adds, goes⟩
  · exact .inl failed
  rw [goes]
  obtain ⟨rules, sources, tick⟩ := each_ufwAdd_ok adds
  have grown : Grows w s := by
    have kept := each_ufwAdd_grows host (fun key => { key, comment := cfLockdownComment }) (missing w.rules ranges)
      { w with tick := w.tick + 1 }
    rw [adds] at kept
    exact kept
  rcases early (currentRules host) _ s (currentRules_keeps grows_ticked) grown with failed | ⟨current, mid, read, goes⟩
  · exact .inl failed
  rw [goes]
  obtain ⟨-, rfl, rfl⟩ := currentRules_eq_ok.mp read
  obtain ⟨extra, same, listed, all⟩ := @foldl_added _ (fun key => ({ key, comment := cfLockdownComment } : Rule)) (missing w.rules ranges) w.rules
  have midway : Midway w ranges extra { s with tick := s.tick + 1 } := by
    refine ⟨rules.trans same, sources, ?_, fun rule member => ?_, all⟩
    · rw [tick]
      unfold firstDelete
      dsimp only
      omega
    · obtain ⟨key, inside, rfl⟩ := listed rule member
      exact ⟨inside, rfl⟩
  exact .inr ⟨extra, _, midway, by rw [← obsolete_eq some midway]⟩

theorem mem_schedule : key ∈ schedule w ranges ↔
    ∃ port ∈ cfLockdownPorts, key ∈ generalKeys w.rules port ∨ key ∈ staleKeys w.rules ranges port := by
  unfold schedule
  rw [mem_flatMap]
  exact exists_congr fun port => and_congr Iff.rfl mem_append

theorem admits_iff {ip : Ip} : key.admits port ip = true ↔ key.action = .allow ∧ key.direction = .inbound ∧
    key.port = port ∧ key.protocol ≠ .udp ∧ ∀ cidr, key.fromAddr = some cidr → cidr.contains ip = true := by
  unfold RuleKey.admits
  cases key.fromAddr <;> simp [and_assoc]

theorem not_scheduled {rule : Rule} (at_ : rule.key.port = port) (limited : rule.key.fromAddr ≠ none)
    (kept : rule.key ∉ staleKeys w.rules ranges port) : rule.key ∉ schedule w ranges := by
  intro listed
  obtain ⟨other, _, general | stale⟩ := mem_schedule.mp listed
  · obtain ⟨_, _, same, general⟩ := mem_generalKeys.mp general
    exact limited (same ▸ (isGeneral_from general))
  · obtain ⟨known, _, same, own, _⟩ := mem_staleKeys.mp stale
    have there := (isScoped_from own).2
    rw [same, at_] at there
    exact kept (there ▸ stale)

theorem Secured.reaches (host : Host Id) {ip : Ip} (web : port ∈ cfLockdownPorts)
    (secured : Secured w ranges ip port) (midway : Midway w ranges extra mid) :
    Reaches ((each (ufwTryDelete host) (schedule w ranges)).run mid).2 ip port := by
  obtain ⟨sources, kept⟩ := each_tryDelete_keeps host (schedule w ranges) mid
  rcases secured with ⟨cidr, wanted, inside, absent⟩ | ⟨rule, member, admits, limited, fresh⟩ | ⟨source, member, allows⟩
  · obtain ⟨rule, member, same⟩ := midway.added _ (mem_missing.mpr ⟨port, web, cidr, wanted, absent, rfl⟩)
    have admits : rule.key.admits port ip = true := by
      rw [same]
      exact admits_iff.mpr ⟨rfl, rfl, rfl, nofun, fun other same => Option.some.inj same ▸ inside⟩
    have at_ : rule.key.port = port := by
      rw [same]
      rfl
    have limited : rule.key.fromAddr ≠ none := by
      rw [same]
      nofun
    refine .inl ⟨rule, kept rule (midway.rules ▸ member) (not_scheduled at_ limited fun stale => ?_), admits⟩
    obtain ⟨_, _, own, _, _, unwanted⟩ := mem_staleKeys.mp stale
    exact unwanted cidr (by rw [own, same]; rfl) wanted
  · refine .inl ⟨rule, kept rule (midway.rules ▸ mem_append_left _ member) ?_, admits⟩
    exact not_scheduled (admits_iff.mp admits).2.2.1 limited fresh
  · exact .inr ⟨source, (sources.trans midway.sources) ▸ member, allows⟩

theorem reaches_of_grows {ip : Ip} (midway : Midway w ranges extra mid)
    (reaches : Reaches s' ip port) (rules : ∀ rule ∈ s'.rules, rule ∈ mid.rules ∧ rule.key ∉ schedule w ranges)
    (sources : s'.sources = mid.sources) (web : port ∈ cfLockdownPorts) : Secured w ranges ip port := by
  rcases reaches with ⟨rule, member, admits⟩ | ⟨source, member, allows⟩
  · obtain ⟨inside, kept⟩ := rules rule member
    rw [midway.rules] at inside
    obtain ⟨allow, inbound, at_, tcp, from_⟩ := admits_iff.mp admits
    rcases mem_append.mp inside with before | after
    · refine .inr (.inl ⟨rule, before, admits, fun open_ => kept (mem_schedule.mpr ⟨port, web, .inl ?_⟩), fun stale =>
        kept (mem_schedule.mpr ⟨port, web, .inr stale⟩)⟩)
      refine mem_generalKeys.mpr ⟨rule, before, rfl, ?_⟩
      simp [Rule.isGeneral, Rule.allowsInbound, allow, inbound, at_, open_]
    · obtain ⟨other, _, cidr, wanted, absent, same⟩ := mem_missing.mp (midway.listed rule after).1
      have here : other = port := by
        rw [same] at at_
        exact at_
      subst here
      exact .inl ⟨cidr, wanted, from_ cidr (by rw [same]; rfl), absent⟩
  · exact .inr (.inr ⟨source, (sources.trans midway.sources) ▸ member, allows⟩)

theorem applyCfLockdown_total : Sys.Total (Prompt host) (applyCfLockdown host ranges) ∨ ranges = [] := by
  by_cases none : ranges = []
  · exact .inr none
  · refine .inl (Sys.Total.bind (fun s holds => ⟨(), s, by rw [run_check, if_pos none], holds⟩) fun _ => ?_)
    refine currentRules_total.bind fun existing => ?_
    refine (Sys.Total.each fun key _ => command_total (withRule_tick _)).bind fun _ => currentRules_total.bind fun current => ?_
    exact Sys.Total.each fun key _ => Sys.Total.handle (command_total fun _ => rfl)

/-- No `ufw delete` of the lockdown fails. -/
def Obeyed (outcome : Nat → Outcome) (w : World Id) (ranges : List Address) : Prop :=
  ∀ tick, firstDelete w ranges ≤ tick → outcome tick ≠ .failed

theorem locksDown_of_secured (some : ranges ≠ []) (obeyed : Obeyed host.outcome w ranges)
    (secured : ∀ ip, Within ranges ip → ∀ port ∈ cfLockdownPorts, Secured w ranges ip port) : LocksDown host w ranges := by
  rcases @applyCfLockdown_run Id host w ranges some with ⟨fault, s', failed, grown⟩ | ⟨extra, mid, midway, goes⟩
  · refine ⟨fun w' ran => ?_, fun w' ran => ?_, fun ip within port web reaches => ?_⟩
    · rw [failed] at ran
      cases ran
    · rw [failed] at ran
      cases ran
    · rw [failed]
      exact reaches.grows grown
  · refine ⟨fun w' ran ip within port web => ?_, fun w' ran => ?_, fun ip within port web _ => ?_⟩
    · have reaches := (secured ip within port web).reaches host web midway
      rw [← goes, ran] at reaches
      exact reaches
    · rintro ⟨rule, member, port, web, general⟩
      rw [goes] at ran
      obtain ⟨sources, rules, ended⟩ := each_tryDelete_ok ran
      obtain ⟨inside, undeleted⟩ := (rules rule).mp member
      rw [midway.rules] at inside
      rcases mem_append.mp inside with before | after
      · have listed : rule.key ∈ schedule w ranges :=
          mem_schedule.mpr ⟨port, web, .inl (mem_generalKeys.mpr ⟨rule, before, rfl, general⟩)⟩
        obtain ⟨index, short, at_⟩ := mem_iff_getElem.mp listed
        have here : (schedule w ranges)[index]? = Option.some rule.key := List.getElem?_eq_some_iff.mpr ⟨short, at_⟩
        rcases ended index short with done | failed
        · exact undeleted index here done
        · exact obeyed _ (by rw [midway.tick]; exact Nat.le_add_right _ _) failed
      · obtain ⟨_, _, cidr, _, _, same⟩ := mem_missing.mp (midway.listed rule after).1
        have open_ := isGeneral_from general
        rw [same] at open_
        cases open_
    · rw [goes]
      exact (secured ip within port web).reaches host web midway

theorem secured_of_locksDown (some : ranges ≠ []) (smooth : ∀ tick, host.outcome tick = .done)
    (locks : LocksDown host w ranges) : ∀ ip, Within ranges ip → ∀ port ∈ cfLockdownPorts, Secured w ranges ip port := by
  intro ip within port web
  obtain ⟨_, w', ran, _⟩ := (applyCfLockdown_total.resolve_right some) w fun tick _ => smooth tick
  have reaches := locks.reaches w' ran ip within port web
  rcases @applyCfLockdown_run Id host w ranges some with ⟨fault, s', failed, _⟩ | ⟨extra, mid, midway, goes⟩
  · rw [failed] at ran
    cases ran
  · rw [goes] at ran
    obtain ⟨sources, rules, _⟩ := each_tryDelete_ok ran
    refine reaches_of_grows midway reaches (fun rule member => ?_) sources web
    obtain ⟨inside, undeleted⟩ := (rules rule).mp member
    refine ⟨inside, fun listed => ?_⟩
    obtain ⟨index, short, at_⟩ := mem_iff_getElem.mp listed
    exact undeleted index (List.getElem?_eq_some_iff.mpr ⟨short, at_⟩) (smooth _)

/-- After a lockdown that ended well an allow rule for everyone is left exactly if a command to delete one failed. -/
theorem unscoped_iff (some : ranges ≠ []) (ran : (applyCfLockdown host ranges).run w = (.ok (), w')) :
    ¬Unscoped w' ↔ ∀ port ∈ cfLockdownPorts, ∀ key ∈ generalKeys w.rules port,
      ∃ index, (schedule w ranges)[index]? = Option.some key ∧ host.outcome (firstDelete w ranges + index) = .done := by
  rcases @applyCfLockdown_run Id host w ranges some with ⟨fault, s', failed, _⟩ | ⟨extra, mid, midway, goes⟩
  · rw [failed] at ran
    cases ran
  · rw [goes] at ran
    obtain ⟨sources, rules, _⟩ := each_tryDelete_ok ran
    constructor
    · intro scopedOnly port web key general
      by_contra none
      push Not at none
      obtain ⟨rule, member, rfl, open_⟩ := mem_generalKeys.mp general
      refine scopedOnly ⟨rule, (rules rule).mpr ⟨midway.rules ▸ mem_append_left _ member, fun index at_ => ?_⟩, port, web, open_⟩
      rw [midway.tick]
      exact none index at_
    · rintro deleted ⟨rule, member, port, web, open_⟩
      obtain ⟨inside, undeleted⟩ := (rules rule).mp member
      rw [midway.rules] at inside
      rcases mem_append.mp inside with before | after
      · obtain ⟨index, at_, done⟩ := deleted port web rule.key (mem_generalKeys.mpr ⟨rule, before, rfl, open_⟩)
        rw [← midway.tick] at done
        exact undeleted index at_ done
      · obtain ⟨_, _, cidr, _, _, same⟩ := mem_missing.mp (midway.listed rule after).1
        have absent := isGeneral_from open_
        rw [same] at absent
        cases absent

/-- Taking a lockdown back lets everyone in over TCP again, and cuts nobody off on its way. -/
structure Lifts (host : Host Id) (w : World Id) : Prop where
  reaches : ∀ w', (removeCfLockdown host).run w = (.ok (), w') → ∀ ip, ∀ port ∈ cfLockdownPorts, Reaches w' ip port
  keeps : ∀ ip, ∀ port ∈ cfLockdownPorts, Reaches w ip port → Reaches ((removeCfLockdown host).run w).2 ip port

theorem removeCfLockdown_lifts : Lifts host w := by
  have opened_ : ∀ mid : World Id, (∀ port ∈ cfLockdownPorts, ∃ rule ∈ mid.rules, rule.key = baselineKey port) →
      ∀ current : List Rule, ∀ ip, ∀ port ∈ cfLockdownPorts, Reaches ((each (ufwTryDelete host) ((current.filter fun rule =>
        cfLockdownPorts.any rule.isScoped && decide (rule.comment = cfLockdownComment)).map Rule.key)).run mid).2 ip port := by
    intro mid baseline current ip port web
    obtain ⟨rule, member, same⟩ := baseline port web
    obtain ⟨_, kept⟩ := each_tryDelete_keeps host ((current.filter fun rule =>
      cfLockdownPorts.any rule.isScoped && decide (rule.comment = cfLockdownComment)).map Rule.key) mid
    refine .inl ⟨rule, kept rule member fun listed => ?_, ?_⟩
    · obtain ⟨other, inside, own⟩ := mem_map.mp listed
      obtain ⟨at_, _, own_⟩ := any_eq_true.mp (Bool.and_eq_true_iff.mp (mem_filter.mp inside).2).1
      have limited := (isScoped_from own_).1
      rw [own, same] at limited
      exact limited rfl
    · rw [same]
      exact admits_iff.mpr ⟨rfl, rfl, rfl, nofun, nofun⟩
  have grows := each_ufwAdd_grows host (fun port => { key := baselineKey port, comment := "" }) cfLockdownPorts w
  cases adds : (each (fun port => ufwAdd host { key := baselineKey port, comment := "" }) cfLockdownPorts).run w with
  | mk result s =>
    rw [adds] at grows
    cases result with
    | error fault =>
      have failed : (removeCfLockdown host).run w = (.error fault, s) := bind_of_error adds
      refine ⟨fun w' ran => ?_, fun ip port _ reaches => ?_⟩
      · rw [failed] at ran
        cases ran
      · rw [failed]
        exact reaches.grows grows
    | ok ended =>
      have goes : (removeCfLockdown host).run w = _ := bind_of_ok adds
      obtain ⟨rules, _, _⟩ := each_ufwAdd_ok adds
      obtain ⟨extra, same, _, all⟩ := @foldl_added _ (fun port => ({ key := baselineKey port, comment := "" } : Rule)) cfLockdownPorts w.rules
      have baseline : ∀ port ∈ cfLockdownPorts, ∃ rule ∈ s.rules, rule.key = baselineKey port := by
        rw [rules, same]
        exact all
      cases read : (currentRules host).run s with
      | mk result mid =>
        have kept : Grows s ((currentRules host).run s).2 := currentRules_keeps grows_ticked s
        rw [read] at kept
        cases result with
        | error fault =>
          rw [bind_of_error read] at goes
          refine ⟨fun w' ran => ?_, fun ip port _ reaches => ?_⟩
          · rw [goes] at ran
            cases ran
          · rw [goes]
            exact (reaches.grows grows).grows kept
        | ok current =>
          rw [bind_of_ok read] at goes
          have held : ∀ port ∈ cfLockdownPorts, ∃ rule ∈ mid.rules, rule.key = baselineKey port := fun port web => by
            obtain ⟨rule, member, same⟩ := baseline port web
            exact ⟨rule, kept.2 rule member, same⟩
          refine ⟨fun w' ran ip port web => ?_, fun ip port web _ => ?_⟩
          · have reaches := opened_ mid held current ip port web
            rw [← goes, ran] at reaches
            exact reaches
          · rw [goes]
            exact opened_ mid held current ip port web

def edge : Address where
  v6 := false
  base := 2918526976
  prefixLen := 20
  network := true
  bounded := by decide
  short := by decide
  canonical := by decide
  host := by decide

def webRules (protocol : Protocol) : World (RuleKey ⊕ Address) :=
  { sshOnly with rules := [{ key := { sshKey with port := 80 }, comment := "" }, { key := { sshKey with port := 443 }, comment := "" },
    { key := { scopedKey 443 edge with protocol }, comment := "quic" }] }

end Boron.Firewall
