import Boron.Firewall.Operations
import Boron.Lib.Rows

namespace Boron.Firewall
variable {Id : Type}

/-- The parts of the firewall a rollback has to restore: each rule, each
bypassed address, each temporarily banned address and the active flag. -/
inductive Coord
  | rule (key : RuleKey)
  | bypass (address : Address)
  | ban (value : Address)
  | active
  deriving DecidableEq

def view (w : World Id) : Coord → Bool
  | .rule key => w.rules.any (·.key = key)
  | .bypass address => w.sources.any fun s => s.isBypass ∧ s.address = address
  | .ban value => w.bans.any (·.value = value) && w.sources.any fun s => s.action = .deny ∧ s.address = value
  | .active => w.active

/-- What every command keeps, whatever it is for: the journal, the identity of
the ban rows, and that an address bypassed in `base` has no other allow rule. -/
structure Steady (base : World Id) (journal : Option (Journal Id)) (s : World Id) : Prop where
  journal : s.journal = journal
  banIds : Rows.Unique Ban.id s.bans
  ours : ∀ address, view base (.bypass address) → ∀ source ∈ s.sources, source.action = .allow →
    source.address = address → isBypassComment source.comment

/-- The firewall as in `base` but for the journal and the clock. -/
structure Same (base s : World Id) : Prop where
  rules : s.rules = base.rules
  sources : s.sources = base.sources
  bans : s.bans = base.bans
  active : s.active = base.active

instance : Std.Refl (@Same Id) := ⟨fun _ => ⟨rfl, rfl, rfl, rfl⟩⟩

instance : IsTrans (World Id) Same where
  trans _ _ _ first second := ⟨second.rules.trans first.rules, second.sources.trans first.sources,
    second.bans.trans first.bans, second.active.trans first.active⟩

theorem Same.view {base s : World Id} (same : Same base s) : view s = view base := by
  funext c
  cases c <;> simp only [Firewall.view, same.rules, same.sources, same.bans, same.active]

theorem Same.steady {base s w : World Id} (same : Same w s) {journal : Option (Journal Id)}
    (steady : Steady base journal w) : Steady base s.journal s :=
  ⟨rfl, same.bans ▸ steady.banIds, by rw [same.sources]; exact steady.ours⟩

/-- Between `base` and now only the coordinates of `D` may differ. -/
structure Near (base : World Id) (D : Set Coord) (journal : Option (Journal Id)) (s : World Id) : Prop where
  steady : Steady base journal s
  elsewhere : ∀ c, c ∉ D → view s c = view base c

theorem within_near {base : World Id} {D E : Set Coord} {journal : Option (Journal Id)} {s s' : World Id}
    (sub : E ⊆ D) (within : Undo.Within view (Steady base journal) E s s') :
    Undo.Within view (Near base D journal) E s s' := by
  intro near
  obtain ⟨steady, same⟩ := within near.steady
  exact ⟨⟨steady, fun c outside => (same c fun inside => outside (sub inside)).trans (near.elsewhere c outside)⟩,
    same⟩

@[simp] theorem view_withRule (w : World Id) (rule : Rule) (c : Coord) :
    view (w.withRule rule) c = (view w c || c = .rule rule.key) := by
  unfold World.withRule
  split
  case isTrue known =>
    cases c with
    | rule key =>
      by_cases here : key = rule.key
      · simpa [view, here] using known
      · simp [here]
    | bypass | ban | active => simp
  case isFalse => cases c with
    | rule key => simp [view, @eq_comm _ key]
    | bypass | ban | active => simp [view]

@[simp] theorem view_withoutRule (w : World Id) (key : RuleKey) (c : Coord) :
    view (w.withoutRule key) c = (view w c && c ≠ .rule key) := by
  cases c with
  | rule other =>
    rw [Bool.eq_iff_iff]
    simp only [view, World.withoutRule, List.any_filter, List.any_eq_true, Bool.and_eq_true, decide_eq_true_eq,
      ne_eq, Coord.rule.injEq]
    constructor
    · rintro ⟨rule, member, differs, rfl⟩
      exact ⟨⟨rule, member, rfl⟩, differs⟩
    · rintro ⟨⟨rule, member, rfl⟩, differs⟩
      exact ⟨rule, member, differs, rfl⟩
  | bypass | ban | active => simp [view, World.withoutRule]

def sourceCoord (action : Action) (address : Address) : Coord :=
  match action with
  | .allow => .bypass address
  | .deny => .ban address

theorem view_withSource {w : World Id} {source : SourceRule} {c : Coord}
    (elsewhere : c ≠ sourceCoord source.action source.address) : view (w.withSource source) c = view w c := by
  unfold World.withSource
  split
  · rfl
  · cases c with
    | bypass address =>
      have other : ¬ (source.isBypass ∧ source.address = address) := by
        rintro ⟨bypass, rfl⟩
        simp only [SourceRule.isBypass, Bool.and_eq_true, decide_eq_true_eq] at bypass
        exact elsewhere (by rw [bypass.1]; rfl)
      simp [view, other]
    | ban value =>
      have other : ¬ (source.action = .deny ∧ source.address = value) := by
        rintro ⟨deny, rfl⟩
        exact elsewhere (by rw [deny]; rfl)
      simp only [view, List.any_cons, decide_eq_false other, Bool.false_or]
    | rule | active => rfl

theorem view_withoutSource {w : World Id} {action : Action} {address : Address} {c : Coord}
    (elsewhere : c ≠ sourceCoord action address) : view (w.withoutSource action address) c = view w c := by
  cases c with
  | bypass other =>
    have kept : ∀ source ∈ w.sources, source.isBypass ∧ source.address = other →
        ¬ (source.action = action ∧ source.address = address) := by
      rintro source - ⟨bypass, rfl⟩ ⟨rfl, rfl⟩
      simp only [SourceRule.isBypass, Bool.and_eq_true, decide_eq_true_eq] at bypass
      exact elsewhere (by rw [bypass.1]; rfl)
    rw [Bool.eq_iff_iff]
    simp only [view, World.withoutSource, List.any_filter, List.any_eq_true, Bool.and_eq_true, decide_eq_true_eq]
    constructor
    · rintro ⟨source, member, -, holds⟩
      exact ⟨source, member, holds⟩
    · rintro ⟨source, member, holds⟩
      exact ⟨source, member, kept source member holds, holds⟩
  | ban value =>
    have kept : ∀ source ∈ w.sources, source.action = .deny ∧ source.address = value →
        ¬ (source.action = action ∧ source.address = address) := by
      rintro source - ⟨deny, rfl⟩ ⟨rfl, rfl⟩
      exact elsewhere (by rw [deny]; rfl)
    rw [Bool.eq_iff_iff]
    simp only [view, World.withoutSource, List.any_filter, List.any_eq_true, Bool.and_eq_true, decide_eq_true_eq]
    constructor
    · rintro ⟨row, source, member, -, holds⟩
      exact ⟨row, source, member, holds⟩
    · rintro ⟨row, source, member, holds⟩
      exact ⟨row, source, member, kept source member holds, holds⟩
  | rule | active => rfl

end Boron.Firewall

namespace Boron.Firewall
variable {Id : Type} {base : World Id} {journal : Option (Journal Id)} {s : World Id}

@[simp] theorem view_tick (tick : Nat) : view { s with tick := tick } = view s := by
  funext c
  cases c <;> rfl

@[simp] theorem view_journal : view { s with journal := journal } = view s := by
  funext c
  cases c <;> rfl

section
variable (steady : Steady base journal s)
include steady

theorem Steady.tick (tick : Nat) :
    Steady base journal { s with tick := tick } := ⟨steady.journal, steady.banIds, steady.ours⟩

theorem Steady.withRule (rule : Rule) : Steady base journal (s.withRule rule) := by
  unfold World.withRule
  split
  · exact steady
  · exact ⟨steady.journal, steady.banIds, steady.ours⟩

theorem Steady.withoutRule (key : RuleKey) :
    Steady base journal (s.withoutRule key) := ⟨steady.journal, steady.banIds, steady.ours⟩

theorem Steady.withSource {source : SourceRule} (own : source.action = .allow → isBypassComment source.comment) :
    Steady base journal (s.withSource source) := by
  unfold World.withSource
  split
  · exact steady
  · refine ⟨steady.journal, steady.banIds, fun address trusted other member allow at_ => ?_⟩
    rcases List.mem_cons.mp member with rfl | member
    · exact own allow
    · exact steady.ours address trusted other member allow at_

theorem Steady.withoutSource (action : Action) (address : Address) :
    Steady base journal (s.withoutSource action address) :=
  ⟨steady.journal, steady.banIds, fun trustedAddress trusted source member =>
    steady.ours trustedAddress trusted source (List.mem_of_mem_filter member)⟩

theorem Steady.withActive (active : Bool) :
    Steady base journal { s with active := active } := ⟨steady.journal, steady.banIds, steady.ours⟩

end

/-- Only the address `value` can be banned under this row id. -/
structure Assigned (base : World Id) (journal : Option (Journal Id)) (id : Nat) (value : Address)
    (s : World Id) : Prop where
  steady : Steady base journal s
  only : ∀ row ∈ s.bans, row.id = id → row.value = value

variable {id : Nat} {value : Address}

theorem Assigned.tick (assigned : Assigned base journal id value s) (tick : Nat) :
    Assigned base journal id value { s with tick := tick } := ⟨assigned.steady.tick tick, assigned.only⟩

theorem withSource_bans (source : SourceRule) : (s.withSource source).bans = s.bans := by
  unfold World.withSource
  split <;> rfl

theorem Assigned.withBan {row : Ban} (fresh : ∀ other ∈ s.bans, other.id ≠ row.id)
    (steady : Steady base journal s) : Assigned base journal row.id row.value (s.withBan row) := by
  constructor
  · refine ⟨steady.journal, ?_, steady.ours⟩
    have split : (s.withBan row).bans.map Ban.id = s.bans.map Ban.id ++ [row.id] := by simp [World.withBan]
    rw [Rows.Unique, split]
    refine steady.banIds.append (List.nodup_singleton _) ?_
    intro taken member last
    obtain ⟨other, inside, rfl⟩ := List.mem_map.mp member
    exact fresh other inside (List.mem_singleton.mp last)
  · intro other member same
    rcases List.mem_append.mp member with member | member
    · exact absurd same (fresh other member)
    · rw [List.mem_singleton.mp member]

theorem Assigned.withoutBan (assigned : Assigned base journal id value s) (other : Nat) :
    Assigned base journal id value (s.withoutBan other) := by
  refine ⟨⟨assigned.steady.journal, ?_, assigned.steady.ours⟩, fun row member =>
    assigned.only row (List.mem_of_mem_filter member)⟩
  exact assigned.steady.banIds.sublist (List.filter_sublist.map Ban.id)

theorem view_withBan {row : Ban} {c : Coord} (elsewhere : c ≠ .ban row.value) :
    view (s.withBan row) c = view s c := by
  cases c with
  | ban address =>
    have other : row.value ≠ address := fun same => elsewhere (by rw [same])
    simp [view, World.withBan, other]
  | rule | bypass | active => rfl

theorem view_withoutBan (assigned : Assigned base journal id value s) {c : Coord} (elsewhere : c ≠ .ban value) :
    view (s.withoutBan id) c = view s c := by
  cases c with
  | ban address =>
    have kept : ∀ row ∈ s.bans, row.value = address → row.id ≠ id := fun row member at_ same =>
      elsewhere (by rw [← at_, assigned.only row member same])
    have rows : (s.withoutBan id).bans.any (·.value = address) = s.bans.any (·.value = address) := by
      rw [Bool.eq_iff_iff]
      simp only [World.withoutBan, List.any_filter, List.any_eq_true, Bool.and_eq_true, decide_eq_true_eq]
      constructor
      · rintro ⟨row, member, -, at_⟩
        exact ⟨row, member, at_⟩
      · rintro ⟨row, member, at_⟩
        exact ⟨row, member, kept row member at_, at_⟩
    simp only [view, rows]
    rfl
  | rule | bypass | active => rfl

theorem nextBanId_fresh {row : Ban} (member : row ∈ s.bans) : row.id ≠ s.nextBanId := by
  have bound : ∀ ids : List Nat, ∀ id ∈ ids, id ≤ ids.foldr max 0 := by
    intro ids
    induction ids with
    | nil => simp
    | cons first rest ih =>
      intro id inside
      rcases List.mem_cons.mp inside with rfl | inside
      · exact le_max_left _ _
      · exact (ih id inside).trans (le_max_right _ _)
  have low := bound (s.bans.map Ban.id) row.id (List.mem_map_of_mem member)
  unfold World.nextBanId
  omega

end Boron.Firewall
