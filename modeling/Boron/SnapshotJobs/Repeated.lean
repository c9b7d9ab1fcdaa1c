import Boron.SnapshotJobs.KeptPoints

namespace Boron.SnapshotJobs
open List

section
variable {bucket : Stamp → List Int} {count : Int} {P : Snapshot → Bool} {newer : List Snapshot}

/-- While a tier has room, every bucket of a list is also met when only the ones that lead are sure to be there. -/
theorem bucketsOf_filter (kept : ∀ before item after, newer = before ++ item :: after → Leads bucket count before item → P item)
    (few : ((bucketsOf bucket (newer.filter P)).card : Int) < count) :
    bucketsOf bucket newer ⊆ bucketsOf bucket (newer.filter P) := by
  induction newer using reverseRecOn with
  | nil => exact Finset.Subset.refl _
  | append_singleton newer item ih =>
    have grows : bucketsOf bucket (newer.filter P) ⊆ bucketsOf bucket ((newer ++ [item]).filter P) := by
      rw [filter_append]
      exact bucketsOf_subset (subset_append_left _ _)
    have fewer := lt_of_le_of_lt (Int.ofNat_le.mpr (Finset.card_le_card grows)) few
    have earlier := ih (fun before other after split => kept before other (after ++ [item]) (by rw [split]; simp)) fewer
    intro b member
    obtain ⟨other, inside, named⟩ := mem_bucketsOf.mp member
    rcases mem_append.mp inside with before | last
    · exact grows (earlier (mem_bucketsOf.mpr ⟨other, before, named⟩))
    · obtain rfl := mem_singleton.mp last
      by_cases old : b ∈ bucketsOf bucket newer
      · exact grows (earlier old)
      · have leads : Leads bucket count newer other :=
          ⟨named ▸ old, lt_of_le_of_lt (Int.ofNat_le.mpr (Finset.card_le_card earlier)) fewer⟩
        have present := kept newer other [] rfl leads
        exact mem_bucketsOf.mpr ⟨other, mem_filter.mpr ⟨inside, present⟩, named⟩

theorem filter_of_recent {options : Options}
    (kept : ∀ before item after, newer = before ++ item :: after → Recent options before → P item)
    (recent : Recent options (newer.filter P)) : newer.filter P = newer := by
  induction newer using reverseRecOn with
  | nil => rfl
  | append_singleton newer item ih =>
    have shorter : Recent options (newer.filter P) := by
      unfold Recent at recent ⊢
      rw [filter_append, length_append] at recent
      omega
    have same := ih (fun before other after split => kept before other (after ++ [item]) (by rw [split]; simp)) shorter
    have present := kept newer item [] rfl (same ▸ shorter)
    rw [filter_append, same, filter_cons_of_pos present, filter_nil]

end

section
variable {items more : List Snapshot} {options : Options} {P : Snapshot → Bool} {item : Snapshot}

def Complete (options : Options) (items : List Snapshot) (P : Snapshot → Bool) : Prop :=
  ∀ item ∈ items, options.Keeps (newerThan items item) item → P item

theorem newerThan_filter (distinct : (items.map Snapshot.id).Nodup) (member : item ∈ items) (kept : P item) :
    newerThan (items.filter P) item = (newerThan items item).filter P := by
  unfold newerThan
  rw [newestFirst_filter]
  exact Ranking.ahead_filter _ P (newestFirst_distinct distinct) ((newestFirst_perm items).mem_iff.mpr member) kept

/-- The points that the policy does not keep can be missing: the others keep or lack their reasons all the same. -/
theorem keeps_filter (distinct : (items.map Snapshot.id).Nodup) (complete : Complete options items P)
    (member : item ∈ items) (kept : P item) :
    options.Keeps (newerThan (items.filter P) item) item ↔ options.Keeps (newerThan items item) item := by
  refine ⟨fun keeps => ?_, Keeps.again distinct member kept⟩
  obtain ⟨after, split⟩ := Ranking.exists_ahead (newestFirst_distinct distinct) ((newestFirst_perm items).mem_iff.mpr member)
  have reason (before other behind) (ahead : newerThan items item = before ++ other :: behind)
      (keeps : options.Keeps before other) : P other := by
    have whole : newestFirst items = before ++ other :: (behind ++ item :: after) := by
      rw [split]
      change newerThan items item ++ _ = _
      rw [ahead, append_assoc, cons_append]
    have inside : other ∈ items := by
      rw [← (newestFirst_perm items).mem_iff, whole]
      exact mem_append_right _ mem_cons_self
    have newer : newerThan items other = before := by
      have unique := newestFirst_distinct distinct
      unfold newerThan
      rw [whole] at unique ⊢
      exact Ranking.ahead_eq unique
    exact complete other inside (newer ▸ keeps)
  rw [newerThan_filter distinct member kept] at keeps
  have leads {bucket : Stamp → List Int} {count : Int} (tier : (bucket, count) ∈ options.tiers)
      (leads : Leads bucket count ((newerThan items item).filter P) item) : Leads bucket count (newerThan items item) item := by
    have same := bucketsOf_filter (fun before other behind ahead first => reason before other behind ahead (first.keeps tier)) leads.2
    exact ⟨fun old => leads.1 (same old), lt_of_le_of_lt (Int.ofNat_le.mpr (Finset.card_le_card same)) leads.2⟩
  rcases keeps with recent | day | week | month
  · have same := filter_of_recent (fun before other behind ahead first => reason before other behind ahead (.inl first)) recent
    rw [same] at recent
    exact .inl recent
  · exact .inr (.inl (leads (by simp [Options.tiers]) day))
  · exact .inr (.inr (.inl (leads (by simp [Options.tiers]) week)))
  · exact .inr (.inr (.inr (leads (by simp [Options.tiers]) month)))

theorem mem_retained_of_keeps (protected_ : List Nat) (distinct : (items.map Snapshot.id).Nodup) (member : item ∈ items)
    (keeps : options.Keeps (newerThan items item) item) : item.id ∈ retainedSnapshotIds items options protected_ :=
  (mem_retained (ne_nil_of_mem member) distinct).mpr (.inr ⟨item, member, rfl, keeps⟩)

/-- Of a list that is not empty the policy keeps the newest. -/
theorem exists_keeps (some_ : items ≠ []) (options : Options) : ∃ item ∈ items, options.Keeps (newerThan items item) item := by
  cases sorted : newestFirst items with
  | nil => exact absurd (sorted ▸ newestFirst_perm items).symm.eq_nil some_
  | cons newest older =>
    refine ⟨newest, (newestFirst_perm items).mem_iff.mp (sorted ▸ mem_cons_self), .inl ?_⟩
    unfold Recent newerThan Ranking.ahead
    rw [sorted, takeWhile_cons_of_neg (by simp), length_nil]
    omega

/-- The recovery points of an account that were ever saved, and those that the runs have left of them. A run saves its own
and forgets some of those that are obsolete to it: none when it fails before, and never the ones protected then. -/
inductive Pruned (options : Options) : List Snapshot → List Snapshot → Prop
  | start : Pruned options [] []
  | saved {all present : List Snapshot} {point : Snapshot} (before : Pruned options all present)
      (fresh : point.id ∉ all.map Snapshot.id) : Pruned options (all ++ [point]) (present ++ [point])
  | forgot {all present : List Snapshot} {forgotten protected_ : List Nat} (before : Pruned options all present)
      (obsolete : ∀ id ∈ forgotten, id ∈ obsoleteIds present options protected_) :
      Pruned options all (present.filter (·.id ∉ forgotten))

theorem Pruned.complete {all present : List Snapshot} (pruned : Pruned options all present) :
    (all.map Snapshot.id).Nodup ∧ ∃ P, present = all.filter P ∧ Complete options all P := by
  induction pruned with
  | start => exact ⟨nodup_nil, fun _ => true, rfl, fun _ member => (nomatch member)⟩
  | @saved all present point before fresh ih =>
    obtain ⟨distinct, P, rfl, complete⟩ := ih
    have still : ((all ++ [point]).map Snapshot.id).Nodup := by
      rw [map_append, nodup_append]
      refine ⟨distinct, nodup_singleton _, fun id inside other own same => ?_⟩
      rw [mem_singleton.mp own] at same
      exact fresh (same ▸ inside)
    have apart : ∀ item ∈ all, item.id ≠ point.id := fun item inside same => fresh (same ▸ mem_map_of_mem inside)
    have earlier : (all ++ [point]).filter (fun item => item.id ≠ point.id) = all := by
      rw [filter_append, filter_eq_self.mpr fun item inside => decide_eq_true (apart item inside)]
      simp
    refine ⟨still, fun item => P item || item.id = point.id, ?_, fun item inside keeps => ?_⟩
    · rw [filter_append]
      congr 1
      · refine filter_congr fun item inside => ?_
        rw [decide_eq_false (apart item inside), Bool.or_false]
      · simp
    · rcases mem_append.mp inside with old | new
      · have kept := Keeps.again (P := fun item => decide (item.id ≠ point.id)) still inside (decide_eq_true (apart item old)) keeps
        rw [earlier] at kept
        exact Bool.or_eq_true_iff.mpr (.inl (complete item old kept))
      · rw [mem_singleton.mp new]
        simp
  | @forgot all present forgotten protected_ before obsolete ih =>
    obtain ⟨distinct, P, rfl, complete⟩ := ih
    refine ⟨distinct, fun item => P item && item.id ∉ forgotten, by rw [filter_filter]; simp only [Bool.and_comm], fun item inside keeps => ?_⟩
    have present := complete item inside keeps
    have held : item ∈ all.filter P := mem_filter.mpr ⟨inside, present⟩
    have still : ((all.filter P).map Snapshot.id).Nodup := distinct.sublist (filter_sublist.map Snapshot.id)
    have kept := mem_retained_of_keeps protected_ still held ((keeps_filter distinct complete inside present).mpr keeps)
    refine Bool.and_eq_true_iff.mpr ⟨present, decide_eq_true fun gone => ?_⟩
    obtain ⟨other, listed, same⟩ := mem_map.mp (obsolete _ gone)
    have unkept := (mem_filter.mp listed).2
    rw [same] at unkept
    simp [kept] at unkept

/-- However often retention has run before, and however much of it was done each time, it keeps what it would keep of all the
recovery points that were ever saved. -/
theorem retention_memoryless {all present : List Snapshot} (pruned : Pruned options all present) (protected_ : List Nat) (id : Nat) :
    id ∈ retainedSnapshotIds present options protected_ ↔ id ∈ retainedSnapshotIds all options protected_ := by
  obtain ⟨distinct, P, rfl, complete⟩ := pruned.complete
  have still : ((all.filter P).map Snapshot.id).Nodup := distinct.sublist (filter_sublist.map Snapshot.id)
  by_cases some_ : all = []
  · subst some_
    rfl
  obtain ⟨newest, inside, keeps⟩ := exists_keeps some_ options
  have held : newest ∈ all.filter P := mem_filter.mpr ⟨inside, complete newest inside keeps⟩
  rw [mem_retained some_ distinct, mem_retained (ne_nil_of_mem held) still]
  refine or_congr Iff.rfl ⟨?_, ?_⟩
  · rintro ⟨item, member, named, keeps⟩
    obtain ⟨inside, present⟩ := mem_filter.mp member
    exact ⟨item, inside, named, (keeps_filter distinct complete inside present).mp keeps⟩
  · rintro ⟨item, inside, named, keeps⟩
    have present := complete item inside keeps
    exact ⟨item, mem_filter.mpr ⟨inside, present⟩, named, (keeps_filter distinct complete inside present).mpr keeps⟩

end

theorem retention_memoryless_greenwich : 2 ∈ retainedSnapshotIds [fromGreenwich] oneADay [] ↔
    2 ∈ retainedSnapshotIds [fromKiritimati, fromGreenwich] oneADay [] :=
  have saved : Pruned oneADay [fromKiritimati, fromGreenwich] [fromKiritimati, fromGreenwich] :=
    .saved (.saved .start (by decide)) (by decide)
  retention_memoryless (@Pruned.forgot oneADay _ _ [1] [] saved (by decide)) [] 2

end Boron.SnapshotJobs
