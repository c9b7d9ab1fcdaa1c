import Boron.ResourceManager.Samples

namespace Boron.ResourceManager
open List Rows

/-- The columns of a row are the averages of some samples, those of the integer columns without their fractions. -/
structure Averages (samples : List ResourceSample) (row : ResourceSample) : Prop where
  cpu : row.cpuPct = averageOf ResourceSample.cpuPct samples
  memory : row.memoryBytes = ⌊averageOf (fun sample => sample.memoryBytes) samples⌋₊
  read : row.ioReadBytes = ⌊averageOf (fun sample => sample.ioReadBytes) samples⌋₊
  write : row.ioWriteBytes = ⌊averageOf (fun sample => sample.ioWriteBytes) samples⌋₊
  pids : row.pids = ⌊averageOf (fun sample => sample.pids) samples⌋₊

structure Exact (samples : List ResourceSample) (row : ResourceSample) : Prop where
  cpu : row.cpuPct = averageOf ResourceSample.cpuPct samples
  memory : (row.memoryBytes : Rat) = averageOf (fun sample => sample.memoryBytes) samples
  read : (row.ioReadBytes : Rat) = averageOf (fun sample => sample.ioReadBytes) samples
  write : (row.ioWriteBytes : Rat) = averageOf (fun sample => sample.ioWriteBytes) samples
  pids : (row.pids : Rat) = averageOf (fun sample => sample.pids) samples

structure Whole (samples : List ResourceSample) : Prop where
  memory : ∃ n : Nat, averageOf (fun sample => sample.memoryBytes) samples = n
  read : ∃ n : Nat, averageOf (fun sample => sample.ioReadBytes) samples = n
  write : ∃ n : Nat, averageOf (fun sample => sample.ioWriteBytes) samples = n
  pids : ∃ n : Nat, averageOf (fun sample => sample.pids) samples = n

/-- Samples of one account and hour lie on both sides of an instant. -/
def Cut (rows : List ResourceSample) (instant : Int) : Prop :=
  ∃ a ∈ rows, ∃ b ∈ rows, a.key = b.key ∧ a.sampledAt < instant ∧ instant ≤ b.sampledAt

instance (rows : List ResourceSample) (instant : Int) : Decidable (Cut rows instant) :=
  inferInstanceAs (Decidable (∃ a ∈ rows, ∃ b ∈ rows, _))

def Uncut (s : State) : Step → Prop
  | .prune now => ¬Cut s.rows (s.cutoff now)
  | .compact now => s.due now = true → ¬Cut s.rows (s.cutoff now) ∧ ¬Cut s.rows (now - day)
  | _ => True

/-- The states of runs whose boundaries cut no hour that has samples. -/
inductive Reached : State → Prop
  | start (clock retentionDays : Int) :
    Reached { rows := [], lastCompaction := none, retentionDays, clock, raw := [] }
  | next {s : State} (reached : Reached s) (step : Step) (later : s.clock ≤ step.time) (uncut : Uncut s step) :
    Reached (perform s step)

/-- The samples of an account and hour are all there, or gone, or one row is left with their averages. -/
def Settled (s : State) (key : Nat × Int) : Prop :=
  ofKey key s.rows = ofKey key s.raw ∨ ofKey key s.rows = [] ∨
    ∃ row, ofKey key s.rows = [row] ∧ Averages (ofKey key s.raw) row

theorem Averages.exact_iff {samples : List ResourceSample} {row : ResourceSample} (averages : Averages samples row) :
    Exact samples row ↔ Whole samples := by
  have floor {average : Rat} (whole : ∃ n : Nat, average = n) : (⌊average⌋₊ : Rat) = average := by
    obtain ⟨n, rfl⟩ := whole
    rw [Nat.floor_natCast]
  constructor
  · intro exact'
    exact ⟨⟨_, exact'.memory.symm⟩, ⟨_, exact'.read.symm⟩, ⟨_, exact'.write.symm⟩, ⟨_, exact'.pids.symm⟩⟩
  · intro whole
    refine ⟨averages.cpu, ?_, ?_, ?_, ?_⟩
    · rw [averages.memory, floor whole.memory]
    · rw [averages.read, floor whole.read]
    · rw [averages.write, floor whole.write]
    · rw [averages.pids, floor whole.pids]

theorem averageOf_singleton (column : ResourceSample → Rat) (row : ResourceSample) : averageOf column [row] = column row := by
  unfold averageOf
  simp

theorem averages_singleton (row : ResourceSample) : Averages [row] row := by
  refine ⟨?_, ?_, ?_, ?_, ?_⟩ <;> rw [averageOf_singleton]
  all_goals rw [Nat.floor_natCast]

section
variable {key other : Nat × Int} {rows : List ResourceSample} {start stop : Int} {bucket : Bucket} {keeper : ResourceSample}

theorem mem_ofKey {row : ResourceSample} : row ∈ ofKey key rows ↔ row ∈ rows ∧ row.key = key := by
  unfold ofKey
  simp

theorem ofKey_append (rows more : List ResourceSample) : ofKey key (rows ++ more) = ofKey key rows ++ ofKey key more :=
  filter_append ..

theorem collapse_eq (stored : keeper ∈ rows) (kept : keeper.id = bucket.keepId) : collapse start stop rows bucket =
    (change ResourceSample.id bucket.keepId bucket.fill rows).filter fun row =>
      !(decide (row.key = bucket.key) && decide (row.id ≠ bucket.keepId) && inWindow start stop row) := by
  unfold collapse
  cases found : byKey ResourceSample.id rows bucket.keepId with
  | none => exact absurd kept (byKey_none.mp found keeper stored)
  | some _ => rfl

theorem collapse_unique (ids : Rows.Unique ResourceSample.id rows) :
    Rows.Unique ResourceSample.id (collapse start stop rows bucket) := by
  unfold collapse
  split
  · exact ids
  · refine unique_filter (unique_change (fun _ => ?_) ids) _
    rfl

theorem ofKey_collapse (stored : keeper ∈ rows) (kept : keeper.id = bucket.keepId) :
    ofKey key (collapse start stop rows bucket) = (rows.filter fun row => decide (row.key = key) &&
        !(decide (row.key = bucket.key) && decide (row.id ≠ bucket.keepId) && inWindow start stop row)).map
        fun row => if row.id = bucket.keepId then bucket.fill row else row := by
  rw [collapse_eq stored kept]
  unfold ofKey change
  rw [filter_filter, filter_map]
  refine congrArg (map _) (filter_congr fun row _ => ?_)
  simp only [Function.comp_apply]
  split <;> rfl

theorem collapse_others (ids : Rows.Unique ResourceSample.id rows) (stored : keeper ∈ ofKey bucket.key rows)
    (kept : keeper.id = bucket.keepId) (apart : key ≠ bucket.key) :
    ofKey key (collapse start stop rows bucket) = ofKey key rows := by
  obtain ⟨inside, own⟩ := mem_ofKey.mp stored
  rw [ofKey_collapse inside kept]
  have stays : (rows.filter fun row => decide (row.key = key) &&
      !(decide (row.key = bucket.key) && decide (row.id ≠ bucket.keepId) && inWindow start stop row)) = ofKey key rows := by
    refine filter_congr fun row _ => ?_
    by_cases same : row.key = key
    · simp [same, apart]
    · simp [same]
  rw [stays]
  refine (map_congr_left fun row member => ?_).trans (map_id _)
  obtain ⟨listed, same⟩ := mem_ofKey.mp member
  refine if_neg fun equal => apart ?_
  rw [← same, ← own, inj_on_of_nodup_map ids listed inside (equal.trans kept.symm)]

theorem collapse_self (ids : Rows.Unique ResourceSample.id rows) (stored : keeper ∈ ofKey bucket.key rows)
    (kept : keeper.id = bucket.keepId) (inside : ∀ row ∈ ofKey bucket.key rows, inWindow start stop row = true) :
    ofKey bucket.key (collapse start stop rows bucket) = [bucket.fill keeper] := by
  obtain ⟨listed, own⟩ := mem_ofKey.mp stored
  rw [ofKey_collapse listed kept]
  have only : (rows.filter fun row => decide (row.key = bucket.key) &&
      !(decide (row.key = bucket.key) && decide (row.id ≠ bucket.keepId) && inWindow start stop row)) = [keeper] := by
    rw [← filter_key ids listed]
    refine filter_congr fun row member => ?_
    by_cases same : row.id = keeper.id
    · rw [inj_on_of_nodup_map ids member listed same]
      simp [own, kept]
    · by_cases mine : row.key = bucket.key
      · have window := inside row (mem_ofKey.mpr ⟨member, mine⟩)
        simp [mine, same, window, ← kept]
      · simp [mine, same]
  rw [only, map_singleton, if_pos kept]

theorem collapses {list : List Bucket} (ids : Rows.Unique ResourceSample.id rows) (apart : (list.map Bucket.key).Nodup)
    (keepers : ∀ bucket ∈ list, ∃ keeper ∈ ofKey bucket.key rows, keeper.id = bucket.keepId) :
    Rows.Unique ResourceSample.id (list.foldl (collapse start stop) rows) ∧
      (∀ key, (∀ bucket ∈ list, bucket.key ≠ key) → ofKey key (list.foldl (collapse start stop) rows) = ofKey key rows) ∧
      ∀ bucket ∈ list, (∀ row ∈ ofKey bucket.key rows, inWindow start stop row = true) →
        ∀ keeper ∈ ofKey bucket.key rows, keeper.id = bucket.keepId →
          ofKey bucket.key (list.foldl (collapse start stop) rows) = [bucket.fill keeper] := by
  induction list generalizing rows with
  | nil => exact ⟨ids, fun _ _ => rfl, fun _ member => absurd member not_mem_nil⟩
  | cons first rest ih =>
    obtain ⟨absent, distinct⟩ := nodup_cons.mp apart
    have different : ∀ bucket ∈ rest, bucket.key ≠ first.key := fun bucket member same =>
      absent (same ▸ mem_map_of_mem member)
    obtain ⟨keeper, stored, kept⟩ := keepers first mem_cons_self
    have aside : ∀ bucket ∈ rest, ofKey bucket.key (collapse start stop rows first) = ofKey bucket.key rows :=
      fun bucket member => collapse_others ids stored kept (different bucket member)
    obtain ⟨unique, others, own⟩ := ih (collapse_unique ids) distinct fun bucket member => by
      rw [aside bucket member]
      exact keepers bucket (mem_cons_of_mem first member)
    rw [foldl_cons]
    refine ⟨unique, fun key away => ?_, fun bucket member inside keeper' stored' kept' => ?_⟩
    · rw [others key fun bucket member => away bucket (mem_cons_of_mem first member)]
      exact collapse_others ids stored kept (away first mem_cons_self).symm
    · rcases mem_cons.mp member with rfl | later
      · rw [others _ fun other listed => different other listed]
        exact collapse_self ids stored' kept' inside
      · refine own bucket later ?_ keeper' ?_ kept'
        · rw [aside bucket later]
          exact inside
        · rw [aside bucket later]
          exact stored'

end

def windowOf (start stop : Int) (rows : List ResourceSample) (key : Nat × Int) : List ResourceSample :=
  ofKey key (rows.filter (inWindow start stop))

section
variable {key : Nat × Int} {rows : List ResourceSample} {start stop : Int}

theorem mem_buckets {bucket : Bucket} : bucket ∈ buckets start stop rows ↔
    1 < (windowOf start stop rows bucket.key).length ∧ bucket = summarise (rows.filter (inWindow start stop)) bucket.key := by
  unfold buckets windowOf
  simp only [mem_filter, mem_map, mem_dedup, decide_eq_true_eq]
  constructor
  · rintro ⟨⟨key, _, rfl⟩, several⟩
    exact ⟨several, rfl⟩
  · rintro ⟨several, same⟩
    obtain ⟨row, member⟩ := exists_mem_of_length_pos (Nat.lt_trans Nat.zero_lt_one several)
    obtain ⟨stored, own⟩ := mem_ofKey.mp member
    refine ⟨⟨bucket.key, ⟨row, mem_filter.mp stored, own⟩, same.symm⟩, ?_⟩
    rw [same]
    exact several

theorem buckets_distinct : ((buckets start stop rows).map Bucket.key).Nodup := by
  refine Nodup.sublist (filter_sublist.map Bucket.key) ?_
  rw [map_map]
  have keys : Bucket.key ∘ summarise (rows.filter (inWindow start stop)) = id := rfl
  rw [keys, map_id]
  exact nodup_dedup _

theorem keeper_of (several : 1 < (windowOf start stop rows key).length) :
    ∃ keeper ∈ ofKey key rows, keeper.id = (summarise (rows.filter (inWindow start stop)) key).keepId := by
  have some_id : ((windowOf start stop rows key).map ResourceSample.id).min? ≠ none := by
    rw [Ne, min?_eq_none_iff, map_eq_nil_iff]
    rintro empty
    rw [empty] at several
    simp at several
  obtain ⟨least, found⟩ := Option.ne_none_iff_exists'.mp some_id
  obtain ⟨keeper, member, same⟩ := mem_map.mp (min?_mem found)
  obtain ⟨stored, own⟩ := mem_ofKey.mp member
  refine ⟨keeper, mem_ofKey.mpr ⟨(mem_filter.mp stored).1, own⟩, ?_⟩
  have keep : (summarise (rows.filter (inWindow start stop)) key).keepId = least := by
    show ((windowOf start stop rows key).map ResourceSample.id).min?.getD 0 = least
    rw [found]
    rfl
  rw [keep, same]

theorem fill_averages (keeper : ResourceSample) :
    Averages (windowOf start stop rows key) ((summarise (rows.filter (inWindow start stop)) key).fill keeper) :=
  ⟨rfl, rfl, rfl, rfl, rfl⟩

theorem compactRows_spec (ids : Rows.Unique ResourceSample.id rows) :
    Rows.Unique ResourceSample.id (compactRows start stop rows) ∧
      ∀ key, ((windowOf start stop rows key).length ≤ 1 → ofKey key (compactRows start stop rows) = ofKey key rows) ∧
        (1 < (windowOf start stop rows key).length → (∀ row ∈ ofKey key rows, inWindow start stop row = true) →
          ∃ row, ofKey key (compactRows start stop rows) = [row] ∧ Averages (windowOf start stop rows key) row) := by
  have keepers : ∀ bucket ∈ buckets start stop rows, ∃ keeper ∈ ofKey bucket.key rows, keeper.id = bucket.keepId := by
    intro bucket member
    obtain ⟨several, same⟩ := mem_buckets.mp member
    obtain ⟨keeper, stored, kept⟩ := keeper_of several
    exact ⟨keeper, stored, kept.trans (congrArg Bucket.keepId same.symm)⟩
  obtain ⟨unique, others, own⟩ := @collapses rows start stop _ ids buckets_distinct keepers
  refine ⟨unique, fun key => ⟨fun few => others key fun bucket member same => ?_, fun several inside => ?_⟩⟩
  · have more := (mem_buckets.mp member).1
    rw [same] at more
    omega
  · have listed : summarise (rows.filter (inWindow start stop)) key ∈ buckets start stop rows :=
      mem_buckets.mpr ⟨several, rfl⟩
    obtain ⟨keeper, stored, kept⟩ := keeper_of several
    exact ⟨_, own _ listed inside keeper stored kept, fill_averages keeper⟩

end

theorem hourOf_mono {earlier later : Int} (ordered : earlier ≤ later) : hourOf earlier ≤ hourOf later :=
  Int.ediv_le_ediv (by decide) ordered

theorem hourOf_lt {earlier later : Int} (old : earlier < later - day) : hourOf earlier < hourOf later := by
  unfold hourOf day hour at *
  omega

theorem cutoff_le (s : State) (now : Int) : s.cutoff now ≤ now - day := by
  unfold State.cutoff day hour
  omega

/-- Rows are unique and not of the future, and an account and hour whose rows are not all there is over. -/
structure Inv (s : State) : Prop where
  ids : Rows.Unique ResourceSample.id s.rows
  recent : ∀ row ∈ s.rows, row.sampledAt ≤ s.clock
  settled : ∀ key, Settled s key
  ended : ∀ key, ofKey key s.rows ≠ ofKey key s.raw → key.2 < hourOf s.clock

variable {s : State} {now : Int}

theorem Inv.restart (inv : Inv s) (later : s.clock ≤ now) (retentionDays : Int) :
    Inv (perform s (.restart now retentionDays)) :=
  ⟨inv.ids, fun row member => (inv.recent row member).trans later, inv.settled,
    fun key partly => (inv.ended key partly).trans_le (hourOf_mono later)⟩

theorem Inv.insert (inv : Inv s) (later : s.clock ≤ now) (measured : Measured) :
    Inv (perform s (.insert now measured)) := by
  have whole : ∀ key, key.2 = hourOf now → ofKey key s.rows = ofKey key s.raw := by
    intro key current
    by_contra partly
    have past := inv.ended key partly
    have ordered := hourOf_mono later
    omega
  unfold perform ResourceManager.insert
  dsimp only [Step.time]
  set row : ResourceSample := ResourceSample.mk _ _ _ _ _ _ _ _ _ with named
  have own (key : Nat × Int) : ofKey key [row] = if row.key = key then [row] else [] := by
    unfold ofKey
    rw [filter_singleton]
    simp
  have current : row.key.2 = hourOf now := rfl
  refine ⟨?_, ?_, fun key => ?_, fun key partly => ?_⟩
  · refine unique_append inv.ids fun other member => ?_
    have fresh : other.id < Rows.next ResourceSample.id s.rows := lt_next member
    show other.id ≠ Rows.next ResourceSample.id s.rows
    omega
  · intro other member
    rcases mem_append.mp member with old | new
    · exact (inv.recent other old).trans later
    · rw [mem_singleton.mp new]
  · by_cases mine : row.key = key
    · refine .inl ?_
      have same := whole key (mine ▸ current)
      simp only [ofKey_append, same]
    · have settled := inv.settled key
      unfold Settled at settled ⊢
      simpa only [ofKey_append, own, if_neg mine, append_nil] using settled
  · by_cases mine : row.key = key
    · have same := whole key (mine ▸ current)
      refine absurd ?_ partly
      simp only [ofKey_append, same]
    · simp only [ofKey_append, own, if_neg mine, append_nil] at partly
      exact (inv.ended key partly).trans_le (hourOf_mono later)

theorem Inv.prune (inv : Inv s) (later : s.clock ≤ now) (uncut : ¬Cut s.rows (s.cutoff now)) :
    Inv (perform s (.prune now)) := by
  have left (key : Nat × Int) : ofKey key (perform s (.prune now)).rows = ofKey key s.rows ∨
      ofKey key (perform s (.prune now)).rows = [] ∧ key.2 < hourOf now := by
    have swapped : ofKey key (perform s (.prune now)).rows =
        (ofKey key s.rows).filter fun row => decide (s.cutoff now ≤ row.sampledAt) := by
      show ofKey key (s.rows.filter fun row => decide (s.cutoff now ≤ row.sampledAt)) = _
      unfold ofKey
      rw [filter_filter, filter_filter]
      exact filter_congr fun row _ => Bool.and_comm _ _
    rw [swapped]
    by_cases old : ∃ row ∈ ofKey key s.rows, row.sampledAt < s.cutoff now
    · obtain ⟨row, member, before⟩ := old
      obtain ⟨stored, own⟩ := mem_ofKey.mp member
      refine .inr ⟨filter_eq_nil_iff.mpr fun other listed after => uncut ?_, ?_⟩
      · obtain ⟨stored', own'⟩ := mem_ofKey.mp listed
        exact ⟨row, stored, other, stored', own.trans own'.symm, before, of_decide_eq_true after⟩
      · rw [← own]
        exact hourOf_lt (before.trans_le (cutoff_le s now))
    · refine .inl (filter_eq_self.mpr fun row member => decide_eq_true ?_)
      by_contra before
      exact old ⟨row, member, Int.not_le.mp before⟩
  refine ⟨unique_filter inv.ids _, fun row member => ?_, fun key => ?_, fun key partly => ?_⟩
  · exact (inv.recent row (mem_filter.mp member).1).trans later
  · rcases left key with same | ⟨gone, _⟩
    · have settled := inv.settled key
      unfold Settled at settled ⊢
      rw [same]
      exact settled
    · exact .inr (.inl gone)
  · rcases left key with same | ⟨_, past⟩
    · rw [same] at partly
      exact (inv.ended key partly).trans_le (hourOf_mono later)
    · exact past

/-- What a compaction that is due leaves of an account and hour. -/
theorem Inv.collapsed (inv : Inv s) (start : ¬Cut s.rows (s.cutoff now))
    (stop : ¬Cut s.rows (now - day)) (key : Nat × Int) :
    let after := ofKey key (compactRows (s.cutoff now) (now - day) s.rows)
    ((¬∃ row ∈ ofKey key s.rows, inWindow (s.cutoff now) (now - day) row = true) → after = ofKey key s.rows) ∧
      ((∃ row ∈ ofKey key s.rows, inWindow (s.cutoff now) (now - day) row = true) →
        ∃ row, after = [row] ∧ Averages (ofKey key s.raw) row) := by
  obtain ⟨few, several⟩ := (@compactRows_spec s.rows (s.cutoff now) (now - day) inv.ids).2 key
  have swapped : windowOf (s.cutoff now) (now - day) s.rows key =
      (ofKey key s.rows).filter (inWindow (s.cutoff now) (now - day)) := by
    unfold windowOf ofKey
    rw [filter_filter, filter_filter]
    exact filter_congr fun row _ => Bool.and_comm _ _
  refine ⟨fun outside => few ?_, fun ⟨row, member, inside⟩ => ?_⟩
  · have none_inside : windowOf (s.cutoff now) (now - day) s.rows key = [] := by
      rw [swapped]
      exact filter_eq_nil_iff.mpr fun row member inside => outside ⟨row, member, inside⟩
    rw [none_inside]
    exact Nat.zero_le 1
  · have all : ∀ other ∈ ofKey key s.rows, inWindow (s.cutoff now) (now - day) other = true := by
      intro other listed
      obtain ⟨stored, own⟩ := mem_ofKey.mp member
      obtain ⟨stored', own'⟩ := mem_ofKey.mp listed
      obtain ⟨above, below⟩ : s.cutoff now ≤ row.sampledAt ∧ row.sampledAt < now - day := of_decide_eq_true inside
      refine decide_eq_true ⟨?_, ?_⟩
      · by_contra before
        exact start ⟨other, stored', row, stored, own'.trans own.symm, Int.not_le.mp before, above⟩
      · by_contra after
        exact stop ⟨row, stored, other, stored', own.trans own'.symm, below, Int.not_lt.mp after⟩
    have whole : windowOf (s.cutoff now) (now - day) s.rows key = ofKey key s.rows := by
      rw [swapped]
      exact filter_eq_self.mpr all
    rw [whole] at few several
    by_cases many : 1 < (ofKey key s.rows).length
    · obtain ⟨left, only, averages⟩ := several many all
      refine ⟨left, only, ?_⟩
      rcases inv.settled key with same | gone | ⟨other, single, _⟩
      · exact same ▸ averages
      · rw [gone] at many
        simp at many
      · rw [single] at many
        simp at many
    · rw [few (Nat.not_lt.mp many)]
      rcases inv.settled key with same | gone | settled
      · have one : (ofKey key s.rows).length = 1 := by
          have some_row : 0 < (ofKey key s.rows).length := length_pos_of_mem member
          omega
        obtain ⟨only, single⟩ := length_eq_one_iff.mp one
        refine ⟨only, single, ?_⟩
        rw [← same, single]
        exact averages_singleton only
      · rw [gone] at member
        cases member
      · exact settled

theorem Inv.compact (inv : Inv s) (later : s.clock ≤ now) (uncut : Uncut s (.compact now)) :
    Inv (perform s (.compact now)) := by
  unfold perform compactSamples
  dsimp only [Step.time]
  split
  · next due =>
    obtain ⟨start, stop⟩ := uncut due
    have left := inv.collapsed start stop
    refine ⟨(compactRows_spec inv.ids).1, fun row member => ?_, fun key => ?_, fun key partly => ?_⟩
    · by_cases inside : ∃ other ∈ ofKey row.key s.rows, inWindow (s.cutoff now) (now - day) other = true
      · obtain ⟨other, listed, window⟩ := inside
        have old : hourOf other.sampledAt < hourOf now := hourOf_lt (of_decide_eq_true window).2
        have same : row.key.2 = other.key.2 := congrArg Prod.snd (mem_ofKey.mp listed).2.symm
        have early : hourOf row.sampledAt < hourOf now := same.trans_lt old
        show row.sampledAt ≤ now
        by_contra future
        have reversed := hourOf_mono (Int.not_le.mp future).le
        omega
      · have kept : row ∈ ofKey row.key s.rows := (left row.key).1 inside ▸ mem_ofKey.mpr ⟨member, rfl⟩
        exact (inv.recent row (mem_ofKey.mp kept).1).trans later
    · by_cases inside : ∃ row ∈ ofKey key s.rows, inWindow (s.cutoff now) (now - day) row = true
      · exact .inr (.inr ((left key).2 inside))
      · have settled := inv.settled key
        unfold Settled at settled ⊢
        rw [(left key).1 inside]
        exact settled
    · by_cases inside : ∃ row ∈ ofKey key s.rows, inWindow (s.cutoff now) (now - day) row = true
      · obtain ⟨row, member, window⟩ := inside
        rw [← (mem_ofKey.mp member).2]
        exact hourOf_lt (of_decide_eq_true window).2
      · rw [(left key).1 inside] at partly
        exact (inv.ended key partly).trans_le (hourOf_mono later)
  · exact ⟨inv.ids, fun row member => (inv.recent row member).trans later, inv.settled,
      fun key partly => (inv.ended key partly).trans_le (hourOf_mono later)⟩

theorem Reached.inv (reached : Reached s) : Inv s := by
  induction reached with
  | start clock retentionDays =>
    exact ⟨nodup_nil, fun _ member => absurd member not_mem_nil, fun _ => .inl rfl,
      fun _ partly => absurd rfl partly⟩
  | next _ step later uncut ih =>
    cases step with
    | insert now measured => exact ih.insert later measured
    | prune now => exact ih.prune later uncut
    | compact now => exact ih.compact later uncut
    | restart now retentionDays => exact ih.restart later retentionDays

/-- As long as no boundary cuts an hour that has samples, the samples of an account and hour are all there, or deleted,
or one row is left with their averages; a compaction leaves one row of each account and hour in its window and does
not touch the others. -/
theorem compacted_hours_average {s : State} (reached : Reached s) :
    (∀ key, ofKey key s.rows = ofKey key s.raw ∨ ofKey key s.rows = [] ∨
      ∃ row, ofKey key s.rows = [row] ∧ Averages (ofKey key s.raw) row ∧
        (Exact (ofKey key s.raw) row ↔ Whole (ofKey key s.raw))) ∧
      ∀ now, s.clock ≤ now → s.due now = true → Uncut s (.compact now) → ∀ key,
        ((∃ row ∈ ofKey key s.rows, inWindow (s.cutoff now) (now - day) row = true) →
          ∃ row, ofKey key (perform s (.compact now)).rows = [row] ∧ Averages (ofKey key s.raw) row ∧
            (Exact (ofKey key s.raw) row ↔ Whole (ofKey key s.raw))) ∧
          ((¬∃ row ∈ ofKey key s.rows, inWindow (s.cutoff now) (now - day) row = true) →
            ofKey key (perform s (.compact now)).rows = ofKey key s.rows) := by
  refine ⟨fun key => ?_, fun now later due uncut key => ?_⟩
  · rcases reached.inv.settled key with same | gone | ⟨row, single, averages⟩
    · exact .inl same
    · exact .inr (.inl gone)
    · exact .inr (.inr ⟨row, single, averages, averages.exact_iff⟩)
  · obtain ⟨start, stop⟩ := uncut due
    obtain ⟨outside, inside⟩ := reached.inv.collapsed start stop key
    have rows : (perform s (.compact now)).rows = compactRows (s.cutoff now) (now - day) s.rows := by
      show (compactSamples now s).rows = _
      unfold compactSamples
      rw [if_pos due]
    rw [rows]
    refine ⟨fun some_row => ?_, outside⟩
    obtain ⟨row, single, averages⟩ := inside some_row
    exact ⟨row, single, averages, averages.exact_iff⟩

def minute : Int := 60000000

def busySample (cpuPct : Rat) : Measured :=
  { accountId := 1, periodSeconds := 60, cpuPct, memoryBytes := 8, ioReadBytes := 0, ioWriteBytes := 0, pids := 2 }

def calmStart : State := { rows := [], lastCompaction := none, retentionDays := 7, clock := 0, raw := [] }

theorem compacted_hours_average_demo :
    let s := perform (perform calmStart (.insert (10 * minute) (busySample 0))) (.insert (50 * minute) (busySample 90))
    ∃ row, ofKey (1, 0) (perform s (.compact (2 * day))).rows = [row] ∧ row.cpuPct = 45 := by
  intro s
  have reached : Reached s := .next (.next (.start 0 7) (.insert (10 * minute) (busySample 0)) (by decide) trivial)
      (.insert (50 * minute) (busySample 90)) (by decide) trivial
  have uncut : Uncut s (.compact (2 * day)) := fun _ => by decide
  obtain ⟨row, single, averages, _⟩ :=
    ((compacted_hours_average reached).2 (2 * day) (by decide) (rfl) uncut (1, 0)).1 (by decide)
  refine ⟨row, single, averages.cpu.trans ?_⟩
  decide +kernel

/-- Two runs whose windows end within an hour leave 45 percent where the samples of 0, 0 and 90 average 30. -/
theorem cut_hour_drifts : ∃ steps : List Step, (steps.map Step.time).Pairwise (· ≤ ·) ∧
      (ofKey (1, 0) (steps.foldl perform calmStart).rows).map ResourceSample.cpuPct = [45] ∧
      averageOf ResourceSample.cpuPct (ofKey (1, 0) (steps.foldl perform calmStart).raw) = 30 := by
  refine ⟨[.insert (10 * minute) (busySample 0), .insert (20 * minute) (busySample 0), .insert (50 * minute) (busySample 90),
    .compact (day + 30 * minute), .compact (day + 90 * minute)], ?_, ?_, ?_⟩ <;> decide +kernel

end Boron.ResourceManager
