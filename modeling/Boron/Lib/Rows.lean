import Mathlib.Data.List.Nodup
import Mathlib.Data.List.Count

namespace Rows
variable {α κ : Type} [DecidableEq κ]

def Unique (key : α → κ) (rows : List α) : Prop := (rows.map key).Nodup

instance (key : α → κ) (rows : List α) : Decidable (Unique key rows) :=
  inferInstanceAs (Decidable (rows.map key).Nodup)

def byKey (key : α → κ) (rows : List α) (k : κ) : Option α := rows.find? fun row => key row = k

variable {key : α → κ} {rows : List α} {row : α}

theorem byKey_some {k : κ} (found : byKey key rows k = some row) : row ∈ rows ∧ key row = k :=
  ⟨List.mem_of_find?_eq_some found, by simpa using List.find?_some found⟩

theorem byKey_none {k : κ} : byKey key rows k = none ↔ ∀ row ∈ rows, key row ≠ k := by
  simp [byKey]

theorem byKey_of_mem (unique : Unique key rows) (member : row ∈ rows) : byKey key rows (key row) = some row := by
  cases found : byKey key rows (key row) with
  | none => exact absurd rfl (byKey_none.mp found row member)
  | some other =>
    obtain ⟨inside, same⟩ := byKey_some found
    rw [List.inj_on_of_nodup_map unique inside member same]

theorem filter_key (unique : Unique key rows) (member : row ∈ rows) :
    rows.filter (fun other => key other = key row) = [row] := by
  induction rows with
  | nil => cases member
  | cons first rest ih =>
    obtain ⟨absent, later⟩ := List.nodup_cons.mp unique
    rcases List.mem_cons.mp member with rfl | inside
    · have nobody : rest.filter (fun other => key other = key row) = [] := by
        rw [List.filter_eq_nil_iff]
        intro other inside same
        exact absent (List.mem_map.mpr ⟨other, inside, of_decide_eq_true same⟩)
      rw [List.filter_cons, if_pos (decide_eq_true rfl), nobody]
    · have apart : key first ≠ key row := by
        intro same
        exact absent (List.mem_map.mpr ⟨row, inside, same.symm⟩)
      rw [List.filter_cons, if_neg (by simpa using apart)]
      exact ih later inside

omit [DecidableEq κ] in
theorem unique_map {g : α → α} (same : ∀ row, key (g row) = key row) (unique : Unique key rows) : Unique key (rows.map g) := by
  unfold Unique at unique ⊢
  rw [List.map_map]
  have kept : key ∘ g = key := funext same
  rw [kept]
  exact unique

omit [DecidableEq κ] in
theorem unique_append (unique : Unique key rows)
    (fresh : ∀ other ∈ rows, key other ≠ key row) : Unique key (rows ++ [row]) := by
  unfold Unique at unique ⊢
  rw [List.map_append]
  refine List.Nodup.append unique (List.nodup_singleton _) fun value earlier newest => ?_
  obtain ⟨other, inside, same⟩ := List.mem_map.mp earlier
  exact fresh other inside (same.trans (List.mem_singleton.mp newest))

omit [DecidableEq κ] in
theorem unique_filter (unique : Unique key rows) (P : α → Bool) :
    Unique key (rows.filter P) := unique.sublist (List.filter_sublist.map key)

/-- Two rows that satisfy `P` are enough for one with another key than `k`. -/
theorem exists_other (unique : Unique key rows) {P : α → Bool}
    (several : 1 < rows.countP P) (k : κ) : ∃ row ∈ rows, P row ∧ key row ≠ k := by
  by_contra none
  have all : ∀ row ∈ rows.filter P, key row = k := by
    intro row member
    obtain ⟨inside, holds⟩ := List.mem_filter.mp member
    by_contra other
    exact none ⟨row, inside, holds, other⟩
  have distinct : ((rows.filter P).map key).Nodup := unique.sublist (List.filter_sublist.map key)
  rw [List.countP_eq_length_filter] at several
  match keep : rows.filter P with
  | [] => simp [keep] at several
  | [row] => simp [keep] at several
  | first :: second :: rest =>
    rw [keep] at all distinct
    have same : key first = key second :=
      (all first List.mem_cons_self).trans (all second (List.mem_cons_of_mem _ List.mem_cons_self)).symm
    simp [same] at distinct

/-- Changes that leave the keys alone are seen through a lookup. -/
theorem byKey_map {f : α → α} (same : ∀ row, key (f row) = key row) (rows : List α) (k : κ) :
    byKey key (rows.map f) k = (byKey key rows k).map f := by
  unfold byKey
  rw [List.find?_map]
  exact congrArg (fun P => (rows.find? P).map f) (funext fun row => by simp only [Function.comp, same])

theorem byKey_append {rows more : List α} {k : κ} (found : byKey key rows k = some row) :
    byKey key (rows ++ more) k = some row := by
  unfold byKey at found ⊢
  rw [List.find?_append, found]
  rfl

def put (key : α → κ) (row : α) (rows : List α) : List α :=
  if rows.any (key · = key row) then rows.map fun other => if key other = key row then row else other
  else rows ++ [row]

theorem byKey_put (key : α → κ) (row : α) (rows : List α) (k : κ) :
    byKey key (put key row rows) k = if key row = k then some row else byKey key rows k := by
  unfold put byKey
  by_cases known : rows.any (key · = key row) = true
  · simp only [known, if_true]
    induction rows with
    | nil => simp at known
    | cons other rest ih =>
      rw [List.map_cons, List.find?_cons, List.find?_cons]
      by_cases same : key other = key row
      · by_cases asked : key row = k
        · simp [same, asked]
        · simp only [same, if_true, asked, decide_false, if_false]
          by_cases further : rest.any (key · = key row) = true
          · simpa only [asked, if_false] using ih further
          · have kept : ∀ x ∈ rest, (if key x = key row then row else x) = x := by
              intro x inside
              refine if_neg fun equal => further ?_
              exact List.any_eq_true.mpr ⟨x, inside, by simpa using equal⟩
            rw [List.map_congr_left kept, List.map_id']
      · have further : rest.any (key · = key row) = true := by simpa [same] using known
        simp only [same, if_false, ih further]
        by_cases asked : key other = k
        · have different : key row ≠ k := fun equal => same (asked.trans equal.symm)
          simp only [asked, decide_true, different, if_false]
        · simp only [asked, decide_false]
  · simp only [known, Bool.false_eq_true, if_false]
    by_cases asked : key row = k
    · have absent : rows.find? (fun other => decide (key other = k)) = none := by
        rw [List.find?_eq_none]
        intro x inside equal
        refine known (List.any_eq_true.mpr ⟨x, inside, ?_⟩)
        simpa [asked] using equal
      simp [absent, asked]
    · simp [asked]

theorem unique_put (unique : Unique key rows) (row : α) : Unique key (put key row rows) := by
  unfold put
  split
  · have same : (rows.map fun other => if key other = key row then row else other).map key = rows.map key := by
      rw [List.map_map]
      refine List.map_congr_left fun other _ => ?_
      simp only [Function.comp_apply]
      split
      · next hit => exact hit.symm
      · rfl
    unfold Unique
    rw [same]
    exact unique
  · next absent =>
    refine unique_append unique fun other inside same => absent ?_
    exact List.any_eq_true.mpr ⟨other, inside, decide_eq_true same⟩

def drop (key : α → κ) (k : κ) (rows : List α) : List α := rows.filter fun row => key row ≠ k

theorem byKey_drop (key : α → κ) (rows : List α) (k other : κ) :
    byKey key (drop key k rows) other = if k = other then none else byKey key rows other := by
  unfold drop byKey
  rw [List.find?_filter]
  by_cases same : k = other
  · subst same
    simp
  · rw [if_neg same]
    refine congrArg (rows.find? ·) (funext fun row => ?_)
    by_cases asked : key row = other
    · simp [asked, Ne.symm same]
    · simp [asked]

def change (key : α → κ) (k : κ) (f : α → α) (rows : List α) : List α :=
  rows.map fun row => if key row = k then f row else row

theorem unique_change {κ' : Type} [DecidableEq κ'] {column : α → κ'} {f : α → α}
    (same : ∀ row, column (f row) = column row) (unique : Unique column rows) {k : κ} :
    Unique column (change key k f rows) := by
  refine unique_map (fun row => ?_) unique
  split
  · exact same row
  · rfl

theorem byKey_change {f : α → α} (same : ∀ row, key (f row) = key row) (rows : List α) (k other : κ) :
    byKey key (change key k f rows) other = if k = other then (byKey key rows other).map f else byKey key rows other := by
  unfold change
  rw [byKey_map fun row => by split <;> simp only [same]]
  cases found : byKey key rows other with
  | none => simp
  | some row =>
    obtain ⟨_, named⟩ := byKey_some found
    simp only [Option.map_some, named, @eq_comm _ other]
    split <;> rfl

section
variable {key : α → Nat}

/-- The value an integer primary key draws for a new row. -/
def next (key : α → Nat) (rows : List α) : Nat := (rows.map key).foldr max 0 + 1

theorem lt_next {rows : List α} {row : α} (member : row ∈ rows) : key row < next key rows := by
  have bound : key row ≤ (rows.map key).foldr max 0 := by
    induction rows with
    | nil => cases member
    | cons first rest ih =>
      rcases List.mem_cons.mp member with same | later
      · rw [same]
        exact Nat.le_max_left ..
      · exact Nat.le_trans (ih later) (Nat.le_max_right ..)
  unfold next
  omega

theorem byKey_next (rows : List α) : byKey key rows (next key rows) = none := by
  refine byKey_none.mpr fun row member same => ?_
  have fresh : key row < next key rows := lt_next member
  omega

theorem byKey_append_next {rows : List α} {row : α} (fresh : key row = next key rows) (k : Nat) :
    byKey key (rows ++ [row]) k = if key row = k then some row else byKey key rows k := by
  by_cases asked : key row = k
  · have absent : byKey key rows (next key rows) = none := byKey_next rows
    rw [← fresh, asked] at absent
    unfold byKey at absent ⊢
    rw [List.find?_append, absent]
    simp [asked]
  · cases found : byKey key rows k with
    | none =>
      unfold byKey at found ⊢
      rw [List.find?_append, found]
      simp [asked]
    | some other => rw [byKey_append found, if_neg asked]

end

end Rows
