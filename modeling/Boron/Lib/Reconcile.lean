import Boron.Lib.Rows
import Mathlib.Data.List.Induction

namespace Rows
variable {α κ : Type} [DecidableEq κ] {key : α → κ}

/-- A dictionary filled from the left: the last row of a key is kept, at the
place of the first. -/
def dict (key : α → κ) (rows : List α) : List α := rows.foldl (fun kept row => put key row kept) []

theorem dict_append (rows : List α) (row : α) : dict key (rows ++ [row]) = put key row (dict key rows) := by
  simp only [dict, List.foldl_append, List.foldl_cons, List.foldl_nil]

theorem unique_dict (rows : List α) : Unique key (dict key rows) := by
  induction rows using List.reverseRecOn with
  | nil => exact List.nodup_nil
  | append_singleton rows row ih =>
    rw [dict_append]
    exact unique_put ih row

theorem byKey_dict (rows : List α) (k : κ) : byKey key (dict key rows) k = (rows.filter (key · = k)).getLast? := by
  induction rows using List.reverseRecOn with
  | nil => rfl
  | append_singleton rows row ih =>
    rw [dict_append, byKey_put, ih, List.filter_append]
    by_cases same : key row = k
    · simp [same]
    · simp [same]

/-- The rows of a key, of which a table without a unique index has several. -/
def atKey (key : α → κ) (rows : List α) (k : κ) : List α := rows.filter (key · = k)

theorem mem_atKey {rows : List α} {k : κ} {row : α} : row ∈ atKey key rows k ↔ row ∈ rows ∧ key row = k := by
  unfold atKey
  rw [List.mem_filter, decide_eq_true_eq]

theorem atKey_drop (rows : List α) (k other : κ) :
    atKey key (drop key k rows) other = if k = other then [] else atKey key rows other := by
  unfold atKey drop
  rw [List.filter_filter]
  by_cases same : k = other
  · simp [same]
  · rw [if_neg same]
    refine List.filter_congr fun row _ => ?_
    by_cases asked : key row = other
    · simp [asked, Ne.symm same]
    · simp [asked]

def overwrite (key : α → κ) (row : α) (rows : List α) : List α := drop key (key row) rows ++ [row]

theorem atKey_overwrite (row : α) (rows : List α) (k : κ) :
    atKey key (overwrite key row rows) k = if key row = k then [row] else atKey key rows k := by
  have split : atKey key (overwrite key row rows) k = atKey key (drop key (key row) rows) k ++ atKey key [row] k :=
    List.filter_append _ _
  rw [split, atKey_drop]
  by_cases same : key row = k
  · simp [atKey, same]
  · simp [atKey, same]

theorem atKey_dropAll (keys : List κ) (rows : List α) (k : κ) :
    atKey key (keys.foldl (fun kept gone => drop key gone kept) rows) k = if k ∈ keys then [] else atKey key rows k := by
  induction keys generalizing rows with
  | nil => simp
  | cons gone rest ih =>
    rw [List.foldl_cons, ih, atKey_drop]
    by_cases later : k ∈ rest
    · simp [later]
    · by_cases same : gone = k
      · simp [same]
      · simp [later, same, Ne.symm same]

/-- Rows of different keys overwrite independently of each other. -/
theorem atKey_overwriteAll {news : List α} (unique : Unique key news) (rows : List α) (k : κ) :
    atKey key (news.foldl (fun kept row => overwrite key row kept) rows) k = match byKey key news k with
      | some row => [row]
      | none => atKey key rows k := by
  induction news generalizing rows with
  | nil => rfl
  | cons row rest ih =>
    obtain ⟨absent, later⟩ := List.nodup_cons.mp unique
    rw [List.foldl_cons, ih later, atKey_overwrite]
    by_cases same : key row = k
    · have nobody : byKey key rest k = none := by
        refine byKey_none.mpr fun other member equal => absent ?_
        exact List.mem_map.mpr ⟨other, member, equal.trans same.symm⟩
      rw [nobody]
      simp [byKey, same]
    · simp [byKey, same]

end Rows
