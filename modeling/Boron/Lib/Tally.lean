import Mathlib.Algebra.BigOperators.Group.List.Basic

namespace Tally
open List
variable {α κ M : Type} [DecidableEq κ] [AddCommMonoid M] (key : α → κ) (value : α → M)

def total (rows : List α) (k : κ) : M := ((rows.filter fun row => key row = k).map value).sum

@[simp] theorem total_nil (k : κ) : total key value [] k = 0 := rfl

theorem total_cons (row : α) (rows : List α) (k : κ) :
    total key value (row :: rows) k = (if key row = k then value row else 0) + total key value rows k := by
  unfold total
  by_cases same : key row = k
  · simp [same]
  · simp [same]

theorem total_append (rows more : List α) (k : κ) :
    total key value (rows ++ more) k = total key value rows k + total key value more k := by
  induction rows with
  | nil => rw [nil_append, total_nil, zero_add]
  | cons row rows ih => rw [cons_append, total_cons, total_cons, ih, add_assoc]

theorem total_perm {rows more : List α} (same : rows.Perm more) (k : κ) :
    total key value rows k = total key value more k :=
  ((same.filter _).map value).sum_eq

/-- Rows that are taken away and rows that stay make up the whole. -/
theorem total_filter (P : α → Bool) (rows : List α) (k : κ) :
    total key value (rows.filter P) k + total key value (rows.filter fun row => !P row) k = total key value rows k := by
  rw [← total_append]
  exact total_perm key value (filter_append_perm P rows) k

/-- Put a row into the group with its key, or into a new one at the end. -/
def place : List (κ × List α) → α → List (κ × List α)
  | [], row => [(key row, [row])]
  | (k, members) :: rest, row =>
    if k = key row then (k, members ++ [row]) :: rest else (k, members) :: place rest row

def grouped (rows : List α) : List (κ × List α) := rows.foldl (place key) []

def gathered (groups : List (κ × List α)) (k : κ) : M :=
  ((groups.filter fun group => group.1 = k).map fun group => (group.2.map value).sum).sum

theorem gathered_cons (group : κ × List α) (groups : List (κ × List α)) (k : κ) :
    gathered value (group :: groups) k =
      (if group.1 = k then (group.2.map value).sum else 0) + gathered value groups k := by
  unfold gathered
  by_cases same : group.1 = k
  · simp [same]
  · simp [same]

theorem gathered_place (groups : List (κ × List α)) (row : α) (k : κ) :
    gathered value (place key groups row) k = gathered value groups k + if key row = k then value row else 0 := by
  induction groups with
  | nil =>
    rw [place, gathered_cons, add_comm, map_singleton, sum_singleton]
  | cons group groups ih =>
    rw [place]
    by_cases found : group.1 = key row
    · rw [if_pos found, gathered_cons, gathered_cons, ← found]
      by_cases same : group.1 = k
      · simp only [if_pos same, map_append, sum_append, map_singleton, sum_singleton]
        rw [add_right_comm]
      · simp only [if_neg same, add_zero]
    · rw [if_neg found, gathered_cons, gathered_cons, ih, add_assoc]

/-- Grouping neither loses nor repeats a row. -/
theorem gathered_grouped (rows : List α) (k : κ) :
    gathered value (grouped key rows) k = total key value rows k := by
  have all (groups : List (κ × List α)) : gathered value (rows.foldl (place key) groups) k =
      gathered value groups k + total key value rows k := by
    induction rows generalizing groups with
    | nil => rw [foldl_nil, total_nil, add_zero]
    | cons row rows ih => rw [foldl_cons, ih, gathered_place, total_cons, add_assoc]
  rw [grouped, all]
  exact zero_add _

/-- Groups added up one by one. `merge` adds a group to what is stored of its key. -/
theorem foldl_merge {σ : Type} (stored : σ → κ → M) (merge : σ → κ × List α → σ)
    (merges : ∀ s group k, stored (merge s group) k =
      stored s k + if group.1 = k then (group.2.map value).sum else 0)
    (groups : List (κ × List α)) (s : σ) (k : κ) :
    stored (groups.foldl merge s) k = stored s k + gathered value groups k := by
  induction groups generalizing s with
  | nil => exact (add_zero _).symm
  | cons group groups ih => rw [foldl_cons, ih, merges, gathered_cons, add_assoc]

section
variable {σ ε : Type} {f : σ → α → Except ε σ} {rows : List α} {s t : σ}

theorem foldlM_keeps {P : σ → Prop} (step : ∀ s row t, row ∈ rows → P s → f s row = .ok t → P t)
    (start : P s) (ran : rows.foldlM f s = .ok t) : P t := by
  induction rows generalizing s with
  | nil =>
    cases ran
    exact start
  | cons row rows ih =>
    rw [foldlM_cons] at ran
    cases first : f s row with
    | error failure =>
      rw [first] at ran
      cases ran
    | ok next =>
      rw [first] at ran
      have kept := step s row next mem_cons_self start first
      exact ih (fun s row t member => step s row t (mem_cons_of_mem _ member)) kept ran

/-- A loop that may fail adds up the weights of its rows when it does not. -/
theorem foldlM_sum (view : σ → M) (weight : α → M)
    (step : ∀ s row t, row ∈ rows → f s row = .ok t → view t = view s + weight row)
    (ran : rows.foldlM f s = .ok t) : view t = view s + (rows.map weight).sum := by
  induction rows generalizing s with
  | nil =>
    cases ran
    exact (add_zero _).symm
  | cons row rows ih =>
    rw [foldlM_cons] at ran
    cases first : f s row with
    | error failure =>
      rw [first] at ran
      cases ran
    | ok next =>
      rw [first] at ran
      rw [ih (fun s row t member => step s row t (mem_cons_of_mem _ member)) ran,
        step s row next mem_cons_self first, map_cons, sum_cons, add_assoc]

end

end Tally
