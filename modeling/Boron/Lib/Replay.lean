import Mathlib.Data.List.Basic

namespace Replay

structure Change (ι : Type) {κ : Type} (ρ : κ → Type) where
  author : ι
  key : κ
  row : Option (ρ key)

variable {ι κ : Type} [DecidableEq κ] {ρ : κ → Type}

def replay (table : (k : κ) → Option (ρ k)) (changes : List (Change ι ρ)) : (k : κ) → Option (ρ k) :=
  changes.foldl (fun table change => Function.update table change.key change.row) table

variable {table : (k : κ) → Option (ρ k)} {changes earlier later : List (Change ι ρ)} {change : Change ι ρ} {k : κ}

@[simp] theorem replay_nil : replay table ([] : List (Change ι ρ)) = table := rfl

theorem replay_append : replay table (earlier ++ later) = replay (replay table earlier) later :=
  List.foldl_append ..

theorem replay_cons : replay table (change :: later) = replay (Function.update table change.key change.row) later := rfl

theorem replay_concat : replay table (changes ++ [change]) = Function.update (replay table changes) change.key change.row :=
  replay_append

theorem replay_absent (absent : ∀ change ∈ changes, change.key ≠ k) : replay table changes k = table k := by
  induction changes generalizing table with
  | nil => rfl
  | cons change rest ih =>
    obtain ⟨here, there⟩ := List.forall_mem_cons.mp absent
    rw [replay_cons, ih there, Function.update_of_ne (Ne.symm here)]

theorem replay_congr {other : (k : κ) → Option (ρ k)} (same : table k = other k) :
    replay table changes k = replay other changes k := by
  induction changes generalizing table other with
  | nil => exact same
  | cons change rest ih =>
    rw [replay_cons, replay_cons]
    refine ih ?_
    by_cases here : k = change.key
    · subst here
      rw [Function.update_self, Function.update_self]
    · rw [Function.update_of_ne here, Function.update_of_ne here, same]

/-- Changes to other rows can be left out. -/
theorem replay_filter {kept : Change ι ρ → Bool} (left : ∀ change ∈ changes, kept change = false → change.key ≠ k) :
    replay table (changes.filter kept) k = replay table changes k := by
  induction changes generalizing table with
  | nil => rfl
  | cons change rest ih =>
    obtain ⟨here, there⟩ := List.forall_mem_cons.mp left
    cases chosen : kept change with
    | true =>
      rw [List.filter_cons_of_pos chosen, replay_cons, replay_cons]
      exact ih there
    | false =>
      rw [List.filter_cons_of_neg (by rw [chosen]; exact Bool.false_ne_true), replay_cons, ih there]
      exact replay_congr (Function.update_of_ne (Ne.symm (here chosen)) _ _).symm

/-- The row a change wrote, while nobody has written it since. -/
theorem replay_last (last : ∀ other ∈ later, other.key ≠ change.key) :
    replay table (earlier ++ change :: later) change.key = change.row := by
  rw [replay_append, replay_cons, replay_absent last, Function.update_self]

/-- Writing the earlier row back takes the last change to it away. -/
theorem replay_withdraw (last : ∀ other ∈ later, other.key ≠ change.key) :
    Function.update (replay table (earlier ++ change :: later)) change.key (replay table earlier change.key) =
      replay table (earlier ++ later) := by
  funext k
  rw [replay_append, replay_append, replay_cons]
  by_cases here : k = change.key
  · subst here
    rw [Function.update_self, replay_absent last]
  · rw [Function.update_of_ne here]
    exact replay_congr (Function.update_of_ne here _ _)

end Replay
