import Boron.Lib.Sys

namespace Tasks

structure Server (ι τ σ : Type) where
  store : σ
  task : ι → τ

variable {ι τ σ μ : Type} [DecidableEq ι]

/-- A turn of one task at a moment: a clock reading, a drawn secret. -/
def Server.turn (advance : ι → μ → τ → σ → τ × σ) (who : ι × μ) (server : Server ι τ σ) : Server ι τ σ :=
  let left := advance who.1 who.2 (server.task who.1) server.store
  { store := left.2, task := Function.update server.task who.1 left.1 }

variable {advance : ι → μ → τ → σ → τ × σ}

@[simp] theorem turn_store (who : ι × μ) (server : Server ι τ σ) :
    (server.turn advance who).store = (advance who.1 who.2 (server.task who.1) server.store).2 := rfl

@[simp] theorem turn_own (who : ι × μ) (server : Server ι τ σ) :
    (server.turn advance who).task who.1 = (advance who.1 who.2 (server.task who.1) server.store).1 :=
  Function.update_self ..

theorem turn_other {who : ι × μ} {i : ι} (other : i ≠ who.1) (server : Server ι τ σ) :
    (server.turn advance who).task i = server.task i := Function.update_of_ne other ..

/-- The states of every interleaving in which each turn is allowed. -/
abbrev Reaches (advance : ι → μ → τ → σ → τ × σ) (allowed : Server ι τ σ → ι × μ → Prop) :
    Server ι τ σ → Server ι τ σ → Prop := Sys.Reaches (Server.turn advance) allowed

def Server.after (advance : ι → μ → τ → σ → τ × σ) (server : Server ι τ σ) (turns : List (ι × μ)) : Server ι τ σ :=
  turns.foldl (fun server who => server.turn advance who) server

theorem Reaches.after {start server : Server ι τ σ} (reached : Reaches advance (fun _ _ => True) start server)
    (turns : List (ι × μ)) : Reaches advance (fun _ _ => True) start (server.after advance turns) := by
  induction turns generalizing server with
  | nil => exact reached
  | cons who turns ih => exact ih (reached.next who trivial)

/-- A task that gets no turn stays where it is. -/
theorem task_after {i : ι} (turns : List (ι × μ)) (server : Server ι τ σ) (rests : ∀ who ∈ turns, i ≠ who.1) :
    (server.after advance turns).task i = server.task i := by
  induction turns generalizing server with
  | nil => rfl
  | cons who turns ih =>
    have later := ih (server.turn advance who) fun other member => rests other (List.mem_cons_of_mem who member)
    rw [turn_other (rests who List.mem_cons_self)] at later
    exact later

structure Holds (J : σ → Prop) (R : ι → τ → σ → Prop) (server : Server ι τ σ) : Prop where
  shared : J server.store
  relied : ∀ i, R i (server.task i) server.store

structure Keeps (J : σ → Prop) (R : ι → τ → σ → Prop) (i : ι) (store : σ) (left : τ × σ) : Prop where
  shared : J left.2
  own : R i left.1 left.2
  others : ∀ j task, j ≠ i → R j task store → R j task left.2

variable {J : σ → Prop} {R : ι → τ → σ → Prop} {allowed : Server ι τ σ → ι × μ → Prop} {start server : Server ι τ σ}

theorem Holds.turn {who : ι × μ} (holds : Holds J R server)
    (keeps : Keeps J R who.1 server.store (advance who.1 who.2 (server.task who.1) server.store)) :
    Holds J R (server.turn advance who) := by
  refine ⟨keeps.shared, fun i => ?_⟩
  by_cases same : i = who.1
  · subst same
    rw [turn_own]
    exact keeps.own
  · rw [turn_other same]
    exact keeps.others i (server.task i) same (holds.relied i)

theorem Reaches.holds (initial : Holds J R start) (kept : ∀ server who, allowed server who → Holds J R server →
      Keeps J R who.1 server.store (advance who.1 who.2 (server.task who.1) server.store))
    (reached : Reaches advance allowed start server) : Holds J R server := by
  induction reached with
  | start => exact initial
  | next who _ permitted ih => exact ih.turn (kept _ who permitted ih)

/-- A task may also rely on where the others stand; then a turn is asked about these. -/
theorem Reaches.holds_at (initial : Holds J R start) (kept : ∀ server who, allowed server who → Holds J R server →
      J (advance who.1 who.2 (server.task who.1) server.store).2 ∧
      R who.1 (advance who.1 who.2 (server.task who.1) server.store).1
        (advance who.1 who.2 (server.task who.1) server.store).2 ∧
      ∀ j, j ≠ who.1 → R j (server.task j) (advance who.1 who.2 (server.task who.1) server.store).2)
    (reached : Reaches advance allowed start server) : Holds J R server := by
  induction reached with
  | start => exact initial
  | next who _ permitted ih =>
    obtain ⟨shared, own, others⟩ := kept _ who permitted ih
    refine ⟨shared, fun i => ?_⟩
    by_cases same : i = who.1
    · subst same
      rw [turn_own]
      exact own
    · rw [turn_other same]
      exact others i same

/-- What is about the store alone needs no word on the tasks. -/
theorem Reaches.shared (initial : J start.store) (kept : ∀ server who, allowed server who → J server.store →
      J (advance who.1 who.2 (server.task who.1) server.store).2)
    (reached : Reaches advance allowed start server) : J server.store := by
  induction reached with
  | start => exact initial
  | next who _ permitted ih => exact kept _ who permitted ih

end Tasks
