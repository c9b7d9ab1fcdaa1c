import Boron.Lib.Sys

namespace Durable

inductive Cut
  | none
  | before
  | after
  deriving DecidableEq

/-- The store, and how many durable steps have begun. -/
structure Machine (σ : Type) where
  store : σ
  steps : Nat

inductive Fault (ε : Type)
  | stopped
  | raised (error : ε)

abbrev Prog (σ ε α : Type) := Sys (Machine σ) (Fault ε) α

variable {σ ε α : Type} (cuts : Nat → Cut)

def get : Prog σ ε σ := ⟨fun m => (.ok m.store, m)⟩

def raise (error : ε) : Prog σ ε α := Sys.fail (.raised error)

def step (p : Sys σ ε α) : Prog σ ε α := ⟨fun m =>
  let ended := p.run m.store
  match cuts m.steps with
  | .none => (ended.1.mapError .raised, { store := ended.2, steps := m.steps + 1 })
  | .before => (.error .stopped, { m with steps := m.steps + 1 })
  | .after => (.error .stopped, { store := ended.2, steps := m.steps + 1 })⟩

def Across (R : σ → σ → Prop) (m m' : Machine σ) : Prop := R m.store m'.store

instance (R : σ → σ → Prop) [Std.Refl R] : Std.Refl (Across R) := ⟨fun m => Std.Refl.refl m.store⟩

instance (R : σ → σ → Prop) [IsTrans σ R] : IsTrans (Machine σ) (Across R) :=
  ⟨fun _ _ _ first second => @IsTrans.trans σ R _ _ _ _ first second⟩

variable {R : σ → σ → Prop}

theorem get_keeps [Std.Refl R] : Sys.Keeps (Across R) (get : Prog σ ε σ) := fun m => Std.Refl.refl m.store

theorem step_keeps [Std.Refl R] {p : Sys σ ε α} (keeps : Sys.Keeps R p) : Sys.Keeps (Across R) (step cuts p) := by
  intro m
  have ended := keeps m.store
  unfold step
  dsimp only
  cases cuts m.steps with
  | none => exact ended
  | before => exact Std.Refl.refl m.store
  | after => exact ended

end Durable
