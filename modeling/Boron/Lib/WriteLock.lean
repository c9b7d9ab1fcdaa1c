import Mathlib.Logic.Basic

structure WriteLock (ι δ : Type) where
  committed : δ
  holder : Option (ι × δ)

namespace WriteLock
variable {ι δ : Type} [DecidableEq ι]

/-- What a query of `i` sees. -/
def view (i : ι) (file : WriteLock ι δ) : δ :=
  match file.holder with
  | some (j, working) => if j = i then working else file.committed
  | none => file.committed

def write (i : ι) (f : δ → δ) (file : WriteLock ι δ) : Option (WriteLock ι δ) :=
  match file.holder with
  | none => some { file with holder := some (i, f file.committed) }
  | some (j, working) => if j = i then some { file with holder := some (i, f working) } else none

def commit (i : ι) (file : WriteLock ι δ) : WriteLock ι δ :=
  match file.holder with
  | some (j, working) => if j = i then { committed := working, holder := none } else file
  | none => file

def rollback (i : ι) (file : WriteLock ι δ) : WriteLock ι δ :=
  match file.holder with
  | some (j, _) => if j = i then { file with holder := none } else file
  | none => file

structure All (P : δ → Prop) (file : WriteLock ι δ) : Prop where
  committed : P file.committed
  working : ∀ i working, file.holder = some (i, working) → P working

/-- `i` has the lock, and its copy satisfies `P`. -/
def Holding (i : ι) (P : δ → Prop) (file : WriteLock ι δ) : Prop :=
  ∃ working, file.holder = some (i, working) ∧ P working

section
variable {P Q : δ → Prop} {file left : WriteLock ι δ} {i j : ι} {f : δ → δ}

theorem All.view (all : All P file) : P (file.view i) := by
  unfold WriteLock.view
  split
  · next holder working held =>
    split
    · exact all.working _ _ held
    · exact all.committed
  · exact all.committed

/-- A write changes the copy that its transaction sees, and nothing else. -/
theorem write_eq (wrote : file.write i f = some left) :
    left = { file with holder := some (i, f (file.view i)) } ∧ ∀ j working, file.holder = some (j, working) → j = i := by
  unfold write at wrote
  unfold view
  cases held : file.holder with
  | none =>
    simp only [held, Option.some.injEq] at wrote ⊢
    subst wrote
    exact ⟨rfl, by rintro j working ⟨⟩⟩
  | some pair =>
    simp only [held] at wrote ⊢
    split at wrote
    · next own =>
      cases wrote
      subst own
      exact ⟨by rw [if_pos rfl], by rintro j other ⟨⟩; rfl⟩
    · cases wrote

theorem All.write (all : All P file) (kept : P (file.view i) → P (f (file.view i)))
    (wrote : file.write i f = some left) : All P left := by
  obtain ⟨same, _⟩ := write_eq wrote
  subst same
  refine ⟨all.committed, fun j working held => ?_⟩
  cases held
  exact kept all.view

theorem commit_cases (file : WriteLock ι δ) (i : ι) :
    file.commit i = file ∧ (∀ working, file.holder ≠ some (i, working)) ∨
      ∃ working, file.holder = some (i, working) ∧ file.commit i = { committed := working, holder := none } := by
  unfold commit
  cases held : file.holder with
  | none => exact .inl ⟨rfl, by simp⟩
  | some pair =>
    obtain ⟨j, working⟩ := pair
    by_cases own : j = i
    · subst own
      exact .inr ⟨working, rfl, by simp⟩
    · exact .inl ⟨by simp [own], by simp [own]⟩

theorem All.commit (all : All P file) (i : ι) : All P (file.commit i) := by
  rcases commit_cases file i with ⟨same, _⟩ | ⟨working, held, same⟩
  · rw [same]
    exact all
  · rw [same]
    exact ⟨all.working i working held, by simp⟩

theorem All.rollback (all : All P file) (i : ι) : All P (file.rollback i) := by
  unfold WriteLock.rollback
  split
  · split
    · exact ⟨all.committed, by simp⟩
    · exact all
  · exact all

theorem Holding.wrote (holds : P (f (file.view i))) (wrote : file.write i f = some left) : Holding i P left := by
  obtain ⟨same, _⟩ := write_eq wrote
  exact ⟨f (file.view i), by rw [same], holds⟩

/-- The copy of one transaction is not touched by the others. -/
theorem Holding.write (holding : Holding j P file) (other : j ≠ i) (wrote : file.write i f = some left) : False := by
  obtain ⟨working, held, _⟩ := holding
  exact other ((write_eq wrote).2 j working held)

theorem Holding.commit (holding : Holding j P file) (other : j ≠ i) : Holding j P (file.commit i) := by
  obtain ⟨working, held, holds⟩ := holding
  exact ⟨working, by simp [WriteLock.commit, held, other], holds⟩

theorem Holding.rollback (holding : Holding j P file) (other : j ≠ i) : Holding j P (file.rollback i) := by
  obtain ⟨working, held, holds⟩ := holding
  exact ⟨working, by simp [WriteLock.rollback, held, other], holds⟩

end

end WriteLock
