import Mathlib.Data.Set.Insert
import Boron.Lib.Sys

namespace Undo
open List Sys
variable {σ ε Coord Val : Type}

/-- While `I` holds, it keeps holding and nothing outside `D` changes. -/
def Within (view : σ → Coord → Val) (I : σ → Prop) (D : Set Coord) (s s' : σ) : Prop :=
  I s → I s' ∧ ∀ c, c ∉ D → view s' c = view s c

variable {view : σ → Coord → Val} {I : σ → Prop} {D : Set Coord}

instance : Std.Refl (Within view I D) := ⟨fun _ holds => ⟨holds, fun _ _ => rfl⟩⟩

instance : IsTrans σ (Within view I D) where
  trans _ _ _ first second holds := have ⟨held, same⟩ := first holds
    have ⟨kept, same'⟩ := second held
    ⟨kept, fun c outside => (same' c outside).trans (same c outside)⟩

variable {s s' : σ}

theorem Within.mono {E : Set Coord} (sub : D ⊆ E) (within : Within view I D s s') : Within view I E s s' :=
  fun holds => ⟨(within holds).1, fun c outside => (within holds).2 c fun inside => outside (sub inside)⟩

/-- A step that, when it ends well, gives the coordinate `c` its value back, and
never changes another. -/
structure Restores (view : σ → Coord → Val) (I : σ → Prop) (value : Coord → Val) (c : Coord)
    (step : Sys σ ε Unit) : Prop where
  within : Sys.Keeps (Within view I {c}) step
  restores : ∀ s s', I s → step.run s = (.ok (), s') → view s' c = value c

def attempt (fatal : ε → Bool) (step : Sys σ ε Unit) : Sys σ ε (Option ε) :=
  Sys.handle (do step; return none) fun e => if fatal e then Sys.fail e else return some e

/-- Run every step, the failed ones included, and collect the errors. -/
def all (fatal : ε → Bool) : List (Sys σ ε Unit) → Sys σ ε (List ε)
  | [] => return []
  | step :: rest => do
    let failure ← attempt fatal step
    let failures ← all fatal rest
    return failure.toList ++ failures

variable {fatal : ε → Bool} {step : Sys σ ε Unit}

theorem attempt_eq_none : (attempt fatal step).run s = (.ok none, s') ↔ step.run s = (.ok (), s') := by
  cases run : step.run s with
  | mk result mid =>
    cases result with
    | ok u =>
      have ended : (do step; return none : Sys σ ε (Option ε)).run s = (.ok none, mid) := bind_of_ok run
      rw [attempt, handle_of_ok ended]
      simp
    | error e =>
      have failed : (do step; return none : Sys σ ε (Option ε)).run s = (.error e, mid) := bind_of_error run
      rw [attempt, handle_of_error failed]
      by_cases isFatal : fatal e
      · simp [isFatal]
      · simp [isFatal]

theorem attempt_keeps {R : σ → σ → Prop} [Std.Refl R] [IsTrans σ R] (keeps : Keeps R step) : Keeps R (attempt fatal step) := by
  refine Keeps.handle (keeps.bind fun _ => Keeps.pure _) fun e => ?_
  split
  · exact Keeps.fail e
  · exact Keeps.pure _

theorem all_keeps {R : σ → σ → Prop} [Std.Refl R] [IsTrans σ R] {steps : List (Sys σ ε Unit)} (keeps : ∀ step ∈ steps, Keeps R step) :
    Keeps R (all fatal steps) := by
  induction steps with
  | nil => exact Keeps.pure _
  | cons step rest ih =>
    refine (attempt_keeps (keeps step mem_cons_self)).bind fun _ => ?_
    exact (ih fun other member => keeps other (mem_cons_of_mem step member)).bind fun _ => Keeps.pure _

theorem all_cons_eq_nil {rest : List (Sys σ ε Unit)} : (all fatal (step :: rest)).run s = (.ok [], s') ↔
      ∃ mid, step.run s = (.ok (), mid) ∧ (all fatal rest).run mid = (.ok [], s') := by
  simp only [all, bind_eq_ok, run_pure, Prod.mk.injEq, Except.ok.injEq, append_eq_nil_iff, Option.toList_eq_nil_iff]
  constructor
  · rintro ⟨failure, mid, first, failures, last, second, ⟨rfl, rfl⟩, rfl⟩
    exact ⟨mid, attempt_eq_none.mp first, second⟩
  · rintro ⟨mid, first, second⟩
    exact ⟨none, mid, attempt_eq_none.mpr first, [], s', second, ⟨rfl, rfl⟩, rfl⟩

theorem all_total {steps : List (Sys σ ε Unit)} (total : ∀ step ∈ steps, Sys.Total I step)
    {s : σ} (holds : I s) : ∃ s', (all fatal steps).run s = (.ok [], s') ∧ I s' := by
  induction steps generalizing s with
  | nil => exact ⟨s, rfl, holds⟩
  | cons step rest ih =>
    obtain ⟨_, mid, ran, held⟩ := total step mem_cons_self s holds
    obtain ⟨s', ran', held'⟩ := ih (fun other member => total other (mem_cons_of_mem step member)) held
    exact ⟨s', all_cons_eq_nil.mpr ⟨mid, ran, ran'⟩, held'⟩

/-- When every step ended well, every coordinate has its value: those of the
steps because they were restored, the others because nothing changed them. -/
theorem all_restores {value : Coord → Val} {steps : List (Coord × Sys σ ε Unit)}
    (restores : ∀ step ∈ steps, Restores view I value step.1 step.2) (holds : I s)
    (elsewhere : ∀ c, c ∉ steps.map Prod.fst → view s c = value c)
    (ran : (all fatal (steps.map Prod.snd)).run s = (.ok [], s')) (c : Coord) : view s' c = value c := by
  induction steps generalizing s with
  | nil =>
    cases ran
    exact elsewhere c not_mem_nil
  | cons step rest ih =>
    obtain ⟨mid, first, second⟩ := all_cons_eq_nil.mp ran
    have own := restores step mem_cons_self
    have kept := own.within s
    rw [first] at kept
    obtain ⟨held, same⟩ := kept holds
    refine ih (fun other member => restores other (mem_cons_of_mem step member)) held ?_ second
    intro c outside
    by_cases at_ : c = step.1
    · rw [at_]
      exact own.restores s mid holds first
    · rw [same c at_]
      exact elsewhere c fun member => (mem_cons.mp member).elim at_ outside

end Undo

namespace Sys
variable {σ τ ε α β : Type} {f : σ → τ}

def Projects (f : σ → τ) (p : Sys σ ε α) (q : Sys τ ε α) : Prop := ∀ s, q.run (f s) = ((p.run s).1, f (p.run s).2)

namespace Projects

theorem pure (a : α) : Projects f (Pure.pure a : Sys σ ε α) (Pure.pure a) := fun _ => rfl

theorem fail (e : ε) : Projects f (Sys.fail e : Sys σ ε α) (Sys.fail e) := fun _ => rfl

variable {p : Sys σ ε α} {q : Sys τ ε α}

theorem bind {g : α → Sys σ ε β} {h : α → Sys τ ε β} (first : Projects f p q)
    (rest : ∀ a, Projects f (g a) (h a)) : Projects f (p >>= g) (q >>= h) := by
  intro s
  rw [run_bind, run_bind, first s]
  cases run : p.run s with
  | mk result mid =>
    cases result with
    | ok a => exact rest a mid
    | error e => rfl

theorem handle {g : ε → Sys σ ε α} {h : ε → Sys τ ε α} (body : Projects f p q)
    (handler : ∀ e, Projects f (g e) (h e)) : Projects f (Sys.handle p g) (Sys.handle q h) := by
  intro s
  unfold Sys.handle
  dsimp only
  rw [body s]
  cases run : p.run s with
  | mk result mid =>
    cases result with
    | ok a => rfl
    | error e => exact handler e mid

/-- A handler that raises the error again is not seen. -/
theorem rethrow {g : ε → Sys σ ε α} (body : Projects f p q)
    (handler : ∀ e, Projects f (g e) (Sys.fail e)) : Projects f (Sys.handle p g) q := by
  intro s
  unfold Sys.handle
  dsimp only
  rw [body s]
  cases run : p.run s with
  | mk result mid =>
    cases result with
    | ok a => rfl
    | error e => exact handler e mid

/-- What the larger store adds may change at any time. -/
theorem after_modify {g : σ → σ} (hidden : ∀ s, f (g s) = f s) (rest : Projects f p q) :
    Projects f (do Sys.modify g; p) q := by
  intro s
  rw [run_modify_bind, ← hidden s]
  exact rest (g s)

end Projects

end Sys

namespace Undo
variable {σ τ ε : Type} {f : σ → τ}

theorem all_projects {fatal : ε → Bool} {ι : Type} {p : ι → Sys σ ε Unit} {q : ι → Sys τ ε Unit}
    (steps : List ι) (projects : ∀ step, Sys.Projects f (p step) (q step)) :
    Sys.Projects f (all fatal (steps.map p)) (all fatal (steps.map q)) := by
  induction steps with
  | nil => exact Sys.Projects.pure _
  | cons step rest ih =>
    refine Sys.Projects.bind ?_ fun failure => ih.bind fun failures => Sys.Projects.pure _
    refine Sys.Projects.handle ((projects step).bind fun _ => Sys.Projects.pure _) fun e => ?_
    split
    · exact Sys.Projects.fail e
    · exact Sys.Projects.pure _

end Undo
