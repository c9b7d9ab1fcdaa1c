import Mathlib.Data.List.Basic

/-- A program over a store. An error ends the program but not the store:
whatever was written before the error stays written. -/
structure Sys (σ ε α : Type) where
  run : σ → Except ε α × σ

namespace Sys
variable {σ ε α β : Type}

instance : Monad (Sys σ ε) where
  pure a := ⟨fun s => (.ok a, s)⟩
  bind p f := ⟨fun s => match p.run s with
    | (.ok a, s') => (f a).run s'
    | (.error e, s') => (.error e, s')⟩

def fail (e : ε) : Sys σ ε α := ⟨fun s => (.error e, s)⟩

def get : Sys σ ε σ := ⟨fun s => (.ok s, s)⟩

def modify (f : σ → σ) : Sys σ ε Unit := ⟨fun s => (.ok (), f s)⟩

def ofExcept (r : Except ε α) : Sys σ ε α := ⟨fun s => (r, s)⟩

/-- Run a program to its end and return how it ended. -/
def caught (p : Sys σ ε α) : Sys σ ε (Except ε α) := ⟨fun s => (.ok (p.run s).1, (p.run s).2)⟩

def handle (p : Sys σ ε α) (h : ε → Sys σ ε α) : Sys σ ε α := ⟨fun s => match p.run s with
  | (.ok a, s') => (.ok a, s')
  | (.error e, s') => (h e).run s'⟩

/-- A transaction: an error puts the store back to where it was. -/
def atomically (p : Sys σ ε α) : Sys σ ε α := ⟨fun s => match p.run s with
  | (.ok a, s') => (.ok a, s')
  | (.error e, _) => (.error e, s)⟩

/-- Run a program for every element, from the left. -/
def each (p : α → Sys σ ε Unit) : List α → Sys σ ε Unit
  | [] => pure ()
  | a :: rest => do p a; each p rest

@[simp] theorem run_pure (a : α) (s : σ) : (pure a : Sys σ ε α).run s = (.ok a, s) := rfl
@[simp] theorem run_fail (e : ε) (s : σ) : (fail e : Sys σ ε α).run s = (.error e, s) := rfl
@[simp] theorem run_get (s : σ) : (get : Sys σ ε σ).run s = (.ok s, s) := rfl
@[simp] theorem run_modify (f : σ → σ) (s : σ) : (modify f : Sys σ ε Unit).run s = (.ok (), f s) := rfl
@[simp] theorem run_ofExcept (r : Except ε α) (s : σ) : (ofExcept r).run s = (r, s) := rfl

@[simp] theorem run_ite (c : Prop) [Decidable c] (p q : Sys σ ε α) (s : σ) :
    (if c then p else q).run s = if c then p.run s else q.run s := by split <;> rfl

theorem run_bind (p : Sys σ ε α) (f : α → Sys σ ε β) (s : σ) : (p >>= f).run s = match p.run s with
      | (.ok a, s') => (f a).run s'
      | (.error e, s') => (.error e, s') := rfl

variable {p : Sys σ ε α} {f : α → Sys σ ε β} {s s' : σ}

theorem bind_of_ok {a : α} (run : p.run s = (.ok a, s')) : (p >>= f).run s = (f a).run s' := by
  rw [run_bind, run]

theorem bind_of_error {e : ε} (run : p.run s = (.error e, s')) : (p >>= f).run s = (.error e, s') := by
  rw [run_bind, run]

@[simp] theorem run_get_bind (f : σ → Sys σ ε β) (s : σ) : (get >>= f).run s = (f s).run s := rfl

@[simp] theorem run_modify_bind (g : σ → σ) (f : Unit → Sys σ ε β) (s : σ) :
    (modify g >>= f).run s = (f ()).run (g s) := rfl

@[simp] theorem run_fail_bind (e : ε) (f : α → Sys σ ε β) (s : σ) : (fail e >>= f).run s = (.error e, s) := rfl

theorem run_then_pure (p : Sys σ ε α) (b : β) (s : σ) :
    ((do let _ ← p; return b : Sys σ ε β).run s).2 = (p.run s).2 := by
  rw [run_bind]
  cases p.run s with
  | mk result mid => cases result <;> rfl

/-- A sequence that ended well ran both its halves to the end. -/
theorem bind_eq_ok {b : β} : (p >>= f).run s = (.ok b, s') ↔
      ∃ a mid, p.run s = (.ok a, mid) ∧ (f a).run mid = (.ok b, s') := by
  rw [run_bind]
  cases run : p.run s with
  | mk result mid => cases result <;> simp

theorem bind_eq_error {e : ε} : (p >>= f).run s = (.error e, s') ↔
      p.run s = (.error e, s') ∨ ∃ a mid, p.run s = (.ok a, mid) ∧ (f a).run mid = (.error e, s') := by
  rw [run_bind]
  cases run : p.run s with
  | mk result mid => cases result <;> simp

theorem ofExcept_bind {r : Except ε α} {s : σ} {a : α} (got : r = .ok a) :
    (ofExcept r >>= f).run s = (f a).run s := bind_of_ok (Prod.ext got rfl)

theorem ofExcept_bind_ok {r : Except ε α} {b : β}
    (ran : (ofExcept r >>= f).run s = (.ok b, s')) : ∃ a, r = .ok a ∧ (f a).run s = (.ok b, s') := by
  obtain ⟨a, mid, got, ran⟩ := bind_eq_ok.mp ran
  obtain ⟨same, rfl⟩ := Prod.mk.inj got
  exact ⟨a, same, ran⟩

variable {h : ε → Sys σ ε α}

theorem handle_of_ok {a : α} (run : p.run s = (.ok a, s')) : (handle p h).run s = (.ok a, s') := by
  simp only [handle, run]

theorem handle_of_error {e : ε} (run : p.run s = (.error e, s')) : (handle p h).run s = (h e).run s' := by
  simp only [handle, run]

theorem handle_bind_of_ok {p : Sys σ ε β} {f : β → Sys σ ε α} {b : β}
    (run : p.run s = (.ok b, s')) : (handle (p >>= f) h).run s = (handle (f b) h).run s' := by
  simp only [handle, bind_of_ok run]

theorem atomically_eq_ok {a : α} : (atomically p).run s = (.ok a, s') ↔ p.run s = (.ok a, s') := by
  unfold atomically
  cases run : p.run s with
  | mk result mid => cases result <;> simp [run]

theorem atomically_of_error {e : ε} (run : p.run s = (.error e, s')) : (atomically p).run s = (.error e, s) := by
  simp only [atomically, run]

@[simp] theorem each_nil (p : α → Sys σ ε Unit) : each p [] = pure () := rfl

theorem each_cons (p : α → Sys σ ε Unit) (a : α) (rest : List α) : each p (a :: rest) = (do p a; each p rest) := rfl

theorem each_append (p : α → Sys σ ε Unit) (todo rest : List α) :
    each p (todo ++ rest) = (do each p todo; each p rest) := by
  have associative (first second third : Sys σ ε Unit) :
      (do first; second; third) = (do (do first; second : Sys σ ε Unit); third : Sys σ ε Unit) := by
    refine congrArg Sys.mk (funext fun s => ?_)
    simp only [run_bind]
    cases first.run s with
    | mk result mid => cases result <;> rfl
  induction todo with
  | nil => rfl
  | cons a todo ih => rw [List.cons_append, each_cons, each_cons, ih, associative]

/-- Whatever the outcome, the store left by `p` is related to the store it
was given. This is how a frame or a bound on what `p` can change is stated. -/
def Keeps (R : σ → σ → Prop) (p : Sys σ ε α) : Prop := ∀ s, R s (p.run s).2

namespace Keeps
variable {R : σ → σ → Prop}

theorem pure [Std.Refl R] (a : α) : Keeps R (Pure.pure a : Sys σ ε α) := fun s => Std.Refl.refl s

theorem fail [Std.Refl R] (e : ε) : Keeps R (Sys.fail e : Sys σ ε α) := fun s => Std.Refl.refl s

theorem get [Std.Refl R] : Keeps R (Sys.get : Sys σ ε σ) := fun s => Std.Refl.refl s

theorem ofExcept [Std.Refl R] (r : Except ε α) : Keeps R (Sys.ofExcept r : Sys σ ε α) := fun s => Std.Refl.refl s

theorem modify {f : σ → σ} (step : ∀ s, R s (f s)) : Keeps R (Sys.modify f : Sys σ ε Unit) := step

variable {p : Sys σ ε α}

/-- The second half may use how the first one ended. -/
theorem bind_at [IsTrans σ R] {f : α → Sys σ ε β} {s : σ} (first : R s (p.run s).2)
    (rest : ∀ a mid, p.run s = (.ok a, mid) → R mid ((f a).run mid).2) : R s ((p >>= f).run s).2 := by
  rw [run_bind]
  cases run : p.run s with
  | mk result mid =>
    rw [run] at first
    cases result with
    | ok a => exact IsTrans.trans _ _ _ first (rest a mid run)
    | error e => exact first

theorem bind [IsTrans σ R] {f : α → Sys σ ε β}
    (first : Keeps R p) (rest : ∀ a, Keeps R (f a)) : Keeps R (p >>= f) :=
  fun s => bind_at (first s) fun a mid _ => rest a mid

theorem handle [IsTrans σ R] {h : ε → Sys σ ε α}
    (body : Keeps R p) (handler : ∀ e, Keeps R (h e)) : Keeps R (Sys.handle p h) := by
  intro s
  have before := body s
  unfold Sys.handle
  cases run : p.run s with
  | mk result mid =>
    rw [run] at before
    cases result with
    | ok a => simpa only [run] using before
    | error e => simpa only [run] using IsTrans.trans _ _ _ before (handler e mid)

theorem each [Std.Refl R] [IsTrans σ R] {p : α → Sys σ ε Unit} {todo : List α}
    (step : ∀ a ∈ todo, Keeps R (p a)) : Keeps R (Sys.each p todo) := by
  induction todo with
  | nil => exact Keeps.pure ()
  | cons a rest ih =>
    exact (step a List.mem_cons_self).bind fun _ => ih fun b member => step b (List.mem_cons_of_mem a member)

end Keeps

theorem Keeps.caught {R : σ → σ → Prop} (body : Keeps R p) : Keeps R (Sys.caught p) := body

/-- From `I` the program ends well, and in `I`. -/
def Total (I : σ → Prop) (p : Sys σ ε α) : Prop := ∀ s, I s → ∃ a s', p.run s = (.ok a, s') ∧ I s'

namespace Total
variable {I : σ → Prop}

theorem pure (a : α) : Total I (Pure.pure a : Sys σ ε α) := fun s holds => ⟨a, s, rfl, holds⟩

theorem get : Total I (Sys.get : Sys σ ε σ) := fun s holds => ⟨s, s, rfl, holds⟩

theorem bind {p : Sys σ ε α} {f : α → Sys σ ε β} (first : Total I p) (rest : ∀ a, Total I (f a)) :
    Total I (p >>= f) := by
  intro s holds
  obtain ⟨a, mid, ran, held⟩ := first s holds
  obtain ⟨b, s', ran', held'⟩ := rest a mid held
  exact ⟨b, s', bind_eq_ok.mpr ⟨a, mid, ran, ran'⟩, held'⟩

theorem handle {p : Sys σ ε α} {h : ε → Sys σ ε α} (body : Total I p) : Total I (Sys.handle p h) := by
  intro s holds
  obtain ⟨a, s', ran, held⟩ := body s holds
  exact ⟨a, s', handle_of_ok ran, held⟩

theorem each {p : α → Sys σ ε Unit} {todo : List α} (step : ∀ a ∈ todo, Total I (p a)) :
    Total I (Sys.each p todo) := by
  induction todo with
  | nil => exact Total.pure ()
  | cons a rest ih =>
    exact (step a List.mem_cons_self).bind fun _ => ih fun b member => step b (List.mem_cons_of_mem a member)

end Total

/-- The relation of a program that keeps an invariant. -/
def Stays (P : σ → Prop) (s s' : σ) : Prop := P s → P s'

instance (P : σ → Prop) : Std.Refl (Stays P) := ⟨fun _ holds => holds⟩

instance (P : σ → Prop) : IsTrans σ (Stays P) := ⟨fun _ _ _ first second holds => second (first holds)⟩

/-- From `P` the program ends well in `Q`, or with an error in `E`. -/
def Triple (P : σ → Prop) (p : Sys σ ε α) (Q : α → σ → Prop) (E : σ → Prop) : Prop :=
  ∀ s, P s → (∀ a s', p.run s = (.ok a, s') → Q a s') ∧ ∀ e s', p.run s = (.error e, s') → E s'

namespace Triple
variable {P : σ → Prop} {Q : α → σ → Prop} {E : σ → Prop} {p : Sys σ ε α}

theorem pure {a : α} (ends : ∀ s, P s → Q a s) : Triple P (Pure.pure a : Sys σ ε α) Q E :=
  fun s holds => ⟨by rintro _ _ ⟨⟩; exact ends s holds, fun _ _ failed => nomatch failed⟩

theorem fail {e : ε} (ends : ∀ s, P s → E s) : Triple P (Sys.fail e : Sys σ ε α) Q E :=
  fun s holds => ⟨fun _ _ ended => (nomatch ended), by rintro _ _ ⟨⟩; exact ends s holds⟩

theorem modify {f : σ → σ} {Q : Unit → σ → Prop} (ends : ∀ s, P s → Q () (f s)) :
    Triple P (Sys.modify f : Sys σ ε Unit) Q E :=
  fun s holds => ⟨by rintro _ _ ⟨⟩; exact ends s holds, fun _ _ failed => nomatch failed⟩

theorem get : Triple P (Sys.get : Sys σ ε σ) (fun a s => a = s ∧ P s) E :=
  fun s holds => ⟨by rintro _ _ ⟨⟩; exact ⟨rfl, holds⟩, fun _ _ failed => nomatch failed⟩

theorem ofExcept {r : Except ε α} (ends : ∀ s a, P s → r = .ok a → Q a s) (fails : ∀ s, P s → E s) :
    Triple P (Sys.ofExcept r) Q E := by
  intro s holds
  constructor
  · rintro a _ ⟨⟩
    exact ends s a holds rfl
  · rintro e _ ⟨⟩
    exact fails s holds

theorem bind {Q' : β → σ → Prop} {f : α → Sys σ ε β} (first : Triple P p Q E)
    (rest : ∀ a, Triple (Q a) (f a) Q' E) : Triple P (p >>= f) Q' E := by
  intro s holds
  obtain ⟨ends, fails⟩ := first s holds
  constructor
  · intro b s' ran
    obtain ⟨a, mid, ran, last⟩ := bind_eq_ok.mp ran
    exact (rest a mid (ends a mid ran)).1 b s' last
  · intro e s' ran
    rcases bind_eq_error.mp ran with ran | ⟨a, mid, ran, last⟩
    · exact fails e s' ran
    · exact (rest a mid (ends a mid ran)).2 e s' last

variable {E' : σ → Prop}

theorem weaken {P' : σ → Prop} {Q' : α → σ → Prop} (triple : Triple P p Q E)
    (before : ∀ s, P' s → P s) (ends : ∀ a s, Q a s → Q' a s) (fails : ∀ s, E s → E' s) : Triple P' p Q' E' :=
  fun s holds => ⟨fun a s' ran => ends a s' ((triple s (before s holds)).1 a s' ran),
    fun e s' ran => fails s' ((triple s (before s holds)).2 e s' ran)⟩

theorem handle {h : ε → Sys σ ε α} (body : Triple P p Q E') (rescue : ∀ e, Triple E' (h e) Q E) :
    Triple P (Sys.handle p h) Q E := by
  intro s holds
  obtain ⟨ends, fails⟩ := body s holds
  cases run : p.run s with
  | mk result mid =>
    cases result with
    | ok a =>
      rw [handle_of_ok run]
      refine ⟨?_, fun _ _ failed => nomatch failed⟩
      rintro _ _ ⟨⟩
      exact ends a mid run
    | error e =>
      rw [handle_of_error run]
      exact rescue e mid (fails e mid run)

theorem caught (triple : Triple P p Q E) :
    Triple P (Sys.caught p) (fun result s => (∀ a, result = .ok a → Q a s) ∧ ∀ e, result = .error e → E s) E' := by
  intro s holds
  obtain ⟨ends, fails⟩ := triple s holds
  refine ⟨?_, fun _ _ failed => nomatch failed⟩
  rintro _ _ ⟨⟩
  exact ⟨fun a same => ends a _ (Prod.ext same rfl), fun e same => fails e _ (Prod.ext same rfl)⟩

theorem of_keeps (keeps : Keeps (Stays P) p) : Triple P p (fun _ => P) P := by
  intro s holds
  have kept := keeps s holds
  exact ⟨fun a s' ran => by rwa [ran] at kept, fun e s' ran => by rwa [ran] at kept⟩

theorem always {R : σ → Prop} (triple : Triple P p (fun _ => R) R) {s : σ} (holds : P s) : R (p.run s).2 := by
  obtain ⟨ends, fails⟩ := triple s holds
  cases run : p.run s with
  | mk result s' => cases result with
    | ok a => exact ends a s' run
    | error e => exact fails e s' run

theorem each {I : σ → Prop} {p : α → Sys σ ε Unit} {todo : List α}
    (step : ∀ a ∈ todo, Triple I (p a) (fun _ => I) E) : Triple I (Sys.each p todo) (fun _ => I) E := by
  induction todo with
  | nil => exact Triple.pure fun _ holds => holds
  | cons a rest ih =>
    exact (step a List.mem_cons_self).bind fun _ => ih fun b member => step b (List.mem_cons_of_mem a member)

end Triple

inductive Reaches {ι : Type} (step : ι → σ → σ) (allowed : σ → ι → Prop) (start : σ) : σ → Prop
  | start : Reaches step allowed start start
  | next {s : σ} (i : ι) (earlier : Reaches step allowed start s) (permitted : allowed s i) :
    Reaches step allowed start (step i s)

theorem Reaches.invariant {ι : Type} {step : ι → σ → σ} {allowed : σ → ι → Prop} {start : σ} {I : σ → Prop}
    (initial : I start) (preserved : ∀ s i, allowed s i → Stays I s (step i s)) {s : σ}
    (reached : Reaches step allowed start s) : I s := by
  induction reached with
  | start => exact initial
  | next i _ permitted ih => exact preserved _ i permitted ih

end Sys

namespace Checks
variable {ε α β : Type}

/-- `if c: raise e` -/
def raiseIf (c : Prop) [Decidable c] (e : ε) : Except ε Unit := if c then .error e else .ok ()

def orRaise (value : Option α) (e : ε) : Except ε α :=
  match value with
  | some a => .ok a
  | none => .error e

@[simp] theorem bind_eq_ok {p : Except ε α} {f : α → Except ε β} {b : β} :
    (p >>= f) = .ok b ↔ ∃ a, p = .ok a ∧ f a = .ok b := by
  cases p <;> simp [bind, Except.bind]

@[simp] theorem pure_eq_ok {a b : α} : (pure a : Except ε α) = .ok b ↔ a = b := by
  simp [pure, Except.pure]

@[simp] theorem throw_ne_ok {e : ε} {a : α} : (throw e : Except ε α) = .ok a ↔ False :=
  iff_false_intro fun ended => nomatch ended

/-- A check is passed exactly when nothing is to be raised. -/
@[simp] theorem raiseIf_eq_ok {c : Prop} [Decidable c] {e : ε} {u : Unit} : raiseIf c e = .ok u ↔ ¬ c := by
  unfold raiseIf
  split <;> simp_all

@[simp] theorem orRaise_eq_ok {value : Option α} {e : ε} {a : α} : orRaise value e = .ok a ↔ value = some a := by
  cases value <;> simp [orRaise]

end Checks
