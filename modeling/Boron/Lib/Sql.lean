import Mathlib.Logic.Function.Basic

namespace Sql

/-- A request as the statements it sends to one database file. A query sees
the database, a write changes it or fails, and a request that raises rolls its
writes back. -/
inductive Request (σ : Type)
  | commit
  | raise (message : String)
  | select (next : σ → Request σ)
  | write (statement : σ → Option σ) (next : Request σ)
  | beginImmediate (next : Request σ)

/-- The file and the requests in progress. The one request that holds the
write lock works on its own copy until it commits. -/
structure Server (ι σ : Type) where
  committed : σ
  holder : Option (ι × σ)
  rest : ι → Request σ

inductive Action (ι : Type)
  | turn (i : ι)
  | abort (i : ι)

variable {ι σ : Type} [DecidableEq ι]

def Server.start (committed : σ) (requests : ι → Request σ) : Server ι σ :=
  { committed, holder := none, rest := requests }

def Server.proceed (s : Server ι σ) (i : ι) (next : Request σ) : Server ι σ :=
  { s with rest := Function.update s.rest i next }

/-- The lock is taken at the first write of a request and at an explicit
`BEGIN IMMEDIATE`. While another request holds it, neither makes progress. -/
def Server.turn (s : Server ι σ) (i : ι) : Server ι σ :=
  match s.holder with
  | none => match s.rest i with
    | .commit => s
    | .raise _ => s
    | .select next => s.proceed i (next s.committed)
    | .beginImmediate next => { s.proceed i next with holder := some (i, s.committed) }
    | .write statement next => match statement s.committed with
      | some working => { s.proceed i next with holder := some (i, working) }
      | none => s.proceed i (.raise "statement failed")
  | some (j, working) =>
    if j = i then match s.rest i with
      | .commit => { s with committed := working, holder := none }
      | .raise _ => { s with holder := none }
      | .select next => s.proceed i (next working)
      | .beginImmediate _ => s.proceed i (.raise "cannot start a transaction within a transaction")
      | .write statement next => match statement working with
        | some changed => { s.proceed i next with holder := some (i, changed) }
        | none => s.proceed i (.raise "statement failed")
    else match s.rest i with
      | .select next => s.proceed i (next s.committed)
      | _ => s

/-- A request may give up at any moment: a timeout, a crash. -/
def Server.abort (s : Server ι σ) (i : ι) : Server ι σ :=
  { s.proceed i (.raise "aborted") with
    holder := match s.holder with
      | some (j, working) => if j = i then none else some (j, working)
      | none => none }

def Server.step (s : Server ι σ) : Action ι → Server ι σ
  | .turn i => s.turn i
  | .abort i => s.abort i

def Request.locksNext : Request σ → Bool
  | .write _ _ => true
  | .beginImmediate _ => true
  | _ => false

def Server.Takes (s : Server ι σ) (i : ι) : Prop := s.holder = none ∧ (s.rest i).locksNext

/-- The states of every interleaving in which a request takes the lock only
when `may` allows it. -/
inductive Server.Reaches (may : ι → σ → Prop) (first : Server ι σ) : Server ι σ → Prop
  | refl : Reaches may first first
  | step {s : Server ι σ} (reach : Reaches may first s) (action : Action ι)
      (allowed : ∀ i, action = .turn i → s.Takes i → may i s.committed) :
      Reaches may first (s.step action)

def Server.run (s : Server ι σ) (schedule : List (Action ι)) : Server ι σ := schedule.foldl Server.step s

theorem Server.Reaches.run {first s : Server ι σ} (reach : Reaches (fun _ _ => True) first s)
    (schedule : List (Action ι)) : Reaches (fun _ _ => True) first (s.run schedule) := by
  induction schedule generalizing s with
  | nil => exact reach
  | cons action rest ih => exact ih (reach.step action fun _ _ _ => trivial)

/-- `n` turns of one request in a row. -/
theorem Server.Reaches.turns {may : ι → σ → Prop} {first s : Server ι σ} (reach : Reaches may first s) (i : ι)
    (n : Nat) (allowed : ∀ k < n, (s.run (List.replicate k (.turn i))).Takes i →
      may i (s.run (List.replicate k (.turn i))).committed) :
    Reaches may first (s.run (List.replicate n (.turn i))) := by
  induction n with
  | zero => exact reach
  | succ n ih =>
    have before := ih fun k bound => allowed k (Nat.lt_succ_of_lt bound)
    have last : s.run (List.replicate (n + 1) (.turn i)) = (s.run (List.replicate n (.turn i))).step (.turn i) := by
      rw [List.replicate_succ', Server.run, List.foldl_append]
      rfl
    rw [last]
    refine before.step (.turn i) fun j same => ?_
    cases same
    exact allowed n (Nat.lt_succ_self n)

/-- Run alone from `db`, the request commits only a database that satisfies `J`. -/
def Request.Safe (J : σ → Prop) : Request σ → σ → Prop
  | .commit, db => J db
  | .raise _, _ => True
  | .select next, db => (next db).Safe J db
  | .beginImmediate _, _ => True
  | .write statement next, db => ∀ changed, statement db = some changed → next.Safe J changed

/-- However the queries before the lock are answered, what is left of the
request when it takes the lock satisfies `P`. -/
def Request.AtLock (J : σ → Prop) (P : Request σ → Prop) : Request σ → Prop
  | .commit => True
  | .raise _ => True
  | .select next => ∀ db, J db → (next db).AtLock J P
  | .beginImmediate next => P (.beginImmediate next)
  | .write statement next => P (.write statement next)

/-- What a request that takes the lock at `db` has to do from there. -/
def Request.SafeFrom (J : σ → Prop) (db : σ) : Request σ → Prop
  | .beginImmediate next => next.Safe J db
  | other => other.Safe J db

namespace Server
variable {J : σ → Prop} {may : ι → σ → Prop} {s : Server ι σ}

@[simp] theorem proceed_rest_self (s : Server ι σ) (i : ι) (next : Request σ) :
    (s.proceed i next).rest i = next := by
  simp only [proceed, Function.update_self]

theorem proceed_rest_other {i j : ι} (s : Server ι σ) (next : Request σ) (other : j ≠ i) :
    (s.proceed i next).rest j = s.rest j := by
  simp only [proceed, Function.update_of_ne other]

def Prepared (J : σ → Prop) (may : ι → σ → Prop) (i : ι) (request : Request σ) : Prop :=
  request.AtLock J fun left => ∀ db, J db → may i db → left.SafeFrom J db

structure Invariant (J : σ → Prop) (may : ι → σ → Prop) (s : Server ι σ) : Prop where
  committed : J s.committed
  holding : ∀ i working, s.holder = some (i, working) → (s.rest i).Safe J working
  waiting : ∀ i, (∀ working, s.holder ≠ some (i, working)) → Prepared J may i (s.rest i)

section
omit [DecidableEq ι]

theorem Prepared.raise {i : ι} {message : String} : Prepared J may i (.raise message) := trivial

theorem Prepared.commit {i : ι} : Prepared J may i .commit := trivial

theorem Invariant.waits (inv : Invariant J may s) {i j : ι} {working : σ}
    (held : s.holder = some (j, working)) (other : i ≠ j) : Prepared J may i (s.rest i) := by
  refine inv.waiting i fun _ same => other ?_
  rw [held] at same
  exact (congrArg Prod.fst (Option.some.inj same)).symm

end

variable {i : ι}

section
variable (inv : Invariant J may s)
include inv

theorem Invariant.proceed (free : ∀ working, s.holder ≠ some (i, working))
    {next : Request σ} (prepared : Prepared J may i next) : Invariant J may (s.proceed i next) := by
  refine ⟨inv.committed, fun j working held => ?_, fun j waits => ?_⟩
  · have other : j ≠ i := fun same => free working (same ▸ held)
    rw [proceed_rest_other s next other]
    exact inv.holding j working held
  · by_cases same : j = i
    · rw [same, proceed_rest_self]
      exact prepared
    · rw [proceed_rest_other s next same]
      exact inv.waiting j waits

/-- A request has the lock with `working`, and the rest of it is safe from there. -/
theorem Invariant.hold (others : ∀ j working, s.holder = some (j, working) → j = i) {next : Request σ} {working : σ}
    (safe : next.Safe J working) :
    Invariant J may { s.proceed i next with holder := some (i, working) } := by
  refine ⟨inv.committed, fun j kept held => ?_, fun j waits => ?_⟩
  · cases held
    rw [proceed_rest_self]
    exact safe
  · have other : j ≠ i := fun same => waits working (same ▸ rfl)
    rw [proceed_rest_other s next other]
    exact inv.waiting j fun kept held => other (others j kept held)

theorem Invariant.release {committed : σ}
    (others : ∀ j working, s.holder = some (j, working) → j = i) (good : J committed)
    (ended : Prepared J may i (s.rest i)) : Invariant J may { s with committed, holder := none } := by
  refine ⟨good, by simp, fun j _ => ?_⟩
  by_cases same : j = i
  · rw [same]
    exact ended
  · exact inv.waiting j fun kept held => same (others j kept held)

theorem Invariant.turn_free (free : s.holder = none)
    (allowed : (s.rest i).locksNext → may i s.committed) : Invariant J may (s.turn i) := by
  have unheld : ∀ working, s.holder ≠ some (i, working) := by simp [free]
  have others : ∀ j working, s.holder = some (j, working) → j = i := by simp [free]
  have prepared := inv.waiting i unheld
  unfold Server.turn
  simp only [free]
  cases left : s.rest i with
  | commit => exact inv
  | raise message => exact inv
  | select next =>
    rw [left] at prepared
    exact inv.proceed unheld (prepared s.committed inv.committed)
  | beginImmediate next =>
    rw [left] at prepared allowed
    exact inv.hold others (prepared s.committed inv.committed (allowed rfl))
  | write statement next =>
    rw [left] at prepared allowed
    cases ran : statement s.committed with
    | none =>
      simp only [ran]
      exact inv.proceed unheld Prepared.raise
    | some working =>
      simp only [ran]
      exact inv.hold others (prepared s.committed inv.committed (allowed rfl) working ran)

theorem Invariant.turn_held {working : σ} (held : s.holder = some (i, working)) : Invariant J may (s.turn i) := by
  have others : ∀ j kept, s.holder = some (j, kept) → j = i := by
    intro j kept same
    rw [held] at same
    exact (congrArg Prod.fst (Option.some.inj same)).symm
  have safe := inv.holding i working held
  have keep : ∀ next : Request σ, next.Safe J working → Invariant J may (s.proceed i next) := by
    intro next safe
    have same : s.proceed i next = { s.proceed i next with holder := some (i, working) } := by
      rw [← held]
      rfl
    rw [same]
    exact inv.hold others safe
  unfold Server.turn
  simp only [held, if_true]
  cases left : s.rest i with
  | commit =>
    rw [left] at safe
    exact inv.release others safe (left ▸ Prepared.commit)
  | raise message => exact inv.release others inv.committed (left ▸ Prepared.raise)
  | select next =>
    rw [left] at safe
    exact keep _ safe
  | beginImmediate next => exact keep _ trivial
  | write statement next =>
    rw [left] at safe
    cases ran : statement working with
    | none =>
      simp only [ran]
      exact keep _ trivial
    | some changed =>
      simp only [ran]
      exact inv.hold others (safe changed ran)

theorem Invariant.turn_blocked {i j : ι} {working : σ}
    (held : s.holder = some (j, working)) (other : j ≠ i) : Invariant J may (s.turn i) := by
  have prepared := inv.waits held (Ne.symm other)
  have unheld : ∀ kept, s.holder ≠ some (i, kept) := by
    intro kept same
    rw [held] at same
    exact other (congrArg Prod.fst (Option.some.inj same))
  unfold Server.turn
  simp only [held, if_neg other]
  cases left : s.rest i with
  | select next =>
    rw [left] at prepared
    exact inv.proceed unheld (prepared s.committed inv.committed)
  | _ => exact inv

theorem Invariant.abort (i : ι) : Invariant J may (s.abort i) := by
  cases held : s.holder with
  | none =>
    have unheld : ∀ working, s.holder ≠ some (i, working) := by simp [held]
    have same : s.abort i = s.proceed i (.raise "aborted") := by
      simp only [Server.abort, held, Server.proceed]
    rw [same]
    exact inv.proceed unheld Prepared.raise
  | some pair =>
    obtain ⟨j, working⟩ := pair
    by_cases own : j = i
    · subst own
      have others : ∀ k kept, s.holder = some (k, kept) → k = j := by
        intro k kept same
        rw [held] at same
        exact (congrArg Prod.fst (Option.some.inj same)).symm
      have holding : Invariant J may
          { s.proceed j (.raise "aborted") with holder := some (j, working) } := inv.hold others trivial
      have same : s.abort j = { s.proceed j (.raise "aborted") with holder := none } := by
        simp only [Server.abort, held, if_true]
      have own : ∀ k kept, some (j, working) = some (k, kept) → k = j := by
        intro k kept same
        exact (congrArg Prod.fst (Option.some.inj same)).symm
      rw [same]
      refine holding.release own inv.committed ?_
      rw [proceed_rest_self]
      exact Prepared.raise
    · have unheld : ∀ kept, s.holder ≠ some (i, kept) := by
        intro kept same
        rw [held] at same
        exact own (congrArg Prod.fst (Option.some.inj same))
      have same : s.abort i = s.proceed i (.raise "aborted") := by
        simp only [Server.abort, held, if_neg own, Server.proceed]
      rw [same]
      exact inv.proceed unheld Prepared.raise

end

theorem Invariant.turn (inv : Invariant J may s) {i : ι} (allowed : s.Takes i → may i s.committed) :
    Invariant J may (s.turn i) := by
  cases held : s.holder with
  | none => exact inv.turn_free held fun locks => allowed ⟨held, locks⟩
  | some pair =>
    obtain ⟨j, working⟩ := pair
    by_cases own : j = i
    · exact inv.turn_held (own ▸ held)
    · exact inv.turn_blocked held own

/-- What every request keeps when it runs alone from its lock on, every
interleaving keeps. -/
theorem Reaches.committed {first : Server ι σ} (idle : first.holder = none) (initial : J first.committed)
    (prepared : ∀ i, Prepared J may i (first.rest i)) (reach : Reaches may first s) : J s.committed := by
  have inv : Invariant J may s := by
    induction reach with
    | refl => exact ⟨initial, by simp [idle], fun i _ => prepared i⟩
    | step reach action allowed ih =>
      cases action with
      | turn i => exact ih.turn (allowed i rfl)
      | abort i => exact ih.abort i
  exact inv.committed

end Server

end Sql
