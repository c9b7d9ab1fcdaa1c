import Mathlib.Data.List.Basic

namespace Log
open List
variable {ε : Type}

def since (renews : ε → Bool) (log : List ε) : List ε := log.takeWhile fun event => !renews event

/-- Each event was admissible after the ones before it. -/
inductive Throughout (P : List ε → ε → Prop) : List ε → Prop
  | nil : Throughout P []
  | cons {older : List ε} {event : ε} (earlier : Throughout P older) (admissible : P older event) :
    Throughout P (event :: older)

section
variable {renews : ε → Bool} {event : ε} {log : List ε}

@[simp] theorem since_nil : since renews [] = [] := rfl

theorem since_cons_eq [DecidableEq ε] (event renewing : ε) (log : List ε) :
    since (· = renewing) (event :: log) = if event = renewing then [] else event :: since (· = renewing) log := by
  by_cases same : event = renewing
  · simp [since, same]
  · simp [since, same]

theorem since_of_renews (renewed : renews event = true) : since renews (event :: log) = [] := by
  simp only [since, takeWhile_cons, renewed, Bool.not_true, Bool.false_eq_true, if_false]

theorem since_of_keeps (kept : renews event = false) : since renews (event :: log) = event :: since renews log := by
  simp only [since, takeWhile_cons, kept, Bool.not_false, if_true]

/-- An event that counts after the last renewal is the newest one, or counted before. -/
theorem since_cons {newest : ε} (member : event ∈ since renews (newest :: log)) :
    renews newest = false ∧ (event = newest ∨ event ∈ since renews log) := by
  cases renewed : renews newest with
  | true => simp only [since_of_renews renewed, not_mem_nil] at member
  | false =>
    rw [since_of_keeps renewed] at member
    exact ⟨rfl, mem_cons.mp member⟩

/-- A stretch up to now in which nothing renews is part of what counts. -/
theorem prefix_since {stretch older : List ε} (kept : ∀ event ∈ stretch, renews event = false) :
    stretch <+: since renews (stretch ++ older) := by
  induction stretch with
  | nil => exact nil_prefix
  | cons event stretch ih =>
    rw [cons_append, since_of_keeps (kept event mem_cons_self), prefix_cons_inj]
    exact ih fun other member => kept other (mem_cons_of_mem event member)

end

namespace Throughout
variable {P Q : List ε → ε → Prop} {log : List ε}

theorem append {newer : List ε} (always : Throughout P log)
    (free : ∀ event ∈ newer, ∀ older, P older event) : Throughout P (newer ++ log) := by
  induction newer with
  | nil => exact always
  | cons event newer ih =>
    have earlier := ih fun other member => free other (mem_cons_of_mem event member)
    exact earlier.cons (free event mem_cons_self _)

theorem older {newer : List ε} (always : Throughout P (newer ++ log)) : Throughout P log := by
  induction newer with
  | nil => exact always
  | cons _ newer ih =>
    cases always with
    | cons earlier _ => exact ih earlier

end Throughout

end Log
