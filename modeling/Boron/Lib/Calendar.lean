import Mathlib.Algebra.Order.Group.Int

namespace Calendar

def yearStart (year : Int) : Int := 365 * year + year / 4 - year / 100 + year / 400

def monthStart (month : Int) : Int := yearStart (month / 12) + (153 * (month % 12) + 2) / 5

theorem yearStart_succ (year : Int) :
    yearStart year + 365 ≤ yearStart (year + 1) ∧ yearStart (year + 1) ≤ yearStart year + 366 := by
  unfold yearStart
  omega

theorem yearStart_near (year : Int) :
    146097 * year - 1200 ≤ 400 * yearStart year ∧ 400 * yearStart year ≤ 146097 * year + 1200 := by
  unfold yearStart
  omega

theorem monthStart_succ (month : Int) :
    monthStart month + 28 ≤ monthStart (month + 1) ∧ monthStart (month + 1) ≤ monthStart month + 31 := by
  have years := yearStart_succ (month / 12)
  unfold monthStart
  by_cases last : month % 12 = 11
  · have carried : (month + 1) / 12 = month / 12 + 1 := by omega
    have first : (month + 1) % 12 = 0 := by omega
    rw [carried, first, last]
    omega
  · have same : (month + 1) / 12 = month / 12 := by omega
    have next : (month + 1) % 12 = month % 12 + 1 := by omega
    rw [same, next]
    omega

theorem monthStart_near (month : Int) :
    146097 * month - 72000 ≤ 4800 * monthStart month ∧ 4800 * monthStart month ≤ 146097 * month + 72000 := by
  have years := yearStart_near (month / 12)
  unfold monthStart
  omega

theorem monthStart_le {first second : Int} (order : first ≤ second) : monthStart first ≤ monthStart second :=
  monotone_int_of_le_succ (fun month => by
    have step := monthStart_succ month
    omega) order

def monthOf (day : Int) : Int :=
  let guess := 4800 * day / 146097
  if day < monthStart guess then guess - 1
  else if monthStart (guess + 1) ≤ day then guess + 1
  else guess

theorem monthOf_spec (day : Int) : monthStart (monthOf day) ≤ day ∧ day < monthStart (monthOf day + 1) := by
  have near := monthStart_near (4800 * day / 146097)
  have nearNext := monthStart_near (4800 * day / 146097 + 1)
  have below := monthStart_succ (4800 * day / 146097 - 1)
  have above := monthStart_succ (4800 * day / 146097 + 1)
  rw [Int.sub_add_cancel] at below
  unfold monthOf
  dsimp only
  split
  · rw [Int.sub_add_cancel]
    omega
  · split
    · omega
    · omega

theorem monthOf_eq {day month : Int} (after : monthStart month ≤ day) (before : day < monthStart (month + 1)) :
    monthOf day = month := by
  obtain ⟨lower, upper⟩ := monthOf_spec day
  have notLater : ¬ month + 1 ≤ monthOf day := by
    intro later
    have := monthStart_le later
    omega
  have notEarlier : ¬ monthOf day + 1 ≤ month := by
    intro earlier
    have := monthStart_le earlier
    omega
  omega

def monthLength (month : Int) : Int := monthStart (month + 1) - monthStart month

theorem monthLength_bounds (month : Int) : 28 ≤ monthLength month ∧ monthLength month ≤ 31 := by
  have step := monthStart_succ month
  unfold monthLength
  omega

def weekday (day : Int) : Int := (day + 2) % 7

end Calendar

namespace LocalTime

def minute : Int := 60000000

def hour : Int := 3600000000

def day : Int := 86400000000

end LocalTime

/-- A reading of the clock on the wall. `fold` tells the second pass of a time
that comes twice. -/
structure LocalTime where
  wall : Int
  fold : Bool
  deriving DecidableEq

/-- The offset from UTC before the first transition, and the offset from each
transition on. -/
structure TimeZone where
  standard : Int
  transitions : List (Int × Int)
  ordered : (transitions.map Prod.fst).Pairwise (· < ·)

namespace TimeZone

structure Regime where
  previous : Int
  offset : Int
  since : Option Int

def regimeFrom (regime : Regime) : List (Int × Int) → Int → Regime
  | [], _ => regime
  | (start, offset) :: rest, instant =>
    if start ≤ instant then regimeFrom { previous := regime.offset, offset, since := some start } rest instant
    else regime

def regimeAt (zone : TimeZone) (instant : Int) : Regime :=
  regimeFrom { previous := zone.standard, offset := zone.standard, since := none } zone.transitions instant

/-- A clock that was set back shows the times it shows again with the fold set. -/
def fromUtc (zone : TimeZone) (instant : Int) : LocalTime :=
  let regime := zone.regimeAt instant
  { wall := instant + regime.offset
    fold := regime.since.any fun start => instant - start < regime.previous - regime.offset }

/-- Without the fold a transition is over when both clocks show a later time, with
the fold when one does. -/
def offsetFrom (fold : Bool) (offset : Int) : List (Int × Int) → Int → Int
  | [], _ => offset
  | (start, next) :: rest, wall =>
    if start + (if fold then min offset next else max offset next) ≤ wall then offsetFrom fold next rest wall
    else offset

def utcOffset (zone : TimeZone) (time : LocalTime) : Int :=
  offsetFrom time.fold zone.standard zone.transitions time.wall

def toUtc (zone : TimeZone) (time : LocalTime) : Int := time.wall - zone.utcOffset time

end TimeZone
