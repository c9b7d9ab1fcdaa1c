import Boron.PanelRestore.Restore

namespace Boron.PanelRestore
open List Sys

variable {Content Change : Type} (world : World Content Change)

/-- The services that a loop gets to: an exception ends it. -/
def World.attempted (stage : Stage) : List String → List String
  | [] => []
  | unit :: rest => if (world.systemctl stage unit).raises then [unit] else unit :: World.attempted stage rest

def World.served (stage : Stage) (todo : List String) (machine : Machine Content Change) : Machine Content Change :=
  (world.attempted stage todo).foldl (fun machine unit => world.serve stage unit machine) machine

def launched (database : Database Content Change) (running : String → Bool) : Machine Content Change where
  database := database
  rescue := none
  running := running
  status := ⟨.queued, none, none⟩
  halted := false
  before := none
  log := []

def Machine.tells (state : State) (machine : Machine Content Change) : Machine Content Change :=
  { machine with status := { machine.status with state } }

def World.copied (machine : Machine Content Change) : Machine Content Change :=
  let machine := world.pause .copying (machine.tells .validating)
  { machine with rescue := some (world.effective machine.database) }

/-- The services are stopped, as far as `systemctl` has stopped them. -/
def World.stopped (machine : Machine Content Change) : Machine Content Change :=
  world.served .stopping world.units ((world.copied machine).tells .stopping)

def World.settled (machine : Machine Content Change) : Machine Content Change := world.pause .replacing (world.stopped machine)

def World.started (machine : Machine Content Change) : Machine Content Change :=
  world.served .starting world.units.reverse ((world.replacedBy (world.settled machine)).tells .starting)

def World.givenUp (machine : Machine Content Change) : Machine Content Change :=
  world.pause .restoring (world.served .stoppingAgain world.units
    (if world.written .starting then world.started machine else world.replacedBy (world.settled machine)))

/-- What the panel had committed before the target was replaced. -/
def World.committed (machine : Machine Content Change) : Content := world.effective (world.settled machine).database

def World.rescueContent (machine : Machine Content Change) : Content :=
  world.effective (world.pause .copying (machine.tells .validating)).database

/-- The source is found and intact, the rescue copy is made, both statuses are written and no stop raises. -/
structure World.Prepares : Prop where
  found : world.found = true
  validating : world.written .validating = true
  intact : world.intact = true
  rescued : world.rescued = true
  stopping : world.written .stopping = true
  stops : ∀ unit ∈ world.units, (world.systemctl .stopping unit).raises = false

/-- The panel comes up on the snapshot, and the last status is written. -/
structure World.ComesUp : Prop where
  starting : world.written .starting = true
  starts : ∀ unit ∈ world.units, world.systemctl .starting unit = .done
  healthy : world.healthy = some true
  completed : world.written .completed = true

instance : Decidable world.ComesUp :=
  decidable_of_iff (world.written .starting = true ∧ (∀ unit ∈ world.units, world.systemctl .starting unit = .done) ∧
    world.healthy = some true ∧ world.written .completed = true)
    ⟨fun ⟨starting, starts, healthy, completed⟩ => ⟨starting, starts, healthy, completed⟩,
      fun up => ⟨up.starting, up.starts, up.healthy, up.completed⟩⟩

/-- The recovery stops every service, puts the rescue copy back, tries to start every service and
writes the last status, and the rescue copy with the write-ahead file beside it is what the panel had committed. -/
structure World.Recovers (machine : Machine Content Change) : Prop where
  stops : ∀ unit ∈ world.units, (world.systemctl .stoppingAgain unit).raises = false
  failed : world.written .failed = true
  restored : world.restored = true → (∀ unit ∈ world.units, unit ∈ world.attempted .startingAgain world.units.reverse) ∧
    world.effective (world.served .startingAgain world.units.reverse
      (world.restoredFrom (world.rescueContent machine) (world.givenUp machine))).database = world.committed machine
  left : world.restored = false → world.units = [] ∧ world.effective (world.givenUp machine).database = world.committed machine

/-- When a restore ends in one of the two good states. -/
structure World.Safe (machine : Machine Content Change) : Prop where
  prepares : world.Prepares
  kept : world.replaced = false →
    (∀ unit ∈ world.units, (world.systemctl .starting unit).raises = false) ∧ world.written .failed = true
  up : world.replaced = true → world.ComesUp → world.effective (world.started machine).database = world.source ∨
      world.effective (world.started machine).database = world.committed machine
  down : world.replaced = true → ¬ world.ComesUp → world.Recovers machine

section
variable {world} {machine : Machine Content Change} {stage : Stage} {todo : List String} {failure : Failure} {state : State}
  {f : Status → Status}

theorem writeStatus_ok (written : world.written state = true) : (writeStatus world state f).run machine
    = (.ok (), { machine with status := f { machine.status with state } }) := by
  unfold writeStatus expect
  rw [if_pos written]
  rfl

theorem writeStatus_error (unwritten : world.written state = false) :
    (writeStatus world state f).run machine = (.error .status, machine) := by
  unfold writeStatus expect
  rw [unwritten]
  rfl

theorem attempted_all (none : ∀ unit ∈ todo, (world.systemctl stage unit).raises = false) :
    world.attempted stage todo = todo := by
  induction todo with
  | nil => rfl
  | cons unit rest ih =>
    unfold World.attempted
    rw [if_neg (by simp [none unit mem_cons_self]), ih fun other member => none other (mem_cons_of_mem _ member)]

theorem services_ok (none : ∀ unit ∈ todo, (world.systemctl stage unit).raises = false) :
    (services world stage todo).run machine
      = (.ok (todo.all fun unit => world.systemctl stage unit = .done), world.served stage todo machine) := by
  unfold World.served
  rw [attempted_all none]
  induction todo generalizing machine with
  | nil => rfl
  | cons unit rest ih =>
    have quiet := none unit mem_cons_self
    have first : (expect (!(world.systemctl stage unit).raises) .systemctl : Act Content Change Unit).run
        (world.serve stage unit machine) = (.ok (), world.serve stage unit machine) := by
      rw [quiet]
      rfl
    have later := @ih (world.serve stage unit machine) fun other member => none other (mem_cons_of_mem _ member)
    unfold services
    rw [run_modify_bind, bind_of_ok first, bind_of_ok later]
    rfl

theorem services_error (some : ∃ unit ∈ todo, (world.systemctl stage unit).raises = true) :
    (services world stage todo).run machine = (.error .systemctl, world.served stage todo machine) := by
  induction todo generalizing machine with
  | nil =>
    obtain ⟨unit, never, -⟩ := some
    cases never
  | cons unit rest ih =>
    unfold services World.served World.attempted
    rw [run_modify_bind]
    cases raises : (world.systemctl stage unit).raises with
    | true => rfl
    | false =>
      have later : ∃ unit ∈ rest, (world.systemctl stage unit).raises = true := by
        obtain ⟨other, member, raised⟩ := some
        rcases mem_cons.mp member with rfl | member
        · rw [raises] at raised
          cases raised
        · exact ⟨other, member, raised⟩
      have first : (expect (!false) .systemctl : Act Content Change Unit).run
          (world.serve stage unit machine) = (.ok (), world.serve stage unit machine) := rfl
      rw [bind_of_ok first, bind_of_error (ih later)]
      rfl

theorem served_frame : (world.served stage todo machine).status = machine.status ∧
    (world.served stage todo machine).before = machine.before ∧ (world.served stage todo machine).rescue = machine.rescue ∧
      (world.served stage todo machine).log = machine.log ++ (world.attempted stage todo).map (stage.action, ·) := by
  unfold World.served
  induction world.attempted stage todo generalizing machine with
  | nil => exact ⟨rfl, rfl, rfl, (append_nil _).symm⟩
  | cons unit rest ih =>
    obtain ⟨status, before, rescue, log⟩ := @ih (world.serve stage unit machine)
    have paused : (world.pause (.service stage unit) machine).status = machine.status ∧
        (world.pause (.service stage unit) machine).before = machine.before ∧
          (world.pause (.service stage unit) machine).rescue = machine.rescue ∧
            (world.pause (.service stage unit) machine).log = machine.log := by
      unfold World.pause
      split <;> exact ⟨rfl, rfl, rfl, rfl⟩
    obtain ⟨status', before', rescue', log'⟩ := paused
    refine ⟨status.trans status', before.trans before', rescue.trans rescue', log.trans ?_⟩
    have one : (world.serve stage unit machine).log = machine.log ++ [(stage.action, unit)] := by
      unfold World.serve
      dsimp only
      rw [log']
    rw [one, append_assoc]
    rfl

theorem pause_frame {point : Point} : (world.pause point machine).status = machine.status ∧
    (world.pause point machine).before = machine.before ∧ (world.pause point machine).rescue = machine.rescue ∧
      (world.pause point machine).log = machine.log := by
  unfold World.pause
  split <;> exact ⟨rfl, rfl, rfl, rfl⟩

theorem expect_ok {holds : Bool} (held : holds = true) :
    (expect holds failure : Act Content Change Unit).run machine = (.ok (), machine) := by
  rw [held]
  rfl

theorem expect_error {holds : Bool} (failed : holds = false) :
    (expect holds failure : Act Content Change Unit).run machine = (.error failure, machine) := by
  rw [failed]
  rfl

/-- A status that says the restore is under way. -/
def State.isOpen : State → Bool
  | .completed | .failed => false
  | _ => true

theorem not_kept {ended : Except Failure Nat × Machine Content Change} (unfinished : ended.2.status.state.isOpen = true) :
    ¬ Kept world ended := by
  intro kept
  rcases kept.final with completed | failed
  · rw [completed] at unfinished
    cases unfinished
  · rw [failed] at unfinished
    cases unfinished

theorem raises_dichotomy (world : World Content Change) (stage : Stage) (todo : List String) :
    (∀ unit ∈ todo, (world.systemctl stage unit).raises = false) ∨
      ∃ unit ∈ todo, (world.systemctl stage unit).raises = true := by
  by_cases some : ∃ unit ∈ todo, (world.systemctl stage unit).raises = true
  · exact .inr some
  · refine .inl fun unit member => Bool.eq_false_iff.mpr fun raised => some ⟨unit, member, raised⟩

theorem not_raises_of_some (some : ∃ unit ∈ todo, (world.systemctl stage unit).raises = true) :
    ¬ ∀ unit ∈ todo, (world.systemctl stage unit).raises = false := by
  intro none
  obtain ⟨unit, member, raised⟩ := some
  rw [none unit member] at raised
  cases raised

theorem copied_status : (world.copied machine).status.state = .validating := congrArg Status.state (pause_frame).1

theorem copyRescue_ok (rescued : world.rescued = true) :
    (copyRescue world).run (machine.tells .validating) = (.ok (), world.copied machine) := by
  unfold copyRescue
  rw [run_modify_bind, bind_of_ok (expect_ok rescued)]
  rfl

/-- Before the `try` an exception leaves the status open. -/
theorem prepare_cases (waiting : machine.status.state.isOpen = true) :
    (world.Prepares ∧ (prepare world).run machine = (.ok (), world.stopped machine)) ∨
      (¬ world.Prepares ∧ ∃ failure left, (prepare world).run machine = (.error failure, left) ∧
        left.status.state.isOpen = true) := by
  unfold prepare
  cases found : world.found with
  | false =>
    refine .inr ⟨fun prepares => ?_, _, _, bind_of_error (expect_error rfl), waiting⟩
    rw [prepares.found] at found
    cases found
  | true =>
  rw [bind_of_ok (expect_ok rfl)]
  cases validating : world.written .validating with
  | false =>
    refine .inr ⟨fun prepares => ?_, _, _, bind_of_error (writeStatus_error validating), waiting⟩
    rw [prepares.validating] at validating
    cases validating
  | true =>
  have first : (writeStatus world .validating id).run machine = (.ok (), machine.tells .validating) := writeStatus_ok validating
  rw [bind_of_ok first]
  cases intact : world.intact with
  | false =>
    refine .inr ⟨fun prepares => ?_, _, _, bind_of_error (expect_error rfl), rfl⟩
    rw [prepares.intact] at intact
    cases intact
  | true =>
  rw [bind_of_ok (expect_ok rfl)]
  cases rescued : world.rescued with
  | false =>
    have stays : (world.pause .copying (machine.tells .validating)).status.state = .validating :=
      congrArg Status.state (pause_frame).1
    have fails : (copyRescue world).run (machine.tells .validating)
        = (.error .copy, world.pause .copying (machine.tells .validating)) := by
      unfold copyRescue
      rw [run_modify_bind, bind_of_error (expect_error rescued)]
    refine .inr ⟨fun prepares => ?_, _, _, bind_of_error fails, by rw [stays]; rfl⟩
    rw [prepares.rescued] at rescued
    cases rescued
  | true =>
  rw [bind_of_ok (copyRescue_ok rescued)]
  cases stopping : world.written .stopping with
  | false =>
    refine .inr ⟨fun prepares => ?_, _, _, bind_of_error (writeStatus_error stopping), by rw [copied_status]; rfl⟩
    rw [prepares.stopping] at stopping
    cases stopping
  | true =>
  have second : (writeStatus world .stopping id).run (world.copied machine)
      = (.ok (), (world.copied machine).tells .stopping) := writeStatus_ok stopping
  rw [bind_of_ok second]
  rcases raises_dichotomy world .stopping world.units with stops | raised
  · refine .inl ⟨⟨found, validating, intact, rescued, stopping, stops⟩, ?_⟩
    rw [bind_of_ok (services_ok stops)]
    rfl
  · have stays : (world.stopped machine).status.state = .stopping := congrArg Status.state (served_frame).1
    refine .inr ⟨fun prepares => not_raises_of_some raised prepares.stops, _, _,
      bind_of_error (services_error raised), ?_⟩
    exact congrArg State.isOpen stays

/-- The `try` comes to its end or leaves the services where the first failure finds them. -/
theorem bringUp_cases {swapped up : Machine Content Change}
    (isUp : up = world.served .starting world.units.reverse (swapped.tells .starting)) :
    (world.ComesUp ∧ (bringUp world).run swapped
      = (.ok 0, { up with status := { up.status with state := .completed, rolledBack := some false } })) ∨
      (¬ world.ComesUp ∧ ∃ failure, (bringUp world).run swapped
        = (.error failure, if world.written .starting then up else swapped)) := by
  unfold bringUp
  cases starting : world.written .starting with
  | false =>
    refine .inr ⟨fun up => ?_, _, bind_of_error (writeStatus_error starting)⟩
    rw [up.starting] at starting
    cases starting
  | true =>
  have first : (writeStatus world .starting id).run swapped = (.ok (), swapped.tells .starting) := writeStatus_ok starting
  rw [bind_of_ok first, if_pos rfl]
  rcases raises_dichotomy world .starting world.units.reverse with quiet | raised
  · rw [bind_of_ok (services_ok quiet), ← isUp]
    cases all : (world.units.reverse.all fun unit => world.systemctl .starting unit = .done) with
    | false =>
      refine .inr ⟨fun up => ?_, _, bind_of_error (expect_error rfl)⟩
      obtain ⟨unit, member, undone⟩ := all_eq_false.mp all
      exact undone (decide_eq_true (up.starts unit (mem_reverse.mp member)))
    | true =>
    rw [bind_of_ok (expect_ok rfl)]
    have starts : ∀ unit ∈ world.units, world.systemctl .starting unit = .done := fun unit member =>
      of_decide_eq_true (all_eq_true.mp all unit (mem_reverse.mpr member))
    cases healthy : world.healthy with
    | none =>
      refine .inr ⟨fun up => ?_, .health, rfl⟩
      have never := up.healthy
      rw [healthy] at never
      cases never
    | some answer =>
    have checked : (checkHealth (some answer) : Act Content Change Bool).run up = (.ok answer, up) := rfl
    rw [bind_of_ok checked]
    cases answer with
    | false =>
      refine .inr ⟨fun up => ?_, _, bind_of_error (expect_error rfl)⟩
      have never := up.healthy
      rw [healthy] at never
      cases never
    | true =>
    rw [bind_of_ok (expect_ok rfl)]
    cases completed : world.written .completed with
    | false =>
      refine .inr ⟨fun up => ?_, _, bind_of_error (writeStatus_error completed)⟩
      rw [up.completed] at completed
      cases completed
    | true =>
    refine .inl ⟨⟨starting, starts, healthy, completed⟩, ?_⟩
    rw [bind_of_ok (writeStatus_ok completed)]
    rfl
  · refine .inr ⟨fun up => not_raises_of_some raised fun unit member => ?_, _, bind_of_error (isUp ▸ services_error raised)⟩
    rw [up.starts unit (mem_reverse.mp member)]
    rfl

def World.back (world : World Content Change) (content : Content) (failed : Machine Content Change) : Machine Content Change :=
  let given := world.pause .restoring (world.served .stoppingAgain world.units failed)
  if world.restored then world.served .startingAgain world.units.reverse (world.restoredFrom content given) else given

theorem recover_cases {content : Content} (rescue : machine.rescue = some content) :
    ((∀ unit ∈ world.units, (world.systemctl .stoppingAgain unit).raises = false) ∧
        ∃ recovered, (recover world).run machine = (.ok recovered, world.back content machine)) ∨
      (¬ (∀ unit ∈ world.units, (world.systemctl .stoppingAgain unit).raises = false) ∧
        ∃ failure left, (recover world).run machine = (.error failure, left) ∧ left.status = machine.status) := by
  unfold recover
  rcases raises_dichotomy world .stoppingAgain world.units with quiet | raised
  · refine .inl ⟨quiet, ?_⟩
    rw [bind_of_ok (services_ok quiet)]
    obtain ⟨given, isGiven⟩ : ∃ given, given = world.pause .restoring (world.served .stoppingAgain world.units machine) :=
      ⟨_, rfl⟩
    have held : given.rescue = some content := by
      rw [isGiven, pause_frame.2.2.1, served_frame.2.2.1]
      exact rescue
    unfold World.back
    rw [← isGiven]
    cases restored : world.restored with
    | false =>
      have fails : (restoreTarget world).run (world.served .stoppingAgain world.units machine) = (.error .copy, given) := by
        unfold restoreTarget
        rw [run_modify_bind, ← isGiven, bind_of_error (expect_error restored)]
      refine ⟨false, ?_⟩
      rw [handle_of_error (bind_of_error fails)]
      rfl
    | true =>
      have copies : (restoreTarget world).run (world.served .stoppingAgain world.units machine)
          = (.ok (), world.restoredFrom content given) := by
        unfold restoreTarget
        rw [run_modify_bind, ← isGiven, bind_of_ok (expect_ok restored), run_get_bind, held]
        rfl
      rw [handle_bind_of_ok copies, if_pos rfl]
      rcases raises_dichotomy world .startingAgain world.units.reverse with starts | raised
      · rw [handle_bind_of_ok (services_ok starts)]
        cases world.healthyAgain with
        | none => exact ⟨false, rfl⟩
        | some answer => exact ⟨answer, rfl⟩
      · refine ⟨false, ?_⟩
        rw [handle_of_error (bind_of_error (services_error raised))]
        rfl
  · exact .inr ⟨not_raises_of_some raised, _, _, bind_of_error (services_error raised), served_frame.1⟩

theorem served_iff {log earlier : List (Action × String)} {units starts : List String}
    (entries : log = earlier ++ (units.map fun unit => (Action.stop, unit)) ++ starts.map fun unit => (Action.start, unit)) :
    (∀ unit ∈ units, ∀ before stopped later, log = before ++ (Action.stop, stopped) :: later → (Action.start, unit) ∈ later) ↔
      ∀ unit ∈ units, unit ∈ starts := by
  have same (unit : String) : (Action.start, unit) ∈ starts.map (fun unit => (Action.start, unit)) ↔ unit ∈ starts := by
    simp
  have noStop (stopped : String) : (Action.stop, stopped) ∉ starts.map (fun unit => (Action.start, unit)) := by
    simp
  constructor
  · intro all unit member
    obtain ⟨init, last, rfl⟩ : ∃ init last, units = init ++ [last] :=
      ⟨_, _, (dropLast_concat_getLast (ne_nil_of_mem member)).symm⟩
    have split : log = (earlier ++ init.map fun unit => (Action.stop, unit)) ++
        (Action.stop, last) :: starts.map fun unit => (Action.start, unit) := by
      rw [entries]
      simp
    exact (same unit).mp (all unit member _ last _ split)
  · intro all unit member before stopped later split
    rw [entries] at split
    rcases append_eq_append_iff.mp split with ⟨rest, -, stops⟩ | ⟨rest, -, tail⟩
    · exact absurd (stops ▸ mem_append_right _ mem_cons_self) (noStop stopped)
    · cases rest with
      | nil =>
        rw [nil_append] at tail
        exact absurd (tail ▸ mem_cons_self) (noStop stopped)
      | cons first rest =>
        rw [(cons.inj tail).2]
        exact mem_append_right _ ((same unit).mpr (all unit member))

theorem replacedBy_frame : (world.replacedBy machine).status = machine.status ∧
    (world.replacedBy machine).before = some (world.effective machine.database) ∧
      (world.replacedBy machine).rescue = machine.rescue ∧ (world.replacedBy machine).log = machine.log := by
  obtain ⟨status, before, rescue, log⟩ := @pause_frame Content Change world { machine with
    database := { machine.database with main := world.source }
    before := some (world.effective machine.database) } .replaced
  exact ⟨status, before, rescue, log⟩

end

section
variable {world : World Content Change} {database : Database Content Change} {running : String → Bool}
  {start : Machine Content Change}

theorem settled_frame (launch : start = launched database running) (stops : ∀ unit ∈ world.units, (world.systemctl .stopping unit).raises = false) :
    (world.settled start).status.state = .stopping ∧ (world.settled start).before = none ∧
      (world.settled start).rescue = some (world.rescueContent start) ∧
        (world.settled start).log = world.units.map fun unit => (Action.stop, unit) := by
  obtain ⟨status, before, rescue, log⟩ := @pause_frame Content Change world (world.stopped start) .replacing
  obtain ⟨status', before', rescue', log'⟩ :=
    @served_frame Content Change world ((world.copied start).tells .stopping) .stopping world.units
  obtain ⟨-, before'', -, log''⟩ := @pause_frame Content Change world (start.tells .validating) .copying
  refine ⟨?_, ?_, ?_, ?_⟩
  · exact congrArg Status.state (status.trans status')
  · refine (before.trans before').trans (before''.trans ?_)
    rw [launch]
    rfl
  · exact (rescue.trans rescue').trans rfl
  · refine (log.trans log').trans ?_
    rw [attempted_all stops]
    have none : ((world.copied start).tells .stopping).log = [] := by
      refine log''.trans ?_
      rw [launch]
      rfl
    rw [none]
    rfl

/-- The target was not replaced: the services are started again, and the last status is written. -/
theorem kept_of_unreplaced (launch : start = launched database running) (prepares : world.Prepares) :
    Kept world ((do
      let _ ← services world .starting world.units.reverse
      conclude world false true).run (world.settled start)) ↔
        (∀ unit ∈ world.units, (world.systemctl .starting unit).raises = false) ∧ world.written .failed = true := by
  obtain ⟨state, before, -, log⟩ := settled_frame launch prepares.stops
  obtain ⟨status', before', -, log'⟩ :=
    @served_frame Content Change world (world.settled start) .starting world.units.reverse
  rcases raises_dichotomy world .starting world.units.reverse with quiet | raised
  · rw [bind_of_ok (services_ok quiet)]
    unfold conclude
    have units : ∀ unit ∈ world.units, (world.systemctl .starting unit).raises = false := fun unit member =>
      quiet unit (mem_reverse.mpr member)
    cases failed : world.written .failed with
    | false =>
      rw [bind_of_error (writeStatus_error failed)]
      refine iff_of_false (not_kept ?_) fun both => by cases both.2
      rw [status', state]
      rfl
    | true =>
      rw [bind_of_ok (writeStatus_ok failed)]
      refine iff_of_true ⟨.inr ?_, ?_, .inr rfl⟩ ⟨units, rfl⟩
      · have untouched : (world.served .starting world.units.reverse (world.settled start)).before = none :=
          before'.trans before
        rw [untouched]
        rfl
      · refine (@served_iff _ [] world.units world.units.reverse ?_).mpr fun unit member => mem_reverse.mpr member
        refine log'.trans ?_
        rw [log, attempted_all quiet]
        rfl
  · rw [bind_of_error (services_error raised)]
    refine iff_of_false (not_kept ?_) fun both => not_raises_of_some raised fun unit member =>
      both.1 unit (mem_reverse.mp member)
    rw [status', state]
    rfl

def World.brokenOff (world : World Content Change) (machine : Machine Content Change) : Machine Content Change :=
  if world.written .starting then world.started machine else world.replacedBy (world.settled machine)

section
variable (launch : start = launched database running)
include launch

section
variable (stops : ∀ unit ∈ world.units, (world.systemctl .stopping unit).raises = false)
include stops

theorem started_frame :
    (world.started start).status.state = .starting ∧ (world.started start).before = some (world.committed start) ∧
      (world.started start).rescue = some (world.rescueContent start) ∧ (world.started start).log =
        (world.units.map fun unit => (Action.stop, unit)) ++
          (world.attempted .starting world.units.reverse).map fun unit => (Action.start, unit) := by
  obtain ⟨-, -, rescue, log⟩ := settled_frame launch stops
  obtain ⟨-, before', rescue', log'⟩ := @replacedBy_frame Content Change world (world.settled start)
  obtain ⟨status'', before'', rescue'', log''⟩ := @served_frame Content Change world
    ((world.replacedBy (world.settled start)).tells .starting) .starting world.units.reverse
  refine ⟨congrArg Status.state status'', before''.trans before', (rescue''.trans rescue').trans rescue, log''.trans ?_⟩
  have same : ((world.replacedBy (world.settled start)).tells .starting).log = world.units.map fun unit => (Action.stop, unit) :=
    log'.trans log
  rw [same]
  rfl

theorem brokenOff_frame :
    (world.brokenOff start).status.state.isOpen = true ∧ (world.brokenOff start).before = some (world.committed start) ∧
      (world.brokenOff start).rescue = some (world.rescueContent start) := by
  obtain ⟨state, -, rescue, -⟩ := settled_frame launch stops
  obtain ⟨status', before', rescue', -⟩ := @replacedBy_frame Content Change world (world.settled start)
  obtain ⟨state'', before'', rescue'', -⟩ := started_frame launch stops
  unfold World.brokenOff
  split
  · exact ⟨by rw [state'']; rfl, before'', rescue''⟩
  · exact ⟨by rw [status', state]; rfl, before', rescue'.trans rescue⟩

end

/-- The panel is up on the snapshot. -/
theorem kept_of_up (prepares : world.Prepares) (up : world.ComesUp) : Kept world (.ok 0, { world.started start with
      status := { (world.started start).status with state := .completed, rolledBack := some false } }) ↔
        world.effective (world.started start).database = world.source ∨
          world.effective (world.started start).database = world.committed start := by
  obtain ⟨-, before, -, log⟩ := started_frame launch prepares.stops
  have quiet : ∀ unit ∈ world.units.reverse, (world.systemctl .starting unit).raises = false := by
    intro unit member
    rw [up.starts unit (mem_reverse.mp member)]
    rfl
  constructor
  · intro kept
    have content := kept.content
    rw [before] at content
    rcases content with ⟨-, snapshot⟩ | same
    · exact .inl snapshot
    · exact .inr same
  · intro either
    refine ⟨?_, ?_, .inl rfl⟩
    · rw [before]
      rcases either with snapshot | same
      · exact .inl ⟨rfl, snapshot⟩
      · exact .inr same
    · refine (@served_iff _ [] world.units world.units.reverse ?_).mpr fun unit member => mem_reverse.mpr member
      refine log.trans ?_
      rw [attempted_all quiet]
      rfl

end

theorem restoredFrom_frame {content : Content} {machine : Machine Content Change} :
    (world.restoredFrom content machine).status = machine.status ∧ (world.restoredFrom content machine).before = machine.before ∧
      (world.restoredFrom content machine).log = machine.log := by
  obtain ⟨status, before, -, log⟩ := @pause_frame Content Change world { machine with
    database := { machine.database with main := content } } .restored
  exact ⟨status, before, log⟩

theorem back_frame {content : Content} {machine : Machine Content Change}
    (stops : ∀ unit ∈ world.units, (world.systemctl .stoppingAgain unit).raises = false) :
    (world.back content machine).status = machine.status ∧ (world.back content machine).before = machine.before ∧
      (world.back content machine).log = machine.log ++ (world.units.map fun unit => (Action.stop, unit)) ++
        (if world.restored then world.attempted .startingAgain world.units.reverse else []).map
          fun unit => (Action.start, unit) := by
  obtain ⟨given, isGiven⟩ : ∃ given, given = world.pause .restoring (world.served .stoppingAgain world.units machine) :=
    ⟨_, rfl⟩
  obtain ⟨status, before, -, log⟩ := @pause_frame Content Change world (world.served .stoppingAgain world.units machine) .restoring
  obtain ⟨status', before', -, log'⟩ := @served_frame Content Change world machine .stoppingAgain world.units
  rw [attempted_all stops] at log'
  unfold World.back
  rw [← isGiven] at status before log ⊢
  cases world.restored with
  | false => exact ⟨status.trans status', before.trans before', (log.trans log').trans (append_nil _).symm⟩
  | true =>
    obtain ⟨status'', before'', log''⟩ := @restoredFrom_frame Content Change world content given
    obtain ⟨status3, before3, -, log3⟩ := @served_frame Content Change world (world.restoredFrom content given) .startingAgain
      world.units.reverse
    refine ⟨status3.trans (status''.trans (status.trans status')), before3.trans (before''.trans (before.trans before')), ?_⟩
    refine log3.trans ?_
    rw [log'', log, log']
    rfl

/-- The panel was brought up to no avail: the recovery decides. -/
theorem kept_of_down (launch : start = launched database running) (prepares : world.Prepares) : Kept world ((do
      let recovered ← recover world
      conclude world true recovered).run (world.brokenOff start)) ↔ world.Recovers start := by
  obtain ⟨opened, before, rescue⟩ := brokenOff_frame launch prepares.stops
  rcases recover_cases rescue with ⟨stops, recovered, ran⟩ | ⟨raised, failure, left, ran, status⟩
  · obtain ⟨status', before', log'⟩ := @back_frame Content Change world (world.rescueContent start) (world.brokenOff start) stops
    rw [bind_of_ok ran]
    unfold conclude
    cases failed : world.written .failed with
    | false =>
      rw [bind_of_error (writeStatus_error failed)]
      refine iff_of_false (not_kept ?_) fun recovers => ?_
      · rw [status']
        exact opened
      · rw [recovers.failed] at failed
        cases failed
    | true =>
      rw [bind_of_ok (writeStatus_ok failed)]
      have same : (world.back (world.rescueContent start) (world.brokenOff start)).before = some (world.committed start) :=
        before'.trans before
      have served := @served_iff _ _ _ _ log'
      have code : (if recovered then 1 else 2) ≠ 0 := by cases recovered <;> decide
      have parts : Kept world ((pure (if recovered then 1 else 2) : Act Content Change Nat).run
          { world.back (world.rescueContent start) (world.brokenOff start) with
            status := { (world.back (world.rescueContent start) (world.brokenOff start)).status with
              state := .failed, rolledBack := some true, recoveryHealthy := some recovered } }) ↔
          world.effective (world.back (world.rescueContent start) (world.brokenOff start)).database = world.committed start ∧
            ∀ unit ∈ world.units, unit ∈ if world.restored then world.attempted .startingAgain world.units.reverse else [] := by
        constructor
        · intro kept
          refine ⟨?_, served.mp kept.served⟩
          have content := kept.content
          dsimp only [run_pure] at content
          rw [same] at content
          rcases content with ⟨zero, -⟩ | equal
          · exact absurd (Except.ok.inj zero) code
          · exact equal
        · rintro ⟨equal, all⟩
          refine ⟨.inr ?_, served.mpr all, .inr rfl⟩
          dsimp only [run_pure]
          rw [same]
          exact equal
      refine parts.trans ?_
      unfold World.back
      cases restored : world.restored with
      | false =>
        constructor
        · rintro ⟨equal, all⟩
          have empty : world.units = [] := eq_nil_iff_forall_not_mem.mpr fun unit member => by
            have never := all unit member
            cases never
          exact ⟨stops, failed, fun never => (by rw [restored] at never; cases never), fun _ => ⟨empty, equal⟩⟩
        · intro recovers
          obtain ⟨empty, equal⟩ := recovers.left restored
          refine ⟨equal, ?_⟩
          rw [empty]
          exact fun unit never => nomatch never
      | true =>
        constructor
        · rintro ⟨equal, all⟩
          exact ⟨stops, failed, fun _ => ⟨all, equal⟩, fun never => (by rw [restored] at never; cases never)⟩
        · intro recovers
          obtain ⟨all, equal⟩ := recovers.restored restored
          exact ⟨equal, all⟩
  · rw [bind_of_error ran]
    refine iff_of_false (not_kept ?_) fun recovers => raised recovers.stops
    rw [status]
    exact opened

end

/-- Nothing fails but that the stop of the first service does not come back in time. -/
def slowStop : World (List String) String where
  apply := fun change content => content ++ [change]
  units := ["boron-api.service", "boron-provisiond.service"]
  source := ["snapshot"]
  found := true
  written := fun _ => true
  intact := true
  rescued := true
  replaced := true
  restored := true
  healthy := some true
  healthyAgain := some true
  systemctl := fun stage unit =>
    if stage = .stopping ∧ unit = "boron-api.service" then .raised true else .done
  moves := fun _ => []

end Boron.PanelRestore
