import Boron.Firewall.Change

namespace Boron.Confirmation
open Firewall

/-- The change the journal file is about, and the digest of its token. -/
structure Ticket where
  changeId : Nat
  tokenSha256 : String

/-- A change whose journal has been written. -/
structure Started where
  changeId : Nat
  token : String
  expiresAt : Int

inductive Fate
  | confirmed (token : String) (confirmedAt : Int)
  | undone

/-- The firewall with its journal, the rest of the journal file, the timer thread and the
systemd units that have been scheduled. What has happened to the changes is not stored:
those started, those a rollback has begun for, and how each ended. -/
structure Panel (Id : Type) where
  world : World Id
  ticket : Option Ticket
  thread : Bool
  units : List Nat
  serving : Bool
  started : List Started
  attempted : List Nat
  fates : List (Nat × Fate)

/-- The digest, and the token drawn for each change. -/
structure Secrets where
  sha256 : String → String
  token : Nat → String

def SameJournal {Id : Type} (s s' : World Id) : Prop := s'.journal = s.journal

/-- What a transactional operation asks `_start_change` for. -/
structure Request (Id : Type) where
  operation : String
  summary : String
  undo : List (UndoStep Id)
  apply : Fw Id Unit
  keeps : Sys.Keeps SameJournal apply

abbrev Pn (Id : Type) := Sys (Panel Id) Fault

variable {Id : Type} [DecidableEq Id] (host : Host Id) (secrets : Secrets)

def Panel.down (s : Panel Id) : Panel Id := { s with serving := false, thread := false }

def Panel.fell {α : Type} (result : Except Fault α) (s : Panel Id) : Panel Id :=
  match result with
  | .error .killed => s.down
  | _ => s

/-- A program on the firewall; a kill takes the daemon with it. -/
def onWorld {α : Type} (p : Fw Id α) : Pn Id α := ⟨fun s =>
  let ran := p.run s.world
  (ran.1, ({ s with world := ran.2 } : Panel Id).fell ran.1)⟩

def Outcome.took : Outcome → Bool
  | .done => true
  | .failed => false
  | .killed after => after

def noting (label : String) (effect : World Id → World Id) (note : Panel Id → Panel Id) : Pn Id Unit := ⟨fun s =>
  let ran := (command host label effect).run s.world
  let left : Panel Id := { s with world := ran.2 }
  (ran.1, (if (Outcome.took (host.outcome s.world.tick)) then note left else left).fell ran.1)⟩

def onRaise {α : Type} (p : Pn Id α) (handler : String → Pn Id α) : Pn Id α :=
  Sys.handle p fun
    | .killed => Sys.fail .killed
    | .raised message => handler message

def raise {α : Type} (message : String) : Pn Id α := Sys.fail (.raised message)

def Panel.open_ (journal : Journal Id) (s : Panel Id) : Panel Id :=
  let changeId := s.started.length
  { s with
    ticket := some { changeId, tokenSha256 := secrets.sha256 (secrets.token changeId) }
    started := { changeId, token := secrets.token changeId, expiresAt := journal.expiresAt } :: s.started }

def Panel.close (fate : Fate) (s : Panel Id) : Panel Id :=
  { s with
    ticket := none, units := s.units.filter fun unit => ∀ ticket ∈ s.ticket, unit ≠ ticket.changeId
    fates := s.ticket.toList.map (fun ticket => (ticket.changeId, fate)) ++ s.fates }

/-- The first `_write_pending` of a change. -/
def openPending (journal : Journal Id) : Pn Id Unit :=
  noting host "write journal" (fun w => { w with journal := some journal }) (Panel.open_ secrets journal)

def clearPending (fate : Fate) : Pn Id Unit := do
  Sys.modify fun s => { s with thread := false }
  noting host "remove journal" (fun w => { w with journal := none }) (Panel.close fate)

def Panel.attempt (s : Panel Id) : Panel Id :=
  { s with attempted := s.ticket.toList.map Ticket.changeId ++ s.attempted }

def rollbackState (journal : Journal Id) (reason : String) : Pn Id Unit := do
  Sys.modify Panel.attempt
  let errors ← Undo.all Fault.fatal (journal.undo.map fun step => onWorld (undoOne host step))
  if errors = [] then clearPending host .undone
  else do
    onWorld (writePending host { journal with stage := .rollbackFailed reason (errors.map Fault.text) })
    raise ("firewall rollback needs local-console recovery: " ++ "; ".intercalate (errors.map Fault.text))

/-- `_arm_rollback`: the thread first, then the systemd unit. -/
def armRollback : Pn Id Unit := do
  Sys.modify fun s => { s with thread := true }
  onRaise (noting host "could not schedule the independent firewall rollback timer" id fun s =>
      { s with units := s.ticket.toList.map Ticket.changeId ++ s.units })
    fun message => do
      Sys.modify fun s => { s with thread := false }
      raise message

def guardedChange (journal : Journal Id) (apply : Fw Id Unit) : Pn Id Unit := onRaise (do
      onWorld apply
      onWorld (verifyProtectedAccess host)
      onWorld (writePending host { journal with stage := .pendingConfirmation })
      armRollback host)
    fun message => do
      rollbackState host journal "change or verification failed"
      raise message

def startChange (request : Request Id) : Pn Id Unit := do
  let s ← Sys.get
  let now := host.now s.world.tick
  match s.world.journal with
  | some existing =>
    if existing.expiresAt ≤ now then rollbackState host existing "expired before the next change"
    else raise "confirm or revert the pending firewall change before making another change"
  | none => pure ()
  let journal : Journal Id :=
    { operation := request.operation, summary := request.summary, createdAt := now
      expiresAt := now + changeConfirmSeconds, stage := .applying, undo := request.undo }
  openPending host secrets journal
  guardedChange host journal request.apply

def Ticket.accepts (ticket : Ticket) (token : String) : Bool :=
  token ≠ "" && secrets.sha256 token = ticket.tokenSha256

/-- `confirm_change` does not read the stage of the journal. -/
def confirmChange (token : String) : Pn Id Unit := do
  let s ← Sys.get
  let now := host.now s.world.tick
  match s.world.journal with
  | none => raise "there is no pending firewall change"
  | some journal =>
    if journal.expiresAt ≤ now then do
      rollbackState host journal "confirmation arrived after expiry"
      raise "the confirmation window expired and the change was reverted"
    else if s.ticket.any (·.accepts secrets token) then clearPending host (.confirmed token now)
    else raise "the firewall confirmation token is invalid"

/-- `rollback_change`, and `recover_pending_changes` with its own reason. -/
def rollbackChange (reason : String) : Pn Id Unit := do
  let s ← Sys.get
  match s.world.journal with
  | none => pure ()
  | some journal => rollbackState host journal reason

/-- `_auto_rollback` swallows what the rollback raises. -/
def autoRollback : Pn Id Unit := onRaise (rollbackChange host "confirmation window expired") fun _ => pure ()

def recoverPendingChanges : Pn Id Unit := rollbackChange host "daemon startup or local-console recovery"

/-- Requests to the daemon, its timer thread, the recovery tool that a systemd unit or an
administrator at the console runs, and the end and the start of the daemon. -/
inductive Event (Id : Type)
  | change (request : Request Id)
  | confirm (token : String)
  | rollback (reason : String)
  | timer
  | unit (changeId : Nat)
  | console
  | kill
  | restart

/-- Time passes between two events. -/
def Panel.tick (s : Panel Id) : Panel Id := { s with world := { s.world with tick := s.world.tick + 1 } }

/-- The recovery tool is a process of its own. -/
def Panel.recover (s : Panel Id) : Panel Id :=
  { ((recoverPendingChanges host).run s.tick).2 with serving := s.serving, thread := s.thread }

def Panel.step (event : Event Id) (s : Panel Id) : Panel Id :=
  match event with
  | .change request => if s.serving then ((startChange host secrets request).run s.tick).2 else s
  | .confirm token => if s.serving then ((confirmChange host secrets token).run s.tick).2 else s
  | .rollback reason => if s.serving then ((rollbackChange host reason).run s.tick).2 else s
  | .timer => if s.thread then ((autoRollback host).run { s.tick with thread := false }).2 else s
  | .unit changeId =>
    if changeId ∈ s.units then Panel.recover host { s with units := s.units.filter (· ≠ changeId) } else s
  | .console => Panel.recover host s
  | .kill => s.down
  | .restart =>
    if s.serving then s else ((recoverPendingChanges host).run { s.tick with serving := true }).2

abbrev Reaches : Panel Id → Panel Id → Prop := Sys.Reaches (Panel.step host secrets) fun _ _ => True

/-- The daemon serves, and no change has been started yet. -/
structure Fresh (s : Panel Id) : Prop where
  journal : s.world.journal = none
  ticket : s.ticket = none
  started : s.started = []
  attempted : s.attempted = []
  fates : s.fates = []

end Boron.Confirmation

namespace Boron.Confirmation
open Firewall Sys
variable {Id : Type} [DecidableEq Id] {host : Host Id} {secrets : Secrets}

omit [DecidableEq Id] in
@[simp] theorem fell_world {α : Type} (result : Except Fault α) (s : Panel Id) : (s.fell result).world = s.world := by
  unfold Panel.fell
  split <;> rfl

omit [DecidableEq Id] in
theorem onWorld_projects {α : Type} (p : Fw Id α) : Projects Panel.world (onWorld p) p := by
  intro s
  simp only [onWorld, fell_world]

omit [DecidableEq Id] in
theorem noting_projects {label : String} {effect : World Id → World Id} {note : Panel Id → Panel Id}
    (hidden : ∀ s, (note s).world = s.world) : Projects Panel.world (noting host label effect note) (command host label effect) := by
  intro s
  simp only [noting, fell_world]
  split
  · rw [hidden]
  · rfl

omit [DecidableEq Id] in
theorem onRaise_projects {α : Type} {p : Pn Id α} {q : Fw Id α} {g : String → Pn Id α} {h : String → Fw Id α}
    (body : Projects Panel.world p q) (handler : ∀ message, Projects Panel.world (g message) (h message)) :
    Projects Panel.world (onRaise p g) (Firewall.onRaise q h) := by
  refine body.handle fun fault => ?_
  cases fault with
  | killed => exact Projects.fail _
  | raised message => exact handler message

omit [DecidableEq Id] in
theorem clearPending_projects (fate : Fate) : Projects Panel.world (clearPending host fate) (Firewall.clearPending host) :=
  .after_modify (fun _ => rfl) (noting_projects fun _ => rfl)

theorem rollbackState_projects (host : Host Id) (journal : Journal Id) (reason : String) :
    Projects Panel.world (rollbackState host journal reason) (Firewall.rollbackState host journal reason) := by
  refine .after_modify (fun _ => rfl) ?_
  refine Projects.bind (Undo.all_projects journal.undo fun step => onWorld_projects (undoOne host step)) fun errors => ?_
  split
  · exact clearPending_projects .undone
  · exact (onWorld_projects _).bind fun _ => .fail _

omit [DecidableEq Id] in
theorem armRollback_projects : Projects Panel.world (armRollback host) (Firewall.armRollback host) := by
  refine .after_modify (fun _ => rfl) (Projects.rethrow (noting_projects fun _ => rfl) fun fault => ?_)
  cases fault with
  | killed => exact .fail _
  | raised message => exact .after_modify (fun _ => rfl) (.fail _)

theorem guardedChange_projects (journal : Journal Id) (apply : Fw Id Unit) :
    Projects Panel.world (guardedChange host journal apply) (Firewall.guardedChange host journal apply) := by
  refine onRaise_projects ?_ fun message => ?_
  · refine (onWorld_projects _).bind fun _ => (onWorld_projects _).bind fun _ => (onWorld_projects _).bind fun _ => ?_
    exact armRollback_projects
  · exact (rollbackState_projects host journal _).bind fun _ => .fail _

theorem startChange_projects (request : Request Id) :
    Projects Panel.world (startChange host secrets request)
      (Firewall.startChange host request.operation request.summary request.undo request.apply) := by
  intro s
  unfold startChange Firewall.startChange
  rw [run_get_bind, run_get_bind]
  have hidden (journal : Journal Id) : Projects Panel.world (openPending host secrets journal) (writePending host journal) :=
    noting_projects fun _ => rfl
  have opened (journal : Journal Id) :
      Projects Panel.world (do openPending host secrets journal; guardedChange host journal request.apply)
        (do writePending host journal; Firewall.guardedChange host journal request.apply) :=
    (hidden journal).bind fun _ => guardedChange_projects journal request.apply
  cases pending : s.world.journal with
  | none => exact opened _ s
  | some existing =>
    by_cases expired : existing.expiresAt ≤ host.now s.world.tick
    · simp only [expired, if_true]
      exact (rollbackState_projects host _ _).bind (fun _ => opened _) s
    · simp only [expired, if_false]
      exact Projects.bind (.fail _) (fun _ => opened _) s

theorem rollbackChange_projects (reason : String) :
    Projects Panel.world (rollbackChange host reason) (Firewall.rollbackChange host reason) := by
  intro s
  unfold rollbackChange Firewall.rollbackChange readPending
  cases pending : s.world.journal with
  | none => simp [run_bind, pending]
  | some journal =>
    have same := rollbackState_projects host journal reason s
    simpa [run_bind, pending] using same

end Boron.Confirmation
