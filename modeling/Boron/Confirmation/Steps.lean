import Boron.Confirmation.Panel
import Boron.Firewall.Undone

namespace Boron.Confirmation
open Sys Firewall
variable {Id : Type} {host : Host Id}

instance : Std.Refl (@SameJournal Id) := ⟨fun _ => rfl⟩

instance : IsTrans (World Id) SameJournal := ⟨fun _ _ _ first second => Eq.trans second first⟩

theorem journal_ticked (s : World Id) : SameJournal s { s with tick := s.tick + 1 } := rfl

theorem journal_withRule (rule : Rule) (s : World Id) : SameJournal s (s.withRule rule) := by
  unfold World.withRule
  split <;> rfl

theorem journal_withSource (source : SourceRule) (s : World Id) : SameJournal s (s.withSource source) := by
  unfold World.withSource
  split <;> rfl

theorem addRule_same (params : RuleParams) : Keeps SameJournal (addRule host params) :=
  addRule_keeps journal_ticked fun s _ => journal_withRule _ s

theorem addBypass_same (params : BypassParams) (strict : Bool) : Keeps SameJournal (addBypass host params strict) :=
  addBypass_keeps journal_ticked fun s _ => journal_withSource _ s

theorem admitBan_same (row : Ban) : Keeps SameJournal (admitBan host row) := by
  refine Keeps.bind (command_keeps journal_ticked ?_) fun _ => onRaise_keeps ?_ fun message => ?_
  · exact fun _ => rfl
  · exact command_keeps journal_ticked fun s => journal_withSource _ s
  · refine Keeps.bind (command_keeps journal_ticked ?_) fun _ => raise_keeps _
    exact fun _ => rfl

theorem addTemporaryBan_same (params : BanParams) : Keeps SameJournal (addTemporaryBan host params) :=
  (check_keeps _ _).bind fun _ => (assertAddressCanBeBanned_keeps _ _).bind fun _ =>
    Keeps.get.bind fun _ => (check_keeps _ _).bind fun _ => admitBan_same _

theorem deleteTemporaryBan_same (id : Nat) : Keeps SameJournal (deleteTemporaryBan host id) := by
  refine Keeps.get.bind fun w => ?_
  split
  · exact raise_keeps _
  · refine Keeps.bind (command_keeps journal_ticked ?_) fun _ => command_keeps journal_ticked ?_
    · exact fun _ => rfl
    · exact fun _ => rfl

theorem enableFirewall_same (confirm : Bool) : Keeps SameJournal (enableFirewall host confirm) := by
  have baseline : Keeps SameJournal (ensureBaselineAllowRules host) :=
    (currentRules_keeps journal_ticked).bind fun _ => (protectedPorts_keeps journal_ticked).bind fun _ =>
      Keeps.each fun _ _ => command_keeps journal_ticked fun s => journal_withRule _ s
  refine (check_keeps _ _).bind fun _ => baseline.bind fun _ =>
    Keeps.bind (command_keeps journal_ticked ?_) fun _ => (getStatus_keeps journal_ticked).bind fun _ => Keeps.pure _
  exact fun _ => rfl

theorem disableFirewall_same (confirm : Bool) : Keeps SameJournal (disableFirewall host confirm) := by
  refine (check_keeps _ _).bind fun _ => Keeps.bind (command_keeps journal_ticked ?_) fun _ =>
    (getStatus_keeps journal_ticked).bind fun _ => Keeps.pure _
  exact fun _ => rfl

variable [DecidableEq Id]

theorem deleteBypass_same (bypassId : Id) (strict : Bool) : Keeps SameJournal (deleteBypass host bypassId strict) :=
  deleteBypass_keeps journal_ticked fun _ _ _ => rfl

theorem undoOne_same (step : UndoStep Id) : Keeps SameJournal (undoOne host step) := by
  cases step with
  | deleteRule ruleId =>
    refine (currentRules_keeps journal_ticked).bind fun current => ?_
    split
    · exact Keeps.pure ()
    · exact command_keeps journal_ticked fun _ => rfl
  | addRule ruleId params =>
    refine (currentRules_keeps journal_ticked).bind fun current => ?_
    split
    · exact addRule_same params
    · exact Keeps.pure ()
  | deleteBypass address =>
    refine bypassEntries_keeps.bind fun current => ?_
    split
    · exact Keeps.pure ()
    · exact deleteBypass_same _ _
  | addBypass params =>
    refine bypassEntries_keeps.bind fun current => ?_
    split
    · exact Keeps.pure ()
    · exact addBypass_same params false
  | disable => exact disableFirewall_same true
  | enable => exact enableFirewall_same true
  | deleteTempBan value =>
    refine Keeps.get.bind fun w => ?_
    split
    · exact Keeps.pure ()
    · exact deleteTemporaryBan_same _
  | addTempBan params => exact addTemporaryBan_same params

end Boron.Confirmation

namespace Boron.Confirmation
open Firewall
variable {Id : Type}

/-- The pending change stays as it is, and nothing is started, attempted or ended. -/
structure Quiet (s s' : Panel Id) : Prop where
  expires : s'.world.journal.map Journal.expiresAt = s.world.journal.map Journal.expiresAt
  ticket : s'.ticket = s.ticket
  units : s'.units = s.units
  started : s'.started = s.started
  attempted : s'.attempted = s.attempted
  fates : s'.fates = s.fates

instance : Std.Refl (@Quiet Id) := ⟨fun _ => ⟨rfl, rfl, rfl, rfl, rfl, rfl⟩⟩

theorem Quiet.trans {s mid s' : Panel Id} (first : Quiet s mid) (second : Quiet mid s') : Quiet s s' :=
  ⟨second.expires.trans first.expires, second.ticket.trans first.ticket, second.units.trans first.units,
    second.started.trans first.started, second.attempted.trans first.attempted, second.fates.trans first.fates⟩

instance : IsTrans (Panel Id) Quiet := ⟨fun _ _ _ first second => first.trans second⟩

/-- The rollback has been attempted, and the change is still pending. -/
structure Held (s s' : Panel Id) : Prop where
  expires : s'.world.journal.map Journal.expiresAt = s.world.journal.map Journal.expiresAt
  ticket : s'.ticket = s.ticket
  units : s'.units = s.units
  started : s'.started = s.started
  attempted : s'.attempted = s.ticket.toList.map Ticket.changeId ++ s.attempted
  fates : s'.fates = s.fates

structure Closed (fate : Fate) (s s' : Panel Id) : Prop where
  journal : s'.world.journal = none
  ticket : s'.ticket = none
  started : s'.started = s.started
  fates : s'.fates = s.ticket.toList.map (fun ticket => (ticket.changeId, fate)) ++ s.fates

theorem Closed.after {fate : Fate} {s mid s' : Panel Id} (ticket : mid.ticket = s.ticket) (started : mid.started = s.started)
    (fates : mid.fates = s.fates) (closed : Closed fate mid s') : Closed fate s s' :=
  ⟨closed.journal, closed.ticket, closed.started.trans started, by rw [closed.fates, ticket, fates]⟩

/-- How a rollback leaves the panel, whether it ended well or not. -/
def Rolled (s s' : Panel Id) : Prop := Closed .undone s s' ∨ Held s s'

theorem fell_quiet {α : Type} (result : Except Fault α) (s : Panel Id) : Quiet s (s.fell result) := by
  unfold Panel.fell
  split
  · exact ⟨rfl, rfl, rfl, rfl, rfl, rfl⟩
  · exact Std.Refl.refl s

theorem onWorld_quiet {α : Type} {p : Fw Id α} (same : Sys.Keeps SameJournal p) : Sys.Keeps Quiet (onWorld p) := by
  intro s
  have journal : (p.run s.world).2.journal = s.world.journal := same s.world
  refine Quiet.trans ?_ (fell_quiet _ _)
  exact ⟨by rw [journal], rfl, rfl, rfl, rfl, rfl⟩

def Downs {α : Type} (p : Pn Id α) : Prop := ∀ s, (p.run s).1 = .error .killed → (p.run s).2.serving = false

section
variable {α β : Type}

theorem downs_onWorld (p : Fw Id α) : Downs (onWorld p) := by
  intro s killed
  have same : (p.run s.world).1 = .error .killed := killed
  simp only [onWorld, same]
  rfl

theorem downs_raise (message : String) : Downs (raise message : Pn Id α) := by
  rintro s ⟨⟩

theorem downs_modify (f : Panel Id → Panel Id) : Downs (Sys.modify f : Pn Id Unit) := by
  rintro s ⟨⟩

theorem Downs.bind {p : Pn Id α} {f : α → Pn Id β} (first : Downs p) (rest : ∀ a, Downs (f a)) : Downs (p >>= f) := by
  intro s killed
  have before := first s
  rw [Sys.run_bind] at killed ⊢
  cases run : p.run s with
  | mk result mid =>
    rw [run] at killed before
    cases result with
    | ok a => exact rest a mid killed
    | error fault =>
      cases killed
      exact before rfl

theorem Downs.onRaise {p : Pn Id α} {handler : String → Pn Id α} (body : Downs p) (handled : ∀ message, Downs (handler message)) :
    Downs (onRaise p handler) := by
  intro s killed
  have before := body s
  unfold Confirmation.onRaise Sys.handle at killed ⊢
  dsimp only at killed ⊢
  cases run : p.run s with
  | mk result mid =>
    rw [run] at killed before
    cases result with
    | ok a => cases killed
    | error fault =>
      cases fault with
      | killed => exact before rfl
      | raised message => exact handled message mid killed

end

section
variable {host : Host Id}

theorem downs_noting (label : String) (effect : World Id → World Id) (note : Panel Id → Panel Id) :
    Downs (noting host label effect note) := by
  intro s killed
  have same : ((command host label effect).run s.world).1 = .error .killed := killed
  simp only [noting, same]
  rfl

theorem noting_cases (host : Host Id) (label : String) (effect : World Id → World Id) (note : Panel Id → Panel Id) (s : Panel Id) :
    (∃ result, (noting host label effect note).run s =
        (result, (note { s with world := effect { s.world with tick := s.world.tick + 1 } }).fell result) ∧
        ∀ message, result ≠ .error (.raised message)) ∨
      ∃ fault, (noting host label effect note).run s =
        (.error fault, ({ s with world := { s.world with tick := s.world.tick + 1 } } : Panel Id).fell (.error fault : Except Fault Unit)) := by
  unfold noting command
  dsimp only
  cases host.outcome s.world.tick with
  | done => exact .inl ⟨.ok (), rfl, by rintro message ⟨⟩⟩
  | failed => exact .inr ⟨.raised label, rfl⟩
  | killed after =>
    cases after with
    | true => exact .inl ⟨.error .killed, rfl, by rintro message ⟨⟩⟩
    | false => exact .inr ⟨.killed, rfl⟩

theorem fell_closed {fate : Fate} {s s' : Panel Id} {α : Type} (result : Except Fault α) (closed : Closed fate s s') :
    Closed fate s (s'.fell result) := by
  have quiet := fell_quiet result s'
  refine ⟨?_, quiet.ticket.trans closed.ticket, quiet.started.trans closed.started, quiet.fates.trans closed.fates⟩
  have gone := quiet.expires
  rw [closed.journal] at gone
  exact Option.map_eq_none_iff.mp gone

theorem clearPending_spec (host : Host Id) (fate : Fate) (s : Panel Id) :
    (∃ s', (clearPending host fate).run s = (.ok (), s') ∧ Closed fate s s') ∨
      ∃ fault s', (clearPending host fate).run s = (.error fault, s') ∧
        (Closed fate s s' ∨ Quiet s s' ∧ (s'.serving = true → s.serving = true)) := by
  unfold clearPending
  rcases noting_cases host "remove journal" (fun w => { w with journal := none }) (Panel.close fate)
    { s with thread := false } with ⟨result, ran, _⟩ | ⟨fault, ran⟩
  · have closed : Closed fate s (Panel.close fate
        { s with thread := false, world := { s.world with tick := s.world.tick + 1, journal := none } }) := ⟨rfl, rfl, rfl, rfl⟩
    cases result with
    | ok value => exact .inl ⟨_, ran, fell_closed _ closed⟩
    | error fault => exact .inr ⟨fault, _, ran, .inl (fell_closed _ closed)⟩
  · refine .inr ⟨fault, _, ran, .inr ⟨Quiet.trans ?_ (fell_quiet _ _), fun serves => ?_⟩⟩
    · exact ⟨rfl, rfl, rfl, rfl, rfl, rfl⟩
    · cases fault with
      | killed => cases serves
      | raised message => exact serves

variable [DecidableEq Id]

omit [DecidableEq Id] in
theorem rewrite_quiet (host : Host Id) (journal : Journal Id) {s : Panel Id}
    (pending : s.world.journal.map Journal.expiresAt = some journal.expiresAt) :
    Quiet s ((onWorld (writePending host journal)).run s).2 := by
  refine Quiet.trans ?_ (fell_quiet _ _)
  refine ⟨?_, rfl, rfl, rfl, rfl, rfl⟩
  rw [pending]
  refine command_at (R := fun _ w => w.journal.map Journal.expiresAt = some journal.expiresAt) ?_ ?_
  · exact pending
  · rfl

theorem rollbackState_spec (host : Host Id) (journal : Journal Id) {s : Panel Id} (reason : String)
    (pending : s.world.journal.map Journal.expiresAt = some journal.expiresAt) :
    Rolled s ((rollbackState host journal reason).run s).2 ∧
      (((rollbackState host journal reason).run s).1 = .ok () → Closed .undone s ((rollbackState host journal reason).run s).2) := by
  have undone : Sys.Keeps Quiet (Undo.all Fault.fatal (journal.undo.map fun step => onWorld (undoOne host step))) := by
    refine Undo.all_keeps fun step member => ?_
    obtain ⟨undo, _, same⟩ := List.mem_map.mp member
    subst same
    exact onWorld_quiet (undoOne_same undo)
  have tried := undone s.attempt
  unfold rollbackState
  rw [Sys.run_modify_bind, Sys.run_bind]
  cases run : (Undo.all Fault.fatal (journal.undo.map fun step => onWorld (undoOne host step))).run s.attempt with
  | mk result mid =>
    rw [run] at tried
    have held {s' : Panel Id} (quiet : Quiet mid s') : Held s s' := by
      have all := tried.trans quiet
      exact ⟨all.expires, all.ticket, all.units, all.started, all.attempted, all.fates⟩
    cases result with
    | error fault => exact ⟨.inr (held (Std.Refl.refl mid)), by rintro ⟨⟩⟩
    | ok errors =>
      dsimp only
      by_cases clean : errors = []
      · rw [if_pos clean]
        have closed {s' : Panel Id} (ended : Closed .undone mid s') : Closed .undone s s' :=
          ended.after tried.ticket tried.started tried.fates
        rcases clearPending_spec host .undone mid with ⟨s', ran, ended⟩ | ⟨fault, s', ran, ended | ⟨quiet, _⟩⟩
        · rw [ran]
          exact ⟨.inl (closed ended), fun _ => closed ended⟩
        · rw [ran]
          exact ⟨.inl (closed ended), by rintro ⟨⟩⟩
        · rw [ran]
          exact ⟨.inr (held quiet), by rintro ⟨⟩⟩
      · rw [if_neg clean]
        have kept : mid.world.journal.map Journal.expiresAt = some journal.expiresAt := tried.expires.trans pending
        have rewritten := rewrite_quiet host
          { journal with stage := .rollbackFailed reason (errors.map Fault.text) } kept
        rw [Sys.run_bind]
        cases wrote : (onWorld (writePending host
            { journal with stage := .rollbackFailed reason (errors.map Fault.text) })).run mid with
        | mk result last =>
          rw [wrote] at rewritten
          cases result with
          | ok value => exact ⟨.inr (held rewritten), by rintro ⟨⟩⟩
          | error fault => exact ⟨.inr (held rewritten), by rintro ⟨⟩⟩

end

end Boron.Confirmation
