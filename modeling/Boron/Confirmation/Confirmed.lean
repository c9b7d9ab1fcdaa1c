import Boron.Confirmation.Protocol

namespace Boron.Confirmation
open Firewall
variable {Id : Type}

def Panel.Pending (s : Panel Id) (change : Started) : Prop :=
  ∃ ticket, s.ticket = some ticket ∧ ticket.changeId = change.changeId

section
variable {host : Host Id} {secrets : Secrets} {s : Panel Id}

theorem tick_quiet (s : Panel Id) : Quiet s s.tick := ⟨rfl, rfl, rfl, rfl, rfl, rfl⟩

theorem Good.tick (good : Good secrets s) : Good secrets s.tick := good.quiet (tick_quiet s) fun serving => serving

variable [DecidableEq Id]

theorem recover_rolled (host : Host Id) (s : Panel Id) : s.world.journal = none ∨ Rolled s ((recoverPendingChanges host).run s).2 := by
  unfold recoverPendingChanges rollbackChange
  rw [Sys.run_get_bind]
  cases pending : s.world.journal with
  | none => exact .inl rfl
  | some journal =>
    have window : s.world.journal.map Journal.expiresAt = some journal.expiresAt := by rw [pending]; rfl
    exact .inr (rollbackState_spec host journal _ window).1

omit [DecidableEq Id] in
theorem Consistent.unticketed (consistent : Consistent secrets s) (settled : s.world.journal = none) : s.ticket = none := by
  have paired := consistent.paired
  rw [settled] at paired
  exact Option.not_isSome_iff_eq_none.mp (by simp [paired])

theorem recover_good (consistent : Consistent secrets s) (serving thread : Bool) :
    Good secrets { ((recoverPendingChanges host).run s).2 with serving, thread } := by
  have settled (none : s.world.journal = none) : Good secrets { ((recoverPendingChanges host).run s).2 with serving, thread } := by
    have same : ((recoverPendingChanges host).run s).2 = s := by
      unfold recoverPendingChanges rollbackChange
      rw [Sys.run_get_bind, none]
      rfl
    rw [same]
    exact Consistent.good_settled (consistent.calm ⟨rfl, rfl, rfl, rfl⟩) (consistent.unticketed none)
  cases pending : s.world.journal with
  | none => exact settled pending
  | some journal =>
    rcases recover_rolled host s with none | closed | held
    · exact settled none
    · exact consistent.good_rolled (.inl ⟨closed.journal, closed.ticket, closed.started, closed.fates⟩)
    · exact consistent.good_rolled
        (.inr ⟨held.expires, held.ticket, held.units, held.started, held.attempted, held.fates⟩)

theorem step_good (good : Good secrets s) (event : Event Id) : Good secrets (s.step host secrets event) := by
  have calm (serving thread : Bool) (units : List Nat) : Consistent secrets { s.tick with serving, thread, units } :=
    good.consistent.calm ⟨rfl, rfl, rfl, rfl⟩
  cases event with
  | change request =>
    simp only [Panel.step]
    split
    · exact startChange_good good.tick request
    · exact good
  | confirm token =>
    simp only [Panel.step]
    split
    · exact confirmChange_good good.tick token
    · exact good
  | rollback reason =>
    simp only [Panel.step]
    split
    · exact rollbackChange_good host good.tick reason
    · exact good
  | timer =>
    simp only [Panel.step]
    split
    · exact autoRollback_good (good.tick.quiet ⟨rfl, rfl, rfl, rfl, rfl, rfl⟩ fun serving => serving)
    · exact good
  | unit changeId =>
    simp only [Panel.step]
    split
    · exact recover_good (calm s.serving s.thread _) _ _
    · exact good
  | console => exact recover_good (calm s.serving s.thread s.units) _ _
  | kill => exact Consistent.good_down (good.consistent.calm ⟨rfl, rfl, rfl, rfl⟩) rfl
  | restart =>
    simp only [Panel.step]
    split
    · exact good
    · exact recover_good (calm true s.thread s.units) _ _

omit [DecidableEq Id] in
theorem Fresh.good (fresh : Fresh s) : Good secrets s := by
  obtain ⟨journal, ticket, started, attempted, fates⟩ := fresh
  refine Consistent.good_settled ?_ ticket
  constructor
  · rw [ticket, journal]
    rfl
  · rw [ticket]
    rintro _ ⟨⟩
  · rw [started]
    rintro _ ⟨⟩
  · rw [started]
    exact List.nodup_nil
  · rw [started]
    rintro _ ⟨⟩
  · rw [fates]
    exact List.nodup_nil
  · rw [ticket]
    rintro _ ⟨⟩
  · rw [fates]
    rintro _ ⟨⟩
  · rw [fates]
    rintro _ _ _ ⟨⟩

theorem Reaches.good {start : Panel Id} (fresh : Fresh start) (reached : Reaches host secrets start s) : Good secrets s := by
  induction reached with
  | start => exact fresh.good
  | next event _ _ ih => exact step_good ih event

/-- What the protocol guarantees of every state. -/
structure Protected (host : Host Id) (secrets : Secrets) (s : Panel Id) : Prop where
  one : ∀ first ∈ s.started, ∀ second ∈ s.started, s.Pending first → s.Pending second → first = second
  ended : ∀ change ∈ s.started, s.Pending change ∨ (change.changeId, .undone) ∈ s.fates ∨
    ∃ token confirmedAt, (change.changeId, .confirmed token confirmedAt) ∈ s.fates ∧
      secrets.sha256 token = secrets.sha256 change.token ∧ confirmedAt < change.expiresAt
  never : ∀ changeId token confirmedAt, (changeId, .confirmed token confirmedAt) ∈ s.fates → (changeId, .undone) ∉ s.fates
  watched : Watched s
  restarted : s.serving = false → ∀ change ∈ s.started, s.Pending change →
    (change.changeId, .undone) ∈ (s.step host secrets .restart).fates ∨
      (s.step host secrets .restart).Pending change ∧ change.changeId ∈ (s.step host secrets .restart).attempted

theorem Good.restarted (good : Good secrets s) (down : s.serving = false) {change : Started} (pending : s.Pending change) :
    (change.changeId, .undone) ∈ (s.step host secrets .restart).fates ∨
      (s.step host secrets .restart).Pending change ∧ change.changeId ∈ (s.step host secrets .restart).attempted := by
  obtain ⟨ticket, present, named⟩ := pending
  have journal : s.world.journal.isSome = true := by
    rw [← good.consistent.paired, present]
    rfl
  have step : s.step host secrets .restart = ((recoverPendingChanges host).run { s.tick with serving := true }).2 := by
    simp only [Panel.step, down, Bool.false_eq_true, if_false]
  rw [step]
  rcases recover_rolled host { s.tick with serving := true } with settled | closed | held
  · have same : s.world.journal = none := settled
    rw [same] at journal
    cases journal
  · refine .inl ?_
    rw [closed.fates]
    change _ ∈ s.ticket.toList.map _ ++ s.fates
    rw [present, ← named]
    exact List.mem_cons_self
  · refine .inr ⟨⟨ticket, held.ticket.trans present, named⟩, ?_⟩
    rw [held.attempted]
    change _ ∈ s.ticket.toList.map Ticket.changeId ++ s.attempted
    rw [present, ← named]
    exact List.mem_cons_self

end

/-- What `transactional_add_rule` asks for. -/
def addRuleRequest [DecidableEq Id] (host : Host Id) (params : RuleParams) : Request Id where
  operation := "rule.add"
  summary := "Add rule"
  undo := [.deleteRule (host.ruleId params.key)]
  apply := addRule host params
  keeps := addRule_same params

theorem addRule_projects [DecidableEq Id] (host : Host Id) (secrets : Secrets) (params : RuleParams) :
    Sys.Projects Panel.world (startChange host secrets (addRuleRequest host params)) (transactionalAddRule host params) :=
  startChange_projects _

def mailKey : RuleKey :=
  { action := .allow, port := 2525, protocol := .tcp, fromAddr := none, direction := .inbound, toAddr := none }

def idle : Panel (RuleKey ⊕ Address) where
  world := { rules := [], sources := [], bans := [], active := true, journal := none, tick := 0 }
  ticket := none
  thread := false
  units := []
  serving := true
  started := []
  attempted := []
  fates := []

theorem idle_fresh : Fresh idle := ⟨rfl, rfl, rfl, rfl, rfl⟩

def hostWith (outcome : Nat → Outcome) : Host (RuleKey ⊕ Address) :=
  { outcome, now := fun _ => 0, protectedPorts := [], ruleId := .inl, bypassId := .inr }

def plainSecrets : Secrets := { sha256 := fun token => "#" ++ token, token := fun _ => "t0ken" }

def Panel.after {Id : Type} [DecidableEq Id] (host : Host Id) (secrets : Secrets) (events : List (Event Id)) (s : Panel Id) :
    Panel Id := events.foldl (fun s event => s.step host secrets event) s

theorem Reaches.after {Id : Type} [DecidableEq Id] {host : Host Id} {secrets : Secrets} {start s : Panel Id}
    (reached : Reaches host secrets start s) (events : List (Event Id)) :
    Reaches host secrets start (s.after host secrets events) := by
  induction events generalizing s with
  | nil => exact reached
  | cons event events ih => exact ih (reached.next event trivial)

def calmHost : Host (RuleKey ⊕ Address) := hostWith fun _ => .done

def confirmed : Panel (RuleKey ⊕ Address) :=
  idle.after calmHost plainSecrets
    [.change (addRuleRequest calmHost { key := mailKey, comment := "" }), .confirm "guess", .confirm "t0ken"]

/-- The daemon is killed once the rule is in place, and cannot list the rules when it is
started again. -/
def brokenHost : Host (RuleKey ⊕ Address) :=
  hostWith fun tick => if tick = 2 then .killed true else if tick = 4 then .failed else .done

def killed : Panel (RuleKey ⊕ Address) :=
  idle.after brokenHost plainSecrets [.change (addRuleRequest brokenHost { key := mailKey, comment := "" })]

end Boron.Confirmation
