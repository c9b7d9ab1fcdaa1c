import Boron.Confirmation.Steps

namespace Boron.Confirmation
open List Sys Firewall
variable {Id : Type}

/-- Every change that was started is the pending one or has one fate, and a confirmed one
was confirmed with its own token and in time. -/
structure Consistent (secrets : Secrets) (s : Panel Id) : Prop where
  paired : s.ticket.isSome = s.world.journal.isSome
  issued : ∀ ticket, s.ticket = some ticket → ∃ change ∈ s.started, change.changeId = ticket.changeId ∧
    ticket.tokenSha256 = secrets.sha256 change.token ∧ s.world.journal.map Journal.expiresAt = some change.expiresAt
  numbered : ∀ change ∈ s.started, change.changeId < s.started.length
  distinct : (s.started.map Started.changeId).Nodup
  settled : ∀ change ∈ s.started, (∃ ticket, s.ticket = some ticket ∧ ticket.changeId = change.changeId) ∨
    change.changeId ∈ s.fates.map Prod.fst
  once : (s.fates.map Prod.fst).Nodup
  open_ : ∀ ticket, s.ticket = some ticket → ticket.changeId ∉ s.fates.map Prod.fst
  known : ∀ changeId ∈ s.fates.map Prod.fst, ∃ change ∈ s.started, change.changeId = changeId
  own : ∀ changeId token confirmedAt, (changeId, Fate.confirmed token confirmedAt) ∈ s.fates →
    ∃ change ∈ s.started, change.changeId = changeId ∧ secrets.sha256 token = secrets.sha256 change.token ∧
      confirmedAt < change.expiresAt

/-- While the daemon serves, the rollback of the pending change is scheduled, or has been
attempted. -/
def Watched (s : Panel Id) : Prop :=
  ∀ ticket, s.ticket = some ticket → s.serving = true → ticket.changeId ∉ s.attempted → ticket.changeId ∈ s.units

/-- The pending change stays as it is; its rollback may have been scheduled. -/
structure Calm (s s' : Panel Id) : Prop where
  expires : s'.world.journal.map Journal.expiresAt = s.world.journal.map Journal.expiresAt
  ticket : s'.ticket = s.ticket
  started : s'.started = s.started
  fates : s'.fates = s.fates

theorem Calm.trans {s mid s' : Panel Id} (first : Calm s mid) (second : Calm mid s') : Calm s s' :=
  ⟨second.expires.trans first.expires, second.ticket.trans first.ticket, second.started.trans first.started,
    second.fates.trans first.fates⟩

theorem Quiet.calm {s s' : Panel Id} (quiet : Quiet s s') : Calm s s' :=
  ⟨quiet.expires, quiet.ticket, quiet.started, quiet.fates⟩

theorem Held.calm {s s' : Panel Id} (held : Held s s') : Calm s s' := ⟨held.expires, held.ticket, held.started, held.fates⟩

section
variable {secrets : Secrets} {s s' : Panel Id}

theorem Consistent.calm (consistent : Consistent secrets s) (calm : Calm s s') : Consistent secrets s' := by
  obtain ⟨expires, ticket, started, fates⟩ := calm
  have pending : s'.world.journal.isSome = s.world.journal.isSome := by
    rw [← Option.isSome_map (f := Journal.expiresAt), expires, Option.isSome_map]
  constructor
  · rw [ticket, pending]
    exact consistent.paired
  · rw [ticket, started, expires]
    exact consistent.issued
  · rw [started]
    exact consistent.numbered
  · rw [started]
    exact consistent.distinct
  · rw [started, ticket, fates]
    exact consistent.settled
  · rw [fates]
    exact consistent.once
  · rw [ticket, fates]
    exact consistent.open_
  · rw [fates, started]
    exact consistent.known
  · rw [fates, started]
    exact consistent.own

def Earned (secrets : Secrets) (s : Panel Id) (fate : Fate) : Prop :=
  ∀ ticket token confirmedAt, s.ticket = some ticket → fate = .confirmed token confirmedAt →
    secrets.sha256 token = ticket.tokenSha256 ∧ ∀ journal, s.world.journal = some journal → confirmedAt < journal.expiresAt

theorem Consistent.closed {fate : Fate} (consistent : Consistent secrets s) (closed : Closed fate s s')
    (earned : Earned secrets s fate) : Consistent secrets s' := by
  obtain ⟨journal, ticket, started, fates⟩ := closed
  have gone (other : Ticket) : s'.ticket ≠ some other := by
    rw [ticket]
    rintro ⟨⟩
  cases pending : s.ticket with
  | none =>
    rw [pending] at fates
    have same : s'.fates = s.fates := fates
    have absent : s.world.journal.isSome = false := by rw [← consistent.paired, pending]; rfl
    refine consistent.calm ⟨?_, ticket.trans pending.symm, started, same⟩
    cases before : s.world.journal with
    | none => rw [journal]
    | some held => simp [before] at absent
  | some held =>
    rw [pending] at fates
    have listed : s'.fates = (held.changeId, fate) :: s.fates := fates
    obtain ⟨change, member, same, digest, window⟩ := consistent.issued held pending
    constructor
    · rw [ticket, journal]
      rfl
    · exact fun other present => absurd present (gone other)
    · rw [started]
      exact consistent.numbered
    · rw [started]
      exact consistent.distinct
    · rw [started, listed]
      intro other inside
      refine .inr ?_
      rcases consistent.settled other inside with ⟨own, present, named⟩ | ended
      · cases pending.symm.trans present
        rw [map_cons, ← named]
        exact mem_cons_self
      · exact mem_cons_of_mem _ ended
    · rw [listed, map_cons]
      exact Nodup.cons (consistent.open_ held pending) consistent.once
    · exact fun other present => absurd present (gone other)
    · rw [listed, map_cons, started]
      intro changeId inside
      rcases mem_cons.mp inside with newest | earlier
      · exact ⟨change, member, same.trans newest.symm⟩
      · exact consistent.known changeId earlier
    · rw [listed, started]
      intro changeId token confirmedAt inside
      rcases mem_cons.mp inside with newest | earlier
      · obtain ⟨rfl, fated⟩ := Prod.mk.inj newest
        obtain ⟨matched, early⟩ := earned held token confirmedAt pending fated.symm
        refine ⟨change, member, same, matched.trans digest, ?_⟩
        cases written : s.world.journal with
        | none => rw [written] at window; cases window
        | some journal =>
          rw [written] at window
          have same : journal.expiresAt = change.expiresAt := Option.some.inj window
          rw [← same]
          exact early journal written
      · exact consistent.own changeId token confirmedAt earlier

theorem earned_undone : Earned secrets s .undone := by
  rintro ticket token confirmedAt _ ⟨⟩

/-- What every call, whether it raises or not, leaves behind. -/
structure Good (secrets : Secrets) (s : Panel Id) : Prop where
  consistent : Consistent secrets s
  watched : Watched s

theorem Good.quiet (good : Good secrets s) (quiet : Quiet s s') (serves : s'.serving = true → s.serving = true) :
    Good secrets s' := by
  refine ⟨good.consistent.calm quiet.calm, fun ticket present serving unattempted => ?_⟩
  rw [quiet.ticket] at present
  rw [quiet.attempted] at unattempted
  rw [quiet.units]
  exact good.watched ticket present (serves serving) unattempted

section
variable (consistent : Consistent secrets s)
include consistent

theorem Consistent.good_closed {fate : Fate} (closed : Closed fate s s')
    (earned : Earned secrets s fate) : Good secrets s' := by
  refine ⟨consistent.closed closed earned, fun ticket present => ?_⟩
  rw [closed.ticket] at present
  cases present

theorem Consistent.good_rolled (rolled : Rolled s s') : Good secrets s' := by
  rcases rolled with closed | held
  · exact consistent.good_closed closed earned_undone
  · refine ⟨consistent.calm held.calm, fun ticket present _ unattempted => ?_⟩
    refine absurd ?_ unattempted
    rw [held.ticket] at present
    rw [held.attempted, present]
    exact mem_cons_self

theorem Consistent.good_down (down : s.serving = false) : Good secrets s :=
  ⟨consistent, fun _ _ serving => by cases down.symm.trans serving⟩

theorem Consistent.good_settled (settled : s.ticket = none) : Good secrets s :=
  ⟨consistent, fun _ present => by cases settled.symm.trans present⟩

/-- The journal of a new change is on disk. -/
theorem Consistent.opened (settled : s.world.journal = none) (journal : Journal Id)
    (tick : Nat) : Consistent secrets
      (Panel.open_ secrets journal { s with world := { s.world with tick, journal := some journal } }) := by
  have none : s.ticket = none := by
    have paired := consistent.paired
    rw [settled] at paired
    exact Option.not_isSome_iff_eq_none.mp (by simp [paired])
  have later (change : Started) (member : change ∈ s.started) : change.changeId ≠ s.started.length :=
    Nat.ne_of_lt (consistent.numbered change member)
  constructor
  · rfl
  · rintro ticket ⟨⟩
    exact ⟨_, mem_cons_self, rfl, rfl, rfl⟩
  · intro change member
    rcases mem_cons.mp member with newest | earlier
    · rw [newest]
      exact Nat.lt_succ_self _
    · exact Nat.lt_succ_of_lt (consistent.numbered change earlier)
  · refine Nodup.cons (fun member => ?_) consistent.distinct
    obtain ⟨change, inside, same⟩ := mem_map.mp member
    exact later change inside same
  · intro change member
    rcases mem_cons.mp member with newest | earlier
    · rw [newest]
      exact .inl ⟨_, rfl, rfl⟩
    · rcases consistent.settled change earlier with ⟨ticket, present, _⟩ | ended
      · cases none.symm.trans present
      · exact .inr ended
  · exact consistent.once
  · rintro ticket ⟨⟩ ended
    obtain ⟨change, member, same⟩ := consistent.known _ ended
    exact later change member same
  · intro changeId ended
    obtain ⟨change, member, same⟩ := consistent.known changeId ended
    exact ⟨change, mem_cons_of_mem _ member, same⟩
  · intro changeId token confirmedAt fated
    obtain ⟨change, member, same⟩ := consistent.own changeId token confirmedAt fated
    exact ⟨change, mem_cons_of_mem _ member, same⟩

end

end

section
variable {host : Host Id} {secrets : Secrets} {s : Panel Id}

theorem armRollback_spec (host : Host Id) (s : Panel Id) : Calm s ((armRollback host).run s).2 ∧
    (((armRollback host).run s).1 = .ok () → ∀ ticket, s.ticket = some ticket →
      ticket.changeId ∈ ((armRollback host).run s).2.units) := by
  unfold armRollback
  rw [run_modify_bind]
  unfold onRaise handle
  dsimp only
  rcases noting_cases host "could not schedule the independent firewall rollback timer" id
    (fun s => { s with units := s.ticket.toList.map Ticket.changeId ++ s.units }) { s with thread := true }
    with ⟨result, ran, unraised⟩ | ⟨fault, ran⟩
  · rw [ran]
    cases result with
    | ok value =>
      refine ⟨⟨rfl, rfl, rfl, rfl⟩, fun _ ticket present => ?_⟩
      rw [present]
      exact mem_cons_self
    | error fault =>
      cases fault with
      | killed => exact ⟨⟨rfl, rfl, rfl, rfl⟩, by rintro ⟨⟩⟩
      | raised message => exact absurd rfl (unraised message)
  · rw [ran]
    cases fault with
    | killed => exact ⟨⟨rfl, rfl, rfl, rfl⟩, by rintro ⟨⟩⟩
    | raised message => exact ⟨⟨rfl, rfl, rfl, rfl⟩, by rintro ⟨⟩⟩

theorem downs_armRollback : Downs (armRollback host) :=
  (downs_modify _).bind fun _ => (downs_noting _ _ _).onRaise fun _ => (downs_modify _).bind fun _ => downs_raise _

variable [DecidableEq Id]

theorem guardedChange_good (consistent : Consistent secrets s) {journal : Journal Id} {apply : Fw Id Unit}
    (same : Keeps SameJournal apply) (pending : s.world.journal.map Journal.expiresAt = some journal.expiresAt) :
    Good secrets ((guardedChange host journal apply).run s).2 := by
  let body : Pn Id Unit := do
    onWorld apply
    onWorld (verifyProtectedAccess host)
    onWorld (writePending host { journal with stage := .pendingConfirmation })
    armRollback host
  have downs : Downs body :=
    (downs_onWorld _).bind fun _ => (downs_onWorld _).bind fun _ => (downs_onWorld _).bind fun _ => downs_armRollback
  have spec : Calm s (body.run s).2 ∧ ((body.run s).1 = .ok () → ∀ ticket, s.ticket = some ticket →
      ticket.changeId ∈ (body.run s).2.units) := by
    have applied := onWorld_quiet same s
    rw [run_bind]
    cases first : (onWorld apply).run s with
    | mk result one =>
      rw [first] at applied
      cases result with
      | error fault => exact ⟨applied.calm, by rintro ⟨⟩⟩
      | ok value =>
        have verified := onWorld_quiet (@verifyProtectedAccess_keeps _ host _ _ _ journal_ticked) one
        dsimp only
        rw [run_bind]
        cases second : (onWorld (verifyProtectedAccess host)).run one with
        | mk result two =>
          rw [second] at verified
          have reached := applied.trans verified
          cases result with
          | error fault => exact ⟨reached.calm, by rintro ⟨⟩⟩
          | ok value =>
            have rewritten := rewrite_quiet host { journal with stage := .pendingConfirmation }
              (reached.expires.trans pending)
            dsimp only
            rw [run_bind]
            cases third : (onWorld (writePending host { journal with stage := .pendingConfirmation })).run two with
            | mk result three =>
              rw [third] at rewritten
              have written := reached.trans rewritten
              cases result with
              | error fault => exact ⟨written.calm, by rintro ⟨⟩⟩
              | ok value =>
                obtain ⟨calm, armed⟩ := armRollback_spec host three
                exact ⟨written.calm.trans calm, fun ended ticket present => armed ended ticket (written.ticket.trans present)⟩
  obtain ⟨calm, armed⟩ := spec
  have whole : guardedChange host journal apply = onRaise body (fun message =>
      (do rollbackState host journal "change or verification failed"; raise message)) := rfl
  rw [whole]
  unfold onRaise handle
  dsimp only
  have down := downs s
  cases run : body.run s with
  | mk result mid =>
    rw [run] at calm armed down
    have kept := consistent.calm calm
    cases result with
    | ok value =>
      refine ⟨kept, fun ticket present _ _ => armed rfl ticket ?_⟩
      rw [← calm.ticket]
      exact present
    | error fault =>
      cases fault with
      | killed => exact kept.good_down (down rfl)
      | raised message =>
        obtain ⟨rolled, _⟩ := rollbackState_spec host journal "change or verification failed" (calm.expires.trans pending)
        have good := kept.good_rolled rolled
        dsimp only
        rw [run_bind]
        cases back : (rollbackState host journal "change or verification failed").run mid with
        | mk result last =>
          rw [back] at good
          cases result with
          | ok value => exact good
          | error fault => exact good

theorem openPending_good (consistent : Consistent secrets s) (settled : s.world.journal = none) (journal : Journal Id)
    {apply : Fw Id Unit} (same : Keeps SameJournal apply) :
    Good secrets ((do openPending host secrets journal; guardedChange host journal apply : Pn Id Unit).run s).2 := by
  have unticketed : s.ticket = none := by
    have paired := consistent.paired
    rw [settled] at paired
    exact Option.not_isSome_iff_eq_none.mp (by simp [paired])
  rw [run_bind]
  unfold openPending
  rcases noting_cases host "write journal" (fun w => { w with journal := some journal })
    (Panel.open_ secrets journal) s with ⟨result, ran, unraised⟩ | ⟨fault, ran⟩
  · have opened := consistent.opened settled journal (s.world.tick + 1)
    rw [ran]
    cases result with
    | ok value => exact guardedChange_good opened same rfl
    | error fault =>
      cases fault with
      | killed => exact Consistent.good_down (opened.calm ⟨rfl, rfl, rfl, rfl⟩) rfl
      | raised message => exact absurd rfl (unraised message)
  · rw [ran]
    have calm : Calm s { s with world := { s.world with tick := s.world.tick + 1 } } := ⟨rfl, rfl, rfl, rfl⟩
    have quiet := fell_quiet (.error fault : Except Fault Unit)
      { s with world := { s.world with tick := s.world.tick + 1 } }
    exact Consistent.good_settled (consistent.calm (calm.trans quiet.calm)) (quiet.ticket.trans unticketed)

theorem startChange_good (good : Good secrets s) (request : Request Id) :
    Good secrets ((startChange host secrets request).run s).2 := by
  unfold startChange
  rw [run_get_bind]
  cases pending : s.world.journal with
  | none => exact openPending_good good.consistent pending _ request.keeps
  | some existing =>
    by_cases expired : existing.expiresAt ≤ host.now s.world.tick
    · simp only [expired, if_true]
      obtain ⟨rolled, closes⟩ := rollbackState_spec host existing "expired before the next change"
        (s := s) (by rw [pending]; rfl)
      have left := good.consistent.good_rolled rolled
      rw [run_bind]
      cases back : (rollbackState host existing "expired before the next change").run s with
      | mk result mid =>
        rw [back] at left closes
        cases result with
        | error fault => exact left
        | ok value => exact openPending_good left.consistent (closes rfl).journal _ request.keeps
    · simp only [expired, if_false]
      exact good

theorem rollbackChange_good (host : Host Id) (good : Good secrets s) (reason : String) :
    Good secrets ((rollbackChange host reason).run s).2 := by
  unfold rollbackChange
  rw [run_get_bind]
  cases pending : s.world.journal with
  | none => exact good
  | some journal =>
    obtain ⟨rolled, _⟩ := rollbackState_spec host journal reason (s := s) (by rw [pending]; rfl)
    exact good.consistent.good_rolled rolled

theorem autoRollback_good (good : Good secrets s) : Good secrets ((autoRollback host).run s).2 := by
  have rolled := rollbackChange_good host good "confirmation window expired"
  unfold autoRollback onRaise handle
  dsimp only
  cases run : (rollbackChange host "confirmation window expired").run s with
  | mk result mid =>
    rw [run] at rolled
    cases result with
    | ok value => exact rolled
    | error fault => cases fault <;> exact rolled

theorem confirmChange_good (good : Good secrets s) (token : String) :
    Good secrets ((confirmChange host secrets token).run s).2 := by
  unfold confirmChange
  rw [run_get_bind]
  cases pending : s.world.journal with
  | none => exact good
  | some journal =>
    by_cases expired : journal.expiresAt ≤ host.now s.world.tick
    · simp only [expired, if_true]
      obtain ⟨rolled, _⟩ := rollbackState_spec host journal "confirmation arrived after expiry"
        (s := s) (by rw [pending]; rfl)
      have left := good.consistent.good_rolled rolled
      rw [run_bind]
      cases back : (rollbackState host journal "confirmation arrived after expiry").run s with
      | mk result mid =>
        rw [back] at left
        cases result with
        | ok value => exact left
        | error fault => exact left
    · simp only [expired, if_false]
      split
      · next accepted =>
        have earned : Earned secrets s (.confirmed token (host.now s.world.tick)) := by
          rintro ticket supplied confirmedAt present ⟨⟩
          rw [present] at accepted
          simp only [Option.any_some, Ticket.accepts, Bool.and_eq_true, decide_eq_true_eq] at accepted
          refine ⟨accepted.2, fun other written => ?_⟩
          cases pending.symm.trans written
          omega
        rcases clearPending_spec host (.confirmed token (host.now s.world.tick)) s with
          ⟨s', ran, closed⟩ | ⟨fault, s', ran, closed | ⟨quiet, serves⟩⟩
        · rw [ran]
          exact good.consistent.good_closed closed earned
        · rw [ran]
          exact good.consistent.good_closed closed earned
        · rw [ran]
          exact good.quiet quiet serves
      · exact good

end

end Boron.Confirmation
