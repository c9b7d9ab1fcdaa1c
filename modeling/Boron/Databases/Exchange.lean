import Boron.Databases.Rename

namespace Boron.Databases.Rename
open List Sys

section
variable {world : World} {request : Request} {plan : Plan} {work mid left : Work} {saved : Content}
  {outcome : Login → Outcome} {name : String} {assignment : Assignment}

def grantedTo (assignment : Assignment) : List Privilege :=
  (normalizeDatabasePrivileges assignment.preset assignment.custom).getD []

theorem normalize_hosted {preset : Preset} {custom granted : List Privilege}
    (normalized : normalizeDatabasePrivileges preset custom = some granted) : ∀ privilege ∈ granted, privilege ∈ hostedPrivileges := by
  intro privilege member
  cases preset with
  | all =>
    cases normalized
    exact member
  | readOnly =>
    cases normalized
    rw [mem_singleton.mp member]
    decide
  | custom =>
    simp only [normalizeDatabasePrivileges] at normalized
    split at normalized
    · next valid =>
      cases normalized
      rw [Bool.and_eq_true, all_eq_true] at valid
      exact of_decide_eq_true (valid.1 privilege (mem_eraseDups.mp member))
    · cases normalized

def Grants (outcome : Login → Outcome) (server : Server) (assignment : Assignment) : Prop :=
  outcome assignment.login = .done ∧ (normalizeDatabasePrivileges assignment.preset assignment.custom).isSome ∧
    assignment.login ∈ server.logins

/-- What a part of the rename leaves of the old database, the rows and the local variables. -/
structure Beside (old : String) (work left : Work) : Prop where
  database : left.server.databases old = work.server.databases old
  held : ∀ held, held.database = old → (held ∈ left.server.held ↔ held ∈ work.server.held)
  logins : left.server.logins = work.server.logins
  registry : left.registry = work.registry
  switched : left.switched = work.switched
  revoked : left.revoked = work.revoked

instance (old : String) : Std.Refl (Beside old) := ⟨fun _ => ⟨rfl, fun _ _ => Iff.rfl, rfl, rfl, rfl, rfl⟩⟩

instance (old : String) : IsTrans Work (Beside old) := ⟨fun _ _ _ first second =>
  ⟨second.database.trans first.database, fun held on => (second.held held on).trans (first.held held on),
    second.logins.trans first.logins, second.registry.trans first.registry, second.switched.trans first.switched,
    second.revoked.trans first.revoked⟩⟩

variable {R : Work → Work → Prop}

theorem expect_keeps [Std.Refl R] (holds : Bool) : Sys.Keeps R (expect holds) := by
  unfold expect
  split
  · exact Sys.Keeps.pure ()
  · exact Sys.Keeps.fail []

theorem orRaise_keeps [Std.Refl R] {α : Type} (value : Option α) : Sys.Keeps R (orRaise value) := by
  cases value with
  | none => exact Sys.Keeps.fail []
  | some value => exact Sys.Keeps.pure value

theorem perform_keeps [Std.Refl R] [IsTrans Work R] (outcome : Outcome) {effect : Work → Work}
    (step : ∀ work, R work (effect work)) : Sys.Keeps R (perform outcome effect) := by
  cases outcome with
  | done => exact Sys.Keeps.modify step
  | refused => exact Sys.Keeps.fail []
  | late => exact (Sys.Keeps.modify step).bind fun _ => Sys.Keeps.fail []

variable {login : Login}

theorem isHosted_of_other {held : Held} (apart : held.database ≠ name) : held.isHosted name login = false := by
  simp [Held.isHosted, apart]

variable {old : String}

theorem grant_beside {granted : List Privilege} (apart : old ≠ name) (work : Work) :
    Beside old work { work with server := work.server.grantPrivileges name login granted } := by
  refine ⟨rfl, fun held on => ?_, rfl, rfl, rfl, rfl⟩
  have elsewhere : held.database ≠ name := on ▸ apart
  rw [Server.mem_grantPrivileges, isHosted_of_other elsewhere]
  simp [elsewhere]

theorem revoke_beside (apart : old ≠ name) (work : Work) :
    Beside old work { work with server := work.server.revokeAll name login } := by
  refine ⟨rfl, fun held on => ?_, rfl, rfl, rfl, rfl⟩
  rw [Server.mem_revokeAll, isHosted_of_other (on ▸ apart)]
  simp

theorem grantAssignment_beside (apart : old ≠ name) (assignment : Assignment) :
    Sys.Keeps (Beside old) (grantAssignment outcome name assignment) := by
  refine Sys.Keeps.get.bind fun work => (orRaise_keeps _).bind fun granted => (expect_keeps _).bind fun _ => ?_
  exact perform_keeps _ (grant_beside apart)

theorem revokeAll_beside (apart : old ≠ name) (assignment : Assignment) :
    Sys.Keeps (Beside old) (revokeAll outcome name assignment) := perform_keeps _ (revoke_beside apart)

theorem copyDatabase_beside (apart : plan.old ≠ plan.new) : Sys.Keeps (Beside plan.old) (copyDatabase world plan saved) := by
  refine (perform_keeps _ fun work => ?_).bind fun _ => (expect_keeps _).bind fun _ =>
    Sys.Keeps.get.bind fun work => expect_keeps _
  exact ⟨Server.fill_other apart, fun _ _ => Iff.rfl, rfl, rfl, rfl, rfl⟩

theorem fillNew_beside (apart : plan.old ≠ plan.new) : Sys.Keeps (Beside plan.old) (fillNew world plan saved) :=
  (copyDatabase_beside apart).bind fun _ => Sys.Keeps.each fun assignment _ => grantAssignment_beside apart assignment

theorem grantAssignment_ok (grants : Grants outcome work.server assignment) :
    (grantAssignment outcome name assignment).run work
      = (.ok (), { work with server := work.server.grantPrivileges name assignment.login (grantedTo assignment) }) := by
  obtain ⟨done, valid, known⟩ := grants
  obtain ⟨granted, normalized⟩ := Option.isSome_iff_exists.mp valid
  unfold grantAssignment grantedTo
  rw [run_get_bind, normalized, done]
  simp only [orRaise, expect, known, decide_true, if_true]
  rfl

theorem grantAssignment_of_ok (run : (grantAssignment outcome name assignment).run work = (.ok (), left)) :
    Grants outcome work.server assignment := by
  unfold grantAssignment at run
  rw [run_get_bind] at run
  obtain ⟨granted, _, normalized, rest⟩ := bind_eq_ok.mp run
  obtain ⟨_, _, known, called⟩ := bind_eq_ok.mp rest
  cases valid : normalizeDatabasePrivileges assignment.preset assignment.custom with
  | none =>
    rw [valid] at normalized
    cases normalized
  | some value =>
    have inside : assignment.login ∈ work.server.logins := by
      by_contra missing
      simp only [expect, missing, decide_false, Bool.false_eq_true, if_false] at known
      cases known
    refine ⟨?_, valid ▸ rfl, inside⟩
    cases ended : outcome assignment.login with
    | done => rfl
    | refused =>
      rw [ended] at called
      cases called
    | late =>
      rw [ended] at called
      cases called

def grantAll (name : String) (assignments : List Assignment) (server : Server) : Server :=
  assignments.foldl (fun server assignment => server.grantPrivileges name assignment.login (grantedTo assignment)) server

theorem grantAll_databases {assignments : List Assignment} {server : Server} :
    (grantAll name assignments server).databases = server.databases := by
  induction assignments generalizing server with
  | nil => rfl
  | cons assignment rest ih => exact ih

theorem grantAll_logins {assignments : List Assignment} {server : Server} :
    (grantAll name assignments server).logins = server.logins := by
  induction assignments generalizing server with
  | nil => rfl
  | cons assignment rest ih => exact ih

variable {todo : List Assignment}

variable (name) in
theorem grants_ok (grants : ∀ assignment ∈ todo, Grants outcome work.server assignment) :
    (each (grantAssignment outcome name) todo).run work
      = (.ok (), { work with server := grantAll name todo work.server }) := by
  induction todo generalizing work with
  | nil => rfl
  | cons assignment rest ih =>
    refine (bind_of_ok (grantAssignment_ok (grants assignment mem_cons_self))).trans ?_
    exact ih fun other inside => grants other (mem_cons_of_mem _ inside)

theorem grants_of_ok (run : (each (grantAssignment outcome name) todo).run work = (.ok (), left)) :
    ∀ assignment ∈ todo, Grants outcome work.server assignment := by
  induction todo generalizing work with
  | nil => exact nofun
  | cons assignment rest ih =>
    obtain ⟨_, mid, first, later⟩ := bind_eq_ok.mp run
    have grants := grantAssignment_of_ok first
    rw [grantAssignment_ok grants] at first
    cases first
    intro other inside
    rcases mem_cons.mp inside with rfl | inside
    · exact grants
    · exact ih later other inside

structure Fills (world : World) (plan : Plan) (saved : Content) (server : Server) : Prop where
  restore : world.restore = .done
  recounted : world.recounted = true
  tables : (world.copy saved).length = saved.length
  grants : ∀ assignment ∈ plan.assignments, Grants world.grant server assignment

theorem copyDatabase_ok (restore : world.restore = .done) (recounted : world.recounted = true)
    (tables : (world.copy saved).length = saved.length) :
    (copyDatabase world plan saved).run work = (.ok (), { work with server := work.server.fill plan.new saved }) := by
  have counted : saved.length = (work.server.fill plan.new saved).tableCount plan.new := by simp [Server.tableCount]
  have restored : (onServer world.restore (Server.fill plan.new (world.copy saved))).run work
      = (.ok (), { work with server := work.server.fill plan.new saved }) := by
    rw [restore, world.complete saved tables]
    rfl
  refine (bind_of_ok restored).trans ?_
  rw [recounted]
  exact congrFun (congrArg run (if_pos (decide_eq_true counted))) _

theorem copyDatabase_of_ok (run : (copyDatabase world plan saved).run work = (.ok (), left)) :
    world.restore = .done ∧ world.recounted = true ∧ (world.copy saved).length = saved.length := by
  obtain ⟨_, mid, restored, rest⟩ := bind_eq_ok.mp run
  cases ended : world.restore with
  | refused =>
    rw [ended] at restored
    cases restored
  | late =>
    rw [ended] at restored
    cases restored
  | done =>
    rw [ended] at restored
    cases restored
    obtain ⟨_, _, counts, compares⟩ := bind_eq_ok.mp rest
    rw [run_get_bind] at compares
    unfold expect at counts compares
    split at counts
    · next recounted =>
      cases counts
      split at compares
      · next same =>
        refine ⟨rfl, recounted, ?_⟩
        have counted := of_decide_eq_true same
        simpa [Server.tableCount] using counted.symm
      · cases compares
    · cases counts

theorem fillNew_ok (fills : Fills world plan saved work.server) :
    ∃ mid, (fillNew world plan saved).run work = (.ok (), mid) ∧ mid.server.databases plan.new = some saved := by
  have grants : ∀ assignment ∈ plan.assignments, Grants world.grant (work.server.fill plan.new saved) assignment := fills.grants
  refine ⟨_, (bind_of_ok (copyDatabase_ok fills.restore fills.recounted fills.tables)).trans (grants_ok plan.new grants), ?_⟩
  rw [grantAll_databases, Server.fill_self]

theorem fillNew_of_ok (run : (fillNew world plan saved).run work = (.ok (), left)) : Fills world plan saved work.server := by
  obtain ⟨_, mid, copied, rest⟩ := bind_eq_ok.mp run
  obtain ⟨restore, recounted, tables⟩ := copyDatabase_of_ok copied
  rw [copyDatabase_ok restore recounted tables] at copied
  cases copied
  have grants := grants_of_ok rest
  exact ⟨restore, recounted, tables, grants⟩

/-- Only what the logins hold may change. -/
structure OnlyHeld (work left : Work) : Prop where
  databases : left.server.databases = work.server.databases
  logins : left.server.logins = work.server.logins
  registry : left.registry = work.registry
  switched : left.switched = work.switched
  revoked : left.revoked = work.revoked

instance : Std.Refl OnlyHeld := ⟨fun _ => ⟨rfl, rfl, rfl, rfl, rfl⟩⟩

instance : IsTrans Work OnlyHeld := ⟨fun _ _ _ first second =>
  ⟨second.databases.trans first.databases, second.logins.trans first.logins, second.registry.trans first.registry,
    second.switched.trans first.switched, second.revoked.trans first.revoked⟩⟩

theorem grantAssignment_onlyHeld (assignment : Assignment) : Sys.Keeps OnlyHeld (grantAssignment outcome name assignment) := by
  refine Sys.Keeps.get.bind fun work => (orRaise_keeps _).bind fun granted => (expect_keeps _).bind fun _ => ?_
  exact perform_keeps _ fun work => ⟨rfl, rfl, rfl, rfl, rfl⟩

theorem revokeAll_onlyHeld (assignment : Assignment) : Sys.Keeps OnlyHeld (revokeAll outcome name assignment) :=
  perform_keeps _ fun _ => ⟨rfl, rfl, rfl, rfl, rfl⟩

variable {failure : Failure} {step : Act Unit}

theorem attempt_ok (run : step.run work = (.ok (), left)) : (attempt failure step).run work = (.ok [], left) :=
  handle_of_ok ((bind_of_ok run).trans rfl)

theorem attempt_error {failures : List Failure}
    (run : step.run work = (.error failures, left)) : (attempt failure step).run work = (.ok [failure], left) :=
  handle_of_error (bind_of_error run)

theorem attempt_keeps [Std.Refl R] [IsTrans Work R] (keeps : Sys.Keeps R step) : Sys.Keeps R (attempt failure step) :=
  (keeps.bind fun _ => Sys.Keeps.pure []).handle fun _ => Sys.Keeps.pure [failure]

section
variable {failure : Login → Failure} {step : Assignment → Act Unit}

theorem attemptAll_keeps {R : Work → Work → Prop} [Std.Refl R] [IsTrans Work R] (keeps : ∀ assignment, Sys.Keeps R (step assignment))
    (todo : List Assignment) : Sys.Keeps R (attemptAll failure step todo) := by
  induction todo with
  | nil => exact Sys.Keeps.pure []
  | cons assignment rest ih =>
    exact (attempt_keeps (keeps assignment)).bind fun first => ih.bind fun others => Sys.Keeps.pure _

variable (failure step) in
theorem attemptAll_ends (todo : List Assignment) (work : Work) : ∃ failures left,
    (attemptAll failure step todo).run work = (.ok failures, left) ∧
      (failures = [] → (each step todo).run work = (.ok (), left)) ∧
        ((∃ left, (each step todo).run work = (.ok (), left)) → failures = []) := by
  induction todo generalizing work with
  | nil => exact ⟨[], work, rfl, fun _ => rfl, fun _ => rfl⟩
  | cons assignment rest ih =>
    rw [each_cons]
    cases ran : (step assignment).run work with
    | mk result mid =>
      obtain ⟨others, left, later, silent, quiet⟩ := ih mid
      cases result with
      | ok _ =>
        refine ⟨others, left, ?_, ?_, ?_⟩
        · exact (bind_of_ok (attempt_ok ran)).trans ((bind_of_ok later).trans rfl)
        · rw [bind_of_ok ran]
          exact silent
        · rw [bind_of_ok ran]
          exact quiet
      | error failures =>
        refine ⟨failure assignment.login :: others, left, ?_, ?_, ?_⟩
        · exact (bind_of_ok (attempt_error ran)).trans ((bind_of_ok later).trans rfl)
        · exact fun never => absurd never (cons_ne_nil _ _)
        · rw [bind_of_error ran]
          rintro ⟨_, never⟩
          cases never

end

theorem revokes_ok (done : ∀ assignment ∈ todo, outcome assignment.login = .done) :
    ∃ left, (each (revokeAll outcome name) todo).run work = (.ok (), left) := by
  induction todo generalizing work with
  | nil => exact ⟨work, rfl⟩
  | cons assignment rest ih =>
    have first : (revokeAll outcome name assignment).run work
        = (.ok (), { work with server := work.server.revokeAll name assignment.login }) := by
      unfold revokeAll
      rw [done assignment mem_cons_self]
      rfl
    obtain ⟨left, later⟩ := ih fun other inside => done other (mem_cons_of_mem _ inside)
    exact ⟨left, (bind_of_ok first).trans later⟩

theorem perform_of_ok {ended : Outcome} {effect : Work → Work} (run : (perform ended effect).run work = (.ok (), left)) :
    ended = .done := by
  cases ended with
  | done => rfl
  | refused => cases run
  | late => cases run

theorem revokes_of_ok (run : (each (revokeAll outcome name) todo).run work = (.ok (), left)) :
    ∀ assignment ∈ todo, outcome assignment.login = .done := by
  induction todo generalizing work with
  | nil => exact nofun
  | cons assignment rest ih =>
    obtain ⟨_, mid, first, later⟩ := bind_eq_ok.mp run
    intro other inside
    rcases mem_cons.mp inside with rfl | inside
    · exact perform_of_ok first
    · exact ih later other inside

/-- Every call of the recovery succeeds. -/
structure Silent (world : World) (plan : Plan) (work : Work) : Prop where
  grants : ∀ assignment ∈ work.revoked, Grants world.grantBack work.server assignment
  row : work.switched = true → world.switchBack = .done
  others : ∀ assignment ∈ plan.assignments, world.revokeNew assignment.login = .done
  replacement : world.dropNew = .done

structure IsRecovered (world : World) (plan : Plan) (row : DatabaseGrant) (work : Work) (failures : List Failure) (left : Work) :
    Prop where
  old : left.server.databases plan.old = work.server.databases plan.old
  new : left.server.databases plan.new = if world.dropNew = .refused then work.server.databases plan.new else none
  registry : left.registry = if work.switched = true ∧ row.dbName = plan.new ∧ world.switchBack ≠ .refused
    then work.registry.renameGrant plan.grantId plan.old else work.registry
  silent : failures = [] ↔ Silent world plan work
  held : failures = [] → ∀ held, held.database = plan.old →
    (held ∈ left.server.held ↔ held ∈ (grantAll plan.old work.revoked work.server).held)

def switchedBack (world : World) (plan : Plan) (row : DatabaseGrant) (work : Work) : Work :=
  if work.switched = true ∧ row.dbName = plan.new ∧ world.switchBack ≠ .refused
  then { work with registry := work.registry.renameGrant plan.grantId plan.old } else work

variable (world) in
theorem restoreIfSwitched_run {row : DatabaseGrant}
    (found : Rows.byKey DatabaseGrant.id work.registry.grants plan.grantId = some row) : ∃ failures,
      (restoreIfSwitched world plan).run work = (.ok failures, switchedBack world plan row work) ∧
        (failures = [] ↔ (work.switched = true → world.switchBack = .done)) := by
  unfold restoreIfSwitched
  rw [run_get_bind]
  cases switched : work.switched with
  | false =>
    refine ⟨[], ?_, by simp⟩
    rw [switchedBack, switched, if_neg (by simp), if_neg (by simp)]
    rfl
  | true =>
    have session : (restoreRegistration world plan).run work = (perform world.switchBack fun work =>
        if row.dbName = plan.new then { work with registry := work.registry.renameGrant plan.grantId plan.old } else work).run
          work := by
      unfold restoreRegistration
      rw [run_get_bind, found]
    unfold switchedBack
    cases ended : world.switchBack with
    | done =>
      rw [ended] at session
      refine ⟨[], (attempt_ok session).trans ?_, by simp⟩
      exact congrArg (Prod.mk _) (if_congr (by simp [switched]) rfl rfl)
    | refused =>
      rw [ended] at session
      refine ⟨[.restoreRegistration], (attempt_error session).trans ?_, by simp⟩
      simp
    | late =>
      rw [ended] at session
      refine ⟨[.restoreRegistration], (attempt_error session).trans ?_, by simp⟩
      exact congrArg (Prod.mk _) (if_congr (by simp [switched]) rfl rfl)

variable (world plan work) in
theorem dropNew_run : ∃ failures,
    (attempt .removeReplacement (onServer world.dropNew (Server.dropDatabase plan.new))).run work
      = (.ok failures, if world.dropNew = .refused then work
          else { work with server := work.server.dropDatabase plan.new }) ∧ (failures = [] ↔ world.dropNew = .done) := by
  cases ended : world.dropNew with
  | done => exact ⟨[], attempt_ok rfl, by simp⟩
  | refused => exact ⟨[.removeReplacement], attempt_error rfl, by simp⟩
  | late => exact ⟨[.removeReplacement], attempt_error rfl, by simp⟩

variable (world) in
theorem recover_run {row : DatabaseGrant} (apart : plan.old ≠ plan.new)
    (found : Rows.byKey DatabaseGrant.id work.registry.grants plan.grantId = some row) : ∃ failures left,
      (recover world plan).run work = (.error failures, left) ∧ IsRecovered world plan row work failures left := by
  obtain ⟨grants, regranted, first, granted, noGrants⟩ :=
    attemptAll_ends .restoreGrant (grantAssignment world.grantBack plan.old) work.revoked work
  have only : OnlyHeld work regranted := by
    have keeps : Sys.Keeps OnlyHeld (attemptAll .restoreGrant (grantAssignment world.grantBack plan.old) work.revoked) :=
      attemptAll_keeps grantAssignment_onlyHeld _
    have kept := keeps work
    rwa [first] at kept
  have found' : Rows.byKey DatabaseGrant.id regranted.registry.grants plan.grantId = some row := by rwa [only.registry]
  obtain ⟨registration, second, noRegistration⟩ := restoreIfSwitched_run world found'
  obtain ⟨others, removed, third, revoked, noOthers⟩ :=
    attemptAll_ends .removeGrant (revokeAll world.revokeNew plan.new) plan.assignments (switchedBack world plan row regranted)
  obtain ⟨replacement, fourth, noReplacement⟩ := dropNew_run world plan removed
  have only' : OnlyHeld (switchedBack world plan row regranted) removed := by
    have keeps : Sys.Keeps OnlyHeld (attemptAll .removeGrant (revokeAll world.revokeNew plan.new) plan.assignments) :=
      attemptAll_keeps revokeAll_onlyHeld _
    have kept := keeps (switchedBack world plan row regranted)
    rwa [third] at kept
  have beside : Beside plan.old (switchedBack world plan row regranted) removed := by
    have keeps : Sys.Keeps (Beside plan.old) (attemptAll .removeGrant (revokeAll world.revokeNew plan.new) plan.assignments) :=
      attemptAll_keeps (revokeAll_beside apart) _
    have kept := keeps (switchedBack world plan row regranted)
    rwa [third] at kept
  have sameServer : (switchedBack world plan row regranted).server = regranted.server := by
    unfold switchedBack
    split <;> rfl
  refine ⟨_, _, (bind_of_ok first).trans ((bind_of_ok second).trans ((bind_of_ok third).trans
    (bind_of_ok fourth))), ?_, ?_, ?_, ?_, ?_⟩
  · have old : removed.server.databases plan.old = work.server.databases plan.old := by
      rw [only'.databases, sameServer, only.databases]
    split
    · exact old
    · exact (Server.dropDatabase_other apart).trans old
  · split
    · rw [only'.databases, sameServer, only.databases]
    · exact Server.dropDatabase_self
  · have rows : removed.registry = if work.switched = true ∧ row.dbName = plan.new ∧ world.switchBack ≠ .refused
        then work.registry.renameGrant plan.grantId plan.old else work.registry := by
      rw [only'.registry, switchedBack, only.switched, ← only.registry]
      split <;> rfl
    split <;> exact rows
  · have regrant : grants = [] ↔ ∀ assignment ∈ work.revoked, Grants world.grantBack work.server assignment :=
      ⟨fun none => grants_of_ok (granted none), fun all => noGrants ⟨_, grants_ok plan.old all⟩⟩
    have revoke : others = [] ↔ ∀ assignment ∈ plan.assignments, world.revokeNew assignment.login = .done :=
      ⟨fun none => revokes_of_ok (revoked none), fun all => noOthers (revokes_ok all)⟩
    simp only [append_eq_nil_iff, regrant, noRegistration, revoke, noReplacement, only.switched]
    constructor
    · rintro ⟨⟨⟨grants, row⟩, others⟩, replacement⟩
      exact ⟨grants, row, others, replacement⟩
    · rintro ⟨grants, row, others, replacement⟩
      exact ⟨⟨⟨grants, row⟩, others⟩, replacement⟩
  · intro silent held on
    simp only [append_eq_nil_iff] at silent
    have ran := granted silent.1.1.1
    have ran' := grants_ok plan.old (grants_of_ok ran)
    rw [ran] at ran'
    have server : regranted.server = grantAll plan.old work.revoked work.server :=
      congrArg (fun ended => ended.2.server) ran'
    have kept := beside.held held on
    rw [sameServer, server] at kept
    split <;> exact kept

end

end Boron.Databases.Rename
