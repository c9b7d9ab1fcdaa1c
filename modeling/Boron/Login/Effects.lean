import Boron.Login.Requests
import Mathlib.Logic.Relation

namespace Boron.Login
open Checks Relation

/-- What the requests may do: pass the gate, look at a password or a code, make a session,
change a password. A session without a login may always be made. -/
structure Allowance where
  gate : Store → Nat → Prop
  look : Store → Nat → String → Prop
  grant : Store → Session → Prop
  change : Store → Nat → Prop
  internal : ∀ store row, row.grant = none → row.generation = store.generation row.panelUserId → grant store row

def Allowance.all : Allowance where
  gate _ _ := True
  look _ _ _ := True
  grant _ _ := True
  change _ _ := True
  internal _ _ _ _ := trivial

inductive Effect (allowance : Allowance) : Store → Store → Prop
  | look {store} (request : Nat) (username : String) (now : Int) (permitted : allowance.look store request username) :
    Effect allowance store (store.note (.verified request username now))
  | record {store} (failures : List LoginFailureEvent) (policy : Option SecurityPolicySettings) :
    Effect allowance store { store with failures, policy }
  | gate {store} (request : Nat) (now : Int) (username : String) (permitted : allowance.gate store request) :
    Effect allowance store (checkLoginLockout request now username store).2
  | clear {store} (username : String) : Effect allowance store (recordLoginResult username true store)
  | session {store} (row : Session) (permitted : allowance.grant store row) :
    Effect allowance store { store with sessions := store.sessions ++ [row] }
  | password {store} (panelUserId : Nat) (passwordHash : String) (permitted : allowance.change store panelUserId) :
    Effect allowance store { store with
      users := store.users.map fun row => if row.id = panelUserId then { row with passwordHash } else row
      sessions := revokeSessions panelUserId store.sessions
      log := .changed panelUserId :: store.log }
  | enroll {store} (row : TotpCredential) (unused : row.lastUsedStep = none) : Effect allowance store { store with
      credentials := Rows.put TotpCredential.panelUserId row store.credentials
      log := .enrolled row.panelUserId :: store.log }
  | accept {store} (known credential : TotpCredential) (step : Int)
      (found : store.credential credential.panelUserId = some known)
      (same : known.lastUsedStep = credential.lastUsedStep)
      (later : ∀ last, credential.lastUsedStep = some last → last < step) :
    Effect allowance store (acceptStep credential step store)
  | renew {store} (panelUserId : Nat) (fresh : List TotpRecoveryCode) : Effect allowance store { store with
      codes := deleteCodes panelUserId store.codes ++ fresh
      log := fresh.map (fun row => .issued row.codeHash) ++ store.log }
  | disable {store} (panelUserId : Nat) : Effect allowance store { store with
      codes := deleteCodes panelUserId store.codes
      credentials := Rows.drop TotpCredential.panelUserId panelUserId store.credentials }
  | recovery {store} (now : Int) (row : TotpRecoveryCode) (present : row ∈ store.codes) (unused : row.usedAt = none) :
    Effect allowance store (useRecoveryCode now row.codeHash store)
  | challenge {store} (row : LoginChallenge) (unknown : store.challenge row.tokenHash = none)
      (current : row.generation = store.generation row.panelUserId) :
    Effect allowance store { store with challenges := store.challenges ++ [row] }
  | consume {store} (request : Nat) (digest : String) (now : Int) :
    Effect allowance store (consumeChallenge request digest now store).2
  | outside {store} (disabled : Nat → Bool) (policy : Option SecurityPolicySettings) (revoked : List String) :
    Effect allowance store { store with
      users := store.users.map fun row => { row with disabled := disabled row.id }
      policy
      sessions := store.sessions.map fun row => { row with revoked := row.revoked || revoked.contains row.sessionId } }

abbrev Effects (allowance : Allowance) : Store → Store → Prop := ReflTransGen (Effect allowance)

def Grants (allowance : Allowance) (store : Store) (panelUserId : Nat) (grant : Option Grant) (generation : Nat) : Prop :=
  ∀ row : Session, row.panelUserId = panelUserId → row.grant = grant → row.generation = generation →
    allowance.grant store row

/-- What is asked of a turn before it does what may not be allowed. -/
def Task.Permitted (allowance : Allowance) (request : Nat) (store : Store) : Task → Prop
  | .beginGate _ _ => allowance.gate store request
  | .finishGate _ => allowance.gate store request
  | .beginVerify credentials _ => (store.userNamed credentials.username).isSome →
    allowance.look store request credentials.username
  | .finishCheck factor => allowance.look store request factor.username
  | .beginCreate _ verified =>
    Grants allowance store verified.panelUserId (some { request, challenge := none }) verified.generation
  | .finishCreate factor =>
    Grants allowance store factor.panelUserId (some { request, challenge := some factor.digest }) factor.generation
  | .operation (.setPanelUserPassword username _) =>
    ∀ user, store.userNamed username = some user → allowance.change store user.id
  | _ => True

theorem Task.permitted_of {allowance : Allowance} {request : Nat} {store : Store} {task : Task}
    (gate : allowance.gate store request) (look : ∀ username, allowance.look store request username)
    (change : ∀ panelUserId, allowance.change store panelUserId)
    (begun : ∀ origin verified, task = .beginCreate origin verified →
      Grants allowance store verified.panelUserId (some { request, challenge := none }) verified.generation)
    (finished : ∀ factor, task = .finishCreate factor →
      Grants allowance store factor.panelUserId (some { request, challenge := some factor.digest }) factor.generation) :
    task.Permitted allowance request store := by
  unfold Task.Permitted
  split
  · exact gate
  · exact gate
  · exact fun _ => look _
  · exact look _
  · exact begun _ _ rfl
  · exact finished _ rfl
  · exact fun user _ => change user.id
  · trivial

theorem Task.permitted_all (task : Task) (request : Nat) (store : Store) : task.Permitted Allowance.all request store :=
  Task.permitted_of trivial (fun _ => trivial) (fun _ => trivial) (fun _ _ _ _ _ _ _ => trivial)
    fun _ _ _ _ _ _ => trivial

section
variable {allowance : Allowance} {host : Host} {moment : Moment} {store : Store}

theorem turn_effects {α : Type} {transaction : Transaction α} {next : α → Task} {start : Store}
    (before : Effects allowance start store)
    (effects : ∀ answer left, transaction store = .ok (answer, left) → Effects allowance store left) :
    Effects allowance start (transaction.turn next store).2 := by
  unfold Transaction.turn
  cases ran : transaction store with
  | ok ended => exact before.trans (effects ended.1 ended.2 ran)
  | error message => exact before

variable {request : Nat}

theorem look_effects {looked : Bool} {username : String} {now : Int}
    (permitted : looked = true → allowance.look store request username) :
    Effects allowance store (store.look looked (.verified request username now)) := by
  unfold Store.look
  split
  · next looked => exact .single (.look request username now (permitted looked))
  · exact .refl

variable {panelUserId : Nat}

theorem credential_id {row : TotpCredential} (found : store.credential panelUserId = some row) :
    row.panelUserId = panelUserId := (Rows.byKey_some found).2

variable {code : String}

theorem consumeTotp_later {now : Int} {credential : TotpCredential} {step : Int}
    (consumed : consumeTotp host now credential code = some step) :
    ∀ last, credential.lastUsedStep = some last → last < step := by
  intro last used
  unfold consumeTotp at consumed
  split at consumed
  · have accepted := List.find?_some consumed
    simp only [used, Option.all_some, Bool.and_eq_true, decide_eq_true_eq] at accepted
    exact accepted.1
  · cases consumed

theorem accept_effect {credential known : TotpCredential} {now : Int} {step : Int} {enabled : Bool}
    (found : store.credential known.panelUserId = some known)
    (consumed : consumeTotp host now known code = some step)
    (saved : credential = { known with enabled }) : Effect allowance store (acceptStep credential step store) := by
  subst saved
  exact .accept known _ step found rfl (consumeTotp_later consumed)

variable {left : Store}

theorem setupTotp_effects {answer : String × String} (ran : setupTotp host moment panelUserId store = .ok (answer, left)) : Effects allowance store left := by
  unfold setupTotp at ran
  simp only [bind_eq_ok, orRaise_eq_ok, raiseIf_eq_ok, pure_eq_ok, Prod.mk.injEq] at ran
  obtain ⟨user, _, _, _, _, saved⟩ := ran
  subst saved
  exact .single (.enroll _ rfl)

theorem verifyTotp_effects {answer : List String} (ran : verifyTotp host moment panelUserId code store = .ok (answer, left)) : Effects allowance store left := by
  unfold verifyTotp at ran
  simp only [bind_eq_ok, orRaise_eq_ok, raiseIf_eq_ok, pure_eq_ok, Prod.mk.injEq] at ran
  obtain ⟨row, found, _, _, step, consumed, _, _, _, saved⟩ := ran
  subst saved
  have accepted : Effect allowance store (acceptStep { row with enabled := true } step store) :=
    accept_effect (by rw [credential_id found]; exact found) consumed rfl
  exact (ReflTransGen.single accepted).tail (.renew panelUserId _)

theorem disableTotp_effects {answer : Unit} (ran : disableTotp panelUserId store = .ok (answer, left)) : Effects allowance store left := by
  unfold disableTotp at ran
  simp only [bind_eq_ok, raiseIf_eq_ok, pure_eq_ok, Prod.mk.injEq] at ran
  obtain ⟨_, _, _, saved⟩ := ran
  subst saved
  exact .single (.disable panelUserId)

theorem enabledCredential_some {row : TotpCredential}
    (found : store.enabledCredential panelUserId = some row) : store.credential panelUserId = some row :=
  (Option.filter_eq_some_iff.mp found).1

theorem checkLoginCode_effects {answer : Bool × Bool} (ran : checkLoginCode host moment panelUserId code store = .ok (answer, left)) : Effects allowance store left := by
  unfold checkLoginCode at ran
  simp only [bind_eq_ok, orRaise_eq_ok] at ran
  obtain ⟨known, enabled, rest⟩ := ran
  have found := enabledCredential_some enabled
  cases consumed : consumeTotp host moment.now known (host.strip code) with
  | some step =>
    simp only [consumed, pure_eq_ok, Prod.mk.injEq] at rest
    obtain ⟨_, saved⟩ := rest
    subst saved
    exact .single (accept_effect (by rw [credential_id found]; exact found) consumed rfl)
  | none =>
    simp only [consumed] at rest
    split at rest
    · next present =>
      simp only [pure_eq_ok, Prod.mk.injEq] at rest
      obtain ⟨_, saved⟩ := rest
      subst saved
      obtain ⟨row, member, matching⟩ := List.any_eq_true.mp present
      simp only [Bool.and_eq_true, decide_eq_true_eq, Option.isNone_iff_eq_none] at matching
      obtain ⟨⟨_, same⟩, unused⟩ := matching
      rw [← same]
      exact .single (.recovery moment.now row member unused)
    · simp only [pure_eq_ok, Prod.mk.injEq] at rest
      obtain ⟨_, saved⟩ := rest
      subst saved
      exact .refl

theorem createSession_effects {origin : Origin} {grant : Option Grant} {generation : Nat}
    {answer : String × Int} (permitted : Grants allowance store panelUserId grant generation)
    (ran : createSession host moment panelUserId origin grant generation store = .ok (answer, left)) :
    Effects allowance store left := by
  unfold createSession at ran
  simp only [bind_eq_ok, orRaise_eq_ok, raiseIf_eq_ok, pure_eq_ok, Prod.mk.injEq] at ran
  obtain ⟨user, _, _, _, _, _, _, saved⟩ := ran
  subst saved
  exact .single (.session _ (permitted _ rfl rfl rfl))

theorem setPanelUserPassword_effects {username password : String} {answer : Unit} (permitted : ∀ user, store.userNamed username = some user → allowance.change store user.id)
    (ran : setPanelUserPassword host moment username password store = .ok (answer, left)) :
    Effects allowance store left := by
  unfold setPanelUserPassword at ran
  simp only [bind_eq_ok, orRaise_eq_ok, pure_eq_ok, Prod.mk.injEq] at ran
  obtain ⟨_, _, user, found, _, saved⟩ := ran
  subst saved
  exact .single (.password user.id _ (permitted user found))

theorem verifyLogin_effects {credentials : Credentials} {bucket : String} {answer : Verdict} (ran : verifyLogin host moment credentials bucket store = .ok (answer, left)) : Effects allowance store left := by
  have failed : Effect allowance store (recordLoginFailure host bucket credentials.origin store) := .record _ _
  unfold verifyLogin at ran
  split at ran
  · simp only [pure_eq_ok, Prod.mk.injEq] at ran
    obtain ⟨_, saved⟩ := ran
    subst saved
    exact .single failed
  · next user found =>
    split at ran
    · simp only [pure_eq_ok, Prod.mk.injEq] at ran
      obtain ⟨_, saved⟩ := ran
      subst saved
      exact .single failed
    · have policy : Effect allowance store (securityPolicy store).2 := .record store.failures _
      simp only at ran
      split at ran
      · simp only [bind_eq_ok, raiseIf_eq_ok, pure_eq_ok, Prod.mk.injEq, Option.not_isSome_iff_eq_none] at ran
        obtain ⟨_, unknown, _, saved⟩ := ran
        subst saved
        exact (ReflTransGen.single policy).tail (.challenge _ unknown rfl)
      · simp only [pure_eq_ok, Prod.mk.injEq] at ran
        obtain ⟨_, saved⟩ := ran
        subst saved
        exact .single policy

theorem Operation.run_effects {operation : Operation} {answer : Answer} (permitted : (Task.operation operation).Permitted allowance request store)
    (ran : operation.run host moment store = .ok (answer, left)) : Effects allowance store left := by
  cases operation with
  | createSession panelUserId origin =>
    simp only [Operation.run, bind_eq_ok, pure_eq_ok, Prod.mk.injEq] at ran
    obtain ⟨ended, ran, _, saved⟩ := ran
    subst saved
    refine createSession_effects (fun row user grant generation => ?_) ran
    exact allowance.internal store row grant (by rw [generation, user])
  | setPanelUserPassword username password =>
    simp only [Operation.run, bind_eq_ok, pure_eq_ok, Prod.mk.injEq] at ran
    obtain ⟨ended, ran, _, saved⟩ := ran
    subst saved
    exact setPanelUserPassword_effects permitted ran
  | setupTotp panelUserId =>
    simp only [Operation.run, bind_eq_ok, pure_eq_ok, Prod.mk.injEq] at ran
    obtain ⟨ended, ran, _, saved⟩ := ran
    subst saved
    exact setupTotp_effects ran
  | verifyTotp panelUserId code =>
    simp only [Operation.run, bind_eq_ok, pure_eq_ok, Prod.mk.injEq] at ran
    obtain ⟨ended, ran, _, saved⟩ := ran
    subst saved
    exact verifyTotp_effects ran
  | disableTotp panelUserId =>
    simp only [Operation.run, bind_eq_ok, pure_eq_ok, Prod.mk.injEq] at ran
    obtain ⟨ended, ran, _, saved⟩ := ran
    subst saved
    exact disableTotp_effects ran
  | checkLoginCode panelUserId code =>
    simp only [Operation.run, bind_eq_ok, pure_eq_ok, Prod.mk.injEq] at ran
    obtain ⟨ended, ran, _, saved⟩ := ran
    subst saved
    exact checkLoginCode_effects ran
  | outside disabled policy revoked =>
    simp only [Operation.run, pure_eq_ok, Prod.mk.injEq] at ran
    obtain ⟨_, saved⟩ := ran
    subst saved
    exact .single (.outside disabled policy revoked)

theorem gateTurn_effects (permitted : allowance.gate store request) (now : Int) (username : String)
    (next : Task) : Effects allowance store (gateTurn (checkLoginLockout request now username store) next).2 := by
  unfold gateTurn
  split <;> exact .single (.gate request now username permitted)

def Event.ofGate : Event → Bool
  | .opened .. => true
  | .reserved .. => true
  | .locked .. => true
  | _ => false

theorem reserve_frame (store : Store) (request : Nat) (now : Int) (row : LoginAttempt) : ∃ attempts event,
    (reserve request now row store).2 = { store with attempts, log := event :: store.log } ∧ event.ofGate = true := by
  by_cases many : row.failedCount + 1 > lockoutThreshold
  · simp only [reserve, many, if_true]
    exact ⟨_, _, rfl, rfl⟩
  · simp only [reserve, many, if_false]
    exact ⟨_, _, rfl, rfl⟩

theorem gate_frame (store : Store) (request : Nat) (now : Int) (username : String) : ∃ attempts events,
    (checkLoginLockout request now username store).2 = { store with attempts, log := events ++ store.log } ∧
      ∀ event ∈ events, event.ofGate = true := by
  have opens (row : LoginAttempt) : ∃ attempts events,
      (reserve request now row (store.note (.opened username now))).2 =
        { store with attempts, log := events ++ store.log } ∧ ∀ event ∈ events, event.ofGate = true := by
    obtain ⟨attempts, event, same, gate⟩ := reserve_frame (store.note (.opened username now)) request now row
    refine ⟨attempts, [event, .opened username now], same, ?_⟩
    simp only [List.mem_cons, List.not_mem_nil, or_false, forall_eq_or_imp, forall_eq]
    exact ⟨gate, rfl⟩
  unfold checkLoginLockout
  split
  · exact opens _
  · split
    · next row _ _ _ =>
      obtain ⟨attempts, event, same, gate⟩ := reserve_frame store request now row
      exact ⟨attempts, [event], same, by simpa using gate⟩
    · split
      · exact ⟨store.attempts, [], rfl, by simp⟩
      · exact opens _

theorem consumeChallenge_frame (request : Nat) (digest : String) (now : Int) (store : Store) : ∃ challenges events,
    (consumeChallenge request digest now store).2 = { store with challenges, log := events ++ store.log } ∧
      ∀ event ∈ events, event = .consumed request digest := by
  unfold consumeChallenge
  split
  · exact ⟨_, [.consumed request digest], rfl, by simp⟩
  · exact ⟨store.challenges, [], rfl, by simp⟩

theorem advance_effects (request : Nat) (task : Task) (permitted : task.Permitted allowance request store) :
    Effects allowance store (advance host request moment task store).2 := by
  unfold advance
  split
  · split
    · exact .refl
    · split <;> exact .refl
  · exact .refl
  · exact gateTurn_effects permitted ..
  · refine turn_effects (look_effects fun looked => permitted ?_) fun _ _ ran => verifyLogin_effects ran
    exact Option.isSome_of_any looked
  · exact .single (.clear _)
  · exact turn_effects .refl fun _ _ ran => createSession_effects permitted ran
  · split
    · exact .refl
    · split <;> exact .refl
  · exact .refl
  · exact gateTurn_effects permitted ..
  · exact turn_effects (look_effects fun _ => permitted) fun _ _ ran => checkLoginCode_effects ran
  · exact .single (.record _ _)
  · exact .single (.consume ..)
  · exact .single (.clear _)
  · exact turn_effects .refl fun _ _ ran => createSession_effects permitted ran
  · exact turn_effects .refl fun _ _ ran => Operation.run_effects permitted ran
  · exact .refl

theorem effects_keep {J : Store → Prop} (kept : ∀ store left, Effect allowance store left → J store → J left)
    {left : Store} (effects : Effects allowance store left) (holds : J store) : J left := by
  induction effects with
  | refl => exact holds
  | tail _ effect ih => exact kept _ _ effect ih

/-- What each effect keeps, every run keeps. -/
theorem kept_by_runs {J : Store → Prop} {start server : Server} {allowed : Server → Nat × Moment → Prop}
    (permits : ∀ server who, allowed server who → (server.task who.1).Permitted allowance who.1 server.store)
    (kept : ∀ store left, Effect allowance store left → J store → J left)
    (initial : J start.store) (reached : Reaches host allowed start server) : J server.store := by
  refine Tasks.Reaches.shared initial (fun server who permitted holds => ?_) reached
  exact effects_keep kept (advance_effects who.1 (server.task who.1) (permits server who permitted)) holds

end

end Boron.Login
