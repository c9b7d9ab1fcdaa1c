import Mathlib.Tactic.IntervalCases
import Boron.Administrators.Requests

namespace Boron.Administrators
open List

/-- Someone can still sign in as an administrator, with a second factor while
the policy requires one. -/
def Database.Guarded (db : Database) : Prop :=
  0 < db.enabledAdministrators ∧ (db.requiresTwoFactor → 0 < db.protectedAdministrators)

/-- The users keep the identity they started with. -/
structure Database.Kept (identity : Int → Option (String × Role)) (db : Database) : Prop where
  ids : Rows.Unique PanelUser.id db.users
  known : ∀ user ∈ db.users, identity user.id = some (user.username, user.role)
  guarded : db.Guarded

/-- What an operation has counted before it takes the write lock, asked of the
database it takes the lock on. -/
def Operation.GuardHolds (db : Database) : Operation → Prop
  | .setAdministratorStatus params => params.disabled → ∀ user ∈ db.users, user.username = params.username →
      user.enabledAdministrator → 1 < db.enabledAdministrators ∧
        (db.requiresTwoFactor → db.hasTwoFactor user.id → 1 < db.protectedAdministrators)
  | .manageAdministrator params => params.action = some .delete → ∀ user ∈ db.users,
      user.username = params.username → user.enabledAdministrator → 1 < db.enabledAdministrators
  | .disableTotp _ => True
  | .securityPolicySet params => params.requireAdmin2fa = some true → db.policy.isSome →
      db.requiresTwoFactor = false → 0 < db.protectedAdministrators

namespace Database
variable {identity : Int → Option (String × Role)} {db : Database}

theorem enabledAdministrators_pos :
    0 < db.enabledAdministrators ↔ ∃ user ∈ db.users, user.enabledAdministrator := by
  simp [enabledAdministrators, countP_pos_iff]

theorem protectedAdministrators_pos : 0 < db.protectedAdministrators ↔
    ∃ user ∈ db.users, user.enabledAdministrator ∧ db.hasTwoFactor user.id := by
  simp [protectedAdministrators, countP_pos_iff]

variable {id : Int}

theorem hasTwoFactor_iff : db.hasTwoFactor id ↔ ∃ row ∈ db.credentials, row.panelUserId = id ∧ row.enabled := by
  simp [hasTwoFactor]

section
variable (kept : db.Kept identity)
include kept

theorem Kept.congr {other : Database} (users : other.users = db.users)
    (credentials : other.credentials = db.credentials) (policy : other.policy = db.policy) :
    other.Kept identity := by
  obtain ⟨_, _, _, _, _, _, _⟩ := db
  cases users
  cases credentials
  cases policy
  exact ⟨kept.ids, kept.known, kept.guarded⟩

theorem Kept.exists_other_enabled (several : ∀ user ∈ db.users, user.id = id → user.enabledAdministrator → 1 < db.enabledAdministrators) :
    ∃ user ∈ db.users, user.enabledAdministrator ∧ user.id ≠ id := by
  obtain ⟨user, member, enabled⟩ := enabledAdministrators_pos.mp kept.guarded.1
  by_cases same : user.id = id
  · exact Rows.exists_other kept.ids (several user member same enabled) id
  · exact ⟨user, member, enabled, same⟩

theorem Kept.exists_other_protected (required : db.requiresTwoFactor)
    (several : ∀ user ∈ db.users, user.id = id → user.enabledAdministrator → db.hasTwoFactor user.id →
      1 < db.protectedAdministrators) :
    ∃ user ∈ db.users, user.enabledAdministrator ∧ db.hasTwoFactor user.id ∧ user.id ≠ id := by
  obtain ⟨user, member, enabled, protecting⟩ := protectedAdministrators_pos.mp (kept.guarded.2 required)
  by_cases same : user.id = id
  · obtain ⟨other, inside, holds, differs⟩ :=
      Rows.exists_other kept.ids (several user member same enabled protecting) id
    rw [Bool.and_eq_true] at holds
    exact ⟨other, inside, holds.1, holds.2, differs⟩
  · exact ⟨user, member, enabled, protecting, same⟩

theorem Kept.mapUsers {f : PanelUser → PanelUser}
    (same : ∀ user, (f user).id = user.id ∧ (f user).username = user.username ∧ (f user).role = user.role)
    (enabled : ∃ user ∈ db.users, (f user).enabledAdministrator)
    (protecting : db.requiresTwoFactor →
      ∃ user ∈ db.users, (f user).enabledAdministrator ∧ db.hasTwoFactor user.id) :
    { db with users := db.users.map f }.Kept identity := by
  refine ⟨?_, ?_, ?_, fun required => ?_⟩
  · have ids : (db.users.map f).map PanelUser.id = db.users.map PanelUser.id := by
      rw [map_map]
      exact map_congr_left fun user _ => (same user).1
    unfold Rows.Unique
    rw [ids]
    exact kept.ids
  · intro user member
    obtain ⟨old, inside, rfl⟩ := mem_map.mp member
    rw [(same old).1, (same old).2.1, (same old).2.2]
    exact kept.known old inside
  · obtain ⟨user, member, holds⟩ := enabled
    exact enabledAdministrators_pos.mpr ⟨f user, mem_map_of_mem member, holds⟩
  · obtain ⟨user, member, holds, factor⟩ := protecting required
    refine protectedAdministrators_pos.mpr ⟨f user, mem_map_of_mem member, holds, ?_⟩
    rw [(same user).1]
    exact factor

theorem Kept.sublist {other : Database} (users : other.users.Sublist db.users)
    (enabled : ∃ user ∈ other.users, user.enabledAdministrator)
    (protecting : other.requiresTwoFactor →
      ∃ user ∈ other.users, user.enabledAdministrator ∧ other.hasTwoFactor user.id) :
    other.Kept identity := by
  refine ⟨kept.ids.sublist (users.map _), fun user member => kept.known user (users.subset member), ?_, ?_⟩
  · exact enabledAdministrators_pos.mpr enabled
  · exact fun required => protectedAdministrators_pos.mpr (protecting required)

end

variable {next : Database}

theorem Kept.setDisabled (kept : db.Kept identity) {disabled : Bool} (ran : db.setDisabled id disabled = some next)
    (several : disabled → ∀ user ∈ db.users, user.id = id → user.enabledAdministrator →
      1 < db.enabledAdministrators ∧
        (db.requiresTwoFactor → db.hasTwoFactor user.id → 1 < db.protectedAdministrators)) :
    next.Kept identity := by
  unfold Database.setDisabled at ran
  split at ran
  case isFalse => cases ran
  case isTrue present =>
    cases ran
    refine kept.mapUsers (fun user => by split <;> simp) ?_ fun required => ?_
    · cases disabled with
      | false =>
        obtain ⟨user, member, enabled⟩ := enabledAdministrators_pos.mp kept.guarded.1
        refine ⟨user, member, ?_⟩
        split
        · simp [PanelUser.enabledAdministrator] at enabled ⊢
          exact enabled.1
        · exact enabled
      | true =>
        obtain ⟨user, member, enabled, other⟩ := kept.exists_other_enabled
          fun user member same enabled => (several rfl user member same enabled).1
        exact ⟨user, member, by rw [if_neg other]; exact enabled⟩
    · cases disabled with
      | false =>
        obtain ⟨user, member, enabled, factor⟩ := protectedAdministrators_pos.mp (kept.guarded.2 required)
        refine ⟨user, member, ?_, factor⟩
        split
        · simp [PanelUser.enabledAdministrator] at enabled ⊢
          exact enabled.1
        · exact enabled
      | true =>
        obtain ⟨user, member, enabled, factor, other⟩ := kept.exists_other_protected required
          fun user member same enabled => (several rfl user member same enabled).2 required
        exact ⟨user, member, by rw [if_neg other]; exact enabled, factor⟩

theorem Kept.setPassword (kept : db.Kept identity) {passwordHash : String} (ran : db.setPassword id passwordHash = some next) : next.Kept identity := by
  unfold Database.setPassword at ran
  split at ran
  case isFalse => cases ran
  case isTrue present =>
    cases ran
    have keeps : ∀ user : PanelUser, user.enabledAdministrator →
        (if user.id = id then { user with passwordHash } else user).enabledAdministrator := by
      intro user enabled
      split
      · exact enabled
      · exact enabled
    refine kept.mapUsers (fun user => by split <;> simp) ?_ fun required => ?_
    · obtain ⟨user, member, enabled⟩ := enabledAdministrators_pos.mp kept.guarded.1
      exact ⟨user, member, keeps user enabled⟩
    · obtain ⟨user, member, enabled, factor⟩ := protectedAdministrators_pos.mp (kept.guarded.2 required)
      exact ⟨user, member, keeps user enabled, factor⟩

theorem Kept.revokeSessions (kept : db.Kept identity) {ids : List Int} (ran : db.revokeSessions ids = some next) : next.Kept identity := by
  unfold Database.revokeSessions at ran
  split at ran
  case isFalse => cases ran
  case isTrue present =>
    cases ran
    exact kept.congr rfl rfl rfl

theorem hasTwoFactor_deleteCredentials {id other : Int} (differs : other ≠ id) (factor : db.hasTwoFactor other) :
    { db with credentials := db.credentials.filter (·.panelUserId ≠ id) }.hasTwoFactor other := by
  obtain ⟨row, member, same, enabled⟩ := hasTwoFactor_iff.mp factor
  refine hasTwoFactor_iff.mpr ⟨row, mem_filter.mpr ⟨member, ?_⟩, same, enabled⟩
  simpa [same] using differs

theorem Kept.updatePolicy (kept : db.Kept identity) {require : Option Bool} {graceDays : Option Int}
    {enabledAt : Option (Option Nat)} (ran : db.updatePolicy require graceDays enabledAt = some next)
    (protecting : require = some true → db.policy.isSome → 0 < db.protectedAdministrators) :
    next.Kept identity := by
  obtain ⟨row, policy, rfl⟩ := Option.map_eq_some_iff.mp ran
  refine ⟨kept.ids, kept.known, kept.guarded.1, fun required => ?_⟩
  cases require with
  | none => exact kept.guarded.2 (by simpa [requiresTwoFactor, policy] using required)
  | some value =>
    have on : value = true := by simpa [requiresTwoFactor] using required
    exact protecting (congrArg some on) (by rw [policy]; rfl)

theorem Kept.insertPolicy (kept : db.Kept identity) (ran : db.insertPolicy defaultPolicy = some next) : next.Kept identity := by
  unfold Database.insertPolicy at ran
  split at ran
  case isTrue => cases ran
  case isFalse =>
    cases ran
    exact ⟨kept.ids, kept.known, kept.guarded.1, nofun⟩

end Database

end Boron.Administrators

namespace Boron.Administrators
variable {identity : Int → Option (String × Role)} {db : Database}

/-- What is left of the operation when it takes the lock commits only a
database that keeps the administrators. -/
def Operation.Prepared (identity : Int → Option (String × Role)) (operation : Operation)
    (request : Request) : Prop :=
  request.AtLock (Database.Kept identity) fun left =>
    ∀ db, db.Kept identity → operation.GuardHolds db → left.SafeFrom (Database.Kept identity) db

variable {user : PanelUser}

theorem administrator_identity (kept : db.Kept identity) {username : String} (found : db.administrator username = some user) : identity user.id = some (username, .admin) := by
  have is : user.username = username ∧ user.role = .admin := by simpa using List.find?_some found
  rw [kept.known user (List.mem_of_find?_eq_some found), is.1, is.2]

theorem username_of_identity (kept : db.Kept identity) {id : Int} {username : String} {role : Role}
    (known : identity id = some (username, role)) (member : user ∈ db.users)
    (same : user.id = id) : user.username = username := by
  have own := kept.known user member
  rw [same, known] at own
  exact (congrArg Prod.fst (Option.some.inj own)).symm

section
variable {operation : Operation}

theorem raise_prepared {message : String} : operation.Prepared identity (.raise message) := trivial

theorem commit_prepared : operation.Prepared identity .commit := trivial

theorem query_prepared {α : Type} {q : Database → α} {next : α → Request}
    (ready : ∀ db, db.Kept identity → operation.Prepared identity (next (q db))) :
    operation.Prepared identity (query q next) := ready

theorem ite_prepared {c : Prop} [Decidable c] {first second : Request}
    (yes : c → operation.Prepared identity first) (no : ¬ c → operation.Prepared identity second) :
    operation.Prepared identity (if c then first else second) := by
  split
  case isTrue holds => exact yes holds
  case isFalse fails => exact no fails

theorem write_prepared {statement : Database → Option Database} {next : Request}
    (safe : ∀ db, db.Kept identity → operation.GuardHolds db → ∀ changed, statement db = some changed →
      next.Safe (Database.Kept identity) changed) :
    operation.Prepared identity (.write statement next) := safe

end

theorem ite_safe {J : Database → Prop} {c : Prop} [Decidable c] {first second : Request}
    (yes : c → first.Safe J db) (no : ¬ c → second.Safe J db) : (if c then first else second).Safe J db := by
  split
  case isTrue holds => exact yes holds
  case isFalse fails => exact no fails

theorem revokeAll_safe {J : Database → Prop} {ids : List Int} {next : Request}
    (safe : ∀ sessions, next.Safe J { db with sessions }) : (revokeAll ids next).Safe J db := by
  unfold revokeAll
  split
  · exact safe db.sessions
  · intro changed ran
    unfold Database.revokeSessions at ran
    split at ran <;> cases ran
    exact safe _

theorem revokeOpenSessions_safe (kept : db.Kept identity) (params : StatusParams) (user : PanelUser) :
    (revokeOpenSessions params user).Safe (Database.Kept identity) db := by
  unfold revokeOpenSessions
  split
  · exact revokeAll_safe fun sessions => kept.congr rfl rfl rfl
  · exact kept

theorem revokeOpenSessions_prepared (operation : Operation) (params : StatusParams) (user : PanelUser) :
    operation.Prepared identity (revokeOpenSessions params user) := by
  refine ite_prepared (fun _ => query_prepared fun seen _ => ?_) fun _ => commit_prepared
  exact ite_prepared (fun _ => commit_prepared) fun _ =>
    write_prepared fun db kept _ changed ran => kept.revokeSessions ran

theorem applyStatus_prepared {params : StatusParams} (known : identity user.id = some (params.username, .admin)) :
    (Operation.setAdministratorStatus params).Prepared identity (applyStatus params user) := by
  refine ite_prepared (fun _ => revokeOpenSessions_prepared _ params user) fun _ =>
    write_prepared fun db kept guarded changed ran => revokeOpenSessions_safe ?_ params user
  refine kept.setDisabled ran fun disabled other member same enabled => ?_
  exact guarded disabled other member (username_of_identity kept known member same) enabled

theorem setAdministratorStatus_prepared (params : StatusParams) :
    (Operation.setAdministratorStatus params).Prepared identity (setAdministratorStatus params) := by
  refine ite_prepared (fun _ => raise_prepared) fun _ => query_prepared fun seen kept => ?_
  cases found : seen.administrator params.username with
  | none => exact raise_prepared
  | some user =>
    have ready := applyStatus_prepared (administrator_identity kept found)
    refine ite_prepared (fun _ => raise_prepared) fun _ => ite_prepared (fun _ => ?_) fun _ => ready
    refine query_prepared fun _ _ => ite_prepared (fun _ => raise_prepared) fun _ => ?_
    refine query_prepared fun _ _ => query_prepared fun _ _ => ite_prepared (fun _ => ?_) fun _ => ready
    exact query_prepared fun _ _ => ite_prepared (fun _ => raise_prepared) fun _ => ready

section
variable (kept : db.Kept identity)
include kept

theorem removeTwoFactor_safe {next : Request}
    (safe : ∀ recoveryCodes, (db.requiresTwoFactor → ∃ other ∈ db.users, other.enabledAdministrator ∧
        db.hasTwoFactor other.id ∧ other.id ≠ user.id) →
      next.Safe (Database.Kept identity)
        { db with recoveryCodes, credentials := db.credentials.filter (·.panelUserId ≠ user.id) }) :
    (removeTwoFactor user next).Safe (Database.Kept identity) db := by
  have remove : (db.requiresTwoFactor → db.hasTwoFactor user.id → 1 < db.protectedAdministrators) →
      Sql.Request.Safe (Database.Kept identity) (.write (Database.deleteRecoveryCodes user.id)
        (.write (Database.deleteCredentials user.id) next)) db := by
    rintro several first ⟨⟩ second ⟨⟩
    refine safe _ fun required => kept.exists_other_protected required fun other _ same _ factor => ?_
    exact several required (same ▸ factor)
  refine ite_safe (fun _ => ite_safe (fun _ => trivial) fun several => remove fun _ _ => ?_)
    fun both => remove fun required factor => absurd ⟨required, factor⟩ both
  omega

theorem kept_without_credentials {id : Int} {recoveryCodes : List Int}
    (others : db.requiresTwoFactor → ∃ other ∈ db.users, other.enabledAdministrator ∧
      db.hasTwoFactor other.id ∧ other.id ≠ id) :
    { db with recoveryCodes, credentials := db.credentials.filter (·.panelUserId ≠ id) }.Kept identity := by
  refine kept.sublist (List.Sublist.refl _) (Database.enabledAdministrators_pos.mp kept.guarded.1)
    fun required => ?_
  obtain ⟨other, member, enabled, factor, differs⟩ := others required
  exact ⟨other, member, enabled, Database.hasTwoFactor_deleteCredentials differs factor⟩

theorem deleteUser_safe {id : Int} {recoveryCodes : List Int}
    (enabled : ∃ other ∈ db.users, other.enabledAdministrator ∧ other.id ≠ id)
    (others : db.requiresTwoFactor → ∃ other ∈ db.users, other.enabledAdministrator ∧
      db.hasTwoFactor other.id ∧ other.id ≠ id) :
    Sql.Request.Safe (Database.Kept identity)
      (.write (Database.deleteSessions id) (.write (Database.deleteUser id) .commit))
      { db with recoveryCodes, credentials := db.credentials.filter (·.panelUserId ≠ id) } := by
  rintro first ⟨⟩ second ran
  unfold Database.deleteUser at ran
  split_ifs at ran
  cases ran
  have left : ∀ other ∈ db.users, other.id ≠ id → other ∈ db.users.filter (·.id ≠ id) :=
    fun other member differs => List.mem_filter.mpr ⟨member, by simpa using differs⟩
  refine kept.sublist List.filter_sublist ?_ fun required => ?_
  · obtain ⟨other, member, holds, differs⟩ := enabled
    exact ⟨other, left other member differs, holds⟩
  · obtain ⟨other, member, holds, factor, differs⟩ := others required
    exact ⟨other, left other member differs, holds, Database.hasTwoFactor_deleteCredentials differs factor⟩

theorem finishAction_safe {passwordHash : String} {action : AdministratorAction}
    (several : action = .delete → ∀ other ∈ db.users, other.id = user.id → other.enabledAdministrator →
      1 < db.enabledAdministrators) :
    (finishAction passwordHash user action).Safe (Database.Kept identity) db := by
  cases action with
  | password =>
    intro changed ran
    exact kept.setPassword ran
  | resetTwoFactor => exact removeTwoFactor_safe kept fun _ others => kept_without_credentials kept others
  | delete =>
    exact removeTwoFactor_safe kept fun _ others =>
      deleteUser_safe kept (kept.exists_other_enabled (several rfl)) others

end

theorem revokeCredentials_prepared {params : ManageParams} {passwordHash : String} {user : PanelUser}
    {action : AdministratorAction} (asked : params.action = some action)
    (known : identity user.id = some (params.username, .admin)) :
    (Operation.manageAdministrator params).Prepared identity (revokeCredentials passwordHash user action) := by
  have finish : ∀ db : Database, db.Kept identity → (Operation.manageAdministrator params).GuardHolds db →
      Sql.Request.Safe (Database.Kept identity) (.write (Database.deleteLoginChallenges user.id)
        (finishAction passwordHash user action)) db := by
    rintro db kept guarded changed ⟨⟩
    have kept : { db with loginChallenges := db.loginChallenges.filter (· ≠ user.id) }.Kept identity :=
      kept.congr rfl rfl rfl
    refine finishAction_safe kept fun isDelete other member same enabled => ?_
    exact guarded (isDelete ▸ asked) other member (username_of_identity kept known member same) enabled
  refine query_prepared fun seen _ => ite_prepared (fun _ => finish) fun _ =>
    write_prepared fun db kept guarded changed ran => ?_
  unfold Database.revokeSessions at ran
  split_ifs at ran
  cases ran
  exact finish _ (kept.congr rfl rfl rfl) guarded

theorem manage_prepared {params : ManageParams} {passwordHash : String} {action : AdministratorAction}
    (asked : params.action = some action) :
    (Operation.manageAdministrator params).Prepared identity (manage params.username passwordHash action) := by
  refine query_prepared fun seen kept => ?_
  cases found : seen.administrator params.username with
  | none => exact raise_prepared
  | some user =>
    have ready := @revokeCredentials_prepared _ _ passwordHash user action asked (administrator_identity kept found)
    refine query_prepared fun _ _ => ite_prepared (fun _ => raise_prepared) fun _ =>
      ite_prepared (fun _ => query_prepared fun _ _ => ?_) fun _ => ready
    exact ite_prepared (fun _ => raise_prepared) fun _ => ready

theorem manageAdministrator_prepared (params : ManageParams) :
    (Operation.manageAdministrator params).Prepared identity (manageAdministrator params) := by
  refine ite_prepared (fun _ => raise_prepared) fun _ => ?_
  cases asked : params.action with
  | none => exact raise_prepared
  | some action =>
    refine ite_prepared (fun _ => raise_prepared) fun _ => ite_prepared (fun _ => ?_) fun _ => manage_prepared asked
    cases params.passwordHash with
    | error message => exact raise_prepared
    | ok passwordHash => exact manage_prepared asked

theorem disableTotp_prepared (panelUserId : Int) :
    (Operation.disableTotp panelUserId).Prepared identity (disableTotp panelUserId) := by
  intro db kept _
  have remove : (db.requiresTwoFactor → ∃ other ∈ db.users, other.enabledAdministrator ∧
      db.hasTwoFactor other.id ∧ other.id ≠ panelUserId) →
      Sql.Request.Safe (Database.Kept identity) (.write (Database.deleteRecoveryCodes panelUserId)
        (query (fun db => db.credentials.any (·.panelUserId = panelUserId)) fun found =>
          if found then .write (Database.deleteCredentials panelUserId) .commit else .commit)) db := by
    rintro others changed ⟨⟩
    refine ite_safe (fun _ => ?_) fun _ => kept.congr rfl rfl rfl
    rintro removed ⟨⟩
    exact kept_without_credentials kept others
  refine ite_safe (fun _ => ite_safe (fun _ => trivial) fun several => remove fun required => ?_)
    fun other => remove fun required => ?_
  · exact kept.exists_other_protected required fun _ _ _ _ _ => by omega
  · refine kept.exists_other_protected required fun user member same enabled _ => absurd ?_ other
    have found : db.userById panelUserId = some user := same ▸ Rows.byKey_of_mem kept.ids member
    have admin : user.role = .admin ∧ user.disabled = false := by
      simpa [PanelUser.enabledAdministrator] using enabled
    simp only [found, Option.any_some, admin.1, decide_true, required, and_self]

theorem changed_eq_some {α : Type} [DecidableEq α] {old new value : α} (is : changed old new = some value) :
    new = value ∧ old ≠ value := by
  unfold changed at is
  split_ifs at is with same
  cases is
  exact ⟨rfl, Ne.symm same⟩

/-- An update of the policy that switches it on has counted, or must count, a
protected administrator. -/
theorem updatePolicyRow_safe (kept : db.Kept identity) {row : SecurityPolicySettings} {required : Bool}
    {grace : Int} {enabledAt : Option Nat}
    (protecting : required → row.requireAdmin2fa = false → 0 < db.protectedAdministrators) :
    (updatePolicyRow row required grace enabledAt).Safe (Database.Kept identity) db := by
  refine ite_safe (fun _ => kept) fun _ changed ran => kept.updatePolicy ran fun on _ => ?_
  obtain ⟨isOn, wasOff⟩ := changed_eq_some on
  exact protecting isOn (Bool.eq_false_iff.mpr wasOff)

theorem setPolicyRow_safe (kept : db.Kept identity) (params : PolicyParams) (row : SecurityPolicySettings) :
    (setPolicyRow params row).Safe (Database.Kept identity) db := by
  unfold setPolicyRow
  split
  · exact trivial
  · refine ite_safe (fun _ => trivial) fun _ => ite_safe (fun _ => ite_safe (fun _ => trivial) fun few => ?_)
      fun other => ?_
    · exact updatePolicyRow_safe kept fun _ _ => by omega
    · exact updatePolicyRow_safe kept fun required off => absurd ⟨required, off⟩ other

theorem updatePolicyRow_prepared {params : PolicyParams} {row : SecurityPolicySettings} {grace : Int}
    {enabledAt : Option Nat} : (Operation.securityPolicySet params).Prepared identity
      (updatePolicyRow row (params.requireAdmin2fa.getD row.requireAdmin2fa) grace enabledAt) := by
  refine ite_prepared (fun _ => commit_prepared) fun _ =>
    write_prepared fun db kept guarded changed ran => kept.updatePolicy ran fun on isRow => ?_
  obtain ⟨isOn, wasOff⟩ := changed_eq_some on
  have asked : params.requireAdmin2fa = some true := by
    cases given : params.requireAdmin2fa with
    | none =>
      rw [given] at isOn
      exact absurd isOn wasOff
    | some value =>
      rw [given] at isOn
      exact congrArg some isOn
  by_cases required : db.requiresTwoFactor
  · exact kept.guarded.2 required
  · exact guarded asked isRow (Bool.eq_false_iff.mpr required)

theorem securityPolicySet_prepared (params : PolicyParams) :
    (Operation.securityPolicySet params).Prepared identity (securityPolicySet params) := by
  refine query_prepared fun seen _ => ?_
  cases seen.policy with
  | none =>
    exact write_prepared fun db kept _ changed ran =>
      setPolicyRow_safe (kept.insertPolicy ran) params defaultPolicy
  | some row =>
    simp only [setPolicyRow]
    split
    · exact raise_prepared
    · refine ite_prepared (fun _ => raise_prepared) fun _ => ite_prepared (fun _ => ?_)
        fun _ => updatePolicyRow_prepared
      exact query_prepared fun _ _ => ite_prepared (fun _ => raise_prepared) fun _ => updatePolicyRow_prepared

theorem Operation.prepared : (operation : Operation) → operation.Prepared identity operation.request
  | .setAdministratorStatus params => setAdministratorStatus_prepared params
  | .manageAdministrator params => manageAdministrator_prepared params
  | .disableTotp panelUserId => disableTotp_prepared panelUserId
  | .securityPolicySet params => securityPolicySet_prepared params

end Boron.Administrators

namespace Boron.Administrators

/-- The requests `operations`, none of them begun, over the database `db`. -/
def server {ι : Type} (db : Database) (operations : ι → Operation) : Sql.Server ι Database :=
  Sql.Server.start db fun i => (operations i).request

def Database.identity (db : Database) (id : Int) : Option (String × Role) :=
  (db.userById id).map fun user => (user.username, user.role)

theorem Database.kept_identity {db : Database} (ids : Rows.Unique PanelUser.id db.users)
    (guarded : db.Guarded) : db.Kept db.identity := by
  refine ⟨ids, fun user member => ?_, guarded⟩
  rw [identity, userById, Rows.byKey_of_mem ids member, Option.map_some]

instance (db : Database) : Decidable db.Guarded := inferInstanceAs (Decidable (_ ∧ _))

/-- Every interleaving of any number of requests keeps an administrator who can
sign in, as long as the count each request relied on still holds when it takes
the write lock. -/
theorem administrators_remain {ι : Type} [DecidableEq ι] {db : Database} {operations : ι → Operation}
    {s : Sql.Server ι Database} (ids : Rows.Unique PanelUser.id db.users) (guarded : db.Guarded)
    (reach : Sql.Server.Reaches (fun i committed => (operations i).GuardHolds committed)
      (server db operations) s) : s.committed.Guarded := by
  have prepared : ∀ i, Sql.Server.Prepared (Database.Kept db.identity)
      (fun i committed => (operations i).GuardHolds committed) i ((server db operations).rest i) :=
    fun i => (operations i).prepared
  have kept : s.committed.Kept db.identity :=
    Sql.Server.Reaches.committed rfl (Database.kept_identity ids guarded) prepared reach
  exact kept.guarded

def twoAdministrators : Database where
  users := [⟨1, "alice", .admin, false, "a"⟩, ⟨2, "bob", .admin, false, "b"⟩]
  policy := none
  credentials := []
  recoveryCodes := []
  sessions := []
  loginChallenges := []
  impersonations := []

def disableEachOther (i : Bool) : Operation :=
  .setAdministratorStatus (if i then ⟨"bob", "alice", true⟩ else ⟨"alice", "bob", true⟩)

/-- Bob is disabled while alice's request has not begun. -/
theorem administrators_remain_alone :
    ((server twoAdministrators disableEachOther).run (List.replicate 7 (.turn true))).committed.Guarded := by
  refine @administrators_remain Bool _ twoAdministrators disableEachOther _ (by decide) (by decide) ?_
  have counts : ∀ user ∈ twoAdministrators.users, user.username = "bob" → user.enabledAdministrator →
      1 < twoAdministrators.enabledAdministrators ∧ (twoAdministrators.requiresTwoFactor →
        twoAdministrators.hasTwoFactor user.id → 1 < twoAdministrators.protectedAdministrators) := by decide
  refine Sql.Server.Reaches.refl.turns true 7 fun k bound takes => ?_
  interval_cases k
  case «4» => exact fun _ => counts
  all_goals exact absurd takes.2 (by decide)

/-- Both requests count two administrators before either writes. -/
def bothCount : List (Sql.Action Bool) :=
  List.replicate 4 (.turn true) ++ List.replicate 4 (.turn false) ++
    List.replicate 3 (.turn true) ++ List.replicate 3 (.turn false)

theorem both_administrators_disabled : 0 < twoAdministrators.enabledAdministrators ∧
      Sql.Server.Reaches (fun _ _ => True) (server twoAdministrators disableEachOther)
        ((server twoAdministrators disableEachOther).run bothCount) ∧
      ((server twoAdministrators disableEachOther).run bothCount).committed.enabledAdministrators = 0 :=
  ⟨by decide, Sql.Server.Reaches.refl.run bothCount, by decide⟩

end Boron.Administrators
