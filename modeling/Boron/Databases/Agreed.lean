import Boron.Databases.Changes

namespace Boron.Databases.Panel
open List Sys

open Rename (revokedFrom grantAll mem_revokedFrom mem_grantAll)

def At (server : Server) (registry : Registry) (work : Work) : Prop := work.server = server ∧ work.registry = registry

def Spent (server : Server) (registry : Registry) (work : Work) : Prop := At server registry work ∧ work.failAt = none

def Sane (work : Work) : Prop := Good work.server work.registry

section
variable {α β : Type} {server : Server} {registry left : Registry} {effect : Server → Server} {Q : α → Work → Prop}
  {E P : Work → Prop}

theorem sane_of_at (good : Good server registry) {work : Work} (there : At server registry work) : Sane work := by
  unfold Sane
  rw [there.1, there.2]
  exact good

theorem orRaise_then {value : Option β} {f : β → Act α} (fails : ∀ work, P work → E work)
    (rest : ∀ b, value = some b → Triple P (f b) Q E) : Triple P (orRaise value >>= f) Q E := by
  cases value with
  | none =>
    refine Triple.bind (Q := fun _ _ => False) (Triple.fail fails) fun b => ?_
    exact fun work wrong => wrong.elim
  | some b => exact rest b rfl

variable {f : Unit → Act α}

theorem expect_then {holds : Bool} (fails : ∀ work, P work → E work)
    (rest : holds = true → Triple P (f ()) Q E) : Triple P (expect holds >>= f) Q E := by
  cases holds with
  | false =>
    refine Triple.bind (Q := fun _ _ => False) (Triple.fail fails) fun b => ?_
    exact fun work wrong => wrong.elim
  | true => exact rest rfl

theorem get_then {f : Work → Act α} (rest : ∀ work, P work → Triple P (f work) Q E) :
    Triple P (Sys.get >>= f) Q E :=
  fun work there => rest work there work there

theorem call_at : Triple (At server registry) (call effect) (fun _ => At (effect server) registry) (Spent server registry) := by
  rintro work ⟨rfl, rfl⟩
  unfold call
  constructor
  · intro a after ran
    dsimp only at ran
    split at ran <;> cases ran <;> exact ⟨rfl, rfl⟩
  · intro failure after ran
    dsimp only at ran
    split at ran <;> cases ran
    exact ⟨⟨rfl, rfl⟩, rfl⟩

theorem call_spent : Triple (Spent server registry) (call effect) (fun _ => Spent (effect server) registry)
    (fun _ => False) := by
  rintro work ⟨⟨rfl, rfl⟩, spent⟩
  unfold call
  simp only [spent]
  constructor
  · intro a after ran
    cases ran
    exact ⟨⟨rfl, rfl⟩, rfl⟩
  · intro failure after ran
    cases ran

theorem call_then (fails : ∀ work, Spent server registry work → E work)
    (rest : Triple (At (effect server) registry) (f ()) Q E) : Triple (At server registry) (call effect >>= f) Q E :=
  Triple.bind (call_at.weaken (fun _ holds => holds) (fun _ _ holds => holds) fails) fun _ => rest

theorem ask_then (fails : ∀ work, At server registry work → E work)
    (rest : Triple (At server registry) (f ()) Q E) : Triple (At server registry) (ask >>= f) Q E :=
  call_then (fun work spent => fails work spent.1) rest

theorem commit_then (known : ∀ work, P work → work.registry = registry)
    (rest : Triple P (f ()) Q E) : Triple P (commit registry >>= f) Q E := by
  refine Triple.bind (Triple.modify fun work holds => ?_) fun _ => rest
  rw [← known work holds]
  exact holds

theorem session_at {change : Registry → Option Registry} (changes : change registry = some left) :
    Triple (At server registry) (session change) (fun _ => At server left) E := by
  rintro work ⟨rfl, rfl⟩
  unfold session
  simp only [changes]
  constructor
  · intro a after ran
    cases ran
    exact ⟨rfl, rfl⟩
  · intro failure after ran
    cases ran

theorem session_then {change : Registry → Option Registry} (good : Good server left) (changes : change registry = some left) :
    Triple (At server registry) (session change) (fun _ => Sane) E :=
  (session_at changes).weaken (fun _ holds => holds) (fun _ _ there => sane_of_at good there) fun _ holds => holds

theorem ensured_then {accountId : Nat} {f : Registry → Act α} (known : ∀ work, P work → work.registry = registry)
    (linked : registry.Linked) (rest : Triple P (f registry) Q E) :
    Triple P (ensured accountId >>= f) Q E := by
  refine Triple.bind (Q := fun left work => P work ∧ left = registry) ?_ ?_
  · refine get_then fun work holds => ?_
    rw [known work holds, ensureUserRows_linked linked]
    exact Triple.pure fun _ holds => ⟨holds, rfl⟩
  · rintro left work ⟨holds, rfl⟩
    exact rest work holds

theorem compensated_then {E' : Work → Prop} {body undo : Act Unit} {Q : Unit → Work → Prop} (tries : Triple P body Q E')
    (undoes : Triple E' undo (fun _ => E) E) : Triple P (compensated body undo) Q E :=
  Triple.handle tries fun _ => Triple.bind undoes fun _ => Triple.fail fun _ holds => holds

end

section
variable {server : Server} {registry : Registry}

section
variable (good : Good server registry)
include good

theorem checkNewDatabase_then (request : CreateDatabase) :
    Triple (At server registry) (checkNewDatabase request) (fun found work => At server registry work ∧
      (server.databases found.2).isNone = true ∧ ⟨found.2, "localhost"⟩ ∉ server.logins) Sane := by
  have raises : ∀ work, At server registry work → Sane work := fun _ => sane_of_at good
  refine orRaise_then raises fun name _ => get_then fun work there => orRaise_then raises fun account _ => ?_
  refine expect_then raises fun _ => expect_then raises fun _ => expect_then raises fun _ => ask_then raises ?_
  refine expect_then raises fun absent => ask_then raises (expect_then raises fun _ => ask_then raises ?_)
  refine expect_then raises fun fresh => expect_then raises fun _ => ?_
  rw [there.1] at absent fresh
  exact Triple.pure fun _ holds => ⟨holds, absent, of_decide_eq_true fresh⟩

theorem good_undone {mid : Server} {name : String} {login : Login}
    (noDatabase : (server.databases name).isNone = true) (noLogin : login ∉ server.logins)
    (databases : ∀ other, other ≠ name → mid.databases other = server.databases other)
    (logins : ∀ other, other ≠ login → (other ∈ mid.logins ↔ other ∈ server.logins))
    (held : ∀ held, held.login ≠ login → (held ∈ mid.held ↔ held ∈ server.held)) :
    Good ((mid.dropLogin login).dropDatabase name) registry := by
  obtain ⟨agrees, linked⟩ := good
  refine ⟨⟨fun other => ?_, fun other => ?_, fun one => ?_⟩, linked⟩
  · rw [← agrees.names]
    by_cases same : other = name
    · rw [same, Server.dropDatabase_self, Option.isNone_iff_eq_none.mp noDatabase]
    · rw [Server.dropDatabase_other same]
      exact iff_of_eq (congrArg (fun content => Option.isSome content = true) (databases other same))
  · rw [← agrees.logins]
    unfold Server.dropDatabase Server.dropLogin
    rw [Finset.mem_erase]
    constructor
    · rintro ⟨different, inside⟩
      exact (logins other different).mp inside
    · intro inside
      have different : other ≠ login := fun same => noLogin (same ▸ inside)
      exact ⟨different, (logins other different).mpr inside⟩
  · rw [← agrees.held]
    unfold Server.dropDatabase Server.dropLogin
    rw [Finset.mem_filter]
    constructor
    · rintro ⟨inside, different⟩
      exact (held one different).mp inside
    · intro inside
      have different : one.login ≠ login := fun same => noLogin (same ▸ agrees.login_known inside)
      exact ⟨(held one different).mpr inside, different⟩

theorem createDatabase_agrees (request : CreateDatabase) :
    Triple (At server registry) (createDatabase request) (fun _ => Sane) Sane := by
  refine Triple.bind (checkNewDatabase_then good request) ?_
  rintro ⟨accountId, name⟩ work ⟨there, noDatabase, noLogin⟩
  revert work there
  obtain ⟨left, registers, goodAfter⟩ := good.createDatabase accountId noDatabase noLogin
  -- What the handler takes away again from wherever the calls have got to.
  have undoes : Triple (fun work => ∃ mid, Spent mid registry work ∧
        Good ((mid.dropLogin ⟨name, "localhost"⟩).dropDatabase name) registry)
      (do
        call (Server.dropLogin ⟨name, "localhost"⟩)
        call (Server.dropDatabase name)) (fun _ => Sane) Sane := by
    rintro work ⟨mid, spent, goodMid⟩
    have run : Triple (Spent mid registry) (do
        call (Server.dropLogin ⟨name, "localhost"⟩)
        call (Server.dropDatabase name)) (fun _ => Spent ((mid.dropLogin ⟨name, "localhost"⟩).dropDatabase name) registry)
        (fun _ => False) := Triple.bind call_spent fun _ => call_spent
    exact run.weaken (fun _ holds => holds) (fun _ _ spent => sane_of_at goodMid spent.1) (fun _ wrong => wrong.elim) work spent
  have created (other : String) (different : other ≠ name) :
      (server.createDatabase name).databases other = server.databases other := Server.createDatabase_other different
  refine call_then (fun work spent => sane_of_at good spent.1) ?_
  refine Triple.bind (Q := fun _ => At (((server.createDatabase name).createLogin ⟨name, "localhost"⟩).grantHosted
      name ⟨name, "localhost"⟩) registry) ?_ fun _ => ?_
  · refine compensated_then ?_ undoes
    refine call_then (fun work spent => ⟨_, spent, ?_⟩) (call_then (fun work spent => ⟨_, spent, ?_⟩) ?_)
    · refine good_undone good noDatabase noLogin created (fun other _ => ?_) fun held _ => ?_
      · rw [Server.createDatabase_eq.1]
      · rw [Server.createDatabase_eq.2]
    · refine good_undone good noDatabase noLogin created (fun other different => ?_) fun held _ => ?_
      · unfold Server.createLogin
        rw [Finset.mem_insert, Server.createDatabase_eq.1, or_iff_right different]
      · exact iff_of_eq (congrArg (held ∈ ·) Server.createDatabase_eq.2)
    · refine call_at.weaken (fun _ holds => holds) (fun _ _ holds => holds) fun work spent => ⟨_, spent, ?_⟩
      refine good_undone good noDatabase noLogin created (fun other different => ?_) fun held different => ?_
      · have logins : (((server.createDatabase name).createLogin ⟨name, "localhost"⟩).grantHosted name
            ⟨name, "localhost"⟩).logins = insert ⟨name, "localhost"⟩ (server.createDatabase name).logins := rfl
        rw [logins, Finset.mem_insert, Server.createDatabase_eq.1, or_iff_right different]
      · rw [mem_grantHosted]
        have before : ((server.createDatabase name).createLogin ⟨name, "localhost"⟩).held = server.held :=
          Server.createDatabase_eq.2
        rw [before]
        exact or_iff_left fun given => different given.2.1
  · refine compensated_then (session_then goodAfter registers) fun _ (wrong : False) => wrong.elim

theorem checkNewUser_then (request : CreateUser) : Triple (At server registry) (checkNewUser request)
      (fun found work => At server registry work ∧ found.2 ∉ server.logins) Sane := by
  have raises : ∀ work, At server registry work → Sane work := fun _ => sane_of_at good
  refine orRaise_then raises fun name _ => expect_then raises fun _ => get_then fun work there => ?_
  refine orRaise_then raises fun account _ => ensured_then (fun _ there => there.2) good.linked (expect_then raises fun _ => ?_)
  refine commit_then (fun _ there => there.2) (ask_then raises (expect_then raises fun absent => ?_))
  rw [there.1] at absent
  exact Triple.pure fun _ holds => ⟨holds, of_decide_eq_true absent⟩

theorem dropLogin_createLogin {login : Login} (absent : login ∉ server.logins) :
    Good ((server.createLogin login).dropLogin login) registry := by
  refine ⟨⟨good.agrees.names, fun other => ?_, fun held => ?_⟩, good.linked⟩
  · rw [← good.agrees.logins]
    unfold Server.dropLogin Server.createLogin
    rw [Finset.mem_erase, Finset.mem_insert]
    constructor
    · rintro ⟨different, same | inside⟩
      · exact absurd same different
      · exact inside
    · intro inside
      exact ⟨fun same => absent (same ▸ inside), .inr inside⟩
  · rw [← good.agrees.held]
    unfold Server.dropLogin Server.createLogin
    rw [Finset.mem_filter]
    refine and_iff_left_of_imp fun inside => ?_
    exact fun same => absent (same ▸ good.agrees.login_known inside)

theorem createUser_agrees (request : CreateUser) :
    Triple (At server registry) (createUser request) (fun _ => Sane) Sane := by
  refine Triple.bind (checkNewUser_then good request) ?_
  rintro ⟨accountId, login⟩ work ⟨there, absent⟩
  revert work there
  obtain ⟨left, registers, goodAfter⟩ := good.createLogin accountId absent
  have undoes : Triple (Spent (server.createLogin login) registry) (call (Server.dropLogin login)) (fun _ => Sane)
      Sane :=
    call_spent.weaken (fun _ holds => holds)
      (fun _ _ spent => sane_of_at (dropLogin_createLogin good absent) spent.1) fun _ wrong => wrong.elim
  refine call_then (fun work spent => sane_of_at good spent.1) (compensated_then ?_ undoes)
  refine call_then (fun work spent => spent) ?_
  exact session_then goodAfter registers

theorem ownedUserAndDatabase_then (username user database host : String) :
    Triple (At server registry) (ownedUserAndDatabase username user database host)
      (fun found work => At server registry work ∧ found.1 ∈ registry.users ∧ found.2 ∈ registry.grants ∧
        found.1.accountId = found.2.accountId ∧ found.1.host = host) Sane := by
  have raises : ∀ work, At server registry work → Sane work := fun _ => sane_of_at good
  refine get_then fun work there => orRaise_then raises fun account _ => ensured_then (fun _ there => there.2) good.linked ?_
  refine orRaise_then raises fun userName _ => orRaise_then raises fun databaseName _ => ?_
  refine orRaise_then raises fun user isUser => orRaise_then raises fun database isDatabase =>
    commit_then (fun _ there => there.2) ?_
  obtain ⟨present, owner, login⟩ := Registry.userOf_some isUser
  obtain ⟨listed, account, _⟩ := Registry.databaseOf_some isDatabase
  have host : user.host = host := congrArg Login.host login
  exact Triple.pure fun _ holds => ⟨holds, present, listed, owner.trans account.symm, host⟩

end

theorem normalized_saved {preset : Preset} {privileges granted : List Privilege}
    (normalized : normalizeDatabasePrivileges preset privileges = some granted) :
    (normalizeDatabasePrivileges preset (if preset = .custom then granted else [])).isSome = true ∧
      ∀ privilege, privilege ∈ granted ↔
        privilege ∈ (normalizeDatabasePrivileges preset (if preset = .custom then granted else [])).getD [] := by
  cases preset with
  | all =>
    cases normalized
    exact ⟨rfl, fun privilege => Iff.rfl⟩
  | readOnly =>
    cases normalized
    exact ⟨rfl, fun privilege => Iff.rfl⟩
  | custom =>
    unfold normalizeDatabasePrivileges at normalized
    dsimp only at normalized
    split at normalized
    · next known =>
      cases normalized
      obtain ⟨hosted, listed⟩ := Bool.and_eq_true_iff.mp known
      have again : (privileges.eraseDups.all (· ∈ hostedPrivileges) && !privileges.eraseDups.isEmpty) = true := by
        rw [Bool.and_eq_true]
        constructor
        · rw [all_eq_true] at hosted ⊢
          exact fun privilege member => hosted privilege (mem_eraseDups.mp member)
        · cases privileges with
          | nil => cases listed
          | cons first rest => simp [eraseDups_cons]
      unfold normalizeDatabasePrivileges
      simp only [if_pos, again, Option.isSome_some, Option.getD_some, mem_eraseDups, implies_true, and_self]
    · cases normalized

section
variable (good : Good server registry)
include good

theorem grantUser_agrees (request : GrantUser) :
    Triple (At server registry) (grantUser request) (fun _ => Sane) Sane := by
  have raises : ∀ work, At server registry work → Sane work := fun _ => sane_of_at good
  refine orRaise_then raises fun privileges normalized => ?_
  refine Triple.bind (ownedUserAndDatabase_then good request.username request.user request.database request.host) ?_
  rintro ⟨user, database⟩ work ⟨there, present, listed, owner, -⟩
  revert work there
  refine get_then fun work there => expect_then raises fun _ => call_then (fun work spent => raises work spent.1) ?_
  obtain ⟨valid, gives⟩ := normalized_saved normalized
  exact session_then (good.saveLink listed present owner valid gives) rfl

theorem revokeUser_agrees (request : RevokeUser) :
    Triple (At server registry) (revokeUser request) (fun _ => Sane) Sane := by
  have raises : ∀ work, At server registry work → Sane work := fun _ => sane_of_at good
  refine Triple.bind (ownedUserAndDatabase_then good request.username request.user request.database request.host) ?_
  rintro ⟨user, database⟩ work ⟨there, present, listed, owner, host⟩
  revert work there
  refine expect_then raises fun other => get_then fun work there => orRaise_then raises fun link found => ?_
  rw [there.2] at found
  obtain ⟨inside, joins⟩ := link_some found
  have guest : user.login ≠ database.ownLogin := by
    intro own
    have sameUser : user.dbUser = database.dbUser := congrArg Login.user own
    have sameHost : user.host = "localhost" := congrArg Login.host own
    simp [sameUser, ← host, sameHost] at other
  refine call_then (fun work spent => raises work spent.1) ?_
  exact session_then (good.deleteLink listed present inside joins guest) rfl

theorem ownedUser_then (username user host : String) : Triple (At server registry) (ownedUser username user host)
      (fun user work => At server registry work ∧ user ∈ registry.users ∧
        ∀ grant ∈ registry.grants, user.login ≠ grant.ownLogin) Sane := by
  have raises : ∀ work, At server registry work → Sane work := fun _ => sane_of_at good
  refine get_then fun work there => orRaise_then raises fun account _ => ensured_then (fun _ there => there.2) good.linked ?_
  refine orRaise_then raises fun name _ => orRaise_then raises fun user isUser => expect_then raises fun other => ?_
  obtain ⟨present, owner, login⟩ := Registry.userOf_some isUser
  refine commit_then (fun _ there => there.2) (Triple.pure fun _ holds => ⟨holds, present, fun grant listed own => ?_⟩)
  obtain ⟨twin, known, same, isOwn, _⟩ := good.linked.own grant listed
  have isTwin : twin = user := good.linked.sound.login_eq known present (isOwn.trans own.symm)
  rw [isTwin, owner] at same
  have hostIs : host = "localhost" := by
    have first : user.host = host := congrArg Login.host login
    exact first.symm.trans (congrArg Login.host own)
  have nameIs : grant.dbUser = name := by
    have first : user.dbUser = name := congrArg Login.user login
    exact (congrArg Login.user own).symm.trans first
  have some : (registry.grants.any fun grant => grant.accountId = account.id && grant.dbUser = name) = true :=
    any_eq_true.mpr ⟨grant, listed, by simp [same, nameIs]⟩
  rw [some] at other
  simp [hostIs] at other

theorem dropUser_agrees (request : DropUser) :
    Triple (At server registry) (dropUser request) (fun _ => Sane) Sane := by
  have raises : ∀ work, At server registry work → Sane work := fun _ => sane_of_at good
  have sound := good.linked.sound
  refine Triple.bind (ownedUser_then good request.username request.user request.host) ?_
  rintro user work ⟨there, present, guest⟩
  revert work there
  refine call_then (fun work spent => raises work spent.1) ?_
  have keeps : Keeps registry (fun _ => true) (fun other => other.id ≠ user.id) (fun link => link.databaseUserId ≠ user.id) := by
    constructor
    · rintro link inside grant listed other there ⟨-, joins⟩
      simp [joins]
    · intro grant listed _ other there own
      refine decide_eq_true fun same => guest grant listed ?_
      rw [← sound.user_eq there present same]
      exact own
  have stays (login : Login) : (∀ other ∈ registry.users, other.login = login → decide (other.id ≠ user.id) = true) ↔
      login ≠ user.login := by
    constructor
    · intro all same
      exact of_decide_eq_true (all user present same.symm) rfl
    · intro different other there same
      refine decide_eq_true fun equal => different ?_
      rw [← same, sound.user_eq there present equal]
  have goodAfter : Good (server.dropLogin user.login) (registry.deleteUser user.id) := by
    have same : registry.deleteUser user.id = registry.keep (fun _ => true) (fun other => other.id ≠ user.id)
        (fun link => link.databaseUserId ≠ user.id) := by
      unfold Registry.deleteUser Registry.keep
      rw [filter_true]
    rw [same]
    refine good.keep keeps (fun name => ?_) (fun login => ?_) fun held => ?_
    · simp [Server.dropLogin]
    · rw [stays]
      unfold Server.dropLogin
      rw [Finset.mem_erase, and_comm]
    · rw [stays]
      unfold Server.dropLogin
      simp
  exact session_then goodAfter rfl

theorem renameUser_agrees (request : RenameUser) :
    Triple (At server registry) (renameUser request) (fun _ => Sane) Sane := by
  have raises : ∀ work, At server registry work → Sane work := fun _ => sane_of_at good
  refine Triple.bind (ownedUser_then good request.username request.user request.host) ?_
  rintro user work ⟨there, present, guest⟩
  revert work there
  have checks : Triple (At server registry) (checkNewName request user) (fun login work => At server registry work ∧
      ∃ name, login = ⟨name, user.host⟩ ∧ login ∉ server.logins) Sane := by
    refine orRaise_then raises fun name _ => get_then fun work there => expect_then raises fun _ => ask_then raises ?_
    refine expect_then raises fun absent => ?_
    rw [there.1] at absent
    exact Triple.pure fun _ holds => ⟨holds, name, rfl, of_decide_eq_true absent⟩
  refine Triple.bind checks ?_
  rintro _ work ⟨there, name, rfl, absent⟩
  revert work there
  obtain ⟨left, renames, goodAfter⟩ := good.renameLogin present name guest absent
  refine call_then (fun work spent => raises work spent.1) ?_
  exact compensated_then (session_then goodAfter renames) fun _ (wrong : False) => wrong.elim

end

end

end Boron.Databases.Panel
