import Boron.Databases.Operations

namespace Boron.Databases
open List Rows

open Rename (revokedFrom grantAll mem_revokedFrom mem_grantAll isHosted_iff normalize_hosted)

def DatabaseUserGrant.granted (link : DatabaseUserGrant) : List Privilege :=
  (normalizeDatabasePrivileges link.privileges link.privilegeList).getD []

def DatabaseUserGrant.joins (link : DatabaseUserGrant) (grant : DatabaseGrant) (user : DatabaseUser) : Prop :=
  link.databaseGrantId = grant.id ∧ link.databaseUserId = user.id

def Registry.holds (registry : Registry) (held : Held) : Prop :=
  ∃ grant ∈ registry.grants, ∃ user ∈ registry.users, ∃ link ∈ registry.links,
    link.joins grant user ∧ held.database = grant.dbName ∧ held.login = user.login ∧ held.privilege ∈ link.granted

/-- The databases, the logins and the privileges on the server are those of the rows. -/
structure Agrees (server : Server) (registry : Registry) : Prop where
  names : ∀ name, (server.databases name).isSome = true ↔ ∃ grant ∈ registry.grants, grant.dbName = name
  logins : ∀ login, login ∈ server.logins ↔ ∃ user ∈ registry.users, user.login = login
  held : ∀ held, held ∈ server.held ↔ registry.holds held

def DatabaseGrant.ownLogin (grant : DatabaseGrant) : Login := ⟨grant.dbUser, "localhost"⟩

/-- Assignments join rows of one account and can be granted, and the own login of a database is
assigned to it. -/
structure Registry.Linked (registry : Registry) : Prop where
  sound : registry.Sound
  refs : ∀ link ∈ registry.links, ∃ grant ∈ registry.grants, ∃ user ∈ registry.users,
    link.joins grant user ∧ user.accountId = grant.accountId
  own : ∀ grant ∈ registry.grants, ∃ user ∈ registry.users, user.accountId = grant.accountId ∧
    user.login = grant.ownLogin ∧ ∃ link ∈ registry.links, link.joins grant user
  valid : ∀ link ∈ registry.links, (normalizeDatabasePrivileges link.privileges link.privilegeList).isSome = true

structure Good (server : Server) (registry : Registry) : Prop where
  agrees : Agrees server registry
  linked : registry.Linked

section
variable {server after : Server} {registry left : Registry} {grant other : DatabaseGrant} {user twin : DatabaseUser}
  {link : DatabaseUserGrant} {held : Held} {name : String} {login : Login}

namespace Registry.Sound

section
variable (sound : registry.Sound)
include sound

theorem grant_eq (listed : grant ∈ registry.grants) (present : other ∈ registry.grants)
    (same : grant.id = other.id) : grant = other := inj_on_of_nodup_map sound.grantIds listed present same

theorem name_eq (listed : grant ∈ registry.grants) (present : other ∈ registry.grants)
    (same : grant.dbName = other.dbName) : grant = other := inj_on_of_nodup_map sound.names listed present same

theorem user_eq (listed : user ∈ registry.users) (present : twin ∈ registry.users)
    (same : user.id = twin.id) : user = twin := inj_on_of_nodup_map sound.userIds listed present same

theorem login_eq (listed : user ∈ registry.users) (present : twin ∈ registry.users)
    (same : user.login = twin.login) : user = twin := inj_on_of_nodup_map sound.logins listed present same

theorem link_eq {copy : DatabaseUserGrant} (listed : link ∈ registry.links)
    (present : copy ∈ registry.links) (joins : link.joins grant user) (joined : copy.joins grant user) : link = copy :=
  inj_on_of_nodup_map sound.pairs listed present
    (Prod.ext (joins.1.trans joined.1.symm) (joins.2.trans joined.2.symm))

end

end Registry.Sound

theorem link_of_mem (sound : registry.Sound) (listed : link ∈ registry.links) (joins : link.joins grant user) :
    registry.link grant.id user.id = some link := by
  cases found : registry.link grant.id user.id with
  | none => exact absurd (Prod.ext joins.1 joins.2) (Registry.link_none.mp found link listed)
  | some copy =>
    have present : copy ∈ registry.links := List.mem_of_find?_eq_some found
    have fits := List.find?_some found
    rw [Bool.and_eq_true, decide_eq_true_eq, decide_eq_true_eq] at fits
    rw [sound.link_eq listed present joins fits]

theorem link_some (found : registry.link grant.id user.id = some link) : link ∈ registry.links ∧ link.joins grant user := by
  have fits := List.find?_some found
  rw [Bool.and_eq_true, decide_eq_true_eq, decide_eq_true_eq] at fits
  exact ⟨List.mem_of_find?_eq_some found, fits⟩

theorem granted_hosted {privilege : Privilege} (given : privilege ∈ link.granted) : privilege ∈ hostedPrivileges := by
  unfold DatabaseUserGrant.granted at given
  cases normalized : normalizeDatabasePrivileges link.privileges link.privilegeList with
  | none =>
    rw [normalized] at given
    cases given
  | some granted =>
    rw [normalized] at given
    exact normalize_hosted normalized privilege given

theorem holds_hosted (holds : registry.holds held) : held.privilege ∈ hostedPrivileges := by
  obtain ⟨_, _, _, _, _, _, _, _, _, given⟩ := holds
  exact granted_hosted given

theorem Agrees.isHosted_iff (agrees : Agrees server registry) (inside : held ∈ server.held) :
    held.isHosted name login = true ↔ held.database = name ∧ held.login = login := by
  rw [Rename.isHosted_iff]
  constructor
  · rintro ⟨database, who, -⟩
    exact ⟨database, who⟩
  · rintro ⟨database, who⟩
    exact ⟨database, who, holds_hosted ((agrees.held held).mp inside)⟩

theorem Agrees.login_known (agrees : Agrees server registry) (inside : held ∈ server.held) :
    held.login ∈ server.logins := by
  obtain ⟨_, _, user, present, _, _, _, _, who, _⟩ := (agrees.held held).mp inside
  exact (agrees.logins held.login).mpr ⟨user, present, who.symm⟩

theorem mem_databaseAssignments (sound : registry.Sound) {assignment : Assignment} :
    assignment ∈ registry.databaseAssignments grant.id ↔ ∃ user ∈ registry.users, ∃ link ∈ registry.links,
      link.joins grant user ∧ assignment = ⟨user.login, link.privileges, link.privilegeList⟩ := by
  unfold Registry.databaseAssignments
  rw [mem_filterMap]
  constructor
  · rintro ⟨user, present, mapped⟩
    obtain ⟨link, found, rfl⟩ := Option.map_eq_some_iff.mp mapped
    obtain ⟨inside, joins⟩ := link_some found
    exact ⟨user, present, link, inside, joins, rfl⟩
  · rintro ⟨user, present, link, inside, joins, rfl⟩
    refine ⟨user, present, ?_⟩
    rw [link_of_mem sound inside joins, Option.map_some]

theorem Agrees.assigned (agrees : Agrees server registry) (linked : registry.Linked) (listed : grant ∈ registry.grants)
    (on : held.database = grant.dbName) : held ∈ server.held ↔ ∃ assignment ∈ registry.databaseAssignments grant.id,
        held.login = assignment.login ∧ held.privilege ∈ Rename.grantedTo assignment := by
  rw [agrees.held]
  constructor
  · rintro ⟨other, known, user, present, link, inside, joins, database, who, given⟩
    rw [← linked.sound.name_eq listed known (on.symm.trans database)] at joins
    exact ⟨_, (mem_databaseAssignments linked.sound).mpr ⟨user, present, link, inside, joins, rfl⟩, who, given⟩
  · rintro ⟨_, member, who, given⟩
    obtain ⟨user, present, link, inside, joins, rfl⟩ := (mem_databaseAssignments linked.sound).mp member
    exact ⟨grant, listed, user, present, link, inside, joins, on, who, given⟩

theorem ensureUserRows_linked (linked : registry.Linked) (accountId : Nat) :
    registry.ensureUserRows accountId = some registry := by
  have each (grants : List DatabaseGrant) (all : ∀ grant ∈ grants, grant ∈ registry.grants ∧ grant.accountId = accountId) :
      grants.foldlM (fun registry grant => registry.ensureUserRow accountId grant) registry = some registry := by
    induction grants with
    | nil => rfl
    | cons grant rest ih =>
      obtain ⟨listed, account⟩ := all grant mem_cons_self
      obtain ⟨user, present, owner, own, link, inside, joins⟩ := linked.own grant listed
      have row : registry.userOf accountId ⟨grant.dbUser, "localhost"⟩ = some user := by
        cases found : registry.userOf accountId ⟨grant.dbUser, "localhost"⟩ with
        | none =>
          have absent := List.find?_eq_none.mp found user present
          simp [owner, account, own, DatabaseGrant.ownLogin] at absent
        | some twin =>
          obtain ⟨there, -, same⟩ := Registry.userOf_some found
          rw [linked.sound.login_eq present there (own.trans same.symm)]
      have kept : registry.ensureUserRow accountId grant = some registry := by
        unfold Registry.ensureUserRow
        rw [row]
        dsimp only
        unfold Registry.ensureLink
        rw [link_of_mem linked.sound inside joins]
        rfl
      rw [foldlM_cons, kept]
      exact ih fun other member => all other (mem_cons_of_mem _ member)
  refine each _ fun grant member => ?_
  obtain ⟨listed, account⟩ := mem_filter.mp member
  exact ⟨listed, by simpa using account⟩

/-- Some rows stay, the others go. -/
def Registry.keep (grants : DatabaseGrant → Bool) (users : DatabaseUser → Bool) (links : DatabaseUserGrant → Bool)
    (registry : Registry) : Registry :=
  { registry with
    grants := registry.grants.filter grants
    users := registry.users.filter users
    links := registry.links.filter links }

section
variable {grants : DatabaseGrant → Bool} {users : DatabaseUser → Bool} {links : DatabaseUserGrant → Bool}

/-- The assignments stay that join rows which stay, and with a database its own login. -/
structure Keeps (registry : Registry) (grants : DatabaseGrant → Bool) (users : DatabaseUser → Bool)
    (links : DatabaseUserGrant → Bool) : Prop where
  ends : ∀ link ∈ registry.links, ∀ grant ∈ registry.grants, ∀ user ∈ registry.users, link.joins grant user →
    (links link = true ↔ grants grant = true ∧ users user = true)
  own : ∀ grant ∈ registry.grants, grants grant = true → ∀ user ∈ registry.users, user.login = grant.ownLogin →
    users user = true

theorem sound_keep (sound : registry.Sound) : (registry.keep grants users links).Sound where
  usernames := sound.usernames
  accountIds := sound.accountIds
  grantIds := unique_filter sound.grantIds _
  names := unique_filter sound.names _
  userIds := unique_filter sound.userIds _
  logins := unique_filter sound.logins _
  linkIds := unique_filter sound.linkIds _
  pairs := unique_filter sound.pairs _

theorem linked_keep (linked : registry.Linked) (keeps : Keeps registry grants users links) :
    (registry.keep grants users links).Linked where
  sound := sound_keep linked.sound
  refs := by
    intro link member
    obtain ⟨inside, stays⟩ := mem_filter.mp member
    obtain ⟨grant, listed, user, present, joins, account⟩ := linked.refs link inside
    obtain ⟨grantStays, userStays⟩ := (keeps.ends link inside grant listed user present joins).mp stays
    exact ⟨grant, mem_filter.mpr ⟨listed, grantStays⟩, user, mem_filter.mpr ⟨present, userStays⟩, joins, account⟩
  own := by
    intro grant member
    obtain ⟨listed, stays⟩ := mem_filter.mp member
    obtain ⟨user, present, account, own, link, inside, joins⟩ := linked.own grant listed
    have userStays := keeps.own grant listed stays user present own
    have linkStays := (keeps.ends link inside grant listed user present joins).mpr ⟨stays, userStays⟩
    exact ⟨user, mem_filter.mpr ⟨present, userStays⟩, account, own, link, mem_filter.mpr ⟨inside, linkStays⟩, joins⟩
  valid := fun link member => linked.valid link (mem_of_mem_filter member)

theorem holds_keep (keeps : Keeps registry grants users links) : (registry.keep grants users links).holds held ↔
    ∃ grant ∈ registry.grants, ∃ user ∈ registry.users, ∃ link ∈ registry.links, link.joins grant user ∧
      held.database = grant.dbName ∧ held.login = user.login ∧ held.privilege ∈ link.granted ∧
        grants grant = true ∧ users user = true := by
  constructor
  · rintro ⟨grant, listed, user, present, link, inside, joins, database, who, given⟩
    obtain ⟨listed, stays⟩ := mem_filter.mp listed
    obtain ⟨present, userStays⟩ := mem_filter.mp present
    exact ⟨grant, listed, user, present, link, mem_of_mem_filter inside, joins, database, who, given, stays, userStays⟩
  · rintro ⟨grant, listed, user, present, link, inside, joins, database, who, given, stays, userStays⟩
    have linkStays := (keeps.ends link inside grant listed user present joins).mpr ⟨stays, userStays⟩
    exact ⟨grant, mem_filter.mpr ⟨listed, stays⟩, user, mem_filter.mpr ⟨present, userStays⟩, link,
      mem_filter.mpr ⟨inside, linkStays⟩, joins, database, who, given⟩

/-- Rows and what is on the server go together. -/
theorem Good.keep (good : Good server registry) (keeps : Keeps registry grants users links)
    (names : ∀ name, (after.databases name).isSome = true ↔
      (server.databases name).isSome = true ∧ ∀ grant ∈ registry.grants, grant.dbName = name → grants grant = true)
    (logins : ∀ login, login ∈ after.logins ↔
      login ∈ server.logins ∧ ∀ user ∈ registry.users, user.login = login → users user = true)
    (held : ∀ held, held ∈ after.held ↔ held ∈ server.held ∧
      (∀ grant ∈ registry.grants, grant.dbName = held.database → grants grant = true) ∧
        ∀ user ∈ registry.users, user.login = held.login → users user = true) :
    Good after (registry.keep grants users links) := by
  obtain ⟨agrees, linked⟩ := good
  have sound := linked.sound
  refine ⟨⟨fun name => ?_, fun login => ?_, fun one => ?_⟩, linked_keep linked keeps⟩
  · rw [names, agrees.names]
    constructor
    · rintro ⟨⟨grant, listed, named⟩, stays⟩
      exact ⟨grant, mem_filter.mpr ⟨listed, stays grant listed named⟩, named⟩
    · rintro ⟨grant, member, named⟩
      obtain ⟨listed, stays⟩ := mem_filter.mp member
      refine ⟨⟨grant, listed, named⟩, fun other present same => ?_⟩
      rw [sound.name_eq present listed (same.trans named.symm)]
      exact stays
  · rw [logins, agrees.logins]
    constructor
    · rintro ⟨⟨user, present, named⟩, stays⟩
      exact ⟨user, mem_filter.mpr ⟨present, stays user present named⟩, named⟩
    · rintro ⟨user, member, named⟩
      obtain ⟨present, stays⟩ := mem_filter.mp member
      refine ⟨⟨user, present, named⟩, fun twin there same => ?_⟩
      rw [sound.login_eq there present (same.trans named.symm)]
      exact stays
  · rw [held, agrees.held, holds_keep keeps]
    constructor
    · rintro ⟨⟨grant, listed, user, present, link, inside, joins, database, who, given⟩, grantStays, userStays⟩
      exact ⟨grant, listed, user, present, link, inside, joins, database, who, given,
        grantStays grant listed database.symm, userStays user present who.symm⟩
    · rintro ⟨grant, listed, user, present, link, inside, joins, database, who, given, stays, remains⟩
      refine ⟨⟨grant, listed, user, present, link, inside, joins, database, who, given⟩, ?_, ?_⟩
      · intro other known same
        rw [sound.name_eq known listed (same.trans database)]
        exact stays
      · intro twin there same
        rw [sound.login_eq there present (same.trans who)]
        exact remains

end

end

end Boron.Databases
