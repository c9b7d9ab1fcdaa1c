import Boron.Databases.Dropping

namespace Boron.Databases
open List Sys

/-- The rows without some databases and some logins. -/
def Registry.cleared (registry : Registry) (done : List DatabaseGrant) (gone : List DatabaseUser) : Registry :=
  registry.keep (fun grant => grant ∉ done)
    (fun user => !(gone.any (·.id = user.id)) && !(done.any fun grant => registry.isNamesake grant.id grant.dbUser user))
    (fun link => !(done.any (·.id = link.databaseGrantId)) && !(gone.any (·.id = link.databaseUserId)))

structure Cleared (server after : Server) (done : List DatabaseGrant) (gone : List DatabaseUser) : Prop where
  names : ∀ name, after.databases name = if name ∈ done.map DatabaseGrant.dbName then none else server.databases name
  logins : ∀ login, login ∈ after.logins ↔
    login ∈ server.logins ∧ login ∉ done.map DatabaseGrant.ownLogin ∧ login ∉ gone.map DatabaseUser.login
  held : ∀ held, held ∈ after.held ↔
    held ∈ server.held ∧ held.login ∉ done.map DatabaseGrant.ownLogin ∧ held.login ∉ gone.map DatabaseUser.login

/-- What is cleared has no assignment to the rest, and leaves no login assigned to what is cleared. -/
structure Severs (registry : Registry) (done : List DatabaseGrant) (gone : List DatabaseUser) : Prop where
  grants : ∀ grant ∈ done, grant ∈ registry.grants
  users : ∀ user ∈ gone, user ∈ registry.users
  namesakes : ∀ grant ∈ done, ∀ user ∈ registry.users, registry.isNamesake grant.id grant.dbUser user = true →
    ∀ link ∈ registry.links, link.databaseUserId = user.id → ∃ other ∈ done, link.databaseGrantId = other.id
  strangers : ∀ user ∈ gone, ∀ link ∈ registry.links, link.databaseUserId = user.id →
    ∃ other ∈ done, link.databaseGrantId = other.id
  covered : ∀ grant ∈ done, ∀ user ∈ registry.users, ∀ link ∈ registry.links, link.joins grant user →
    user.login ∈ done.map DatabaseGrant.ownLogin ∨ user ∈ gone

section
variable {server after : Server} {registry : Registry} {grant : DatabaseGrant} {user : DatabaseUser}
  {link : DatabaseUserGrant} {done : List DatabaseGrant} {gone : List DatabaseUser}

theorem isNamesake_iff : registry.isNamesake grant.id grant.dbUser user = true ↔
    user.dbUser = grant.dbUser ∧ ∃ link ∈ registry.links, link.joins grant user := by
  unfold Registry.isNamesake DatabaseUserGrant.joins
  simp

theorem Registry.Linked.own_namesake (linked : registry.Linked) (listed : grant ∈ registry.grants)
    (present : user ∈ registry.users) (own : user.login = grant.ownLogin) :
    registry.isNamesake grant.id grant.dbUser user = true := by
  obtain ⟨twin, there, -, isOwn, link, inside, joins⟩ := linked.own grant listed
  rw [linked.sound.login_eq there present (isOwn.trans own.symm)] at joins
  exact isNamesake_iff.mpr ⟨congrArg Login.user own, link, inside, joins⟩

theorem user_stays : (!(gone.any (·.id = user.id)) && !(done.any fun grant => registry.isNamesake grant.id grant.dbUser user)) = true ↔
    (∀ other ∈ gone, other.id ≠ user.id) ∧ ∀ grant ∈ done, registry.isNamesake grant.id grant.dbUser user = false := by
  simp

theorem link_stays : (!(done.any (·.id = link.databaseGrantId)) && !(gone.any (·.id = link.databaseUserId))) = true ↔
    (∀ grant ∈ done, grant.id ≠ link.databaseGrantId) ∧ ∀ user ∈ gone, user.id ≠ link.databaseUserId := by
  simp

theorem Severs.login_stays (severs : Severs registry done gone) (good : Good server registry) {login : Login}
    (known : login ∈ server.logins) :
    (login ∉ done.map DatabaseGrant.ownLogin ∧ login ∉ gone.map DatabaseUser.login) ↔
      ∀ user ∈ registry.users, user.login = login → (∀ other ∈ gone, other.id ≠ user.id) ∧
        ∀ grant ∈ done, registry.isNamesake grant.id grant.dbUser user = false := by
  have sound := good.linked.sound
  constructor
  · rintro ⟨notOwn, notGone⟩ user present rfl
    constructor
    · intro other member same
      rw [← sound.user_eq (severs.users other member) present same] at notGone
      exact notGone (mem_map_of_mem member)
    · intro grant member
      refine Bool.eq_false_iff.mpr fun namesake => ?_
      obtain ⟨-, link, inside, joins⟩ := isNamesake_iff.mp namesake
      rcases severs.covered grant member user present link inside joins with own | left
      · exact notOwn own
      · exact notGone (mem_map_of_mem left)
  · intro stays
    obtain ⟨user, present, same⟩ := (good.agrees.logins login).mp known
    obtain ⟨notGone, notOwn⟩ := stays user present same
    constructor
    · intro own
      obtain ⟨grant, member, isOwn⟩ := mem_map.mp own
      have namesake := good.linked.own_namesake (severs.grants grant member) present (same.trans isOwn.symm)
      rw [notOwn grant member] at namesake
      cases namesake
    · intro left
      obtain ⟨other, member, its⟩ := mem_map.mp left
      have equal := sound.login_eq (severs.users other member) present (its.trans same.symm)
      exact notGone other member (congrArg DatabaseUser.id equal)

/-- What is cleared on both sides leaves them in agreement. -/
theorem Good.cleared (good : Good server registry) (clear : Cleared server after done gone)
    (severs : Severs registry done gone) : Good after (registry.cleared done gone) := by
  have linked := good.linked
  have sound := linked.sound
  have grant_done {grant other : DatabaseGrant} (listed : grant ∈ registry.grants) (member : other ∈ done)
      (same : other.id = grant.id) : grant ∈ done := by
    rw [← sound.grant_eq (severs.grants other member) listed same]
    exact member
  refine good.keep ⟨?_, ?_⟩ (fun name => ?_) (fun login => ?_) fun held => ?_
  · intro link inside grant listed user present joins
    rw [link_stays, user_stays, decide_eq_true_eq, joins.1, joins.2]
    constructor
    · rintro ⟨elsewhere, others⟩
      refine ⟨fun member => elsewhere grant member rfl, others, fun other member => Bool.eq_false_iff.mpr fun namesake => ?_⟩
      obtain ⟨third, inner, same⟩ := severs.namesakes other member user present namesake link inside joins.2
      exact elsewhere third inner (same.symm.trans joins.1)
    · rintro ⟨elsewhere, others, -⟩
      exact ⟨fun other member same => elsewhere (grant_done listed member same), others⟩
  · intro grant listed stays user present own
    have notDone : grant ∉ done := of_decide_eq_true stays
    obtain ⟨-, link, inside, joins⟩ := isNamesake_iff.mp (linked.own_namesake listed present own)
    rw [user_stays]
    constructor
    · intro other member same
      rw [sound.user_eq (severs.users other member) present same] at member
      obtain ⟨third, inner, its⟩ := severs.strangers user member link inside joins.2
      exact notDone (grant_done listed inner (its.symm.trans joins.1))
    · intro other member
      refine Bool.eq_false_iff.mpr fun namesake => ?_
      obtain ⟨third, inner, its⟩ := severs.namesakes other member user present namesake link inside joins.2
      exact notDone (grant_done listed inner (its.symm.trans joins.1))
  · rw [clear.names]
    by_cases dropped : name ∈ done.map DatabaseGrant.dbName
    · rw [if_pos dropped]
      obtain ⟨grant, member, named⟩ := mem_map.mp dropped
      refine iff_of_false (by simp) fun both => ?_
      exact of_decide_eq_true (both.2 grant (severs.grants grant member) named) member
    · rw [if_neg dropped]
      refine (and_iff_left ?_).symm
      intro grant listed named
      exact decide_eq_true fun member => dropped (mem_map.mpr ⟨grant, member, named⟩)
  · rw [clear.logins]
    refine and_congr_right fun known => (severs.login_stays good known).trans ?_
    simp only [user_stays]
  · rw [clear.held]
    refine and_congr_right fun inside => ?_
    rw [severs.login_stays good (good.agrees.login_known inside)]
    simp only [user_stays]
    constructor
    · intro stays
      refine ⟨fun grant listed named => decide_eq_true fun member => ?_, stays⟩
      obtain ⟨other, known, user, present, link, within, joins, database, who, -⟩ := (good.agrees.held held).mp inside
      rw [← sound.name_eq listed known (named.trans database)] at joins
      obtain ⟨notGone, notOwn⟩ := stays user present who.symm
      rcases severs.covered grant member user present link within joins with own | left
      · obtain ⟨third, inner, isOwn⟩ := mem_map.mp own
        have namesake := linked.own_namesake (severs.grants third inner) present isOwn.symm
        rw [notOwn third inner] at namesake
        cases namesake
      · exact notGone user left rfl
    · exact fun both => both.2

theorem Registry.cleared_grant (linked : registry.Linked) (listed : grant ∈ registry.grants) (fresh : grant ∉ done)
    (known : ∀ other ∈ done, other ∈ registry.grants)
    (free : ∀ user ∈ registry.users, registry.isNamesake grant.id grant.dbUser user = true →
      ∀ link ∈ registry.links, link.databaseUserId = user.id →
        ∃ other ∈ done ++ [grant], link.databaseGrantId = other.id) :
    (registry.cleared done []).deleteDatabase grant.id grant.dbUser true = some (registry.cleared (done ++ [grant]) []) := by
  have sound := linked.sound
  have apart : ∀ other ∈ done, other.id ≠ grant.id := fun other member same =>
    fresh (sound.grant_eq (known other member) listed same ▸ member)
  have keptSound : (registry.cleared done []).Sound := sound_keep sound
  have kept : grant ∈ (registry.cleared done []).grants := mem_filter.mpr ⟨listed, decide_eq_true fresh⟩
  have found : Rows.byKey DatabaseGrant.id (registry.cleared done []).grants grant.id = some grant :=
    Rows.byKey_of_mem keptSound.grantIds kept
  have links {link : DatabaseUserGrant} : link ∈ (registry.cleared done []).links ↔
      link ∈ registry.links ∧ ∀ other ∈ done, other.id ≠ link.databaseGrantId := by
    unfold Registry.cleared Registry.keep
    simp
  have same (user : DatabaseUser) : (registry.cleared done []).isNamesake grant.id grant.dbUser user
      = registry.isNamesake grant.id grant.dbUser user := by
    refine Bool.eq_iff_iff.mpr ?_
    rw [isNamesake_iff, isNamesake_iff]
    refine and_congr_right fun _ => ?_
    constructor
    · rintro ⟨link, inside, joins⟩
      exact ⟨link, (links.mp inside).1, joins⟩
    · rintro ⟨link, inside, joins⟩
      refine ⟨link, links.mpr ⟨inside, fun other member equal => ?_⟩, joins⟩
      exact apart other member (equal.trans joins.1)
  unfold Registry.deleteDatabase
  rw [found]
  simp only [same, Bool.true_and]
  rw [if_neg]
  · refine congrArg some ?_
    unfold Registry.cleared Registry.keep
    rw [filter_filter, filter_filter, filter_filter]
    congr 1
    · refine filter_congr fun other present => ?_
      have equal : other.id = grant.id ↔ other = grant := ⟨sound.grant_eq present listed, congrArg DatabaseGrant.id⟩
      simp [equal, and_comm]
    · refine filter_congr fun user present => ?_
      simp [Bool.and_comm]
    · refine filter_congr fun link inside => ?_
      simp [Bool.and_comm, eq_comm]
  · intro taken
    obtain ⟨user, member, both⟩ := any_eq_true.mp taken
    obtain ⟨namesake, assigned⟩ := Bool.and_eq_true_iff.mp both
    obtain ⟨link, member', joins⟩ := any_eq_true.mp assigned
    obtain ⟨inside, elsewhere⟩ := mem_filter.mp member'
    obtain ⟨inside, others⟩ := links.mp inside
    obtain ⟨other, within, its⟩ := free user (mem_of_mem_filter member) namesake link inside (of_decide_eq_true joins)
    rcases mem_append.mp within with earlier | newest
    · exact others other earlier its.symm
    · rw [mem_singleton.mp newest] at its
      exact of_decide_eq_true elsewhere its

theorem Registry.cleared_user :
    (registry.cleared done gone).deleteUser user.id = registry.cleared done (gone ++ [user]) := by
  unfold Registry.deleteUser Registry.cleared Registry.keep
  rw [filter_filter, filter_filter]
  congr 1
  · refine filter_congr fun other present => ?_
    simp [Bool.and_assoc, Bool.and_left_comm, eq_comm]
  · refine filter_congr fun link inside => ?_
    simp [Bool.and_comm, Bool.and_left_comm, eq_comm]

theorem Cleared.grantGone (clear : Cleared server after done gone) :
    Cleared server ((after.dropDatabase grant.dbName).dropLogin grant.ownLogin) (done ++ [grant]) gone := by
  refine ⟨fun name => ?_, fun login => ?_, fun held => ?_⟩
  · by_cases same : name = grant.dbName
    · subst same
      have dropped : ((after.dropDatabase grant.dbName).dropLogin grant.ownLogin).databases grant.dbName = none :=
        Server.dropDatabase_self
      rw [dropped, if_pos (by simp)]
    · have kept : ((after.dropDatabase grant.dbName).dropLogin grant.ownLogin).databases name = after.databases name :=
        Server.dropDatabase_other same
      rw [kept, clear.names]
      simp only [map_append, mem_append, map_cons, map_nil, mem_singleton, same, or_false]
  · have dropped : login ∈ ((after.dropDatabase grant.dbName).dropLogin grant.ownLogin).logins ↔
        login ≠ grant.ownLogin ∧ login ∈ after.logins := Finset.mem_erase
    rw [dropped, clear.logins, map_append, mem_append]
    simp only [map_cons, map_nil, mem_singleton, not_or, ne_eq]
    tauto
  · have dropped : held ∈ ((after.dropDatabase grant.dbName).dropLogin grant.ownLogin).held ↔
        held ∈ after.held ∧ held.login ≠ grant.ownLogin := Finset.mem_filter
    rw [dropped, clear.held, map_append, mem_append]
    simp only [map_cons, map_nil, mem_singleton, not_or, ne_eq]
    tauto

theorem Cleared.userGone (clear : Cleared server after done gone) :
    Cleared server (after.dropLogin user.login) done (gone ++ [user]) := by
  refine ⟨clear.names, fun login => ?_, fun held => ?_⟩
  · have dropped : login ∈ (after.dropLogin user.login).logins ↔ login ≠ user.login ∧ login ∈ after.logins :=
      Finset.mem_erase
    rw [dropped, clear.logins, map_append, mem_append]
    simp only [map_cons, map_nil, mem_singleton, not_or, ne_eq]
    tauto
  · have dropped : held ∈ (after.dropLogin user.login).held ↔ held ∈ after.held ∧ held.login ≠ user.login :=
      Finset.mem_filter
    rw [dropped, clear.held, map_append, mem_append]
    simp only [map_cons, map_nil, mem_singleton, not_or, ne_eq]
    tauto

end

namespace Panel

/-- The databases that a termination gets through before the call that fails. -/
def clearedGrants (grants : List DatabaseGrant) : Option Nat → List DatabaseGrant
  | none => grants
  | some count => grants.take (count / 2)

/-- The logins that it gets through after all the databases. -/
def clearedUsers (grants : List DatabaseGrant) (users : List DatabaseUser) : Option Nat → List DatabaseUser
  | none => users
  | some count => users.take (count - 2 * grants.length)

/-- A termination does not fail between a database and its own login; no login that goes with a
database is assigned to a later one; and where it fails every login assigned to a database that is gone is gone. -/
structure EndsClean (registry : Registry) (accountId : Nat) (failAt : Option Nat) : Prop where
  between : ∀ count, failAt = some count →
    count < 2 * (registry.grants.filter (·.accountId = accountId)).length → count % 2 = 0
  later : ∀ before grant after, registry.grants.filter (·.accountId = accountId) = before ++ grant :: after →
    before.length < (clearedGrants (registry.grants.filter (·.accountId = accountId)) failAt).length →
      ∀ user ∈ registry.users, registry.isNamesake grant.id grant.dbUser user = true →
        ∀ link ∈ registry.links, link.databaseUserId = user.id → ∀ other ∈ after, link.databaseGrantId ≠ other.id
  covered : ∀ grant ∈ clearedGrants (registry.grants.filter (·.accountId = accountId)) failAt,
    ∀ user ∈ registry.users, ∀ link ∈ registry.links, link.joins grant user →
      user.login ∈ (clearedGrants (registry.grants.filter (·.accountId = accountId)) failAt).map DatabaseGrant.ownLogin ∨
        user ∈ clearedUsers (registry.grants.filter (·.accountId = accountId))
          (registry.users.filter (·.accountId = accountId)) failAt

structure Clearing (server : Server) (registry : Registry) (failAt : Option Nat) (done : List DatabaseGrant)
    (gone : List DatabaseUser) (work : Work) : Prop where
  intro ::
  stands : ∃ after, Cleared server after done gone ∧
    Revoking after (registry.cleared done gone) [] (failAt.map (· - (2 * done.length + gone.length))) work
  counted : ∀ count, failAt = some count → 2 * done.length + gone.length ≤ count

section
variable {server : Server} {registry : Registry} {accountId : Nat} {failAt : Option Nat} {done rest : List DatabaseGrant}
  {gone more : List DatabaseUser} {grant : DatabaseGrant} {user : DatabaseUser}

theorem session_counts {left : Registry} {revoked : List Assignment} {count : Option Nat}
    {change : Registry → Option Registry} (changes : change registry = some left) :
    Triple (Revoking server registry revoked count) (session change) (fun _ => Revoking server left revoked count)
      (fun _ => False) := by
  rintro work ⟨⟨rfl, rfl⟩, rfl, rfl⟩
  unfold session
  simp only [changes]
  constructor
  · intro a after ran
    cases ran
    exact ⟨⟨rfl, rfl⟩, rfl, rfl⟩
  · intro failure after ran
    cases ran

theorem EndsClean.severs (clean : EndsClean registry accountId failAt) (linked : registry.Linked)
    (split : registry.grants.filter (·.accountId = accountId) = done ++ rest)
    (whole : gone ≠ [] → rest = [])
    (users : ∀ user ∈ gone, user ∈ registry.users.filter (·.accountId = accountId))
    (isDone : clearedGrants (registry.grants.filter (·.accountId = accountId)) failAt = done)
    (isGone : clearedUsers (registry.grants.filter (·.accountId = accountId))
      (registry.users.filter (·.accountId = accountId)) failAt = gone) : Severs registry done gone := by
  have listed : ∀ grant ∈ done, grant ∈ registry.grants ∧ grant.accountId = accountId := by
    intro grant member
    have inside : grant ∈ registry.grants.filter (·.accountId = accountId) := by
      rw [split]
      exact mem_append_left _ member
    obtain ⟨known, account⟩ := mem_filter.mp inside
    exact ⟨known, of_decide_eq_true account⟩
  have mine {link : DatabaseUserGrant} {user : DatabaseUser} (inside : link ∈ registry.links) (present : user ∈ registry.users)
      (joins : link.databaseUserId = user.id) (account : user.accountId = accountId) :
      ∃ other ∈ done ++ rest, link.databaseGrantId = other.id := by
    obtain ⟨other, known, twin, there, joined, same⟩ := linked.refs link inside
    rw [linked.sound.user_eq there present (joined.2.symm.trans joins), account] at same
    refine ⟨other, ?_, joined.1⟩
    rw [← split]
    exact mem_filter.mpr ⟨known, decide_eq_true same.symm⟩
  refine ⟨fun grant member => (listed grant member).1, fun user member => mem_of_mem_filter (users user member),
    ?_, ?_, ?_⟩
  · intro grant member user present namesake link inside joins
    obtain ⟨-, own, within, joined⟩ := isNamesake_iff.mp namesake
    have account : user.accountId = accountId := by
      obtain ⟨other, known, twin, there, its, same⟩ := linked.refs own within
      rw [linked.sound.user_eq there present (its.2.symm.trans joined.2),
        linked.sound.grant_eq known (listed grant member).1 (its.1.symm.trans joined.1)] at same
      exact same.trans (listed grant member).2
    obtain ⟨other, either, its⟩ := mine inside present joins account
    rcases mem_append.mp either with earlier | after
    · exact ⟨other, earlier, its⟩
    · obtain ⟨before, left, parts⟩ := append_of_mem member
      refine absurd its (clean.later before grant (left ++ rest) ?_ ?_ user present namesake link inside joins other
        (mem_append_right _ after))
      · rw [split, parts, append_assoc]
        rfl
      · rw [isDone, parts, length_append, length_cons]
        omega
  · intro user member link inside joins
    obtain ⟨present, account⟩ := mem_filter.mp (users user member)
    obtain ⟨other, either, its⟩ := mine inside present joins (of_decide_eq_true account)
    rw [whole (ne_nil_of_mem member), append_nil] at either
    exact ⟨other, either, its⟩
  · have covered := clean.covered
    rw [isDone, isGone] at covered
    exact covered

theorem Clearing.sane (good : Good server registry) {work : Work} (clearing : Clearing server registry failAt done gone work)
    (severs : Severs registry done gone) : Sane work := by
  obtain ⟨⟨after, clear, stands⟩, -⟩ := clearing
  exact sane_of_at (good.cleared clear severs) stands.there

theorem clearedGrants_at (split : registry.grants.filter (·.accountId = accountId) = done ++ rest) :
    clearedGrants (registry.grants.filter (·.accountId = accountId)) (some (2 * done.length)) = done := by
  unfold clearedGrants
  dsimp only
  rw [split, Nat.mul_div_cancel_left _ (by decide), take_left]

section
variable (good : Good server registry)
include good

section
variable (clean : EndsClean registry accountId failAt)
include clean

theorem terminateDatabase_then (split : registry.grants.filter (·.accountId = accountId) = done ++ grant :: rest) :
    Triple (Clearing server registry failAt done []) (terminateDatabase grant)
      (fun _ => Clearing server registry failAt (done ++ [grant]) []) Sane := by
  rintro work ⟨⟨after, clear, stands⟩, counted⟩
  revert work stands
  have linked := good.linked
  have short : 2 * done.length + 1 < 2 * (registry.grants.filter (·.accountId = accountId)).length := by
    rw [split, length_append, length_cons]
    omega
  have inside : ∀ other ∈ done ++ [grant], other ∈ registry.grants := by
    intro other member
    have within : other ∈ registry.grants.filter (·.accountId = accountId) := by
      rw [split]
      rcases mem_append.mp member with earlier | newest
      · exact mem_append_left _ earlier
      · rw [mem_singleton.mp newest]
        exact mem_append_right _ mem_cons_self
    exact mem_of_mem_filter within
  have fresh : grant ∉ done := by
    have distinct : (done ++ grant :: rest).Nodup := by
      rw [← split]
      exact (Nodup.of_map _ linked.sound.grantIds).filter _
    exact fun member => (nodup_append.mp distinct).2.2 grant member grant mem_cons_self rfl
  refine Triple.bind (call_counts.weaken (fun _ holds => holds) (fun _ _ holds => holds) ?_) fun _ => ?_
  · rintro work ⟨stands, last⟩
    have isLast : failAt = some (2 * done.length) := by
      obtain ⟨count, found, zero⟩ := Option.map_eq_some_iff.mp last
      have least := counted count found
      rw [length_nil, Nat.add_zero] at zero least
      rw [found, Nat.le_antisymm (Nat.le_of_sub_eq_zero zero) least]
    refine sane_of_at (good.cleared clear (clean.severs linked split (fun some => absurd rfl some) (fun _ never => nomatch never)
      ?_ ?_)) stands.there
    · rw [isLast]
      exact clearedGrants_at split
    · rw [isLast]
      unfold clearedUsers
      have none : 2 * done.length - 2 * (registry.grants.filter (·.accountId = accountId)).length = 0 := by omega
      dsimp only
      rw [none, take_zero]
  · rintro work ⟨stands, more⟩
    revert work stands
    refine Triple.bind (call_counts.weaken (fun _ holds => holds) (fun _ _ holds => holds) ?_) fun _ => ?_
    · rintro work ⟨stands, last⟩
      obtain ⟨before, sooner, one⟩ := Option.map_eq_some_iff.mp last
      obtain ⟨count, found, rfl⟩ := Option.map_eq_some_iff.mp sooner
      have least := counted count found
      have notFirst : count - (2 * done.length + ([] : List DatabaseUser).length) ≠ 0 := fun zero =>
        more (by rw [found, Option.map_some, zero])
      rw [length_nil, Nat.add_zero] at one least notFirst
      have even := clean.between count found (by omega)
      omega
    · rintro work ⟨stands, again⟩
      have far : ∀ count, failAt = some count → 2 * done.length + 2 ≤ count := by
        intro count found
        have notSecond : count - (2 * done.length + ([] : List DatabaseUser).length) - 1 ≠ 0 := fun zero =>
          again (by rw [found, Option.map_some, Option.map_some, zero])
        omega
      have goes : done.length < (clearedGrants (registry.grants.filter (·.accountId = accountId)) failAt).length := by
        cases failAt with
        | none =>
          unfold clearedGrants
          dsimp only
          omega
        | some count =>
          unfold clearedGrants
          rw [length_take]
          have enough := far count rfl
          omega
      have free : ∀ user ∈ registry.users, registry.isNamesake grant.id grant.dbUser user = true →
          ∀ link ∈ registry.links, link.databaseUserId = user.id →
            ∃ other ∈ done ++ [grant], link.databaseGrantId = other.id := by
        intro user present namesake link within joins
        obtain ⟨-, own, there, joined⟩ := isNamesake_iff.mp namesake
        obtain ⟨other, known, twin, found, its, same⟩ := linked.refs link within
        obtain ⟨third, listed, fourth, also, its', same'⟩ := linked.refs own there
        rw [linked.sound.user_eq found present (its.2.symm.trans joins)] at same
        rw [linked.sound.user_eq also present (its'.2.symm.trans joined.2),
          linked.sound.grant_eq listed (inside grant (mem_append_right _ (mem_singleton_self _)))
            (its'.1.symm.trans joined.1)] at same'
        have account : grant.accountId = accountId := by
          have member : grant ∈ registry.grants.filter (·.accountId = accountId) := by
            rw [split]
            exact mem_append_right _ mem_cons_self
          exact of_decide_eq_true (mem_filter.mp member).2
        have member : other ∈ done ++ grant :: rest := by
          rw [← split]
          exact mem_filter.mpr ⟨known, decide_eq_true (same.symm.trans (same'.trans account))⟩
        rcases mem_append.mp member with earlier | later
        · exact ⟨other, mem_append_left _ earlier, its.1⟩
        · rcases mem_cons.mp later with rfl | later
          · exact ⟨other, mem_append_right _ (mem_singleton_self _), its.1⟩
          · exact absurd its.1 (clean.later done grant rest split goes user present namesake link within joins other later)
      have deletes := Registry.cleared_grant linked (inside grant (mem_append_right _ (mem_singleton_self _)))
        fresh (fun other member => inside other (mem_append_left _ member)) free
      have counts : ((failAt.map (· - (2 * done.length + ([] : List DatabaseUser).length))).map (· - 1)).map (· - 1)
          = failAt.map (· - (2 * (done ++ [grant]).length + ([] : List DatabaseUser).length)) := by
        rw [Option.map_map, Option.map_map]
        refine congrArg (Option.map · failAt) (funext fun count => ?_)
        simp only [Function.comp_apply, length_nil, length_append, length_cons]
        omega
      refine (session_counts deletes).weaken (fun _ holds => holds) ?_ (fun _ wrong => wrong.elim) work stands
      intro _ last ends
      rw [counts] at ends
      refine ⟨⟨_, clear.grantGone, ends⟩, fun count found => ?_⟩
      have enough := far count found
      rw [length_append, length_cons, length_nil, length_nil]
      omega

theorem terminateUser_then (split : registry.users.filter (·.accountId = accountId) = gone ++ user :: more) :
    Triple (Clearing server registry failAt (registry.grants.filter (·.accountId = accountId)) gone) (terminateUser user)
      (fun _ => Clearing server registry failAt (registry.grants.filter (·.accountId = accountId)) (gone ++ [user])) Sane := by
  rintro work ⟨⟨after, clear, stands⟩, counted⟩
  revert work stands
  refine Triple.bind (call_counts.weaken (fun _ holds => holds) (fun _ _ holds => holds) ?_) fun _ => ?_
  · rintro work ⟨stands, last⟩
    have isLast : failAt = some (2 * (registry.grants.filter (·.accountId = accountId)).length + gone.length) := by
      obtain ⟨count, found, zero⟩ := Option.map_eq_some_iff.mp last
      rw [found, Nat.le_antisymm (Nat.le_of_sub_eq_zero zero) (counted count found)]
    refine sane_of_at (good.cleared clear (clean.severs good.linked (append_nil _).symm (fun _ => rfl) (fun other member => ?_)
      ?_ ?_)) stands.there
    · rw [split]
      exact mem_append_left _ member
    · rw [isLast]
      exact take_of_length_le (by omega)
    · rw [isLast]
      unfold clearedUsers
      dsimp only
      rw [Nat.add_sub_cancel_left, split, take_left]
  · rintro work ⟨stands, again⟩
    have counts : (failAt.map (· - (2 * (registry.grants.filter (·.accountId = accountId)).length + gone.length))).map (· - 1)
        = failAt.map (· - (2 * (registry.grants.filter (·.accountId = accountId)).length + (gone ++ [user]).length)) := by
      rw [Option.map_map]
      refine congrArg (Option.map · failAt) (funext fun count => ?_)
      simp only [Function.comp_apply, length_append, length_cons, length_nil]
      omega
    have deletes : some ((registry.cleared (registry.grants.filter (·.accountId = accountId)) gone).deleteUser user.id)
        = some (registry.cleared (registry.grants.filter (·.accountId = accountId)) (gone ++ [user])) :=
      congrArg some Registry.cleared_user
    have saves := @session_counts (after.dropLogin user.login) _ _ [] ((failAt.map
      (· - (2 * (registry.grants.filter (·.accountId = accountId)).length + gone.length))).map (· - 1))
      (fun registry => some (registry.deleteUser user.id)) deletes
    refine saves.weaken (fun _ holds => holds) ?_ (fun _ wrong => wrong.elim) work stands
    intro _ last ends
    rw [counts] at ends
    refine ⟨⟨_, clear.userGone, ends⟩, fun count found => ?_⟩
    have notLast : count - (2 * (registry.grants.filter (·.accountId = accountId)).length + gone.length) ≠ 0 := fun zero =>
      again (by rw [found, Option.map_some, zero])
    rw [length_append, length_cons, length_nil]
    omega

theorem terminateDatabases_then (split : registry.grants.filter (·.accountId = accountId) = done ++ rest) :
    Triple (Clearing server registry failAt done []) (each terminateDatabase rest)
      (fun _ => Clearing server registry failAt (registry.grants.filter (·.accountId = accountId)) []) Sane := by
  induction rest generalizing done with
  | nil =>
    rw [split, append_nil]
    exact Triple.pure fun _ holds => holds
  | cons grant rest ih =>
    refine Triple.bind (terminateDatabase_then good clean split) fun _ => ih ?_
    rw [split, append_assoc]
    rfl

theorem terminateUsers_then (split : registry.users.filter (·.accountId = accountId) = gone ++ more) :
    Triple (Clearing server registry failAt (registry.grants.filter (·.accountId = accountId)) gone)
      (each terminateUser more)
      (fun _ => Clearing server registry failAt (registry.grants.filter (·.accountId = accountId))
        (registry.users.filter (·.accountId = accountId))) Sane := by
  induction more generalizing gone with
  | nil =>
    rw [split, append_nil]
    exact Triple.pure fun _ holds => holds
  | cons user more ih =>
    refine Triple.bind (terminateUser_then good clean split) fun _ => ih ?_
    rw [split, append_assoc]
    rfl

theorem terminateAccountDatabases_agrees :
    Triple (Revoking server registry [] failAt) (terminateAccountDatabases accountId) (fun _ => Sane) Sane := by
  have start {work : Work} (stands : Revoking server registry [] failAt work) : Clearing server registry failAt [] [] work := by
    have same : failAt.map (· - (2 * ([] : List DatabaseGrant).length + ([] : List DatabaseUser).length)) = failAt := by
      cases failAt <;> rfl
    have nothing : registry.cleared [] [] = registry := by
      unfold Registry.cleared Registry.keep
      simp
    refine ⟨⟨server, ⟨fun name => by simp, fun login => by simp, fun held => by simp⟩, ?_⟩, fun _ _ => Nat.zero_le _⟩
    rw [same, nothing]
    exact stands
  refine get_then fun work there => ?_
  rw [there.there.2]
  refine Triple.bind (Q := fun _ => Clearing server registry failAt (registry.grants.filter (·.accountId = accountId)) [])
    ((terminateDatabases_then good clean (nil_append _).symm).weaken (fun _ stands => start stands)
      (fun _ _ holds => holds) fun _ holds => holds) fun _ => ?_
  refine (terminateUsers_then good clean (nil_append _).symm).weaken (fun _ holds => holds) ?_ fun _ holds => holds
  intro _ work clearing
  refine clearing.sane good (clean.severs good.linked (append_nil _).symm (fun _ => rfl) (fun _ member => member) ?_ ?_)
  · cases failAt with
    | none => rfl
    | some count =>
      have past := clearing.counted count rfl
      exact take_of_length_le (by omega)
  · cases failAt with
    | none => rfl
    | some count =>
      have past := clearing.counted count rfl
      exact take_of_length_le (by omega)

end

end

end

end Panel

end Boron.Databases

namespace Boron.Databases.Panel

/-- What an operation needs so as to leave both stores in agreement. -/
def Careful (stores : Stores) (turn : Operation × Option Nat) : Prop :=
  match turn.1 with
  | .dropDatabase request => DropsOwnOnly request stores.registry turn.2
  | .terminateAccountDatabases accountId => EndsClean stores.registry accountId turn.2
  | _ => True

theorem act_agrees {stores : Stores} {turn : Operation × Option Nat} (good : Good stores.server stores.registry)
    (careful : Careful stores turn) :
    Sys.Triple (Revoking stores.server stores.registry [] turn.2) turn.1.act (fun _ => Sane) Sane := by
  have ready : ∀ work, Revoking stores.server stores.registry [] turn.2 work →
      At stores.server stores.registry work := fun _ stands => stands.there
  have same : ∀ (_ : Unit) (work : Work), Sane work → Sane work := fun _ _ sane => sane
  have fails : ∀ work : Work, Sane work → Sane work := fun _ sane => sane
  obtain ⟨operation, failAt⟩ := turn
  cases operation with
  | createDatabase request => exact (createDatabase_agrees good request).weaken ready same fails
  | createUser request => exact (createUser_agrees good request).weaken ready same fails
  | grantUser request => exact (grantUser_agrees good request).weaken ready same fails
  | revokeUser request => exact (revokeUser_agrees good request).weaken ready same fails
  | dropUser request => exact (dropUser_agrees good request).weaken ready same fails
  | renameUser request => exact (renameUser_agrees good request).weaken ready same fails
  | dropDatabase request =>
    exact (dropDatabase_agrees good request careful).weaken (fun _ stands => ⟨stands.there, stands.left⟩) same fails
  | terminateAccountDatabases accountId => exact terminateAccountDatabases_agrees good careful

theorem step_agrees {stores : Stores} {turn : Operation × Option Nat} (good : Good stores.server stores.registry)
    (careful : Careful stores turn) : Good (stores.step turn).server (stores.step turn).registry := by
  have starts : Revoking stores.server stores.registry [] turn.2 ⟨stores.server, stores.registry, turn.2, []⟩ :=
    ⟨⟨rfl, rfl⟩, rfl, rfl⟩
  have ends : Sane (turn.1.act.run ⟨stores.server, stores.registry, turn.2, []⟩).2 := (act_agrees good careful).always starts
  exact ends

/-- After every operation of a run, returned or raised, the databases, the logins and the
privileges on the server are those of the rows. -/
theorem databases_agree {start stores : Stores} (good : Good start.server start.registry)
    (reached : Sys.Reaches Stores.step Careful start stores) : Agrees stores.server stores.registry := by
  have kept : Good stores.server stores.registry :=
    reached.invariant (I := fun stores : Stores => Good stores.server stores.registry) good
      fun _ _ careful good => step_agrees good careful
  exact kept.agrees

def newcomer : Stores where
  server := ⟨fun _ => none, ∅, ∅⟩
  registry := ⟨[⟨1, "demo", .active⟩], [], [], []⟩

theorem newcomer_good : Good newcomer.server newcomer.registry where
  agrees := ⟨fun name => by simp [newcomer], fun login => by simp [newcomer], fun held => by simp [newcomer, Registry.holds]⟩
  linked := {
    sound := ⟨by decide, by decide, by decide, by decide, by decide, by decide, by decide, by decide⟩
    refs := by simp [newcomer]
    own := by simp [newcomer]
    valid := by simp [newcomer] }

/-- A database, and a login of the same name at another host. -/
def namesakes : List (Operation × Option Nat) :=
  [(.createDatabase ⟨"demo", "shop", true, true⟩, none), (.createUser ⟨"demo", "shop", "10.0.0.2", true⟩, none),
    (.grantUser ⟨"demo", "shop", "shop", "10.0.0.2", .readOnly, []⟩, none)]

def remote : Login := ⟨"demo_shop", "10.0.0.2"⟩

theorem databases_agree_applied : Agrees (newcomer.step (.createDatabase ⟨"demo", "shop", true, true⟩, some 6)).server
    (newcomer.step (.createDatabase ⟨"demo", "shop", true, true⟩, some 6)).registry :=
  databases_agree newcomer_good (Sys.Reaches.next _ Sys.Reaches.start trivial)

def namesakeDropped : Stores :=
  (namesakes ++ [(Operation.dropDatabase ⟨"demo", "shop"⟩, none)]).foldl (fun stores turn => stores.step turn) newcomer

/-- No call fails, and the login at the other host keeps its place on the server but not its row. -/
theorem login_left_behind : ¬ Agrees namesakeDropped.server namesakeDropped.registry := by
  intro agrees
  have there : remote ∈ namesakeDropped.server.logins := by decide
  obtain ⟨user, present, _⟩ := (agrees.logins remote).mp there
  have nobody : namesakeDropped.registry.users = [] := rfl
  rw [nobody] at present
  cases present

end Boron.Databases.Panel
