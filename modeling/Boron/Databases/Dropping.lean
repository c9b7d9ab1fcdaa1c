import Boron.Databases.Agreed

namespace Boron.Databases
open List Sys

open Rename (revokedFrom grantAll grantedTo mem_revokedFrom mem_grantAll)

section
variable {server after : Server} {registry : Registry} {grant : DatabaseGrant} {held : Held} {todo rest : List Assignment}

theorem Good.normalizes (good : Good server registry) {assignment : Assignment}
    (member : assignment ∈ registry.databaseAssignments grant.id) :
    normalizeDatabasePrivileges assignment.preset assignment.custom = some (grantedTo assignment) := by
  obtain ⟨user, present, link, inside, joins, rfl⟩ := (mem_databaseAssignments good.linked.sound).mp member
  unfold grantedTo
  obtain ⟨granted, normalized⟩ := Option.isSome_iff_exists.mp (good.linked.valid link inside)
  rw [normalized]
  rfl

theorem Good.regranted (good : Good server registry) (listed : grant ∈ registry.grants)
    (split : registry.databaseAssignments grant.id = todo ++ rest) :
    Good (grantAll grant.dbName todo (revokedFrom grant.dbName todo server)) registry := by
  obtain ⟨agrees, linked⟩ := good
  have distinct := @Registry.databaseAssignments_nodup registry grant.id linked.sound
  have within : ∀ assignment ∈ todo, assignment ∈ registry.databaseAssignments grant.id := fun assignment member => by
    rw [split]
    exact mem_append_left _ member
  have some : (todo.map Assignment.login).Nodup := by
    rw [split, map_append] at distinct
    exact (nodup_append.mp distinct).1
  refine ⟨⟨fun name => ?_, fun login => ?_, fun held => ?_⟩, linked⟩
  · rw [Rename.grantAll_databases, Rename.revokedFrom_databases]
    exact agrees.names name
  · have logins : (grantAll grant.dbName todo (revokedFrom grant.dbName todo server)).logins = server.logins := by
      rw [Rename.grantAll_logins, Rename.revokedFrom_logins]
    rw [logins]
    exact agrees.logins login
  · rw [mem_grantAll some, mem_revokedFrom, ← agrees.held]
    constructor
    · rintro (⟨⟨inside, -⟩, -⟩ | ⟨assignment, member, database, who, given⟩)
      · exact inside
      · exact (agrees.assigned linked listed database).mpr ⟨assignment, within assignment member, who, given⟩
    · intro inside
      by_cases revoked : ∃ assignment ∈ todo, held.isHosted grant.dbName assignment.login = true
      · obtain ⟨assignment, member, hosted⟩ := revoked
        obtain ⟨database, who⟩ := (agrees.isHosted_iff inside).mp hosted
        obtain ⟨other, found, who', given⟩ := (agrees.assigned linked listed database).mp inside
        have same : other = assignment :=
          inj_on_of_nodup_map distinct found (within assignment member) (who'.symm.trans who)
        exact .inr ⟨assignment, member, database, who, same ▸ given⟩
      · have spared : ∀ assignment ∈ todo, held.isHosted grant.dbName assignment.login = false := fun assignment member =>
          Bool.eq_false_iff.mpr fun hosted => revoked ⟨assignment, member, hosted⟩
        exact .inl ⟨⟨inside, spared⟩, spared⟩

theorem Good.mem_revoked (good : Good server registry) (listed : grant ∈ registry.grants) :
    held ∈ (revokedFrom grant.dbName (registry.databaseAssignments grant.id) server).held ↔
      held ∈ server.held ∧ held.database ≠ grant.dbName := by
  rw [mem_revokedFrom]
  refine and_congr_right fun inside => ?_
  constructor
  · intro spared database
    obtain ⟨assignment, member, who, -⟩ := (good.agrees.assigned good.linked listed database).mp inside
    have hosted := (good.agrees.isHosted_iff inside).mpr ⟨database, who⟩
    rw [spared assignment member] at hosted
    cases hosted
  · intro elsewhere assignment _
    exact (good.agrees.not_isHosted inside).mpr fun both => elsewhere both.1

structure Registry.Lone (registry : Registry) (grant : DatabaseGrant) : Prop where
  atHost : ∀ user ∈ registry.users, registry.isNamesake grant.id grant.dbUser user = true → user.host = "localhost"
  here : ∀ user ∈ registry.users, user.login = grant.ownLogin → registry.isAssignedElsewhere grant.id user.id = false

theorem Registry.Lone.namesake_iff (lone : registry.Lone grant) (linked : registry.Linked) (listed : grant ∈ registry.grants)
    {user : DatabaseUser} (present : user ∈ registry.users) :
    registry.isNamesake grant.id grant.dbUser user = true ↔ user.login = grant.ownLogin := by
  constructor
  · intro namesake
    have host := lone.atHost user present namesake
    unfold Registry.isNamesake at namesake
    rw [Bool.and_eq_true, decide_eq_true_eq] at namesake
    unfold DatabaseUser.login DatabaseGrant.ownLogin
    rw [namesake.1, host]
  · intro own
    obtain ⟨twin, there, -, isOwn, link, inside, joins⟩ := linked.own grant listed
    rw [linked.sound.login_eq there present (isOwn.trans own.symm)] at joins
    unfold Registry.isNamesake
    rw [Bool.and_eq_true, decide_eq_true_eq]
    refine ⟨congrArg Login.user own, any_eq_true.mpr ⟨link, inside, ?_⟩⟩
    rw [Bool.and_eq_true, decide_eq_true_eq, decide_eq_true_eq]
    exact joins

theorem Registry.Lone.elsewhere (lone : registry.Lone grant) {user : DatabaseUser} {link : DatabaseUserGrant}
    (present : user ∈ registry.users) (own : user.login = grant.ownLogin) (inside : link ∈ registry.links)
    (joins : link.databaseUserId = user.id) : link.databaseGrantId = grant.id := by
  have nowhere := lone.here user present own
  have off := any_eq_false.mp nowhere link inside
  by_contra other
  exact off (by simp [joins, other])

theorem Registry.deleteDatabase_eq (linked : registry.Linked) (listed : grant ∈ registry.grants) (userDropped : Bool)
    (lone : userDropped = true → registry.Lone grant) :
    registry.deleteDatabase grant.id grant.dbUser userDropped = some (registry.keep (fun other => other.id ≠ grant.id)
      (fun user => !(userDropped && registry.isNamesake grant.id grant.dbUser user))
      (fun link => link.databaseGrantId ≠ grant.id)) := by
  unfold Registry.deleteDatabase
  have found : Rows.byKey DatabaseGrant.id registry.grants grant.id = some grant :=
    Rows.byKey_of_mem linked.sound.grantIds listed
  rw [found]
  rw [if_neg]
  · rfl
  · intro some
    obtain ⟨user, present, both⟩ := any_eq_true.mp some
    rw [Bool.and_eq_true, Bool.and_eq_true] at both
    obtain ⟨⟨dropped, namesake⟩, assigned⟩ := both
    obtain ⟨link, member, joins⟩ := any_eq_true.mp assigned
    obtain ⟨inside, other⟩ := mem_filter.mp member
    have own := ((lone dropped).namesake_iff linked listed present).mp namesake
    exact of_decide_eq_true other ((lone dropped).elsewhere present own inside (of_decide_eq_true joins))

theorem Good.deleteDatabase (good : Good server registry) (listed : grant ∈ registry.grants) (userDropped : Bool)
    (lone : userDropped = true → registry.Lone grant)
    (names : ∀ name, after.databases name = if name = grant.dbName then none else server.databases name)
    (logins : ∀ login, login ∈ after.logins ↔ login ∈ server.logins ∧ (userDropped = true → login ≠ grant.ownLogin))
    (held : ∀ held, held ∈ after.held ↔
      (held ∈ server.held ∧ held.database ≠ grant.dbName) ∧ (userDropped = true → held.login ≠ grant.ownLogin)) :
    ∃ left, registry.deleteDatabase grant.id grant.dbUser userDropped = some left ∧ Good after left := by
  have linked := good.linked
  have sound := linked.sound
  refine ⟨_, Registry.deleteDatabase_eq linked listed userDropped lone, ?_⟩
  have goes {user : DatabaseUser} (present : user ∈ registry.users) :
      (!(userDropped && registry.isNamesake grant.id grant.dbUser user)) = true ↔
        (userDropped = true → user.login ≠ grant.ownLogin) := by
    cases dropped : userDropped with
    | false => simp
    | true =>
      have iff := (lone dropped).namesake_iff linked listed present
      cases isNamesake : registry.isNamesake grant.id grant.dbUser user with
      | false =>
        rw [isNamesake] at iff
        exact iff_of_true rfl fun _ own => Bool.noConfusion (iff.mpr own)
      | true =>
        rw [isNamesake] at iff
        exact iff_of_false (by simp) fun other => other rfl (iff.mp rfl)
  have stays (name : String) : (∀ other ∈ registry.grants, other.dbName = name → decide (other.id ≠ grant.id) = true) ↔
      name ≠ grant.dbName := by
    constructor
    · intro all same
      exact of_decide_eq_true (all grant listed same.symm) rfl
    · intro different other known same
      refine decide_eq_true fun equal => different ?_
      rw [← same, sound.grant_eq known listed equal]
  have remains (login : Login) (known : login ∈ server.logins) : (∀ user ∈ registry.users, user.login = login →
      (!(userDropped && registry.isNamesake grant.id grant.dbUser user)) = true) ↔
        (userDropped = true → login ≠ grant.ownLogin) := by
    constructor
    · intro all
      obtain ⟨user, present, same⟩ := (good.agrees.logins login).mp known
      rw [← same]
      exact (goes present).mp (all user present same)
    · rintro other user present rfl
      exact (goes present).mpr other
  refine good.keep ⟨?_, ?_⟩ (fun name => ?_) (fun login => ?_) fun one => ?_
  · intro link inside other known user present joins
    rw [joins.1, goes present]
    constructor
    · intro different
      refine ⟨different, fun dropped own => of_decide_eq_true different ?_⟩
      rw [← joins.1]
      exact (lone dropped).elsewhere present own inside joins.2
    · exact fun both => both.1
  · intro other known different user present own
    refine (goes present).mpr fun dropped same => of_decide_eq_true different ?_
    obtain ⟨twin, there, -, isOwn, link, inside, joins⟩ := linked.own other known
    rw [sound.login_eq there present (isOwn.trans own.symm)] at joins
    exact joins.1.symm.trans ((lone dropped).elsewhere present same inside joins.2)
  · rw [names, stays]
    by_cases same : name = grant.dbName
    · simp [same]
    · simp [same]
  · rw [logins]
    exact and_congr_right fun known => (remains login known).symm
  · rw [held, stays, and_assoc]
    exact and_congr_right fun inside => and_congr_right fun _ => (remains one.login (good.agrees.login_known inside)).symm

end

namespace Panel

/-- Where `drop_database` stands: what is revoked, and how many calls are left before the one
that fails. -/
structure Revoking (server : Server) (registry : Registry) (revoked : List Assignment) (left : Option Nat) (work : Work) :
    Prop where
  there : At server registry work
  revoked : work.revoked = revoked
  left : work.failAt = left

section
variable {server mid : Server} {registry : Registry} {effect : Server → Server} {done todo : List Assignment} {left : Option Nat}
  {name : String} {grant : DatabaseGrant}

theorem call_counts : Triple (Revoking server registry done left) (call effect)
    (fun _ work => Revoking (effect server) registry done (left.map (· - 1)) work ∧ left ≠ some 0)
    (fun work => Revoking server registry done none work ∧ left = some 0) := by
  rintro ⟨_, _, count, _⟩ ⟨⟨rfl, rfl⟩, rfl, rfl⟩
  constructor
  · intro a after ran
    match count, ran with
    | none, rfl => exact ⟨⟨⟨rfl, rfl⟩, rfl, rfl⟩, nofun⟩
    | some (more + 1), rfl => exact ⟨⟨⟨rfl, rfl⟩, rfl, rfl⟩, nofun⟩
  · intro failure after ran
    match count, ran with
    | some 0, rfl => exact ⟨⟨⟨rfl, rfl⟩, rfl, rfl⟩, rfl⟩

theorem revokes_then : Triple (Revoking (revokedFrom name done server) registry done left)
    (each (revokeOne name) todo)
    (fun _ work => Revoking (revokedFrom name (done ++ todo) server) registry (done ++ todo)
      (left.map (· - todo.length)) work ∧ ∀ count, left = some count → todo.length ≤ count)
    (fun work => ∃ cut rest, todo = cut ++ rest ∧
      Revoking (revokedFrom name (done ++ cut) server) registry (done ++ cut) none work ∧
        ∃ count, left = some count ∧ count < todo.length) := by
  induction todo generalizing done left with
  | nil =>
    refine Triple.pure fun work holds => ⟨?_, fun _ _ => Nat.zero_le _⟩
    rw [append_nil]
    have same : left.map (· - ([] : List Assignment).length) = left := by cases left <;> rfl
    rw [same]
    exact holds
  | cons assignment todo ih =>
    have one : Triple (Revoking (revokedFrom name done server) registry done left) (revokeOne name assignment)
        (fun _ work => Revoking (revokedFrom name (done ++ [assignment]) server) registry (done ++ [assignment])
          (left.map (· - 1)) work ∧ left ≠ some 0)
        (fun work => Revoking (revokedFrom name done server) registry done none work ∧ left = some 0) := by
      refine Triple.bind call_counts fun _ => Triple.modify ?_
      rintro work ⟨⟨⟨server, registry⟩, revoked, counted⟩, more⟩
      refine ⟨⟨⟨?_, registry⟩, ?_, counted⟩, more⟩
      · rw [server]
        unfold revokedFrom
        rw [foldl_append]
        rfl
      · rw [← revoked]
    refine Triple.bind (one.weaken (fun _ holds => holds) (fun _ _ holds => holds) ?_) fun _ => ?_
    · rintro work ⟨holds, last⟩
      refine ⟨[], assignment :: todo, rfl, ?_, 0, last, Nat.succ_pos _⟩
      rw [append_nil]
      exact holds
    · rintro work ⟨holds, more⟩
      refine (ih.weaken (fun _ holds => holds) ?_ ?_) work holds
      · rintro _ after ⟨ends, counted⟩
        rw [append_assoc] at ends
        have sum : (left.map (· - 1)).map (· - todo.length) = left.map (· - (assignment :: todo).length) := by
          rw [Option.map_map]
          refine congrArg (Option.map · left) (funext fun count => ?_)
          simp only [Function.comp_apply, length_cons]
          omega
        rw [sum] at ends
        refine ⟨ends, fun count same => ?_⟩
        have later := counted (count - 1) (by rw [same]; rfl)
        have positive : count ≠ 0 := fun zero => more (by rw [same, zero])
        rw [length_cons]
        omega
      · rintro after ⟨cut, rest, rfl, ends, count, same, before⟩
        rw [append_assoc] at ends
        refine ⟨assignment :: cut, rest, rfl, ends, ?_⟩
        obtain ⟨earlier, found, rfl⟩ := Option.map_eq_some_iff.mp same
        refine ⟨earlier, found, ?_⟩
        rw [length_cons]
        omega

theorem regrants_then (normalizes : ∀ assignment ∈ todo,
      normalizeDatabasePrivileges assignment.preset assignment.custom = some (grantedTo assignment)) :
    Triple (Spent mid registry) (each (grantAssignment name) todo)
      (fun _ => Spent (grantAll name todo mid) registry) (fun _ => False) := by
  induction todo generalizing mid with
  | nil => exact Triple.pure fun _ holds => holds
  | cons assignment todo ih =>
    refine Triple.bind (Q := fun _ => Spent (mid.grantPrivileges name assignment.login (grantedTo assignment)) registry) ?_
      fun _ => ih fun other member => normalizes other (mem_cons_of_mem _ member)
    unfold grantAssignment
    rw [normalizes assignment mem_cons_self]
    exact call_spent

theorem regrant_then (good : Good server registry) (listed : grant ∈ registry.grants) :
    Triple (fun work => ∃ cut rest, registry.databaseAssignments grant.id = cut ++ rest ∧
        Revoking (revokedFrom grant.dbName cut server) registry cut none work)
      (regrant grant.dbName) (fun _ => Sane) Sane := by
  rintro work ⟨cut, rest, split, there, revoked, spent⟩
  have normalizes : ∀ assignment ∈ cut,
      normalizeDatabasePrivileges assignment.preset assignment.custom = some (grantedTo assignment) := by
    intro assignment member
    have within : assignment ∈ registry.databaseAssignments grant.id := by
      rw [split]
      exact mem_append_left _ member
    exact good.normalizes within
  unfold regrant
  rw [run_get_bind, revoked]
  exact (regrants_then normalizes).weaken (fun _ holds => holds)
    (fun _ _ spent => sane_of_at (good.regranted listed split) spent.1) (fun _ wrong => wrong.elim) work ⟨there, spent⟩

theorem dropOwnLogin_then {doomed : Doomed} : Triple (Revoking server registry done left) (dropOwnLogin doomed)
    (fun dropped work => (dropped = true ∧ doomed.elsewhere = false ∧ left ≠ some 0 ∧
        At (server.dropLogin doomed.grant.ownLogin) registry work) ∨ (dropped = false ∧ At server registry work))
    (fun _ => False) := by
  unfold dropOwnLogin
  cases doomed.elsewhere with
  | true => exact Triple.pure fun work holds => .inr ⟨rfl, holds.there⟩
  | false =>
    refine Triple.handle (Triple.bind call_counts fun _ => Triple.pure ?_) fun _ => Triple.pure ?_
    · rintro work ⟨holds, more⟩
      exact .inl ⟨rfl, rfl, more, holds.there⟩
    · rintro work ⟨holds, -⟩
      exact .inr ⟨rfl, holds.there⟩

end

/-- The database that a request names, with the checks that `drop_database` makes. -/
def Doom (request : DropDatabase) (registry : Registry) (doomed : Doomed) : Prop :=
  ∃ name account grant, registry.resolveExistingDbName request.username request.name = some name ∧
    registry.account request.username = some account ∧ registry.databaseOf account.id name = some grant ∧
      doomed = { grant := grant, assignments := registry.databaseAssignments grant.id,
                 elsewhere := (registry.userOf account.id grant.ownLogin).any fun user =>
                   registry.isAssignedElsewhere grant.id user.id }

section
variable {server : Server} {registry : Registry} {left : Option Nat}

theorem readDoomed_then (good : Good server registry) (request : DropDatabase) :
    Triple (fun work => At server registry work ∧ work.failAt = left) (readDoomed request)
      (fun doomed work => Revoking server registry [] left work ∧ Doom request registry doomed) Sane := by
  have raises : ∀ work, At server registry work ∧ work.failAt = left → Sane work := fun _ both => sane_of_at good both.1
  have known : ∀ work, At server registry work ∧ work.failAt = left → work.registry = registry := fun _ both => both.1.2
  refine get_then fun work both => ?_
  rw [known work both]
  refine orRaise_then raises fun name resolved => orRaise_then raises fun account owner => ?_
  refine orRaise_then raises fun grant found => ensured_then known good.linked (commit_then known ?_)
  refine Triple.bind (Q := fun _ => Revoking server registry [] left) ?_ fun _ => ?_
  · exact Triple.modify fun work both => ⟨both.1, rfl, both.2⟩
  · exact Triple.pure fun work holds => ⟨holds, name, account, grant, resolved, owner, found, rfl⟩

/-- If its own login is dropped with a database, no login of the same name at another host is
assigned to it. -/
def DropsOwnOnly (request : DropDatabase) (registry : Registry) (failAt : Option Nat) : Prop :=
  ∀ doomed, Doom request registry doomed → doomed.elsewhere = false →
    (∀ count, failAt = some count → doomed.assignments.length + 1 < count) →
      ∀ user ∈ registry.users, registry.isNamesake doomed.grant.id doomed.grant.dbUser user = true → user.host = "localhost"

theorem dropDatabase_agrees (good : Good server registry) (request : DropDatabase)
    (careful : DropsOwnOnly request registry left) :
    Triple (fun work => At server registry work ∧ work.failAt = left) (dropDatabase request) (fun _ => Sane) Sane := by
  refine Triple.bind (readDoomed_then good request) fun doomed => ?_
  rintro work ⟨ready, doom⟩
  revert work ready
  obtain ⟨name, account, grant, resolved, owner, found, rfl⟩ := doom
  have own := careful _ ⟨name, account, grant, resolved, owner, found, rfl⟩
  obtain ⟨listed, belongs, _⟩ := Registry.databaseOf_some found
  dsimp only at own ⊢
  have body : Triple (Revoking server registry [] left) (do
        each (revokeOne grant.dbName) (registry.databaseAssignments grant.id)
        call (Server.dropDatabase grant.dbName))
      (fun _ work => Revoking ((revokedFrom grant.dbName (registry.databaseAssignments grant.id) server).dropDatabase
          grant.dbName) registry (registry.databaseAssignments grant.id)
          ((left.map (· - (registry.databaseAssignments grant.id).length)).map (· - 1)) work ∧
        ∀ count, left = some count → (registry.databaseAssignments grant.id).length < count)
      (fun work => ∃ cut rest, registry.databaseAssignments grant.id = cut ++ rest ∧
        Revoking (revokedFrom grant.dbName cut server) registry cut none work) := by
    have revokes := @revokes_then server registry [] (registry.databaseAssignments grant.id) left grant.dbName
    refine Triple.bind (revokes.weaken (fun _ holds => holds) (fun _ _ holds => holds) ?_) fun _ => ?_
    · rintro work ⟨cut, rest, split, ends, _⟩
      exact ⟨cut, rest, split, ends⟩
    · rintro work ⟨ends, counted⟩
      refine (call_counts.weaken (fun _ holds => holds) ?_ ?_) work ends
      · rintro _ after ⟨dropped, more⟩
        refine ⟨dropped, fun count same => ?_⟩
        have positive : count - (registry.databaseAssignments grant.id).length ≠ 0 := fun zero =>
          more (by rw [same, Option.map_some, zero])
        omega
      · rintro after ⟨ends, _⟩
        exact ⟨_, [], (append_nil _).symm, ends⟩
  refine Triple.bind (compensated_then body (regrant_then good listed)) fun _ => ?_
  rintro work ⟨ends, counted⟩
  refine Triple.bind (dropOwnLogin_then.weaken (fun _ holds => holds) (fun _ _ holds => holds)
    fun _ wrong => wrong.elim) (fun userDropped => ?_) work ends
  have names (other : String) : ((revokedFrom grant.dbName (registry.databaseAssignments grant.id) server).dropDatabase
      grant.dbName).databases other = if other = grant.dbName then none else server.databases other := by
    split
    · next same => rw [same, Server.dropDatabase_self]
    · next apart => rw [Server.dropDatabase_other apart, Rename.revokedFrom_databases]
  have logins : (revokedFrom grant.dbName (registry.databaseAssignments grant.id) server).logins = server.logins :=
    Rename.revokedFrom_logins
  rintro work (⟨rfl, alone, more, there⟩ | ⟨rfl, there⟩)
  · have lone : registry.Lone grant := by
      constructor
      · refine own alone fun count same => ?_
        have positive : count - (registry.databaseAssignments grant.id).length - 1 ≠ 0 := fun zero =>
          more (by rw [same, Option.map_some, Option.map_some, zero])
        omega
      · intro user present isOwn
        obtain ⟨twin, known, owned, same, _⟩ := good.linked.own grant listed
        have isTwin : twin = user := good.linked.sound.login_eq known present (same.trans isOwn.symm)
        have account_eq : user.accountId = account.id := by rw [← isTwin, owned, belongs]
        have row : registry.userOf account.id grant.ownLogin = some user := by
          cases search : registry.userOf account.id grant.ownLogin with
          | none =>
            have absent := List.find?_eq_none.mp search user present
            simp [isOwn, account_eq] at absent
          | some other =>
            obtain ⟨there, -, its⟩ := Registry.userOf_some search
            rw [good.linked.sound.login_eq present there (isOwn.trans its.symm)]
        rw [row] at alone
        exact alone
    obtain ⟨after, deletes, goodAfter⟩ := @Good.deleteDatabase server
      (((revokedFrom grant.dbName (registry.databaseAssignments grant.id) server).dropDatabase
        grant.dbName).dropLogin grant.ownLogin) registry grant good listed true (fun _ => lone) names
      (fun login => by
        unfold Server.dropLogin Server.dropDatabase
        rw [Finset.mem_erase, logins, and_comm]
        exact and_congr_right fun _ => ⟨fun other _ => other, fun other => other rfl⟩)
      (fun held => by
        unfold Server.dropLogin Server.dropDatabase
        rw [Finset.mem_filter, good.mem_revoked listed]
        exact and_congr_right fun _ => ⟨fun other _ => other, fun other => other rfl⟩)
    exact session_then goodAfter deletes work there
  · obtain ⟨after, deletes, goodAfter⟩ := @Good.deleteDatabase server
      ((revokedFrom grant.dbName (registry.databaseAssignments grant.id) server).dropDatabase grant.dbName) registry grant
      good listed false nofun names
      (fun login => by
        unfold Server.dropDatabase
        rw [logins]
        exact (and_iff_left nofun).symm)
      (fun held => by
        unfold Server.dropDatabase
        rw [good.mem_revoked listed]
        exact (and_iff_left nofun).symm)
    exact session_then goodAfter deletes work there

end

end Panel

end Boron.Databases
