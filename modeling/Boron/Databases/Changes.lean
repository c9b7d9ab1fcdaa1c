import Boron.Databases.Agreement

namespace Boron.Databases
open List Rows

section
variable {server : Server} {registry : Registry} {grant : DatabaseGrant} {user : DatabaseUser}
  {link : DatabaseUserGrant} {held : Held} {name : String} {login : Login} {preset : Preset} {custom : List Privilege}

theorem Registry.Linked.grantId_lt (linked : registry.Linked) (inside : link ∈ registry.links) :
    link.databaseGrantId < Rows.next DatabaseGrant.id registry.grants := by
  obtain ⟨grant, listed, user, present, joins, -⟩ := linked.refs link inside
  rw [joins.1]
  exact lt_next listed

theorem Registry.Linked.userId_lt (linked : registry.Linked) (inside : link ∈ registry.links) :
    link.databaseUserId < Rows.next DatabaseUser.id registry.users := by
  obtain ⟨grant, listed, user, present, joins, -⟩ := linked.refs link inside
  rw [joins.2]
  exact lt_next present

theorem holds_addUser (accountId : Nat) (login : Login)
    (free : ∀ link ∈ registry.links, link.databaseUserId ≠ Rows.next DatabaseUser.id registry.users) :
    (registry.addUser accountId login).holds held ↔ registry.holds held := by
  constructor
  · rintro ⟨grant, listed, user, present, link, inside, joins, rest⟩
    rcases mem_append.mp present with earlier | newest
    · exact ⟨grant, listed, user, earlier, link, inside, joins, rest⟩
    · rw [mem_singleton.mp newest] at joins
      exact absurd joins.2 (free link inside)
  · rintro ⟨grant, listed, user, present, rest⟩
    exact ⟨grant, listed, user, mem_append_left _ present, rest⟩

theorem holds_addGrant (free : ∀ link ∈ registry.links, link.databaseGrantId ≠ grant.id) :
    ({ registry with grants := registry.grants ++ [grant] } : Registry).holds held ↔ registry.holds held := by
  constructor
  · rintro ⟨other, listed, user, present, link, inside, joins, rest⟩
    rcases mem_append.mp listed with earlier | newest
    · exact ⟨other, earlier, user, present, link, inside, joins, rest⟩
    · rw [mem_singleton.mp newest] at joins
      exact absurd joins.1 (free link inside)
  · rintro ⟨other, listed, rest⟩
    exact ⟨other, mem_append_left _ listed, rest⟩

theorem holds_addLink (sound : registry.Sound) (listed : grant ∈ registry.grants) (present : user ∈ registry.users) :
    (registry.addLink grant.id user.id preset custom).holds held ↔ registry.holds held ∨
      (held.database = grant.dbName ∧ held.login = user.login ∧
        held.privilege ∈ (normalizeDatabasePrivileges preset custom).getD []) := by
  constructor
  · rintro ⟨other, known, twin, there, link, inside, joins, database, who, given⟩
    rcases mem_append.mp inside with earlier | newest
    · exact .inl ⟨other, known, twin, there, link, earlier, joins, database, who, given⟩
    · rw [mem_singleton.mp newest] at joins given
      rw [sound.grant_eq listed known joins.1, sound.user_eq present there joins.2]
      exact .inr ⟨database, who, given⟩
  · rintro (⟨other, known, twin, there, link, inside, rest⟩ | ⟨database, who, given⟩)
    · exact ⟨other, known, twin, there, link, mem_append_left _ inside, rest⟩
    · exact ⟨grant, listed, user, present, _, mem_append_right _ (mem_singleton_self _), ⟨rfl, rfl⟩,
        database, who, given⟩

theorem Registry.Linked.addUser (linked : registry.Linked) (accountId : Nat)
    (fresh : ∀ user ∈ registry.users, user.login ≠ login) : (registry.addUser accountId login).Linked where
  sound := linked.sound.addUser fresh
  refs := by
    intro link inside
    obtain ⟨grant, listed, user, present, joins⟩ := linked.refs link inside
    exact ⟨grant, listed, user, mem_append_left _ present, joins⟩
  own := by
    intro grant listed
    obtain ⟨user, present, account, own, links⟩ := linked.own grant listed
    exact ⟨user, mem_append_left _ present, account, own, links⟩
  valid := linked.valid

theorem Good.createLogin (good : Good server registry) (accountId : Nat) (absent : login ∉ server.logins) :
    ∃ left, registry.registerUser accountId login = some left ∧ Good (server.createLogin login) left := by
  have fresh : ∀ user ∈ registry.users, user.login ≠ login := fun user present same =>
    absent ((good.agrees.logins login).mpr ⟨user, present, same⟩)
  refine ⟨registry.addUser accountId login, ?_, ⟨?_, fun other => ?_, fun held => ?_⟩, good.linked.addUser accountId fresh⟩
  · refine if_neg fun taken => ?_
    obtain ⟨user, present, same⟩ := any_eq_true.mp taken
    exact fresh user present (of_decide_eq_true same)
  · exact good.agrees.names
  · unfold Server.createLogin
    rw [Finset.mem_insert, good.agrees.logins]
    constructor
    · rintro (rfl | ⟨user, present, same⟩)
      · exact ⟨_, mem_append_right _ (mem_singleton_self _), rfl⟩
      · exact ⟨user, mem_append_left _ present, same⟩
    · rintro ⟨user, present, same⟩
      rcases mem_append.mp present with earlier | newest
      · exact .inr ⟨user, earlier, same⟩
      · rw [mem_singleton.mp newest] at same
        exact .inl same.symm
  · rw [holds_addUser accountId login fun link inside => (good.linked.userId_lt inside).ne]
    exact good.agrees.held held

theorem mem_grantHosted {held : Held} : held ∈ (server.grantHosted name login).held ↔
    held ∈ server.held ∨ (held.database = name ∧ held.login = login ∧ held.privilege ∈ hostedPrivileges) := by
  obtain ⟨database, who, privilege⟩ := held
  simp only [Server.grantHosted, Finset.mem_union, mem_toFinset, mem_map, Held.mk.injEq]
  refine or_congr Iff.rfl ?_
  constructor
  · rintro ⟨_, member, rfl, rfl, rfl⟩
    exact ⟨rfl, rfl, member⟩
  · rintro ⟨rfl, rfl, member⟩
    exact ⟨privilege, member, rfl, rfl, rfl⟩

theorem isSome_createDatabase {other : String} : ((server.createDatabase name).databases other).isSome = true ↔
    other = name ∨ (server.databases other).isSome = true := by
  by_cases same : other = name
  · subst same
    refine iff_of_true ?_ (.inl rfl)
    unfold Server.createDatabase
    split
    · next there => exact there
    · simp only [Function.update_self, Option.isSome_some]
  · rw [Server.createDatabase_other same]
    simp only [same, false_or]

/-- A new database with its own login on both sides. -/
theorem Good.createDatabase (good : Good server registry) (accountId : Nat) (fresh : (server.databases name).isNone = true)
    (absent : ⟨name, "localhost"⟩ ∉ server.logins) :
    ∃ left, registry.registerDatabase accountId name = some left ∧
      Good (((server.createDatabase name).createLogin ⟨name, "localhost"⟩).grantHosted name ⟨name, "localhost"⟩) left := by
  obtain ⟨agrees, linked⟩ := good
  have noDatabase : ∀ grant ∈ registry.grants, grant.dbName ≠ name := by
    intro grant listed same
    have there := (agrees.names name).mpr ⟨grant, listed, same⟩
    rw [Option.isNone_iff_eq_none.mp fresh] at there
    cases there
  have noLogin : ∀ user ∈ registry.users, user.login ≠ ⟨name, "localhost"⟩ := fun user present same =>
    absent ((agrees.logins _).mpr ⟨user, present, same⟩)
  obtain ⟨grant, isGrant⟩ : ∃ grant : DatabaseGrant,
      grant = ⟨Rows.next DatabaseGrant.id registry.grants, accountId, name, name⟩ := ⟨_, rfl⟩
  obtain ⟨user, isUser⟩ : ∃ user : DatabaseUser,
      user = ⟨Rows.next DatabaseUser.id registry.users, accountId, name, "localhost"⟩ := ⟨_, rfl⟩
  obtain ⟨mid, isMid⟩ : ∃ mid : Registry, mid = { registry.addUser accountId ⟨name, "localhost"⟩ with
      grants := registry.grants ++ [grant] } := ⟨_, rfl⟩
  have grantFree : ∀ link ∈ registry.links, link.databaseGrantId ≠ grant.id := by
    intro link inside
    rw [isGrant]
    exact (linked.grantId_lt inside).ne
  have userFree : ∀ link ∈ registry.links, link.databaseUserId ≠ Rows.next DatabaseUser.id registry.users :=
    fun link inside => (linked.userId_lt inside).ne
  have grants : mid.grants = registry.grants ++ [grant] := by rw [isMid]
  have users : mid.users = registry.users ++ [user] := by rw [isMid, isUser]; rfl
  have links : mid.links = registry.links := by rw [isMid]; rfl
  have newGrant : grant ∈ mid.grants := by rw [grants]; exact mem_append_right _ (mem_singleton_self _)
  have newUser : user ∈ mid.users := by rw [users]; exact mem_append_right _ (mem_singleton_self _)
  have oldGrant {other : DatabaseGrant} (listed : other ∈ registry.grants) : other ∈ mid.grants := by
    rw [grants]; exact mem_append_left _ listed
  have oldUser {other : DatabaseUser} (present : other ∈ registry.users) : other ∈ mid.users := by
    rw [users]; exact mem_append_left _ present
  have soundUser : (registry.addUser accountId ⟨name, "localhost"⟩).Sound := linked.sound.addUser noLogin
  have midSound : mid.Sound := by
    rw [isMid]
    refine { soundUser with
      grantIds := unique_append linked.sound.grantIds fun other listed => ?_
      names := unique_append linked.sound.names fun other listed => ?_ }
    · rw [isGrant]
      exact (lt_next listed).ne
    · rw [isGrant]
      exact noDatabase other listed
  have unlinked : mid.link grant.id user.id = none := by
    refine Registry.link_none.mpr fun link inside same => ?_
    rw [links] at inside
    exact grantFree link inside (congrArg Prod.fst same)
  have midHolds (held : Held) : mid.holds held ↔ registry.holds held := by
    rw [isMid]
    have first := @holds_addGrant (registry.addUser accountId ⟨name, "localhost"⟩) grant held grantFree
    exact first.trans (holds_addUser accountId ⟨name, "localhost"⟩ userFree)
  have registered : registry.registerDatabase accountId name = some (mid.addLink grant.id user.id .all []) := by
    unfold Registry.registerDatabase
    rw [if_neg]
    · rw [isMid, isGrant, isUser]
    · rintro (taken | taken)
      · obtain ⟨other, listed, same⟩ := any_eq_true.mp taken
        exact noDatabase other listed (of_decide_eq_true same)
      · obtain ⟨other, present, same⟩ := any_eq_true.mp taken
        exact noLogin other present (of_decide_eq_true same)
  have dbName : grant.dbName = name := by rw [isGrant]
  have userLogin : user.login = ⟨name, "localhost"⟩ := by rw [isUser]; rfl
  refine ⟨_, registered, ⟨fun other => ?_, fun login => ?_, fun held => ?_⟩, ?_⟩
  · have created : (((server.createDatabase name).createLogin ⟨name, "localhost"⟩).grantHosted name
        ⟨name, "localhost"⟩).databases = (server.createDatabase name).databases := rfl
    rw [created, isSome_createDatabase, agrees.names]
    constructor
    · rintro (rfl | ⟨one, listed, same⟩)
      · exact ⟨grant, newGrant, dbName⟩
      · exact ⟨one, oldGrant listed, same⟩
    · rintro ⟨one, listed, same⟩
      have member : one ∈ registry.grants ++ [grant] := by rw [← grants]; exact listed
      rcases mem_append.mp member with earlier | newest
      · exact .inr ⟨one, earlier, same⟩
      · rw [mem_singleton.mp newest, dbName] at same
        exact .inl same.symm
  · have created : (((server.createDatabase name).createLogin ⟨name, "localhost"⟩).grantHosted name
        ⟨name, "localhost"⟩).logins = insert ⟨name, "localhost"⟩ server.logins :=
      congrArg (insert _) (Server.createDatabase_eq).1
    rw [created, Finset.mem_insert, agrees.logins]
    constructor
    · rintro (rfl | ⟨one, present, same⟩)
      · exact ⟨user, newUser, userLogin⟩
      · exact ⟨one, oldUser present, same⟩
    · rintro ⟨one, present, same⟩
      have member : one ∈ registry.users ++ [user] := by rw [← users]; exact present
      rcases mem_append.mp member with earlier | newest
      · exact .inr ⟨one, earlier, same⟩
      · rw [mem_singleton.mp newest, userLogin] at same
        exact .inl same.symm
  · have before : ((server.createDatabase name).createLogin ⟨name, "localhost"⟩).held = server.held :=
      Server.createDatabase_eq.2
    rw [mem_grantHosted, before, holds_addLink midSound newGrant newUser, midHolds, agrees.held, dbName, userLogin]
    rfl
  · constructor
    · exact midSound.addLink unlinked
    · intro link inside
      rcases mem_append.mp inside with earlier | newest
      · rw [links] at earlier
        obtain ⟨one, listed, other, present, joins⟩ := linked.refs link earlier
        exact ⟨one, oldGrant listed, other, oldUser present, joins⟩
      · rw [mem_singleton.mp newest]
        exact ⟨grant, newGrant, user, newUser, ⟨rfl, rfl⟩, by rw [isGrant, isUser]⟩
    · intro one listed
      have member : one ∈ registry.grants ++ [grant] := by rw [← grants]; exact listed
      rcases mem_append.mp member with earlier | newest
      · obtain ⟨other, present, account, own, link, inside, joins⟩ := linked.own one earlier
        refine ⟨other, oldUser present, account, own, link, mem_append_left _ ?_, joins⟩
        rw [links]
        exact inside
      · rw [mem_singleton.mp newest]
        refine ⟨user, newUser, by rw [isGrant, isUser], by rw [isGrant, isUser]; rfl, _,
          mem_append_right _ (mem_singleton_self _), rfl, rfl⟩
    · intro link inside
      rcases mem_append.mp inside with earlier | newest
      · rw [links] at earlier
        exact linked.valid link earlier
      · rw [mem_singleton.mp newest]
        rfl

theorem Agrees.not_isHosted (agrees : Agrees server registry) (inside : held ∈ server.held) :
    held.isHosted name login = false ↔ ¬ (held.database = name ∧ held.login = login) := by
  rw [← agrees.isHosted_iff inside, Bool.not_eq_true]

theorem holds_changeLink (sound : registry.Sound) (listed : grant ∈ registry.grants) (present : user ∈ registry.users)
    (inside : link ∈ registry.links) (joins : link.joins grant user) :
    ({ registry with links := change DatabaseUserGrant.id link.id (fun link => { link with privileges := preset, privilegeList := custom }) registry.links } : Registry).holds held ↔
      (registry.holds held ∧ ¬ (held.database = grant.dbName ∧ held.login = user.login)) ∨
      (held.database = grant.dbName ∧ held.login = user.login ∧
        held.privilege ∈ (normalizeDatabasePrivileges preset custom).getD []) := by
  constructor
  · rintro ⟨other, known, twin, there, left, member, joined, database, who, given⟩
    obtain ⟨old, within, rfl⟩ := mem_map.mp member
    by_cases same : old.id = link.id
    · have equal : old = link := inj_on_of_nodup_map sound.linkIds within inside same
      rw [if_pos same] at joined given
      have joinsOld : link.joins other twin := by rw [← equal]; exact joined
      rw [sound.grant_eq listed known (joins.1.symm.trans joinsOld.1),
        sound.user_eq present there (joins.2.symm.trans joinsOld.2)]
      exact .inr ⟨database, who, given⟩
    · rw [if_neg same] at joined given
      refine .inl ⟨⟨other, known, twin, there, old, within, joined, database, who, given⟩, fun on => same ?_⟩
      have sameGrant := sound.name_eq known listed (database.symm.trans on.1)
      have sameUser := sound.login_eq there present (who.symm.trans on.2)
      rw [sameGrant, sameUser] at joined
      rw [sound.link_eq within inside joined joins]
  · rintro (⟨⟨other, known, twin, there, old, within, joined, database, who, given⟩, apart⟩ | ⟨database, who, given⟩)
    · have different : old.id ≠ link.id := by
        intro same
        have equal : old = link := inj_on_of_nodup_map sound.linkIds within inside same
        rw [equal] at joined
        have sameGrant := sound.grant_eq known listed (joined.1.symm.trans joins.1)
        have sameUser := sound.user_eq there present (joined.2.symm.trans joins.2)
        rw [sameGrant] at database
        rw [sameUser] at who
        exact apart ⟨database, who⟩
      exact ⟨other, known, twin, there, old, mem_map.mpr ⟨old, within, if_neg different⟩, joined, database, who, given⟩
    · refine ⟨grant, listed, user, present, _, mem_map.mpr ⟨link, inside, if_pos rfl⟩, joins, database, who, given⟩

theorem Good.saveLink (good : Good server registry) (listed : grant ∈ registry.grants) (present : user ∈ registry.users)
    (account : user.accountId = grant.accountId) {granted : List Privilege}
    (valid : (normalizeDatabasePrivileges preset custom).isSome = true)
    (gives : ∀ privilege, privilege ∈ granted ↔ privilege ∈ (normalizeDatabasePrivileges preset custom).getD []) :
    Good (server.grantPrivileges grant.dbName user.login granted) (registry.saveLink grant.id user.id preset custom) := by
  obtain ⟨agrees, linked⟩ := good
  have sound := linked.sound
  have held (one : Held) : one ∈ (server.grantPrivileges grant.dbName user.login granted).held ↔
      (registry.holds one ∧ ¬ (one.database = grant.dbName ∧ one.login = user.login)) ∨
      (one.database = grant.dbName ∧ one.login = user.login ∧
        one.privilege ∈ (normalizeDatabasePrivileges preset custom).getD []) := by
    rw [Server.mem_grantPrivileges, gives, ← agrees.held]
    exact or_congr (and_congr_right fun inside => agrees.not_isHosted inside) Iff.rfl
  unfold Registry.saveLink
  cases found : registry.link grant.id user.id with
  | none =>
    refine ⟨⟨agrees.names, agrees.logins, fun one => ?_⟩, sound.addLink found, ?_, ?_, ?_⟩
    · rw [held, holds_addLink sound listed present]
      refine or_congr (and_iff_left_of_imp ?_) Iff.rfl
      rintro ⟨other, known, twin, there, link, inside, joins, database, who, -⟩ on
      rw [← sound.name_eq listed known (on.1.symm.trans database),
        ← sound.login_eq present there (on.2.symm.trans who)] at joins
      exact Registry.link_none.mp found link inside (Prod.ext joins.1 joins.2)
    · intro link inside
      rcases mem_append.mp inside with earlier | newest
      · exact linked.refs link earlier
      · rw [mem_singleton.mp newest]
        exact ⟨grant, listed, user, present, ⟨rfl, rfl⟩, account⟩
    · intro other known
      obtain ⟨twin, there, owner, own, link, inside, joins⟩ := linked.own other known
      exact ⟨twin, there, owner, own, link, mem_append_left _ inside, joins⟩
    · intro link inside
      rcases mem_append.mp inside with earlier | newest
      · exact linked.valid link earlier
      · rw [mem_singleton.mp newest]
        exact valid
  | some link =>
    obtain ⟨inside, joins⟩ := link_some found
    refine ⟨⟨agrees.names, agrees.logins, fun one => ?_⟩, ?_, ?_, ?_, ?_⟩
    · rw [held, holds_changeLink sound listed present inside joins]
    · exact { sound with
        linkIds := unique_change (fun _ => by rfl) sound.linkIds
        pairs := unique_change (fun _ => by rfl) sound.pairs }
    · intro left member
      obtain ⟨old, within, rfl⟩ := mem_map.mp member
      obtain ⟨other, known, twin, there, joined, owner⟩ := linked.refs old within
      refine ⟨other, known, twin, there, ?_, owner⟩
      split
      · exact joined
      · exact joined
    · intro other known
      obtain ⟨twin, there, owner, own, old, within, joined⟩ := linked.own other known
      refine ⟨twin, there, owner, own, _, mem_map_of_mem within, ?_⟩
      split
      · exact joined
      · exact joined
    · intro left member
      obtain ⟨old, within, rfl⟩ := mem_map.mp member
      split
      · exact valid
      · exact linked.valid old within

theorem Good.deleteLink (good : Good server registry) (listed : grant ∈ registry.grants) (present : user ∈ registry.users)
    (inside : link ∈ registry.links) (joins : link.joins grant user) (guest : user.login ≠ grant.ownLogin) :
    Good (server.revokeAll grant.dbName user.login) (registry.deleteLink link.id) := by
  obtain ⟨agrees, linked⟩ := good
  have sound := linked.sound
  have same_link {old : DatabaseUserGrant} (within : old ∈ registry.links) (joined : old.joins grant user) :
      old.id = link.id := by rw [sound.link_eq within inside joined joins]
  refine ⟨⟨agrees.names, agrees.logins, fun one => ?_⟩, ?_, ?_, ?_, ?_⟩
  · rw [Server.mem_revokeAll]
    constructor
    · rintro ⟨member, spared⟩
      obtain ⟨other, known, twin, there, old, within, joined, database, who, given⟩ := (agrees.held one).mp member
      refine ⟨other, known, twin, there, old, mem_filter.mpr ⟨within, decide_eq_true fun same => ?_⟩, joined,
        database, who, given⟩
      have equal : old = link := inj_on_of_nodup_map sound.linkIds within inside same
      rw [equal] at joined
      refine (agrees.not_isHosted member).mp spared ⟨?_, ?_⟩
      · rw [database, sound.grant_eq known listed (joined.1.symm.trans joins.1)]
      · rw [who, sound.user_eq there present (joined.2.symm.trans joins.2)]
    · rintro ⟨other, known, twin, there, old, within, joined, database, who, given⟩
      obtain ⟨within, different⟩ := mem_filter.mp within
      have member := (agrees.held one).mpr ⟨other, known, twin, there, old, within, joined, database, who, given⟩
      refine ⟨member, (agrees.not_isHosted member).mpr fun on => of_decide_eq_true different ?_⟩
      rw [sound.name_eq known listed (database.symm.trans on.1),
        sound.login_eq there present (who.symm.trans on.2)] at joined
      exact same_link within joined
  · exact { sound with linkIds := unique_filter sound.linkIds _, pairs := unique_filter sound.pairs _ }
  · exact fun old member => linked.refs old (mem_of_mem_filter member)
  · intro other known
    obtain ⟨twin, there, owner, own, old, within, joined⟩ := linked.own other known
    refine ⟨twin, there, owner, own, old, mem_filter.mpr ⟨within, decide_eq_true fun same => guest ?_⟩, joined⟩
    have equal : old = link := inj_on_of_nodup_map sound.linkIds within inside same
    rw [equal] at joined
    rw [sound.user_eq present there (joins.2.symm.trans joined.2), own,
      sound.grant_eq listed known (joins.1.symm.trans joined.1)]
  · exact fun old member => linked.valid old (mem_of_mem_filter member)

theorem mem_renameLogin {old new : Login} : held ∈ (server.renameLogin old new).held ↔
    (held ∈ server.held ∧ held.login ≠ old) ∨ (held.login = new ∧ { held with login := old } ∈ server.held) := by
  unfold Server.renameLogin
  rw [Finset.mem_image]
  constructor
  · rintro ⟨before, inside, rfl⟩
    split
    · next was =>
      refine .inr ⟨rfl, ?_⟩
      rw [← was]
      exact inside
    · next other => exact .inl ⟨inside, other⟩
  · rintro (⟨inside, other⟩ | ⟨now, inside⟩)
    · exact ⟨held, inside, if_neg other⟩
    · refine ⟨_, inside, ?_⟩
      rw [if_pos rfl, ← now]

theorem Good.renameLogin (good : Good server registry) (present : user ∈ registry.users) (newName : String)
    (guest : ∀ grant ∈ registry.grants, user.login ≠ grant.ownLogin) (absent : ⟨newName, user.host⟩ ∉ server.logins) :
    ∃ left, registry.renameUser user.id ⟨newName, user.host⟩ = some left ∧
      Good (server.renameLogin user.login ⟨newName, user.host⟩) left := by
  obtain ⟨agrees, linked⟩ := good
  have sound := linked.sound
  obtain ⟨renamed, isRenamed⟩ : ∃ renamed : DatabaseUser, renamed = { user with dbUser := newName } := ⟨_, rfl⟩
  have fresh : ∀ other ∈ registry.users, other.login ≠ ⟨newName, user.host⟩ := fun other there same =>
    absent ((agrees.logins _).mpr ⟨other, there, same⟩)
  obtain ⟨left, isLeft⟩ : ∃ left : Registry, left = { registry with
      users := change DatabaseUser.id user.id (fun user => { user with dbUser := newName }) registry.users } := ⟨_, rfl⟩
  have table (other : DatabaseUser) : other ∈ left.users ↔ other = renamed ∨ (other ∈ registry.users ∧ other ≠ user) := by
    rw [isLeft, isRenamed]
    constructor
    · intro member
      obtain ⟨old, there, rfl⟩ := mem_map.mp member
      by_cases same : old.id = user.id
      · left
        rw [if_pos same, sound.user_eq there present same]
      · right
        rw [if_neg same]
        exact ⟨there, fun equal => same (by rw [equal])⟩
    · rintro (rfl | ⟨there, different⟩)
      · exact mem_map.mpr ⟨user, present, if_pos rfl⟩
      · exact mem_map.mpr ⟨other, there, if_neg fun same => different (sound.user_eq there present same)⟩
  have id : renamed.id = user.id := by rw [isRenamed]
  have login : renamed.login = ⟨newName, user.host⟩ := by rw [isRenamed]; rfl
  have grants : left.grants = registry.grants := by rw [isLeft]
  have links : left.links = registry.links := by rw [isLeft]
  have newUser : renamed ∈ left.users := (table renamed).mpr (.inl rfl)
  have renames : registry.renameUser user.id ⟨newName, user.host⟩ = some left := by
    have there : byKey DatabaseUser.id registry.users user.id = some user := byKey_of_mem sound.userIds present
    unfold Registry.renameUser
    rw [there]
    rw [if_neg, isLeft]
    intro taken
    obtain ⟨other, known, same⟩ := any_eq_true.mp taken
    exact fresh other known (of_decide_eq_true same)
  refine ⟨left, renames, ⟨fun name => ?_, fun one => ?_, fun one => ?_⟩, ?_⟩
  · rw [grants]
    exact agrees.names name
  · unfold Server.renameLogin
    rw [Finset.mem_insert, Finset.mem_erase, agrees.logins]
    constructor
    · rintro (rfl | ⟨different, other, there, same⟩)
      · exact ⟨renamed, newUser, login⟩
      · refine ⟨other, (table other).mpr (.inr ⟨there, fun equal => different ?_⟩), same⟩
        rw [← same, equal]
    · rintro ⟨other, member, same⟩
      rcases (table other).mp member with rfl | ⟨there, different⟩
      · exact .inl (same.symm.trans login)
      · refine .inr ⟨fun equal => different ?_, other, there, same⟩
        exact sound.login_eq there present (same.trans equal)
  · rw [mem_renameLogin]
    constructor
    · rintro (⟨inside, other⟩ | ⟨now, inside⟩)
      · obtain ⟨grant, listed, twin, there, link, within, joins, database, who, given⟩ := (agrees.held one).mp inside
        refine ⟨grant, grants ▸ listed, twin, (table twin).mpr (.inr ⟨there, fun equal => other ?_⟩), link,
          links ▸ within, joins, database, who, given⟩
        rw [who, equal]
      · obtain ⟨grant, listed, twin, there, link, within, joins, database, who, given⟩ := (agrees.held _).mp inside
        rw [← sound.login_eq present there who] at joins
        exact ⟨grant, grants ▸ listed, renamed, newUser, link, links ▸ within, ⟨joins.1, joins.2.trans id.symm⟩, database,
          now.trans login.symm, given⟩
    · rintro ⟨grant, listed, twin, member, link, within, joins, database, who, given⟩
      rw [grants] at listed
      rw [links] at within
      rcases (table twin).mp member with rfl | ⟨there, different⟩
      · refine .inr ⟨who.trans login, (agrees.held _).mpr ?_⟩
        exact ⟨grant, listed, user, present, link, within, ⟨joins.1, joins.2.trans id⟩, database, rfl, given⟩
      · refine .inl ⟨(agrees.held one).mpr ⟨grant, listed, twin, there, link, within, joins, database, who, given⟩, ?_⟩
        intro same
        exact different (sound.login_eq there present (who.symm.trans same))
  · constructor
    · have logins : Rows.Unique DatabaseUser.login left.users := by
        rw [isLeft]
        unfold Rows.Unique change
        rw [map_map]
        refine Nodup.map_on (fun first known second found same => ?_) (Nodup.of_map _ sound.logins)
        simp only [Function.comp_apply] at same
        by_cases isFirst : first.id = user.id
        · by_cases isSecond : second.id = user.id
          · exact sound.user_eq known found (isFirst.trans isSecond.symm)
          · rw [if_pos isFirst, if_neg isSecond, sound.user_eq known present isFirst] at same
            exact absurd same.symm (fresh second found)
        · by_cases isSecond : second.id = user.id
          · rw [if_neg isFirst, if_pos isSecond, sound.user_eq found present isSecond] at same
            exact absurd same (fresh first known)
          · rw [if_neg isFirst, if_neg isSecond] at same
            exact sound.login_eq known found same
      rw [isLeft] at logins ⊢
      exact { sound with userIds := unique_change (fun _ => by rfl) sound.userIds, logins := logins }
    · intro link within
      rw [links] at within
      obtain ⟨grant, listed, twin, there, joins, account⟩ := linked.refs link within
      by_cases same : twin = user
      · rw [same] at joins account
        exact ⟨grant, grants ▸ listed, renamed, newUser, ⟨joins.1, joins.2.trans id.symm⟩, by rw [isRenamed]; exact account⟩
      · exact ⟨grant, grants ▸ listed, twin, (table twin).mpr (.inr ⟨there, same⟩), joins, account⟩
    · intro grant listed
      rw [grants] at listed
      obtain ⟨twin, there, account, own, link, within, joins⟩ := linked.own grant listed
      refine ⟨twin, (table twin).mpr (.inr ⟨there, fun same => guest grant listed ?_⟩), account, own, link,
        links ▸ within, joins⟩
      rw [← same]
      exact own
    · intro link within
      rw [links] at within
      exact linked.valid link within

end

end Boron.Databases
