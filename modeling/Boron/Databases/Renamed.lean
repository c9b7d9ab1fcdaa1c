import Boron.Databases.Recovered

namespace Boron.Databases.Rename
open Sys

/-- The checks are passed, and the new database is about to be created. -/
structure Prepared (world : World) (request : Request) (before : Work) (grant : DatabaseGrant) (plan : Plan) : Prop where
  row : plan.accountId = grant.accountId ∧ plan.grantId = grant.id ∧ plan.old = grant.dbName
  owned : world.owned = true
  new : scopedName request.username request.newName = some plan.new
  apart : plan.old ≠ plan.new
  free : ∀ other ∈ before.registry.grants, other.dbName ≠ plan.new
  assigned : world.assigned = .done
  assignments : ∃ registry, before.registry.ensureUserRows grant.accountId = some registry ∧
    registry.databaseAssignments grant.id = plan.assignments
  absent : world.existence = true ∧ before.server.databases plan.new = none
  ungranted : world.grantees = true ∧ before.server.isGranted plan.new = false
  safety : world.safety = true
  dumped : world.dumped = true ∧ (before.server.databases plan.old).isSome = true
  counted : world.counted = true

/-- What a rename owes the customer: the database is there in full under the name in its row,
and an exception that reports no failures of the recovery has changed nothing. -/
structure Contract (request : Request) (grant : DatabaseGrant) (content : Content) (server : Server)
    (ended : Except (List Failure) Unit × Work) : Prop where
  kept : ended.2.server.databases grant.dbName = some content ∨
    ∃ new, scopedName request.username request.newName = some new ∧ ended.2.server.databases new = some content
  row : ∃ row, Rows.byKey DatabaseGrant.id ended.2.registry.grants grant.id = some row ∧
    (row.dbName = grant.dbName ∨ scopedName request.username request.newName = some row.dbName) ∧
      ended.2.server.databases row.dbName = some content
  restored : ended.1 = .error [] → ended.2.server.databases grant.dbName = some content ∧
    ∀ held, held.database = grant.dbName → (held ∈ ended.2.server.held ↔ held ∈ server.held)

def Reads (work left : Work) : Prop :=
  work.registry.Sound → left.registry.Sound ∧ left.server = work.server ∧ left.registry.grants = work.registry.grants

instance : Std.Refl Reads := ⟨fun _ sound => ⟨sound, rfl, rfl⟩⟩

instance : IsTrans Work Reads := ⟨fun _ _ _ first second sound => by
  obtain ⟨sound', server, grants⟩ := first sound
  obtain ⟨sound'', server', grants'⟩ := second sound'
  exact ⟨sound'', server'.trans server, grants'.trans grants⟩⟩

section
variable {world : World} {request : Request} {plan : Plan} {work before left : Work} {content : Content} {grant : DatabaseGrant}
  {new : String} {holds : Bool}

theorem expect_bind {α : Type} {f : Unit → Act α} {result : α} : (expect holds >>= f).run work = (.ok result, left) ↔
    holds = true ∧ (f ()).run work = (.ok result, left) := by
  cases holds with
  | false => exact iff_of_false nofun (fun never => by cases never.1)
  | true => exact ⟨fun run => ⟨rfl, run⟩, fun both => both.2⟩

theorem orRaise_bind {α β : Type} {value : Option α} {f : α → Act β} {result : β} :
    (orRaise value >>= f).run work = (.ok result, left) ↔ ∃ found, value = some found ∧ (f found).run work = (.ok result, left) := by
  cases value with
  | none => exact iff_of_false nofun (fun ⟨_, never, _⟩ => by cases never)
  | some found => exact ⟨fun run => ⟨found, rfl, run⟩, fun ⟨_, same, run⟩ => (Option.some.inj same).symm ▸ run⟩

theorem perform_bind {β : Type} {ended : Outcome} {effect : Work → Work} {f : Unit → Act β} {result : β} :
    (perform ended effect >>= f).run work = (.ok result, left) ↔
      ended = .done ∧ (f ()).run (effect work) = (.ok result, left) := by
  cases ended with
  | done => exact ⟨fun run => ⟨rfl, run⟩, fun both => both.2⟩
  | refused => exact iff_of_false nofun (fun never => by cases never.1)
  | late => exact iff_of_false nofun (fun never => by cases never.1)

theorem readAssignments_reads : Sys.Keeps Reads (readAssignments world grant new) := by
  intro work
  unfold readAssignments
  rw [run_get_bind]
  cases taken : work.registry.grants.any (·.dbName = new) with
  | true => exact Std.Refl.refl work
  | false =>
    cases ensured : work.registry.ensureUserRows grant.accountId with
    | none => exact Std.Refl.refl work
    | some registry =>
      have writes : Reads work { work with registry } := by
        intro sound
        obtain ⟨sound', _, grants⟩ := Registry.ensureUserRows_sound sound ensured
        exact ⟨sound', rfl, grants⟩
      cases world.assigned with
      | done => exact writes
      | refused => exact Std.Refl.refl work
      | late => exact writes

theorem prepare_reads : Sys.Keeps Reads (prepare world request) := by
  refine Sys.Keeps.bind ((expect_keeps _).bind fun _ => Sys.Keeps.get.bind fun _ => orRaise_keeps _) fun grant => ?_
  refine (orRaise_keeps _).bind fun new => (expect_keeps _).bind fun _ => readAssignments_reads.bind fun assignments => ?_
  refine Sys.Keeps.get.bind fun work => (expect_keeps _).bind fun _ => (expect_keeps _).bind fun _ => ?_
  exact (expect_keeps _).bind fun _ => (expect_keeps _).bind fun _ => (expect_keeps _).bind fun _ => Sys.Keeps.pure _

theorem readAssignments_iff {assignments : List Assignment} :
    (readAssignments world grant new).run work = (.ok assignments, left) ↔
      (∀ other ∈ work.registry.grants, other.dbName ≠ new) ∧ world.assigned = .done ∧
        ∃ registry, work.registry.ensureUserRows grant.accountId = some registry ∧
          registry.databaseAssignments grant.id = assignments ∧ left = { work with registry } := by
  have free : (!work.registry.grants.any (·.dbName = new)) = true ↔ ∀ other ∈ work.registry.grants, other.dbName ≠ new := by
    simp
  unfold readAssignments
  rw [run_get_bind, expect_bind, free, orRaise_bind]
  refine and_congr_right fun _ => ?_
  constructor
  · rintro ⟨registry, ensured, run⟩
    obtain ⟨done, run⟩ := perform_bind.mp run
    cases run
    exact ⟨done, registry, ensured, rfl, rfl⟩
  · rintro ⟨done, registry, ensured, rfl, rfl⟩
    exact ⟨registry, ensured, perform_bind.mpr ⟨done, rfl⟩⟩

theorem ownedDatabase_iff : (ownedDatabase world request).run work = (.ok grant, left) ↔
    world.owned = true ∧ work.registry.ownedDatabase request.username request.name = some grant ∧ left = work := by
  unfold ownedDatabase
  rw [expect_bind, run_get_bind]
  refine and_congr_right fun _ => ?_
  cases work.registry.ownedDatabase request.username request.name with
  | none => exact iff_of_false nofun (fun never => by cases never.1)
  | some found =>
    constructor
    · intro run
      cases run
      exact ⟨rfl, rfl⟩
    · rintro ⟨⟨⟩, rfl⟩
      rfl

theorem checks_iff {ready : Work} {assignments : List Assignment} : (do
      let work ← Sys.get
      expect (world.existence && (work.server.databases new).isNone)
      expect (world.grantees && !work.server.isGranted new)
      expect world.safety
      expect (world.dumped && (work.server.databases grant.dbName).isSome)
      expect world.counted
      pure (⟨grant.accountId, grant.id, grant.dbName, new, assignments⟩ : Plan) : Act Plan).run ready = (.ok plan, left) ↔
    (world.existence = true ∧ ready.server.databases new = none) ∧
      (world.grantees = true ∧ ready.server.isGranted new = false) ∧ world.safety = true ∧
        (world.dumped = true ∧ (ready.server.databases grant.dbName).isSome = true) ∧ world.counted = true ∧
          plan = ⟨grant.accountId, grant.id, grant.dbName, new, assignments⟩ ∧ left = ready := by
  rw [run_get_bind, expect_bind, expect_bind, expect_bind, expect_bind, expect_bind]
  simp only [Bool.and_eq_true, Option.isNone_iff_eq_none, Bool.not_eq_true']
  refine and_congr_right fun _ => and_congr_right fun _ => and_congr_right fun _ => and_congr_right fun _ =>
    and_congr_right fun _ => ?_
  constructor
  · intro run
    cases run
    exact ⟨rfl, rfl⟩
  · rintro ⟨rfl, rfl⟩
    rfl

theorem prepare_iff (owned : before.registry.ownedDatabase request.username request.name = some grant) :
    (prepare world request).run before = (.ok plan, left) ↔ Prepared world request before grant plan ∧
      ∃ registry, before.registry.ensureUserRows grant.accountId = some registry ∧
        registry.databaseAssignments grant.id = plan.assignments ∧ left = { before with registry } := by
  constructor
  · intro run
    obtain ⟨found, mid, read, run⟩ := bind_eq_ok.mp run
    obtain ⟨gate, known, rfl⟩ := ownedDatabase_iff.mp read
    cases owned.symm.trans known
    obtain ⟨new, prefixed, run⟩ := orRaise_bind.mp run
    obtain ⟨apart, run⟩ := expect_bind.mp run
    obtain ⟨assignments, ready, read', run⟩ := bind_eq_ok.mp run
    obtain ⟨free, assigned, registry, ensured, listed, rfl⟩ := readAssignments_iff.mp read'
    obtain ⟨absent, ungranted, safety, dumped, counted, rfl, rfl⟩ := checks_iff.mp run
    exact ⟨⟨⟨rfl, rfl, rfl⟩, gate, prefixed, of_decide_eq_true apart, free, assigned, ⟨registry, ensured, listed⟩, absent,
      ungranted, safety, dumped, counted⟩, registry, ensured, listed, rfl⟩
  · rintro ⟨prepared, registry, ensured, listed, rfl⟩
    obtain ⟨accountId, grantId, old, new, assignments⟩ := plan
    obtain ⟨⟨rfl, rfl, rfl⟩, gate, prefixed, apart, free, assigned, _, absent, ungranted, safety, dumped, counted⟩ := prepared
    refine bind_eq_ok.mpr ⟨grant, before, ownedDatabase_iff.mpr ⟨gate, owned, rfl⟩, ?_⟩
    refine orRaise_bind.mpr ⟨new, prefixed, expect_bind.mpr ⟨decide_eq_true apart, ?_⟩⟩
    refine bind_eq_ok.mpr ⟨assignments, _, readAssignments_iff.mpr ⟨free, assigned, registry, ensured, listed, rfl⟩, ?_⟩
    exact checks_iff.mpr ⟨absent, ungranted, safety, dumped, counted, rfl, rfl⟩

/-- The stores as the `try` begins. -/
def created (plan : Plan) (work : Work) : Work :=
  { work with server := work.server.createDatabase plan.new, switched := false, revoked := [] }

theorem Ready.safe (ready : Ready plan content work) {ended : Except (List Failure) Unit × Work}
    (database : ended.2.server.databases plan.old = work.server.databases plan.old)
    (held : ended.2.server.held = work.server.held) (registry : ended.2.registry = work.registry) :
    Safe plan content work.server ended := by
  obtain ⟨row, found, _, named⟩ := ready.row
  have old : ended.2.server.databases plan.old = some content := database.trans ready.stands
  constructor
  · refine ⟨row, ?_, .inl named, ?_⟩
    · rw [registry]
      exact found
    · rw [named]
      exact old
  · refine fun _ => ⟨old, fun _ _ => ?_⟩
    rw [held]

theorem Fills.of_logins {server other : Server} (fills : Fills world plan content server) (same : other.logins = server.logins) :
    Fills world plan content other := by
  refine ⟨fills.restore, fills.recounted, fills.tables, fun assignment inside => ?_⟩
  obtain ⟨done, valid, known⟩ := fills.grants assignment inside
  exact ⟨done, valid, same ▸ known⟩

theorem replace_safe (ready : Ready plan content work) :
    Safe plan content work.server ((handle (replace world plan content) fun _ => recover world plan).run (created plan work)) ↔
      (Fills world plan content work.server → Recoverable world plan work.server) := by
  have logins : (created plan work).server.logins = work.server.logins := Server.createDatabase_eq.1
  have held : (created plan work).server.held = work.server.held := Server.createDatabase_eq.2
  obtain ⟨row, found, owner, named⟩ := ready.row
  have keeps : Sys.Keeps (Beside plan.old) (fillNew world plan content) := fillNew_beside ready.apart
  have kept := keeps (created plan work)
  have stands : (created plan work).server.databases plan.old = some content :=
    (Server.createDatabase_other ready.apart).trans ready.stands
  cases ran : (fillNew world plan content).run (created plan work) with
  | mk result mid =>
    rw [ran] at kept
    have found' : Rows.byKey DatabaseGrant.id mid.registry.grants plan.grantId = some row := by
      rw [kept.registry]
      exact found
    have same (entry : Held) (on : entry.database = plan.old) : entry ∈ mid.server.held ↔ entry ∈ work.server.held := by
      rw [kept.held entry on, held]
    cases result with
    | error failures =>
      have stopped : (replace world plan content).run (created plan work) = (.error failures, mid) := bind_of_error ran
      rw [handle_of_error stopped]
      refine iff_of_true (recover_unswitched ready.apart found' named kept.switched kept.revoked (kept.database.trans stands) same)
        fun fills => ?_
      obtain ⟨_, ended, _⟩ := fillNew_ok (fills.of_logins logins)
      rw [ran] at ended
      cases ended
    | ok _ =>
      have fills : Fills world plan content (created plan work).server := fillNew_of_ok ran
      obtain ⟨mid', ended, full⟩ := fillNew_ok fills
      rw [ran] at ended
      cases ended
      have filled : Filled world plan content work.server mid :=
        ⟨⟨ready.apart, kept.database.trans stands, ⟨row, found', owner, named⟩, ready.distinct⟩, full, kept.switched, kept.revoked,
          same, kept.logins.trans logins, fills.of_logins logins.symm⟩
      have goes : (handle (replace world plan content) fun _ => recover world plan).run (created plan work)
          = (retirement world plan).run mid := handle_bind_of_ok ran
      rw [goes, filled.retirement_safe]
      exact ⟨fun holds _ => holds, fun holds => holds (fills.of_logins logins.symm)⟩

/-- The rename from the creation of the new database on. -/
theorem exchange_safe (ready : Ready plan content work) : Safe plan content work.server ((exchange world plan).run work) ↔
    (world.create = .done → Fills world plan content work.server → Recoverable world plan work.server) := by
  unfold exchange
  rw [run_get_bind, ready.stands]
  cases ended : world.create with
  | done =>
    exact (replace_safe ready).trans ⟨fun holds _ => holds, fun holds => holds rfl⟩
  | refused =>
    refine iff_of_true (ready.safe rfl rfl rfl) nofun
  | late =>
    refine iff_of_true (ready.safe (Server.createDatabase_other ready.apart) ?_ rfl) nofun
    exact Server.createDatabase_eq.2

theorem ownedDatabase_some {registry : Registry} {username name : String}
    (owned : registry.ownedDatabase username name = some grant) : grant ∈ registry.grants := by
  obtain ⟨candidate, _, owned⟩ := Option.bind_eq_some_iff.mp owned
  obtain ⟨account, _, owned⟩ := Option.bind_eq_some_iff.mp owned
  exact (Registry.databaseOf_some owned).1

theorem Prepared.ready (prepared : Prepared world request before grant plan) (sound : before.registry.Sound)
    (listed : grant ∈ before.registry.grants) (stands : before.server.databases grant.dbName = some content)
    {registry : Registry} (ensured : before.registry.ensureUserRows grant.accountId = some registry)
    (assignments : registry.databaseAssignments grant.id = plan.assignments) :
    Ready plan content { before with registry } := by
  obtain ⟨accounts, ids, named⟩ := prepared.row
  obtain ⟨sound', _, grants⟩ := Registry.ensureUserRows_sound sound ensured
  refine ⟨prepared.apart, ?_, ⟨grant, ?_, accounts.symm, named.symm⟩, ?_⟩
  · rw [named]
    exact stands
  · rw [ids, grants]
    exact Rows.byKey_of_mem sound.grantIds listed
  · rw [← assignments]
    exact Registry.databaseAssignments_nodup sound'

/-- For a prepared rename the contract is what `Safe` says. -/
theorem Prepared.contract_iff (prepared : Prepared world request before grant plan) {server : Server}
    {ended : Except (List Failure) Unit × Work} :
    Contract request grant content server ended ↔ Safe plan content server ended := by
  obtain ⟨_, ids, named⟩ := prepared.row
  have new (name : String) : scopedName request.username request.newName = some name ↔ name = plan.new := by
    rw [prepared.new, Option.some.injEq, eq_comm]
  constructor
  · rintro ⟨_, ⟨row, found, place, full⟩, restored⟩
    rw [← ids] at found
    rw [← named, new] at place
    rw [← named] at restored
    exact ⟨⟨row, found, place, full⟩, restored⟩
  · rintro ⟨⟨row, found, place, full⟩, restored⟩
    have place' : row.dbName = grant.dbName ∨ scopedName request.username request.newName = some row.dbName := by
      rw [← named, new]
      exact place
    rw [named] at restored
    refine ⟨?_, ⟨row, ids ▸ found, place', full⟩, restored⟩
    rcases place' with old | new
    · exact .inl (old ▸ full)
    · exact .inr ⟨row.dbName, new, full⟩

/-- A rename keeps its contract exactly when, once the new database is filled, what fails
afterwards can be recovered from. -/
theorem renameDatabase_contract (world : World) (request : Request) (before : Work) (grant : DatabaseGrant) (content : Content)
    (sound : before.registry.Sound) (owned : before.registry.ownedDatabase request.username request.name = some grant)
    (stands : before.server.databases grant.dbName = some content) :
    Contract request grant content before.server ((renameDatabase world request).run before) ↔
      ∀ plan, Prepared world request before grant plan → world.create = .done → Fills world plan content before.server →
        Recoverable world plan before.server := by
  have listed := ownedDatabase_some owned
  have reads : Sys.Keeps Reads (prepare world request) := prepare_reads
  have kept := reads before sound
  cases ran : (prepare world request).run before with
  | mk result left =>
    rw [ran] at kept
    obtain ⟨_, server, grants⟩ := kept
    cases result with
    | error failures =>
      have ended : (renameDatabase world request).run before = (.error failures, left) := Sys.bind_of_error ran
      rw [ended]
      have old : left.server.databases grant.dbName = some content := by
        rw [server]
        exact stands
      have found : Rows.byKey DatabaseGrant.id left.registry.grants grant.id = some grant := by
        rw [grants]
        exact Rows.byKey_of_mem sound.grantIds listed
      refine iff_of_true ⟨.inl old, ⟨grant, found, .inl rfl, old⟩, fun _ => ⟨old, fun _ _ => ?_⟩⟩ fun plan prepared => ?_
      · rw [server]
      · obtain ⟨registry, ensured, assignments⟩ := prepared.assignments
        have passes := (prepare_iff owned).mpr ⟨prepared, registry, ensured, assignments, rfl⟩
        rw [ran] at passes
        cases passes
    | ok plan =>
      obtain ⟨prepared, registry, ensured, assignments, rfl⟩ := (prepare_iff owned).mp ran
      have ready := prepared.ready sound listed stands ensured assignments
      have ended : (renameDatabase world request).run before = (exchange world plan).run { before with registry } :=
        Sys.bind_of_ok ran
      rw [ended, prepared.contract_iff]
      refine (exchange_safe ready).trans ⟨fun holds plan' prepared' => ?_, fun holds => holds plan prepared⟩
      obtain ⟨registry', ensured', assignments'⟩ := prepared'.assignments
      have again := (prepare_iff owned).mpr ⟨prepared', registry', ensured', assignments', rfl⟩
      rw [ran] at again
      cases again
      exact holds

end

def shopRegistry : Registry where
  accounts := [⟨1, "demo", .active⟩]
  grants := [⟨1, 1, "demo_shop", "demo_shop"⟩]
  users := [⟨1, 1, "demo_shop", "localhost"⟩]
  links := [⟨1, 1, 1, .all, []⟩]

def shopContent : Content := [("orders", "INSERT INTO orders VALUES (1)")]

def shopServer : Server where
  databases := fun name => if name = "demo_shop" then some shopContent else none
  logins := {⟨"demo_shop", "localhost"⟩}
  held := (hostedPrivileges.map (⟨"demo_shop", ⟨"demo_shop", "localhost"⟩, ·⟩)).toFinset

def shopWork : Work := ⟨shopServer, shopRegistry, false, []⟩

def toStore : Request := ⟨"demo", "shop", "store"⟩

/-- No call raises but the deletion of the old database. -/
def dropping (drop : Outcome) : World where
  owned := true
  assigned := .done
  existence := true
  grantees := true
  safety := true
  dumped := true
  counted := true
  create := .done
  restore := .done
  copy := id
  recounted := true
  grant := fun _ => .done
  switch := .done
  revoke := fun _ => .done
  drop := drop
  grantBack := fun _ => .done
  switchBack := .done
  revokeNew := fun _ => .done
  dropNew := .done
  complete := fun _ _ => rfl

theorem shop_sound : shopRegistry.Sound :=
  ⟨by decide, by decide, by decide, by decide, by decide, by decide, by decide, by decide⟩

theorem shop_owned : shopRegistry.ownedDatabase "demo" "shop" = some ⟨1, 1, "demo_shop", "demo_shop"⟩ := rfl

/-- The deletion of the old database takes effect and raises: the recovery deletes the new one. -/
theorem both_databases_lost : ¬ Contract toStore ⟨1, 1, "demo_shop", "demo_shop"⟩ shopContent shopServer
    ((renameDatabase (dropping .late) toStore).run shopWork) := by
  intro contract
  obtain ⟨row, found, _, full⟩ := contract.row
  have gone : ((Rows.byKey DatabaseGrant.id ((renameDatabase (dropping .late) toStore).run shopWork).2.registry.grants 1).bind
      fun row => ((renameDatabase (dropping .late) toStore).run shopWork).2.server.databases row.dbName) = none := by
    rfl
  rw [found] at gone
  exact absurd (gone.symm.trans full) nofun

theorem renameDatabase_contract_applied : Contract toStore ⟨1, 1, "demo_shop", "demo_shop"⟩ shopContent shopServer
    ((renameDatabase (dropping .refused) toStore).run shopWork) := by
  refine (renameDatabase_contract (dropping .refused) toStore shopWork _ shopContent shop_sound shop_owned (rfl)).mpr
    fun plan prepared _ _ => ?_
  obtain ⟨accountId, grantId, old, new, assignments⟩ := plan
  obtain ⟨⟨rfl, rfl, rfl⟩, _, _, _, _, _, ⟨registry, ensured, rfl⟩, _, _, _, _, _⟩ := prepared
  have same : shopRegistry.ensureUserRows 1 = some shopRegistry := rfl
  cases same.symm.trans ensured
  have listed : shopRegistry.databaseAssignments 1 = [⟨⟨"demo_shop", "localhost"⟩, .all, []⟩] := rfl
  refine ⟨nofun, fun _ _ _ _ _ _ raises => absurd rfl raises, fun _ _ _ => ?_, nofun⟩
  refine ⟨nofun, fun _ assignment inside => ?_⟩
  have only : assignment = ⟨⟨"demo_shop", "localhost"⟩, .all, []⟩ := List.mem_singleton.mp (listed ▸ inside)
  have granted : ∀ privilege ∈ hostedPrivileges, (⟨"demo_shop", ⟨"demo_shop", "localhost"⟩, privilege⟩ ∈ shopServer.held ↔
      privilege ∈ grantedTo ⟨⟨"demo_shop", "localhost"⟩, .all, []⟩) := by decide
  rw [only]
  exact granted

end Boron.Databases.Rename
