import Boron.Databases.Exchange

namespace Boron.Databases.Rename
open List Sys Rows

/-- The login holds on the database what its row lists. -/
def IsGrantedAs (server : Server) (name : String) (assignment : Assignment) : Prop :=
  ∀ privilege ∈ hostedPrivileges, (⟨name, assignment.login, privilege⟩ ∈ server.held ↔ privilege ∈ grantedTo assignment)

def HoldsNothing (server : Server) (name : String) (login : Login) : Prop :=
  ∀ privilege ∈ hostedPrivileges, ⟨name, login, privilege⟩ ∉ server.held

/-- No call of the recovery raises. -/
structure Quiet (world : World) (plan : Plan) (revoked : List Assignment) : Prop where
  grants : ∀ assignment ∈ revoked, world.grantBack assignment.login = .done
  row : world.switchBack = .done
  others : ∀ assignment ∈ plan.assignments, world.revokeNew assignment.login = .done
  replacement : world.dropNew = .done

/-- The new database does not go while the row names it, and the privileges that are granted
again are those that were revoked. -/
structure Undoes (world : World) (plan : Plan) (server : Server) (revoked : List Assignment) : Prop where
  row : world.switchBack = .refused → world.dropNew = .refused
  held : Quiet world plan revoked → ∀ assignment ∈ revoked, IsGrantedAs server plan.old assignment

/-- The exact condition, once the new database is filled. -/
structure Recoverable (world : World) (plan : Plan) (server : Server) : Prop where
  switch : world.switch = .late → world.dropNew = .refused
  revoke : ∀ earlier assignment rest, world.switch = .done → plan.assignments = earlier ++ assignment :: rest →
    (∀ other ∈ earlier, world.revoke other.login = .done) → world.revoke assignment.login ≠ .done →
      Undoes world plan server earlier ∧
        (world.revoke assignment.login = .late → Quiet world plan earlier → HoldsNothing server plan.old assignment.login)
  kept : world.switch = .done → (∀ assignment ∈ plan.assignments, world.revoke assignment.login = .done) →
    world.drop = .refused → Undoes world plan server plan.assignments
  dropped : world.switch = .done → (∀ assignment ∈ plan.assignments, world.revoke assignment.login = .done) →
    world.drop = .late → world.switchBack = .refused ∧ world.dropNew = .refused

/-- The row names a database with the full content, and an exception without failures leaves
the old database as it was. -/
structure Safe (plan : Plan) (content : Content) (server : Server) (ended : Except (List Failure) Unit × Work) : Prop where
  row : ∃ row, Rows.byKey DatabaseGrant.id ended.2.registry.grants plan.grantId = some row ∧
    (row.dbName = plan.old ∨ row.dbName = plan.new) ∧ ended.2.server.databases row.dbName = some content
  restored : ended.1 = .error [] → ended.2.server.databases plan.old = some content ∧
    ∀ held, held.database = plan.old → (held ∈ ended.2.server.held ↔ held ∈ server.held)

def revokedFrom (name : String) (assignments : List Assignment) (server : Server) : Server :=
  assignments.foldl (fun server assignment => server.revokeAll name assignment.login) server

section
variable {world : World} {request : Request} {plan : Plan} {work mid left : Work} {content : Content} {server : Server}
  {name : String} {earlier todo rest : List Assignment} {assignment : Assignment} {row : DatabaseGrant} {held : Held}

theorem revokedFrom_databases : (revokedFrom name todo server).databases = server.databases := by
  induction todo generalizing server with
  | nil => rfl
  | cons assignment rest ih => exact ih

theorem revokedFrom_logins : (revokedFrom name todo server).logins = server.logins := by
  induction todo generalizing server with
  | nil => rfl
  | cons assignment rest ih => exact ih

theorem mem_revokedFrom : held ∈ (revokedFrom name todo server).held ↔
    held ∈ server.held ∧ ∀ assignment ∈ todo, held.isHosted name assignment.login = false := by
  induction todo generalizing server with
  | nil => simp [revokedFrom]
  | cons assignment rest ih =>
    have first : held ∈ (revokedFrom name (assignment :: rest) server).held ↔
        held ∈ (server.revokeAll name assignment.login).held ∧ ∀ other ∈ rest, held.isHosted name other.login = false := ih
    rw [first, Server.mem_revokeAll, forall_mem_cons, and_assoc]

theorem isHosted_iff {login : Login} : held.isHosted name login = true ↔
    held.database = name ∧ held.login = login ∧ held.privilege ∈ hostedPrivileges := by
  simp [Held.isHosted, and_assoc]

theorem granted_hosted {privilege : Privilege} (member : privilege ∈ grantedTo assignment) : privilege ∈ hostedPrivileges := by
  unfold grantedTo at member
  cases normalized : normalizeDatabasePrivileges assignment.preset assignment.custom with
  | none =>
    rw [normalized] at member
    cases member
  | some granted =>
    rw [normalized] at member
    exact normalize_hosted normalized privilege member

theorem mem_grantAll (distinct : (todo.map Assignment.login).Nodup) : held ∈ (grantAll name todo server).held ↔
    (held ∈ server.held ∧ ∀ assignment ∈ todo, held.isHosted name assignment.login = false) ∨
      ∃ assignment ∈ todo, held.database = name ∧ held.login = assignment.login ∧ held.privilege ∈ grantedTo assignment := by
  induction todo generalizing server with
  | nil => simp [grantAll]
  | cons first rest ih =>
    obtain ⟨absent, distinct'⟩ := nodup_cons.mp distinct
    have later : held ∈ (grantAll name (first :: rest) server).held ↔ _ :=
      @ih (server.grantPrivileges name first.login (grantedTo first)) distinct'
    rw [later, Server.mem_grantPrivileges, forall_mem_cons]
    constructor
    · rintro (⟨⟨inside, spared⟩ | granted, others⟩ | ⟨other, member, granted⟩)
      · exact .inl ⟨inside, spared, others⟩
      · exact .inr ⟨first, mem_cons_self, granted⟩
      · exact .inr ⟨other, mem_cons_of_mem _ member, granted⟩
    · rintro (⟨inside, spared, others⟩ | ⟨other, member, granted⟩)
      · exact .inl ⟨.inl ⟨inside, spared⟩, others⟩
      · rcases mem_cons.mp member with rfl | member
        · refine .inl ⟨.inr granted, fun another inside => ?_⟩
          have apart : held.login ≠ another.login := by
            intro same
            exact absent (mem_map.mpr ⟨another, inside, same.symm.trans granted.2.1⟩)
          simp [Held.isHosted, apart]
        · exact .inr ⟨other, member, granted⟩

variable {cut : List Assignment}

variable (name server) in
theorem regranted_iff (distinct : (earlier.map Assignment.login).Nodup) (covers : ∀ a ∈ earlier, a ∈ cut) :
    (∀ held, held.database = name → (held ∈ (grantAll name earlier (revokedFrom name cut server)).held ↔ held ∈ server.held)) ↔
      (∀ a ∈ earlier, IsGrantedAs server name a) ∧
        ∀ a ∈ cut, (∀ b ∈ earlier, a.login ≠ b.login) → HoldsNothing server name a.login := by
  have entry (held : Held) : held ∈ (grantAll name earlier (revokedFrom name cut server)).held ↔
      (held ∈ server.held ∧ ∀ a ∈ cut, held.isHosted name a.login = false) ∨
        ∃ a ∈ earlier, held.database = name ∧ held.login = a.login ∧ held.privilege ∈ grantedTo a := by
    rw [mem_grantAll distinct, mem_revokedFrom, and_assoc]
    refine or_congr (and_congr_right fun _ => ?_) Iff.rfl
    exact ⟨fun both => both.1, fun spared => ⟨spared, fun a inside => spared a (covers a inside)⟩⟩
  constructor
  · intro same
    constructor
    · intro a inside privilege hosted
      rw [← same ⟨name, a.login, privilege⟩ rfl, entry]
      constructor
      · rintro (⟨_, spared⟩ | ⟨b, member, _, login, granted⟩)
        · have hit : Held.isHosted ⟨name, a.login, privilege⟩ name a.login = true := isHosted_iff.mpr ⟨rfl, rfl, hosted⟩
          rw [spared a (covers a inside)] at hit
          cases hit
        · have equal : a = b := inj_on_of_nodup_map distinct inside member login
          exact equal ▸ granted
      · exact fun granted => .inr ⟨a, inside, rfl, rfl, granted⟩
    · intro a inside alone privilege hosted member
      rcases (entry _).mp ((same ⟨name, a.login, privilege⟩ rfl).mpr member) with ⟨_, spared⟩ | ⟨b, earlier, _, login, _⟩
      · have hit : Held.isHosted ⟨name, a.login, privilege⟩ name a.login = true := isHosted_iff.mpr ⟨rfl, rfl, hosted⟩
        rw [spared a inside] at hit
        cases hit
      · exact alone b earlier login
  · rintro ⟨listed, nothing⟩ ⟨database, login, privilege⟩ rfl
    rw [entry]
    constructor
    · rintro (⟨member, _⟩ | ⟨a, inside, _, same, granted⟩)
      · exact member
      · have equal : login = a.login := same
        rw [equal]
        exact (listed a inside privilege (granted_hosted granted)).mpr granted
    · intro member
      by_cases known : ∃ a ∈ earlier, login = a.login ∧ privilege ∈ hostedPrivileges
      · obtain ⟨a, inside, rfl, hosted⟩ := known
        exact .inr ⟨a, inside, rfl, rfl, (listed a inside privilege hosted).mp member⟩
      · refine .inl ⟨member, fun a inside => ?_⟩
        rw [← Bool.not_eq_true, isHosted_iff]
        rintro ⟨_, rfl, hosted⟩
        refine nothing a inside (fun b earlier same => known ⟨b, earlier, same, hosted⟩) privilege hosted member

theorem revokesOld_ok (done : ∀ a ∈ todo, world.revoke a.login = .done) :
    (each (revokeOld world plan) todo).run work
      = (.ok (), { work with server := revokedFrom plan.old todo work.server, revoked := work.revoked ++ todo }) := by
  induction todo generalizing work with
  | nil => simp [revokedFrom]
  | cons assignment rest ih =>
    have first : (revokeOld world plan assignment).run work = (.ok (), { work with
        server := work.server.revokeAll plan.old assignment.login, revoked := work.revoked ++ [assignment] }) := by
      unfold revokeOld revokeAll
      rw [done assignment mem_cons_self]
      rfl
    refine (bind_of_ok first).trans ((ih fun other inside => done other (mem_cons_of_mem _ inside)).trans ?_)
    rw [append_assoc]
    rfl

def cutAt (world : World) (earlier : List Assignment) (assignment : Assignment) : List Assignment :=
  if world.revoke assignment.login = .late then earlier ++ [assignment] else earlier

theorem revokesOld_error (done : ∀ a ∈ earlier, world.revoke a.login = .done) (raises : world.revoke assignment.login ≠ .done) :
    (each (revokeOld world plan) (earlier ++ assignment :: rest)).run work = (.error [], { work with
      server := revokedFrom plan.old (cutAt world earlier assignment) work.server, revoked := work.revoked ++ earlier }) := by
  rw [each_append, bind_of_ok (revokesOld_ok done), each_cons]
  refine (bind_of_error (bind_of_error ?_)).trans rfl
  unfold revokeAll onServer cutAt
  cases ended : world.revoke assignment.login with
  | done => exact absurd ended raises
  | refused => rfl
  | late =>
    rw [if_pos rfl]
    unfold revokedFrom
    rw [foldl_append]
    rfl

/-- A rename that is about to create the new database. -/
structure Ready (plan : Plan) (content : Content) (work : Work) : Prop where
  apart : plan.old ≠ plan.new
  stands : work.server.databases plan.old = some content
  row : ∃ row, Rows.byKey DatabaseGrant.id work.registry.grants plan.grantId = some row ∧
    row.accountId = plan.accountId ∧ row.dbName = plan.old
  distinct : (plan.assignments.map Assignment.login).Nodup

def switchedWork (plan : Plan) (work : Work) : Work :=
  { work with registry := work.registry.renameGrant plan.grantId plan.new, switched := true, revoked := [] }

theorem switchRow_run (found : byKey DatabaseGrant.id work.registry.grants plan.grantId = some row)
    (owner : row.accountId = plan.accountId) (named : row.dbName = plan.old) : (switchRow world plan).run work =
      match world.switch with
      | .done => (.ok (), switchedWork plan work)
      | .refused => (.error [], work)
      | .late => (.error [], { work with registry := work.registry.renameGrant plan.grantId plan.new }) := by
  unfold switchRow
  rw [run_get_bind, found]
  refine (bind_of_ok rfl).trans ?_
  have expected : (expect (row.accountId = plan.accountId && row.dbName = plan.old)).run work = (.ok (), work) := by
    simp [expect, owner, named]
  refine (bind_of_ok expected).trans ?_
  cases world.switch <;> rfl

theorem byKey_renamed {registry : Registry} {grantId : Nat} (found : byKey DatabaseGrant.id registry.grants grantId = some row)
    (name : String) : byKey DatabaseGrant.id (registry.renameGrant grantId name).grants grantId = some { row with dbName := name } := by
  unfold Registry.renameGrant
  rw [byKey_change fun _ => by rfl, if_pos rfl, found]
  rfl

section
variable (apart : plan.old ≠ plan.new)
include apart

section
variable (found : Rows.byKey DatabaseGrant.id mid.registry.grants plan.grantId = some row)
include found

theorem recover_unswitched (named : row.dbName = plan.old)
    (unswitched : mid.switched = false) (nothing : mid.revoked = []) (stands : mid.server.databases plan.old = some content)
    (same : ∀ held, held.database = plan.old → (held ∈ mid.server.held ↔ held ∈ server.held)) :
    Safe plan content server ((recover world plan).run mid) := by
  obtain ⟨failures, left, ran, recovered⟩ := recover_run world apart found
  rw [ran]
  have registry : left.registry = mid.registry := by
    rw [recovered.registry, if_neg]
    rw [unswitched]
    exact fun never => by cases never.1
  have old : left.server.databases plan.old = some content := recovered.old.trans stands
  constructor
  · refine ⟨row, ?_, .inl named, ?_⟩
    · rw [registry]
      exact found
    · rw [named]
      exact old
  · intro raised
    have silent : failures = [] := Except.error.inj raised
    refine ⟨old, fun held on => ?_⟩
    rw [recovered.held silent held on, nothing]
    exact same held on

theorem recover_late (named : row.dbName = plan.new)
    (unswitched : mid.switched = false) (filled : mid.server.databases plan.new = some content) :
    Safe plan content server ((recover world plan).run mid) ↔ world.dropNew = .refused := by
  obtain ⟨failures, left, ran, recovered⟩ := recover_run world apart found
  rw [ran]
  have registry : left.registry = mid.registry := by
    rw [recovered.registry, if_neg]
    rw [unswitched]
    exact fun never => by cases never.1
  constructor
  · rintro ⟨⟨other, found', _, full⟩, _⟩
    rw [registry, found] at found'
    cases found'
    by_contra gone
    rw [named, recovered.new, if_neg gone] at full
    cases full
  · intro refused
    constructor
    · refine ⟨row, ?_, .inr named, ?_⟩
      · rw [registry]
        exact found
      · rw [named, recovered.new, if_pos refused]
        exact filled
    · intro raised
      have silent := (recovered.silent.mp (Except.error.inj raised)).replacement
      rw [refused] at silent
      cases silent

theorem recover_switched (named : row.dbName = plan.new)
    (switched : mid.switched = true) (filled : mid.server.databases plan.new = some content)
    (stands : mid.server.databases plan.old = some content) :
    Safe plan content server ((recover world plan).run mid) ↔ (world.switchBack = .refused → world.dropNew = .refused) ∧
      (Silent world plan mid → ∀ held, held.database = plan.old →
        (held ∈ (grantAll plan.old mid.revoked mid.server).held ↔ held ∈ server.held)) := by
  obtain ⟨failures, left, ran, recovered⟩ := recover_run world apart found
  rw [ran]
  have old : left.server.databases plan.old = some content := recovered.old.trans stands
  refine ⟨fun safe => ⟨fun refused => ?_, fun silent held on => ?_⟩, fun ⟨rows, restores⟩ => ⟨?_, fun raised => ?_⟩⟩
  · obtain ⟨other, found', _, full⟩ := safe.row
    rw [recovered.registry, if_neg (fun never => never.2.2 refused), found] at found'
    cases found'
    by_contra gone
    rw [named, recovered.new, if_neg gone] at full
    cases full
  · have none := recovered.silent.mpr silent
    rw [← recovered.held none held on]
    exact (safe.restored (congrArg Except.error none)).2 held on
  · by_cases refused : world.switchBack = .refused
    · refine ⟨row, ?_, .inr named, ?_⟩
      · rw [recovered.registry, if_neg (fun never => never.2.2 refused)]
        exact found
      · rw [named, recovered.new, if_pos (rows refused)]
        exact filled
    · refine ⟨{ row with dbName := plan.old }, ?_, .inl rfl, old⟩
      rw [recovered.registry, if_pos ⟨switched, named, refused⟩]
      exact byKey_renamed found plan.old
  · have none : failures = [] := Except.error.inj raised
    refine ⟨old, fun held on => ?_⟩
    rw [recovered.held none held on]
    exact restores (recovered.silent.mp none) held on

theorem recover_dropped (named : row.dbName = plan.new)
    (switched : mid.switched = true) (filled : mid.server.databases plan.new = some content)
    (gone : mid.server.databases plan.old = none) :
    Safe plan content server ((recover world plan).run mid) ↔ world.switchBack = .refused ∧ world.dropNew = .refused := by
  obtain ⟨failures, left, ran, recovered⟩ := recover_run world apart found
  rw [ran]
  constructor
  · rintro ⟨⟨other, found', _, full⟩, _⟩
    by_cases refused : world.switchBack = .refused
    · refine ⟨refused, ?_⟩
      rw [recovered.registry, if_neg (fun never => never.2.2 refused), found] at found'
      cases found'
      by_contra absent
      rw [named, recovered.new, if_neg absent] at full
      cases full
    · rw [recovered.registry, if_pos ⟨switched, named, refused⟩, byKey_renamed found plan.old] at found'
      cases found'
      rw [recovered.old, gone] at full
      cases full
  · rintro ⟨refused, stays⟩
    constructor
    · refine ⟨row, ?_, .inr named, ?_⟩
      · rw [recovered.registry, if_neg (fun never => never.2.2 refused)]
        exact found
      · rw [named, recovered.new, if_pos stays]
        exact filled
    · intro raised
      have silent := (recovered.silent.mp (Except.error.inj raised)).replacement
      rw [stays] at silent
      cases silent

end

end

/-- The copy is made and granted, and nothing else has changed. -/
structure Filled (world : World) (plan : Plan) (content : Content) (server : Server) (mid : Work) : Prop where
  ready : Ready plan content mid
  filled : mid.server.databases plan.new = some content
  unswitched : mid.switched = false
  nothing : mid.revoked = []
  held : ∀ held, held.database = plan.old → (held ∈ mid.server.held ↔ held ∈ server.held)
  logins : mid.server.logins = server.logins
  fills : Fills world plan content server

theorem Filled.granted (filled : Filled world plan content server mid) :
    IsGrantedAs mid.server plan.old assignment ↔ IsGrantedAs server plan.old assignment :=
  forall_congr' fun _ => imp_congr_right fun _ => iff_congr (filled.held _ rfl) Iff.rfl

theorem Filled.nothing_iff (filled : Filled world plan content server mid) {login : Login} :
    HoldsNothing mid.server plan.old login ↔ HoldsNothing server plan.old login :=
  forall_congr' fun _ => imp_congr_right fun _ => not_congr (filled.held _ rfl)

def retired (plan : Plan) (cut revoked : List Assignment) (mid : Work) : Work :=
  { switchedWork plan mid with server := revokedFrom plan.old cut mid.server, revoked := revoked }

theorem Filled.silent (filled : Filled world plan content server mid) (inside : ∀ a ∈ earlier, a ∈ plan.assignments) : Silent world plan (retired plan cut earlier mid) ↔ Quiet world plan earlier := by
  constructor
  · rintro ⟨grants, row, others, replacement⟩
    exact ⟨fun a member => (grants a member).1, row rfl, others, replacement⟩
  · rintro ⟨grants, row, others, replacement⟩
    refine ⟨fun a member => ⟨grants a member, ?_⟩, fun _ => row, others, replacement⟩
    obtain ⟨_, valid, known⟩ := filled.fills.grants a (inside a member)
    refine ⟨valid, ?_⟩
    have logins : (retired plan cut earlier mid).server.logins = server.logins := revokedFrom_logins.trans filled.logins
    rwa [logins]

theorem Filled.recover_retired (filled : Filled world plan content server mid) (inside : ∀ a ∈ earlier, a ∈ plan.assignments) (distinct : (earlier.map Assignment.login).Nodup)
    (covers : ∀ a ∈ earlier, a ∈ cut) : Safe plan content server ((recover world plan).run (retired plan cut earlier mid)) ↔
      Undoes world plan server earlier ∧ (Quiet world plan earlier →
        ∀ a ∈ cut, (∀ b ∈ earlier, a.login ≠ b.login) → HoldsNothing server plan.old a.login) := by
  obtain ⟨row, found, _, _⟩ := filled.ready.row
  have renamed : byKey DatabaseGrant.id (retired plan cut earlier mid).registry.grants plan.grantId
      = some { row with dbName := plan.new } := byKey_renamed found plan.new
  have full : (retired plan cut earlier mid).server.databases plan.new = some content :=
    (congrFun revokedFrom_databases plan.new).trans filled.filled
  have stands : (retired plan cut earlier mid).server.databases plan.old = some content :=
    (congrFun revokedFrom_databases plan.old).trans filled.ready.stands
  rw [recover_switched filled.ready.apart renamed rfl rfl full stands, filled.silent inside]
  have restores : (∀ held, held.database = plan.old →
      (held ∈ (grantAll plan.old earlier (revokedFrom plan.old cut mid.server)).held ↔ held ∈ server.held)) ↔
        (∀ a ∈ earlier, IsGrantedAs server plan.old a) ∧
          ∀ a ∈ cut, (∀ b ∈ earlier, a.login ≠ b.login) → HoldsNothing server plan.old a.login := by
    have here := regranted_iff mid.server plan.old distinct covers
    simp only [filled.granted, filled.nothing_iff] at here
    rw [← here]
    exact forall_congr' fun held => imp_congr_right fun on => iff_congr Iff.rfl (filled.held held on).symm
  constructor
  · rintro ⟨rows, restored⟩
    exact ⟨⟨rows, fun quiet => (restores.mp (restored quiet)).1⟩, fun quiet => (restores.mp (restored quiet)).2⟩
  · rintro ⟨⟨rows, granted⟩, nothing⟩
    exact ⟨rows, fun quiet => restores.mpr ⟨granted quiet, nothing quiet⟩⟩

theorem first_unique {α : Type} {P : α → Prop} {early early' later later' : List α} {a a' : α}
    (same : early ++ a :: later = early' ++ a' :: later') (all : ∀ b ∈ early, P b) (fails : ¬ P a)
    (all' : ∀ b ∈ early', P b) (fails' : ¬ P a') : early = early' ∧ a = a' := by
  induction early generalizing early' with
  | nil =>
    cases early' with
    | nil => exact ⟨rfl, (cons.inj same).1⟩
    | cons b rest =>
      have head : a = b := (cons.inj same).1
      exact absurd (all' b mem_cons_self) (head ▸ fails)
  | cons b rest ih =>
    cases early' with
    | nil =>
      have head : b = a' := (cons.inj same).1
      exact absurd (all b mem_cons_self) (head ▸ fails')
    | cons c others =>
      obtain ⟨head, tail⟩ := cons.inj same
      obtain ⟨rest', equal⟩ := ih tail (fun d inside => all d (mem_cons_of_mem _ inside))
        fun d inside => all' d (mem_cons_of_mem _ inside)
      exact ⟨by rw [head, rest'], equal⟩

theorem revocations (world : World) (todo : List Assignment) : (∀ a ∈ todo, world.revoke a.login = .done) ∨
    ∃ earlier a rest, todo = earlier ++ a :: rest ∧ (∀ b ∈ earlier, world.revoke b.login = .done) ∧ world.revoke a.login ≠ .done := by
  cases found : todo.find? fun a => decide (world.revoke a.login ≠ .done) with
  | none =>
    refine .inl fun a inside => ?_
    simpa using List.find?_eq_none.mp found a inside
  | some a =>
    obtain ⟨fails, earlier, rest, split, done⟩ := List.find?_eq_some_iff_append.mp found
    refine .inr ⟨earlier, a, rest, split, fun b inside => ?_, of_decide_eq_true fails⟩
    simpa using done b inside

/-- The body of the `try` from the filled copy on, with the handler around it. -/
def retirement (world : World) (plan : Plan) : Act Unit := Sys.handle (retireOld world plan) fun _ => recover world plan

section
variable (filled : Filled world plan content server mid)
include filled

theorem Filled.retire_unswitched (refused : world.switch = .refused) :
    Safe plan content server ((retirement world plan).run mid) := by
  obtain ⟨row, found, owner, named⟩ := filled.ready.row
  have stopped : (switchRow world plan).run mid = (.error [], mid) := by rw [switchRow_run found owner named, refused]
  have ran : (retirement world plan).run mid = (recover world plan).run mid :=
    handle_of_error (bind_of_error stopped)
  rw [ran]
  exact recover_unswitched filled.ready.apart found named filled.unswitched filled.nothing filled.ready.stands filled.held

theorem Filled.retire_late (late : world.switch = .late) :
    Safe plan content server ((retirement world plan).run mid) ↔ world.dropNew = .refused := by
  obtain ⟨row, found, owner, named⟩ := filled.ready.row
  have stopped : (switchRow world plan).run mid
      = (.error [], { mid with registry := mid.registry.renameGrant plan.grantId plan.new }) := by
    rw [switchRow_run found owner named, late]
  have ran : (retirement world plan).run mid
      = (recover world plan).run { mid with registry := mid.registry.renameGrant plan.grantId plan.new } :=
    handle_of_error (bind_of_error stopped)
  rw [ran]
  exact recover_late filled.ready.apart (byKey_renamed found plan.new) rfl filled.unswitched filled.filled

theorem Filled.switched_run (done : world.switch = .done) :
    (switchRow world plan).run mid = (.ok (), switchedWork plan mid) := by
  obtain ⟨row, found, owner, named⟩ := filled.ready.row
  rw [switchRow_run found owner named, done]

section
variable (switched : world.switch = .done)
include switched

theorem Filled.retire_revoking
    (split : plan.assignments = earlier ++ assignment :: rest) (done : ∀ a ∈ earlier, world.revoke a.login = .done)
    (raises : world.revoke assignment.login ≠ .done) : Safe plan content server ((retirement world plan).run mid) ↔
      Undoes world plan server earlier ∧
        (world.revoke assignment.login = .late → Quiet world plan earlier → HoldsNothing server plan.old assignment.login) := by
  have stopped : (retireOld world plan).run mid = (.error [], retired plan (cutAt world earlier assignment) earlier mid) := by
    refine (bind_of_ok (filled.switched_run switched)).trans ?_
    rw [split]
    exact bind_of_error (revokesOld_error done raises)
  have ran : (retirement world plan).run mid
      = (recover world plan).run (retired plan (cutAt world earlier assignment) earlier mid) := handle_of_error stopped
  have distinct : ((earlier ++ assignment :: rest).map Assignment.login).Nodup := split ▸ filled.ready.distinct
  rw [map_append] at distinct
  have apart : ∀ b ∈ earlier, assignment.login ≠ b.login := by
    intro b inside same
    exact (disjoint_of_nodup_append distinct) (mem_map.mpr ⟨b, inside, same.symm⟩) mem_cons_self
  have inside : ∀ a ∈ earlier, a ∈ plan.assignments := by
    intro a member
    rw [split]
    exact mem_append_left _ member
  have covers : ∀ a ∈ earlier, a ∈ cutAt world earlier assignment := by
    intro a member
    unfold cutAt
    split
    · exact mem_append_left _ member
    · exact member
  rw [ran, filled.recover_retired inside (Nodup.of_append_left distinct) covers]
  refine and_congr_right fun _ => ⟨fun nothing late quiet => ?_, fun nothing quiet a member alone => ?_⟩
  · refine nothing quiet assignment ?_ apart
    rw [cutAt, if_pos late]
    exact mem_append_right _ mem_cons_self
  · unfold cutAt at member
    split at member
    · next late =>
      rcases mem_append.mp member with known | last
      · exact absurd rfl (alone a known)
      · rw [mem_singleton.mp last]
        exact nothing late quiet
    · exact absurd rfl (alone a member)

section
variable (done : ∀ a ∈ plan.assignments, world.revoke a.login = .done)
include done

theorem Filled.retire_kept (refused : world.drop = .refused) :
    Safe plan content server ((retirement world plan).run mid) ↔ Undoes world plan server plan.assignments := by
  have stopped : (retireOld world plan).run mid = (.error [], retired plan plan.assignments plan.assignments mid) := by
    refine (bind_of_ok (filled.switched_run switched)).trans ((bind_of_ok (revokesOld_ok done)).trans ?_)
    rw [refused]
    rfl
  have ran : (retirement world plan).run mid = (recover world plan).run (retired plan plan.assignments plan.assignments mid) :=
    handle_of_error stopped
  rw [ran, filled.recover_retired (fun _ inside => inside) filled.ready.distinct fun _ inside => inside]
  exact ⟨fun both => both.1, fun undoes => ⟨undoes, fun _ a inside alone => absurd rfl (alone a inside)⟩⟩

theorem Filled.retire_dropped (late : world.drop = .late) :
    Safe plan content server ((retirement world plan).run mid) ↔ world.switchBack = .refused ∧ world.dropNew = .refused := by
  obtain ⟨row, found, _, _⟩ := filled.ready.row
  generalize gone : ({ retired plan plan.assignments plan.assignments mid with
    server := (revokedFrom plan.old plan.assignments mid.server).dropDatabase plan.old } : Work) = left
  have stopped : (retireOld world plan).run mid = (.error [], left) := by
    refine (bind_of_ok (filled.switched_run switched)).trans ((bind_of_ok (revokesOld_ok done)).trans ?_)
    rw [late, ← gone]
    rfl
  have ran : (retirement world plan).run mid = (recover world plan).run left := handle_of_error stopped
  rw [ran]
  subst gone
  have renamed := byKey_renamed found plan.new
  refine recover_dropped filled.ready.apart renamed rfl rfl ?_ Server.dropDatabase_self
  refine (Server.dropDatabase_other (Ne.symm filled.ready.apart)).trans ?_
  rw [revokedFrom_databases]
  exact filled.filled

theorem Filled.retire_done (dropped : world.drop = .done) :
    Safe plan content server ((retirement world plan).run mid) := by
  obtain ⟨row, found, _, _⟩ := filled.ready.row
  generalize gone : ({ retired plan plan.assignments plan.assignments mid with
    server := (revokedFrom plan.old plan.assignments mid.server).dropDatabase plan.old } : Work) = left
  have ended : (retireOld world plan).run mid = (.ok (), left) := by
    refine (bind_of_ok (filled.switched_run switched)).trans ((bind_of_ok (revokesOld_ok done)).trans ?_)
    rw [dropped, ← gone]
    rfl
  have ran : (retirement world plan).run mid = (.ok (), left) := handle_of_ok ended
  rw [ran]
  subst gone
  refine ⟨⟨{ row with dbName := plan.new }, byKey_renamed found plan.new, .inr rfl, ?_⟩, nofun⟩
  refine (Server.dropDatabase_other (Ne.symm filled.ready.apart)).trans ?_
  rw [revokedFrom_databases]
  exact filled.filled

end

end

theorem Filled.retirement_safe :
    Safe plan content server ((retirement world plan).run mid) ↔ Recoverable world plan server := by
  cases switch : world.switch with
  | refused =>
    have other {outcome : Outcome} (is : world.switch = outcome) (apart : outcome ≠ .refused) : False :=
      apart (is.symm.trans switch)
    refine iff_of_true (filled.retire_unswitched switch) ⟨fun late => ?_, fun _ _ _ done => ?_, fun done => ?_, fun done => ?_⟩
    · exact (other late (by decide)).elim
    · exact (other done (by decide)).elim
    · exact (other done (by decide)).elim
    · exact (other done (by decide)).elim
  | late =>
    have other (done : world.switch = .done) : False := by
      rw [switch] at done
      cases done
    rw [filled.retire_late switch]
    exact ⟨fun refused => ⟨fun _ => refused, fun _ _ _ done => (other done).elim, fun done => (other done).elim,
      fun done => (other done).elim⟩, fun recoverable => recoverable.switch switch⟩
  | done =>
    have other (late : world.switch = .late) : False := by
      rw [switch] at late
      cases late
    rcases revocations world plan.assignments with done | ⟨earlier, assignment, rest, split, done, raises⟩
    · have all (earlier rest : List Assignment) (a : Assignment) (split : plan.assignments = earlier ++ a :: rest) :
          world.revoke a.login = .done := done a (split ▸ mem_append_right _ mem_cons_self)
      have revoking : ∀ earlier a rest, world.switch = .done → plan.assignments = earlier ++ a :: rest →
          (∀ b ∈ earlier, world.revoke b.login = .done) → world.revoke a.login ≠ .done → Undoes world plan server earlier ∧
            (world.revoke a.login = .late → Quiet world plan earlier → HoldsNothing server plan.old a.login) :=
        fun earlier a rest _ split _ raises => absurd (all earlier rest a split) raises
      cases drop : world.drop with
      | done =>
        refine iff_of_true (filled.retire_done switch done drop) ⟨fun late => (other late).elim, revoking, ?_, ?_⟩
        · exact fun _ _ refused => by cases drop.symm.trans refused
        · exact fun _ _ late => by cases drop.symm.trans late
      | refused =>
        rw [filled.retire_kept switch done drop]
        refine ⟨fun undoes => ⟨fun late => (other late).elim, revoking, fun _ _ _ => undoes, ?_⟩,
          fun recoverable => recoverable.kept switch done drop⟩
        exact fun _ _ late => by cases drop.symm.trans late
      | late =>
        rw [filled.retire_dropped switch done drop]
        refine ⟨fun both => ⟨fun late => (other late).elim, revoking, ?_, fun _ _ _ => both⟩,
          fun recoverable => recoverable.dropped switch done drop⟩
        exact fun _ _ refused => by cases drop.symm.trans refused
    · have notAll (all : ∀ a ∈ plan.assignments, world.revoke a.login = .done) : False :=
        raises (all assignment (split ▸ mem_append_right _ mem_cons_self))
      rw [filled.retire_revoking switch split done raises]
      refine ⟨fun both => ⟨fun late => (other late).elim, fun earlier' a' rest' _ split' done' raises' => ?_,
        fun _ all => (notAll all).elim, fun _ all => (notAll all).elim⟩,
          fun recoverable => recoverable.revoke earlier assignment rest switch split done raises⟩
      obtain ⟨rfl, rfl⟩ := first_unique (split.symm.trans split') done raises done' raises'
      exact both

end

end

end Boron.Databases.Rename
