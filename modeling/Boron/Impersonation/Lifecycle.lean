import Boron.Impersonation.Sound

namespace Boron.Impersonation
open List

def Event.token : Event → Option String
  | .opened tokenHash .. => some tokenHash
  | .ended .. => none

/-- The redeemed token was unused and not expired, and its creator, an active administrator,
owns the session. -/
def Event.isOpenedWell : Event → Prop
  | .opened tokenHash _ panelUserId now before => ∃ row ∈ before.tokens, row.tokenHash = tokenHash ∧ row.usedAt = none ∧
    now < row.expiresAt ∧ ∃ admin ∈ before.users, admin.id = panelUserId ∧ admin.serial = row.createdBy ∧ admin.isActiveAdmin = true
  | .ended .. => True

/-- The session that is restored is live and not scoped, and it is of the administrator who
opened the impersonation, and who is active. -/
def Event.isRestoredWell (host : Host) : Event → Prop
  | .opened .. => True
  | .ended sessionId proof restored now before => restored = true →
    ∃ imp ∈ before.impersonations, imp.sessionId = sessionId ∧ ∃ raw, proof = some raw ∧ ∃ parent ∈ before.sessions,
      sessionDigest host raw = some parent.sessionId ∧ parent.revoked = false ∧ now < parent.expiresAt ∧
        (∀ other ∈ before.impersonations, other.sessionId ≠ parent.sessionId) ∧
          ∃ admin ∈ before.users, admin.id = parent.panelUserId ∧ admin.serial = imp.openedBy ∧ admin.isActiveAdmin = true

structure Lawful (host : Host) (store : Store) : Prop where
  once : (store.log.filterMap Event.token).Nodup
  accounted : ∀ imp ∈ store.tables.impersonations, ∃ tokenHash now before,
    Event.opened tokenHash imp.sessionId imp.adminPanelUserId now before ∈ store.log
  opened : ∀ event ∈ store.log, event.isOpenedWell
  ended : ∀ sessionId proof restored now before, Event.ended sessionId proof restored now before ∈ store.log →
    ∀ row ∈ store.tables.sessions, row.sessionId = sessionId → row.revoked = true
  restored : ∀ event ∈ store.log, event.isRestoredWell host

structure Fresh (store : Store) : Prop where
  userIds : Rows.Unique PanelUser.id store.tables.users
  usernames : Rows.Unique PanelUser.username store.tables.users
  serials : Rows.Unique PanelUser.serial store.tables.users
  created : ∀ user ∈ store.tables.users, user.serial < store.created
  sessions : Rows.Unique Session.sessionId store.tables.sessions
  tokens : store.tables.tokens = []
  impersonations : store.tables.impersonations = []
  log : store.log = []

structure Logged (host : Host) (store : Store) : Prop where
  once : (store.log.filterMap Event.token).Nodup
  used : ∀ hash ∈ store.log.filterMap Event.token, ∃ row ∈ store.tables.tokens, row.tokenHash = hash ∧ row.usedAt.isSome = true
  accounted : ∀ imp ∈ store.tables.impersonations, ∃ tokenHash now before,
    Event.opened tokenHash imp.sessionId imp.adminPanelUserId now before ∈ store.log
  finished : ∀ sessionId proof restored now before, Event.ended sessionId proof restored now before ∈ store.log →
    ∃ imp ∈ store.tables.impersonations, imp.sessionId = sessionId ∧ imp.endedAt.isSome = true
  opened : ∀ event ∈ store.log, event.isOpenedWell
  restored : ∀ event ∈ store.log, event.isRestoredWell host

structure Kept (host : Host) (store : Store) : Prop where
  sound : Sound store.tables
  logged : Logged host store

def Relies (task : Task) (store : Store) : Prop :=
  match task with
  | .createToken _ adminUsername creator => Named adminUsername creator store.tables
  | .revoke ended sessions => ∀ digest ∈ ended, digest ∈ sessions
  | _ => True

/-- No administrator is created under a name that an unused token carries, or that one is being
created for; and no token expires between the reading of the clock and the transaction. -/
structure Regular (host : Host) (panel : Panel) (who : Nat × Moment) : Prop where
  names : ∀ username, who.2.call = .createAdministrator username →
    (∀ row ∈ panel.store.tables.tokens, row.adminUsername = username → row.usedAt.isSome = true) ∧
      ∀ i account creator, panel.task i ≠ .createToken account username creator
  prompt : ∀ params now, panel.task who.1 = .redeemToken params now → ∀ row ∈ panel.store.tables.tokens,
    row.tokenHash = host.sha256 params.token → now < row.expiresAt → who.2.now 0 < row.expiresAt

section
variable {host : Host} {store left : Store} {task : Task} {moment : Moment}

theorem Fresh.kept (fresh : Fresh store) : Kept host store := by
  have noToken : ∀ row ∈ store.tables.tokens, False := by
    rw [fresh.tokens]
    exact nofun
  have noImp : ∀ imp ∈ store.tables.impersonations, False := by
    rw [fresh.impersonations]
    exact nofun
  have noEvent : ∀ event ∈ store.log, False := by
    rw [fresh.log]
    exact nofun
  constructor
  · refine ⟨fresh.userIds, fresh.usernames, ?_, fresh.sessions, ?_, fun imp member => (noImp imp member).elim,
      fun imp member => (noImp imp member).elim, fun imp member => (noImp imp member).elim, fun row member => (noToken row member).elim⟩
    · rw [fresh.tokens]
      exact nodup_nil
    · rw [fresh.impersonations]
      exact nodup_nil
  · refine ⟨?_, ?_, fun imp member => (noImp imp member).elim, fun _ _ _ _ _ member => (noEvent _ member).elim,
      fun event member => (noEvent event member).elim, fun event member => (noEvent event member).elim⟩
    · rw [fresh.log]
      exact nodup_nil
    · rw [fresh.log]
      exact nofun

theorem Kept.lawful (kept : Kept host store) : Lawful host store := by
  refine ⟨kept.logged.once, kept.logged.accounted, kept.logged.opened, fun sessionId proof restored now before member row inside same => ?_,
    kept.logged.restored⟩
  obtain ⟨imp, known, equal, finished⟩ := kept.logged.finished sessionId proof restored now before member
  exact kept.sound.closed imp known finished row inside (same.trans equal.symm)

theorem Logged.carry (logged : Logged host store) (log : left.log = store.log)
    (tokens : ∀ row ∈ store.tables.tokens, ∃ later ∈ left.tables.tokens, later.tokenHash = row.tokenHash ∧
      (row.usedAt.isSome = true → later.usedAt.isSome = true))
    (known : ∀ imp ∈ left.tables.impersonations, ∃ earlier ∈ store.tables.impersonations,
      earlier.sessionId = imp.sessionId ∧ earlier.adminPanelUserId = imp.adminPanelUserId)
    (finished : ∀ imp ∈ store.tables.impersonations, ∃ later ∈ left.tables.impersonations,
      later.sessionId = imp.sessionId ∧ (imp.endedAt.isSome = true → later.endedAt.isSome = true)) : Logged host left := by
  refine ⟨log ▸ logged.once, fun hash member => ?_, fun imp member => ?_, fun sessionId proof restored now before member => ?_,
    log ▸ logged.opened, log ▸ logged.restored⟩
  · rw [log] at member
    obtain ⟨row, inside, same, used⟩ := logged.used hash member
    obtain ⟨later, inside', same', used'⟩ := tokens row inside
    exact ⟨later, inside', same'.trans same, used' used⟩
  · obtain ⟨earlier, inside, same, owner⟩ := known imp member
    obtain ⟨tokenHash, now, before, listed⟩ := logged.accounted earlier inside
    rw [same, owner] at listed
    exact ⟨tokenHash, now, before, log ▸ listed⟩
  · rw [log] at member
    obtain ⟨imp, inside, same, ended⟩ := logged.finished sessionId proof restored now before member
    obtain ⟨later, inside', same', ended'⟩ := finished imp inside
    exact ⟨later, inside', same'.trans same, ended' ended⟩

/-- The tables that matter to the log are the same. -/
theorem Logged.same (logged : Logged host store) (log : left.log = store.log) (tokens : left.tables.tokens = store.tables.tokens)
    (impersonations : left.tables.impersonations = store.tables.impersonations) : Logged host left := by
  refine logged.carry log (fun row inside => ?_) (fun imp inside => ?_) fun imp inside => ?_
  · exact ⟨row, tokens ▸ inside, rfl, fun used => used⟩
  · exact ⟨imp, impersonations ▸ inside, rfl, rfl⟩
  · exact ⟨imp, impersonations ▸ inside, rfl, fun ended => ended⟩

/-- What a turn owes to all tasks: the store is kept, and no name comes to another user. -/
structure Turned (host : Host) (store left : Store) : Prop where
  kept : Kept host left
  users : ∀ user ∈ left.tables.users, ∃ earlier ∈ store.tables.users, earlier.username = user.username ∧ earlier.serial = user.serial

theorem Kept.turned (kept : Kept host store) : Turned host store store :=
  ⟨kept, fun user inside => ⟨user, inside, rfl, rfl⟩⟩

theorem Turned.relies (turned : Turned host store left) (relies : Relies task store) : Relies task left := by
  cases task with
  | createToken username adminUsername creator =>
    intro user inside named
    obtain ⟨earlier, known, name, serial⟩ := turned.users user inside
    exact serial ▸ relies earlier known (name.trans named)
  | _ => exact relies

theorem Turned.of_users (sound : Sound left.tables) (logged : Logged host left) (users : left.tables.users = store.tables.users) :
    Turned host store left := ⟨⟨sound, logged⟩, fun user inside => ⟨user, users ▸ inside, rfl, rfl⟩⟩

variable {now : Int}

theorem createToken_turned (kept : Kept host store) {hash username adminUsername : String} {creator : Nat} (named : Named adminUsername creator store.tables) :
    Turned host store (store.commit (store.tables.createToken hash username adminUsername creator now)) := by
  cases made : store.tables.createToken hash username adminUsername creator now with
  | none => exact kept.turned
  | some tables =>
    obtain ⟨sound, users, impersonations, tokens⟩ := kept.sound.createToken named made
    refine Turned.of_users sound (kept.logged.carry rfl (fun row inside => ?_) (fun imp inside => ?_) fun imp inside => ?_) users
    · exact ⟨row, tokens row inside, rfl, fun used => used⟩
    · exact ⟨imp, impersonations ▸ inside, rfl, rfl⟩
    · exact ⟨imp, impersonations ▸ inside, rfl, fun ended => ended⟩

theorem finishRedeem_turned (kept : Kept host store) {params : RedeemParams} (prompt : ∀ row ∈ store.tables.tokens, row.tokenHash = host.sha256 params.token → now < row.expiresAt →
      moment.now 0 < row.expiresAt) : Turned host store (finishRedeem host params now moment store) := by
  unfold finishRedeem
  cases drawn : sessionDigest host moment.drawn with
  | none => exact kept.turned
  | some digest =>
    cases done : store.tables.redeemToken host params now digest with
    | none =>
      simp only [done]
      exact kept.turned
    | some tables =>
      simp only [done]
      obtain ⟨sound, ⟨row, inside, hash, unused, before, admin, known, adminId, active, named⟩, users, tokens, imp, added, scoped', owner⟩ :=
        kept.sound.redeemToken done
      have fresh : host.sha256 params.token ∉ store.log.filterMap Event.token := by
        intro member
        obtain ⟨other, inside', same, used⟩ := kept.logged.used _ member
        have equal : other = row := inj_on_of_nodup_map kept.sound.tokens inside' inside (same.trans hash.symm)
        rw [equal, unused] at used
        cases used
      refine Turned.of_users sound ⟨?_, ?_, ?_, ?_, ?_, ?_⟩ users
      · exact nodup_cons.mpr ⟨fresh, kept.logged.once⟩
      · intro other member
        have renewed : ∀ row ∈ store.tables.tokens, ∃ later ∈ tables.tokens, later.tokenHash = row.tokenHash ∧
            (row.usedAt.isSome = true ∨ row.tokenHash = host.sha256 params.token → later.usedAt.isSome = true) := by
          intro row inside
          rw [tokens]
          refine ⟨_, mem_map.mpr ⟨row, inside, rfl⟩, ?_, ?_⟩
          · split <;> rfl
          · intro used
            split
            · rfl
            · next apart => exact used.resolve_right apart
        rcases mem_cons.mp member with rfl | earlier
        · obtain ⟨later, inside', same, used⟩ := renewed row inside
          exact ⟨later, inside', same.trans hash, used (.inr hash)⟩
        · obtain ⟨known, inside', same, used⟩ := kept.logged.used other earlier
          obtain ⟨later, inside'', same', used'⟩ := renewed known inside'
          exact ⟨later, inside'', same'.trans same, used' (.inl used)⟩
      · intro other member
        rw [added] at member
        rcases mem_append.mp member with earlier | newest
        · obtain ⟨tokenHash, now, before, listed⟩ := kept.logged.accounted other earlier
          exact ⟨tokenHash, now, before, mem_cons_of_mem _ listed⟩
        · rw [mem_singleton.mp newest, scoped', owner]
          exact ⟨_, _, _, mem_cons_self⟩
      · intro sessionId proof restored now' before' member
        rcases mem_cons.mp member with never | earlier
        · cases never
        · obtain ⟨other, inside', facts⟩ := kept.logged.finished sessionId proof restored now' before' earlier
          exact ⟨other, added ▸ mem_append_left _ inside', facts⟩
      · intro event member
        rcases mem_cons.mp member with rfl | earlier
        · refine ⟨row, inside, hash, unused, prompt row inside hash before, admin, known, adminId, ?_, active⟩
          exact kept.sound.creators row inside unused admin known named
        · exact kept.logged.opened event earlier
      · intro event member
        rcases mem_cons.mp member with rfl | earlier
        · trivial
        · exact kept.logged.restored event earlier

variable {tables : Tables}

theorem restores_some {imp : ImpersonationSession} {params : EndParams} {now : Nat → Int} (sound : Sound tables)
    (inside : imp ∈ tables.impersonations) (restored : tables.restores host imp params now = some true) :
    (Event.ended imp.sessionId params.adminSessionId true (now 2) tables).isRestoredWell host := by
  intro _
  unfold Tables.restores at restored
  cases given : params.adminSessionId with
  | none =>
    rw [given] at restored
    cases restored
  | some proof =>
    simp only [given] at restored
    split at restored
    · obtain ⟨expected, _, restored⟩ := Option.bind_eq_some_iff.mp restored
      obtain ⟨same, _, restored⟩ := Option.bind_eq_some_iff.mp restored
      split at restored
      · obtain ⟨digest, digested, answer⟩ := Option.map_eq_some_iff.mp restored
        obtain ⟨parent, found, live⟩ := (Option.any_eq_true _ _).mp answer
        obtain ⟨member, named⟩ := session_some found
        unfold Tables.parentIsLive at live
        simp only [Bool.and_eq_true, Bool.not_eq_true', decide_eq_true_eq] at live
        obtain ⟨⟨⟨⟨unrevoked, before⟩, owner⟩, active⟩, unscoped⟩ := live
        obtain ⟨admin, known, isActive⟩ := (Option.any_eq_true _ _).mp active
        obtain ⟨user, adminId⟩ := user_some known
        obtain ⟨opener, inside', openerId, serial⟩ := sound.owners imp inside
        have equal : admin = opener := inj_on_of_nodup_map sound.userIds user inside' (adminId.trans openerId.symm)
        refine ⟨imp, inside, rfl, proof, rfl, parent, member, ?_, unrevoked, before, impersonation_none unscoped, admin, user, ?_, ?_,
          isActive⟩
        · rw [digested, named]
        · rw [adminId, owner]
        · rw [equal, serial]
      · cases restored
    · cases restored

theorem close_impersonation {imp : ImpersonationSession} (inside : imp ∈ tables.impersonations) :
    ∃ later ∈ (tables.close imp.sessionId now).impersonations, later.sessionId = imp.sessionId ∧ later.endedAt.isSome = true :=
  ⟨_, mem_map.mpr ⟨imp, inside, if_pos rfl⟩, rfl, rfl⟩

section
variable (kept : Kept host store)
include kept

theorem runEnd_turned (params : EndParams) : Turned host store (runEnd host params moment store) := by
  unfold runEnd
  cases digested : sessionDigest host params.sessionId with
  | none => exact kept.turned
  | some digest =>
    cases found : store.tables.impersonation digest with
    | none =>
      simp only [found]
      exact kept.turned
    | some imp =>
      simp only [found]
      cases answered : store.tables.restores host imp params moment.now with
      | none => exact kept.turned
      | some restored =>
        obtain ⟨inside, rfl⟩ := impersonation_some found
        have carried : Logged host { store with tables := store.tables.close imp.sessionId (moment.now 3) } := by
          refine kept.logged.carry rfl (fun row inside => ⟨row, inside, rfl, fun used => used⟩) (fun other member => ?_) fun other member => ?_
          · obtain ⟨earlier, first, equal⟩ := mem_map.mp member
            refine ⟨earlier, first, ?_⟩
            rw [← equal]
            split <;> exact ⟨rfl, rfl⟩
          · refine ⟨_, mem_map.mpr ⟨other, member, rfl⟩, ?_⟩
            split
            · exact ⟨rfl, fun _ => rfl⟩
            · exact ⟨rfl, fun ended => ended⟩
        refine Turned.of_users kept.sound.close ⟨carried.once, carried.used, fun other member => ?_, ?_, ?_, ?_⟩ rfl
        · obtain ⟨tokenHash, now, before, listed⟩ := carried.accounted other member
          exact ⟨tokenHash, now, before, mem_cons_of_mem _ listed⟩
        · intro sessionId proof restored' now before member
          rcases mem_cons.mp member with same | earlier
          · cases same
            exact close_impersonation inside
          · exact carried.finished sessionId proof restored' now before earlier
        · intro event member
          rcases mem_cons.mp member with rfl | earlier
          · trivial
          · exact carried.opened event earlier
        · intro event member
          rcases mem_cons.mp member with rfl | earlier
          · cases restored with
            | true => exact restores_some kept.sound inside answered
            | false => exact nofun
          · exact carried.restored event earlier

theorem revoke_turned {ended sessions : List String} (covers : ∀ digest ∈ ended, digest ∈ sessions) :
    Turned host store (store.commit ((store.tables.endImpersonations ended now).bind (·.revokeSessions sessions))) := by
  cases done : (store.tables.endImpersonations ended now).bind (·.revokeSessions sessions) with
  | none => exact kept.turned
  | some tables =>
    obtain ⟨sound, users, tokens, impersonations⟩ := kept.sound.revoke covers done
    refine Turned.of_users sound (kept.logged.carry rfl (fun row inside => ?_) (fun imp member => ?_) fun imp member => ?_) users
    · exact ⟨row, tokens ▸ inside, rfl, fun used => used⟩
    · have member' : imp ∈ tables.impersonations := member
      rw [impersonations] at member'
      obtain ⟨earlier, first, equal⟩ := mem_map.mp member'
      refine ⟨earlier, first, ?_⟩
      rw [← equal]
      split <;> exact ⟨rfl, rfl⟩
    · refine ⟨_, impersonations ▸ mem_map.mpr ⟨imp, member, rfl⟩, ?_⟩
      split
      · exact ⟨rfl, fun _ => rfl⟩
      · exact ⟨rfl, fun ended => ended⟩

theorem setStatus_turned (id : Nat) (disabled : Bool) {moment : Moment} :
    Turned host store (continues host (.setStatus id disabled) moment store) := by
  have sound : Sound (store.tables.setDisabled id disabled) := kept.sound.setDisabled disabled
  have users : ∀ user ∈ (store.tables.setDisabled id disabled).users, ∃ earlier ∈ store.tables.users,
      earlier.username = user.username ∧ earlier.serial = user.serial := by
    intro user inside
    obtain ⟨earlier, first, rfl⟩ := mem_map.mp inside
    refine ⟨earlier, first, ?_⟩
    split <;> exact ⟨rfl, rfl⟩
  unfold continues
  simp only
  split
  · cases revoked : (store.tables.setDisabled id disabled).revokeSessions (store.tables.sessionsOf id) with
    | none => exact kept.turned
    | some tables =>
      obtain ⟨sound', same, impersonations, tokens⟩ := sound.revokeSessions revoked
      exact ⟨⟨sound', kept.logged.same rfl tokens impersonations⟩, fun user inside => users user (same ▸ inside)⟩
  · exact ⟨⟨sound, kept.logged.same rfl rfl rfl⟩, users⟩

theorem delete_turned (id : Nat) (sessions : List String) :
    Turned host store (store.commit ((store.tables.revokeSessions sessions).bind (·.deleteUser id))) := by
  cases done : (store.tables.revokeSessions sessions).bind (·.deleteUser id) with
  | none => exact kept.turned
  | some tables =>
    obtain ⟨mid, revoked, deleted⟩ := Option.bind_eq_some_iff.mp done
    obtain ⟨sound, users, impersonations, tokens⟩ := kept.sound.revokeSessions revoked
    obtain ⟨sound', fewer, impersonations', tokens', _⟩ := sound.deleteUser deleted
    refine ⟨⟨sound', kept.logged.same rfl (tokens'.trans tokens) (impersonations'.trans impersonations)⟩, fun user inside => ?_⟩
    exact ⟨user, users ▸ fewer user inside, rfl, rfl⟩

theorem login_turned (panelUserId : Nat) (expiresAt : Int) :
    Turned host store (store.commit ((sessionDigest host moment.drawn).bind fun digest =>
      store.tables.openSession ⟨digest, panelUserId, expiresAt, false⟩)) := by
  cases done : (sessionDigest host moment.drawn).bind fun digest =>
      store.tables.openSession ⟨digest, panelUserId, expiresAt, false⟩ with
  | none => exact kept.turned
  | some tables =>
    obtain ⟨digest, _, opened⟩ := Option.bind_eq_some_iff.mp done
    obtain ⟨sound, users, impersonations, tokens⟩ := kept.sound.openSession opened
    exact Turned.of_users sound (kept.logged.same rfl tokens impersonations) users

end

variable (moment) in
theorem continues_turned (kept : Kept host store) (relies : Relies task store)
    (prompt : ∀ params now, task = .redeemToken params now → ∀ row ∈ store.tables.tokens,
      row.tokenHash = host.sha256 params.token → now < row.expiresAt → moment.now 0 < row.expiresAt) :
    Turned host store (continues host task moment store) := by
  cases task with
  | idle => exact kept.turned
  | createToken username adminUsername creator => exact createToken_turned kept relies
  | redeemToken params now => exact finishRedeem_turned kept (prompt params now rfl)
  | revoke ended sessions => exact revoke_turned kept relies
  | setStatus id disabled => exact setStatus_turned kept id disabled
  | delete id sessions => exact delete_turned kept id sessions

theorem beginCreateToken_turned (kept : Kept host store) (username adminUsername credential : String) :
    Turned host store (beginCreateToken host username adminUsername credential moment store).2 ∧
      Relies (beginCreateToken host username adminUsername credential moment store).1 store := by
  unfold beginCreateToken
  cases found : store.tables.principal host credential (moment.now 0) with
  | none => exact ⟨kept.turned, trivial⟩
  | some admin =>
    simp only
    split
    · next same => exact ⟨kept.turned, same ▸ kept.sound.named (principal_some found)⟩
    · exact ⟨kept.turned, trivial⟩

variable (moment) in
theorem begins_turned (kept : Kept host store) (other : ∀ username, moment.call ≠ .createAdministrator username) :
    Turned host store (begins host moment store).2 ∧ Relies (begins host moment store).1 store := by
  unfold begins
  cases call : moment.call with
  | createToken username adminUsername credential =>
    exact beginCreateToken_turned kept username adminUsername credential
  | redeemToken params => exact ⟨kept.turned, trivial⟩
  | end_ params => exact ⟨runEnd_turned kept params, trivial⟩
  | revokeSession sessionId =>
    simp only
    split
    · exact ⟨kept.turned, nofun⟩
    · exact ⟨kept.turned, trivial⟩
  | revokeManagedSession panelUserId digest =>
    simp only
    split
    · split
      · exact ⟨kept.turned, fun other member => (mem_filter.mp member).1⟩
      · exact ⟨kept.turned, trivial⟩
    · exact ⟨kept.turned, trivial⟩
  | revokeOtherSessions panelUserId current => exact ⟨kept.turned, fun other member => (mem_filter.mp member).1⟩
  | login panelUserId ttl => exact ⟨login_turned kept panelUserId _, trivial⟩
  | createAdministrator username => exact absurd call (other username)
  | setAdministratorStatus username disabled =>
    simp only
    split
    · exact ⟨kept.turned, trivial⟩
    · exact ⟨kept.turned, trivial⟩
  | deleteAdministrator username =>
    simp only
    split
    · exact ⟨kept.turned, trivial⟩
    · exact ⟨kept.turned, trivial⟩
  | changeAdministratorPassword username =>
    simp only
    split
    · exact ⟨kept.turned, nofun⟩
    · exact ⟨kept.turned, trivial⟩
  | setAccountStatus id status =>
    have sound : Sound { store.tables with
        accounts := Rows.change Account.id id (fun row => { row with status }) store.tables.accounts } := { kept.sound with }
    exact ⟨Turned.of_users sound (kept.logged.same rfl rfl rfl) rfl, trivial⟩

theorem createAdministrator_kept (kept : Kept host store) {username : String} (unclaimed : ∀ row ∈ store.tables.tokens, row.adminUsername = username → row.usedAt.isSome = true)
    (added : store.tables.addAdministrator username store.created = some tables) :
    Kept host { store with tables, created := store.created + 1 } ∧
      ∀ task, Relies task store → (∀ account creator, task ≠ .createToken account username creator) →
        Relies task { store with tables, created := store.created + 1 } := by
  obtain ⟨sound, users, impersonations, tokens, _⟩ := kept.sound.addAdministrator unclaimed added
  refine ⟨⟨sound, kept.logged.same rfl tokens impersonations⟩, fun task relies other => ?_⟩
  cases task with
  | createToken account adminUsername creator =>
    intro user inside named
    rcases users user inside with earlier | same
    · exact relies user earlier named
    · exact absurd (congrArg (fun name => Task.createToken account name creator) (named.symm.trans same)) (other account creator)
  | _ => exact relies

theorem turn_kept {panel : Panel} {who : Nat × Moment} (regular : Regular host panel who) (kept : Kept host panel.store)
    (relied : ∀ i, Relies (panel.task i) panel.store) :
    Kept host (advance host who.1 who.2 (panel.task who.1) panel.store).2 ∧
      Relies (advance host who.1 who.2 (panel.task who.1) panel.store).1 (advance host who.1 who.2 (panel.task who.1) panel.store).2 ∧
        ∀ j, Relies (panel.task j) (advance host who.1 who.2 (panel.task who.1) panel.store).2 := by
  unfold advance
  split
  · exact ⟨kept, trivial, relied⟩
  · cases task : panel.task who.1 with
    | idle =>
      by_cases creates : ∃ username, who.2.call = .createAdministrator username
      · obtain ⟨username, call⟩ := creates
        obtain ⟨unclaimed, nobody⟩ := regular.names username call
        simp only [begins, call]
        cases added : panel.store.tables.addAdministrator username panel.store.created with
        | none => exact ⟨kept, trivial, relied⟩
        | some tables =>
          obtain ⟨kept', rely⟩ := createAdministrator_kept kept unclaimed added
          exact ⟨kept', trivial, fun j => rely (panel.task j) (relied j) (nobody j)⟩
      · obtain ⟨turned, own⟩ := begins_turned who.2 kept fun username call => creates ⟨username, call⟩
        exact ⟨turned.kept, turned.relies own, fun j => turned.relies (relied j)⟩
    | _ =>
      have turned := continues_turned who.2 kept (relied who.1) regular.prompt
      rw [task] at turned
      exact ⟨turned.kept, trivial, fun j => turned.relies (relied j)⟩

/-- In every interleaving of regular turns, a token opens at most one session, before it expires
and for the active administrator who created it; an impersonation that ended has no live
session; and what is restored is a live session, not scoped, of the same active administrator. -/
theorem impersonation_lifecycle (host : Host) (start panel : Panel) (fresh : Fresh start.store) (idle : ∀ i, start.task i = .idle)
    (reached : Tasks.Reaches (advance host) (Regular host) start panel) : Lawful host panel.store := by
  have holds : Tasks.Holds (Kept host) (fun _ task store => Relies task store) panel := by
    refine Tasks.Reaches.holds_at ⟨fresh.kept, fun i => ?_⟩ (fun panel who regular holds => ?_) reached
    · rw [idle i]
      trivial
    · obtain ⟨kept, own, others⟩ := turn_kept regular holds.shared holds.relied
      exact ⟨kept, own, fun j _ => others j⟩
  exact holds.shared.lawful

end

/-- Two administrators with a session each, and a customer. -/
def office : Store where
  tables := {
    accounts := [⟨1, "demo", .active⟩]
    users := [⟨1, "alice", .admin, false, 0⟩, ⟨2, "bob", .admin, false, 1⟩]
    sessions := [⟨"#a", 1, 9000, false⟩, ⟨"#b", 2, 9000, false⟩]
    tokens := []
    impersonations := [] }
  created := 2
  log := []

def plainHost : Host := ⟨fun text => "#" ++ text, id, some⟩

def officePanel : Panel := ⟨office, fun _ => .idle⟩

def call (call : Call) (drawn : String) : Nat × Moment := (0, ⟨call, false, fun _ => 0, drawn⟩)

/-- The second turn of a task does not look at the call of its moment. -/
def goesOn (drawn : String) : Nat × Moment := call (.redeemToken ⟨"", "", 0, none⟩) drawn

def secondBob : List (Nat × Moment) :=
  [call (.createToken "demo" "bob" "b") "", goesOn "t", call (.deleteAdministrator "bob") "", goesOn "",
    call (.createAdministrator "bob") "", call (.login 2 9000) "c", call (.redeemToken ⟨"t", "bob", 2, some "c"⟩) "", goesOn "s"]

def Event.servesOther : Event → Bool
  | .opened _ _ id _ before =>
    before.tokens.all fun row => before.users.all fun admin => admin.id ≠ id || admin.serial ≠ row.createdBy
  | .ended .. => false

/-- The token of an administrator who was deleted opens a session for another of that name. -/
theorem token_of_the_deleted : ∃ panel, Tasks.Reaches (advance plainHost) (fun _ _ => True) officePanel panel ∧
    Fresh officePanel.store ∧ ¬ Lawful plainHost panel.store := by
  refine ⟨officePanel.after (advance plainHost) secondBob, Tasks.Reaches.after .start _,
    ⟨by decide, by decide, by decide, by decide, by decide, rfl, rfl, rfl⟩, fun lawful => ?_⟩
  have logged : (officePanel.after (advance plainHost) secondBob).store.log.any Event.servesOther = true := rfl
  obtain ⟨event, member, serves⟩ := List.any_eq_true.mp logged
  have well := lawful.opened event member
  cases event with
  | opened hash digest id now before =>
    obtain ⟨row, inside, _, _, _, admin, known, same, serial, _⟩ := well
    have other := List.all_eq_true.mp (List.all_eq_true.mp serves row inside) admin known
    simp [same, serial] at other
  | ended => cases serves

def bobReturns : List (Nat × Moment) :=
  [call (.createToken "demo" "bob" "b") "", goesOn "t", call (.redeemToken ⟨"t", "bob", 2, some "b"⟩) "", goesOn "s",
    call (.end_ ⟨"s", some "b"⟩) ""]

theorem bob_reached : Tasks.Reaches (advance plainHost) (Regular plainHost) officePanel (officePanel.after (advance plainHost) bobReturns) := by
  have regular (panel : Panel) (moment : Moment) (now : moment.now 0 = 0) (never : ∀ username, moment.call ≠ .createAdministrator username)
      (zero : ∀ params now, panel.task 0 = .redeemToken params now → now = 0) : Regular plainHost panel (0, moment) := by
    refine ⟨fun username same => absurd same (never username), fun params read task row _ _ before => ?_⟩
    rw [zero params read task] at before
    exact now ▸ before
  have other {params : RedeemParams} (username : String) : Call.redeemToken params ≠ .createAdministrator username :=
    nofun
  refine .next _ (.next _ (.next _ (.next _ (.next _ .start ?_) ?_) ?_) ?_) ?_
  · exact regular _ _ rfl nofun nofun
  · exact regular _ _ rfl other nofun
  · exact regular _ _ rfl other nofun
  · refine regular _ _ rfl other fun _ _ task => ?_
    cases task
    rfl
  · exact regular _ _ rfl nofun nofun

theorem impersonation_lifecycle_applied : (officePanel.after (advance plainHost) bobReturns).store.log.length = 2 ∧
    Lawful plainHost (officePanel.after (advance plainHost) bobReturns).store :=
  ⟨rfl, impersonation_lifecycle plainHost officePanel _
    ⟨by decide, by decide, by decide, by decide, by decide, rfl, rfl, rfl⟩ (fun _ => rfl) bob_reached⟩

end Boron.Impersonation
