import Boron.Impersonation.Turns

namespace Boron.Impersonation
open List Rows

def Named (username : String) (serial : Nat) (tables : Tables) : Prop :=
  ∀ user ∈ tables.users, user.username = username → user.serial = serial

structure Sound (tables : Tables) : Prop where
  userIds : Rows.Unique PanelUser.id tables.users
  usernames : Rows.Unique PanelUser.username tables.users
  tokens : Rows.Unique ImpersonationToken.tokenHash tables.tokens
  sessions : Rows.Unique Session.sessionId tables.sessions
  impersonations : Rows.Unique ImpersonationSession.sessionId tables.impersonations
  owners : ∀ imp ∈ tables.impersonations, ∃ user ∈ tables.users, user.id = imp.adminPanelUserId ∧ user.serial = imp.openedBy
  rows : ∀ imp ∈ tables.impersonations, ∃ row ∈ tables.sessions, row.sessionId = imp.sessionId ∧ row.panelUserId = imp.adminPanelUserId
  closed : ∀ imp ∈ tables.impersonations, imp.endedAt.isSome → ∀ row ∈ tables.sessions, row.sessionId = imp.sessionId → row.revoked = true
  creators : ∀ row ∈ tables.tokens, row.usedAt = none → Named row.adminUsername row.createdBy tables

section
variable {tables left : Tables} {host : Host} {hash username adminUsername digest : String} {creator id serial : Nat} {now : Int}
  {params : RedeemParams}

theorem session_some {row : Session} (found : tables.session digest = some row) : row ∈ tables.sessions ∧ row.sessionId = digest :=
  byKey_some found

theorem session_none (absent : (tables.session digest).isNone = true) : ∀ row ∈ tables.sessions, row.sessionId ≠ digest :=
  byKey_none.mp (Option.isNone_iff_eq_none.mp absent)

theorem impersonation_some {imp : ImpersonationSession} (found : tables.impersonation digest = some imp) :
    imp ∈ tables.impersonations ∧ imp.sessionId = digest := byKey_some found

theorem impersonation_none (absent : (tables.impersonation digest).isNone = true) :
    ∀ imp ∈ tables.impersonations, imp.sessionId ≠ digest := byKey_none.mp (Option.isNone_iff_eq_none.mp absent)

theorem token_some {row : ImpersonationToken} (found : tables.token hash = some row) : row ∈ tables.tokens ∧ row.tokenHash = hash :=
  byKey_some found

theorem user_some {user : PanelUser} (found : tables.user id = some user) : user ∈ tables.users ∧ user.id = id := byKey_some found

theorem Sound.createToken (sound : Sound tables) (named : Named adminUsername creator tables)
    (made : tables.createToken hash username adminUsername creator now = some left) :
    Sound left ∧ left.users = tables.users ∧ left.impersonations = tables.impersonations ∧
      ∀ row ∈ tables.tokens, row ∈ left.tokens := by
  obtain ⟨account, _, made⟩ := Option.bind_eq_some_iff.mp made
  split at made
  · next allowed =>
    cases made
    rw [Bool.and_eq_true] at allowed
    have fresh : ∀ row ∈ tables.tokens, row.tokenHash ≠ hash :=
      byKey_none.mp (Option.isNone_iff_eq_none.mp allowed.2)
    refine ⟨{ sound with tokens := unique_append sound.tokens fresh, creators := fun row inside unused => ?_ }, rfl, rfl,
      fun row inside => mem_append_left _ inside⟩
    rcases mem_append.mp inside with earlier | newest
    · exact sound.creators row earlier unused
    · rw [mem_singleton.mp newest]
      exact named
  · cases made

theorem redeemable_some {row : ImpersonationToken} (found : tables.redeemable hash adminUsername now = some row) :
    row ∈ tables.tokens ∧ row.tokenHash = hash ∧ row.usedAt = none ∧ now < row.expiresAt ∧ row.adminUsername = adminUsername := by
  obtain ⟨found, fits⟩ := Option.filter_eq_some_iff.mp found
  obtain ⟨inside, named⟩ := token_some found
  simp only [Bool.and_eq_true, Option.isNone_iff_eq_none, decide_eq_true_eq] at fits
  exact ⟨inside, named, fits.1.1, fits.1.2, fits.2⟩

theorem redeemer_some {admin : PanelUser} (found : tables.redeemer params = some admin) :
    admin ∈ tables.users ∧ admin.id = params.adminPanelUserId ∧ admin.isActiveAdmin = true ∧ admin.username = params.adminUsername := by
  obtain ⟨found, fits⟩ := Option.filter_eq_some_iff.mp found
  obtain ⟨inside, named⟩ := user_some found
  rw [Bool.and_eq_true, decide_eq_true_eq] at fits
  exact ⟨inside, named, fits⟩

structure Redeemed (host : Host) (params : RedeemParams) (now : Int) (digest : String) (tables left : Tables) : Prop where
  token : ∃ row ∈ tables.tokens, row.tokenHash = host.sha256 params.token ∧ row.usedAt = none ∧ now < row.expiresAt ∧
    ∃ admin ∈ tables.users, admin.id = params.adminPanelUserId ∧ admin.isActiveAdmin = true ∧
      admin.username = row.adminUsername
  users : left.users = tables.users
  tokens : left.tokens = Rows.change ImpersonationToken.tokenHash (host.sha256 params.token)
    (fun row => { row with usedAt := some now }) tables.tokens
  impersonations : ∃ imp, left.impersonations = tables.impersonations ++ [imp] ∧ imp.sessionId = digest ∧
    imp.adminPanelUserId = params.adminPanelUserId

theorem Sound.redeemToken (sound : Sound tables) (done : tables.redeemToken host params now digest = some left) :
    Sound left ∧ Redeemed host params now digest tables left := by
  obtain ⟨row, found, done⟩ := Option.bind_eq_some_iff.mp done
  obtain ⟨account, _, done⟩ := Option.bind_eq_some_iff.mp done
  obtain ⟨admin, redeeming, done⟩ := Option.bind_eq_some_iff.mp done
  obtain ⟨opened, inserted, done⟩ := Option.bind_eq_some_iff.mp done
  obtain ⟨inside, hash, unused, before, issued⟩ := redeemable_some found
  obtain ⟨known, adminId, active, named⟩ := redeemer_some redeeming
  unfold Tables.openSession at inserted
  split at inserted
  · next unknown =>
    cases inserted
    unfold Tables.addImpersonation at done
    split at done
    · next unscoped =>
      cases done
      rw [Bool.and_eq_true] at unknown
      have freshRow : ∀ other ∈ tables.sessions, other.sessionId ≠ digest := session_none unknown.1
      have freshImp : ∀ other ∈ tables.impersonations, other.sessionId ≠ digest := impersonation_none unscoped
      constructor
      · refine { userIds := sound.userIds, usernames := sound.usernames, tokens := unique_change (fun _ => by rfl) sound.tokens,
                 sessions := unique_append sound.sessions freshRow,
                 impersonations := unique_append sound.impersonations freshImp,
                 owners := fun imp member => ?_, rows := fun imp member => ?_, closed := fun imp member finished other earlier same => ?_,
                 creators := fun token member free => ?_ }
        · rcases mem_append.mp member with earlier | newest
          · exact sound.owners imp earlier
          · rw [mem_singleton.mp newest]
            exact ⟨admin, known, rfl, rfl⟩
        · rcases mem_append.mp member with earlier | newest
          · obtain ⟨other, member, same⟩ := sound.rows imp earlier
            exact ⟨other, mem_append_left _ member, same⟩
          · rw [mem_singleton.mp newest]
            exact ⟨_, mem_append_right _ mem_cons_self, rfl, rfl⟩
        · rcases mem_append.mp member with old | newest
          · rcases mem_append.mp earlier with earlier | new
            · exact sound.closed imp old finished other earlier same
            · rw [mem_singleton.mp new] at same
              exact absurd same.symm (freshImp imp old)
          · rw [mem_singleton.mp newest] at finished
            cases finished
        · obtain ⟨original, first, same⟩ := mem_map.mp member
          split at same
          · subst same
            cases free
          · subst same
            exact sound.creators original first free
      · refine ⟨⟨row, inside, hash, unused, before, admin, known, adminId, active, named.trans issued.symm⟩, rfl, ?_, _, rfl, rfl, adminId⟩
        rw [← hash]
        rfl
    · cases done
  · cases inserted

theorem Sound.openSession (sound : Sound tables) {row : Session} (opened : tables.openSession row = some left) :
    Sound left ∧ left.users = tables.users ∧ left.impersonations = tables.impersonations ∧ left.tokens = tables.tokens := by
  unfold Tables.openSession at opened
  split at opened
  · next allowed =>
    cases opened
    rw [Bool.and_eq_true] at allowed
    have fresh : ∀ other ∈ tables.sessions, other.sessionId ≠ row.sessionId := session_none allowed.1
    refine ⟨{ sound with sessions := unique_append sound.sessions fresh, rows := fun imp member => ?_,
                         closed := fun imp member finished other later same => ?_ }, rfl, rfl, rfl⟩
    · obtain ⟨other, inside, same⟩ := sound.rows imp member
      exact ⟨other, mem_append_left _ inside, same⟩
    · rcases mem_append.mp later with earlier | newest
      · exact sound.closed imp member finished other earlier same
      · rw [mem_singleton.mp newest] at same
        obtain ⟨known, inside, equal, _⟩ := sound.rows imp member
        exact absurd (equal.trans same.symm) (fresh known inside)
  · cases opened

theorem Sound.close (sound : Sound tables) : Sound (tables.close digest now) := by
  refine { sound with sessions := unique_change (fun _ => by rfl) sound.sessions,
                      impersonations := unique_change (fun _ => by rfl) sound.impersonations,
                      owners := fun imp member => ?_, rows := fun imp member => ?_,
                      closed := fun imp member finished row later same => ?_ }
  · obtain ⟨original, first, rfl⟩ := mem_map.mp member
    split <;> exact sound.owners original first
  · obtain ⟨original, first, equal⟩ := mem_map.mp member
    have kept : imp.sessionId = original.sessionId ∧ imp.adminPanelUserId = original.adminPanelUserId := by
      rw [← equal]
      split <;> exact ⟨rfl, rfl⟩
    obtain ⟨row, inside, same, owner⟩ := sound.rows original first
    refine ⟨_, mem_map.mpr ⟨row, inside, rfl⟩, ?_, ?_⟩
    · rw [kept.1, ← same]
      split <;> rfl
    · rw [kept.2, ← owner]
      split <;> rfl
  · obtain ⟨original, first, equal⟩ := mem_map.mp member
    obtain ⟨earlier, inside, equal'⟩ := mem_map.mp later
    split at equal'
    · subst equal'
      rfl
    · next other =>
      subst equal'
      split at equal
      · next own =>
        subst equal
        exact absurd (same.trans own) other
      · subst equal
        exact sound.closed original first finished earlier inside same

theorem revokeSessions_rows {digests : List String} (revoked : tables.revokeSessions digests = some left) :
    left = { tables with sessions := tables.sessions.map fun row =>
      if row.sessionId ∈ digests then { row with revoked := true } else row } := by
  unfold Tables.revokeSessions at revoked
  split at revoked
  · exact (Option.some.inj revoked).symm
  · cases revoked

theorem endImpersonations_rows {digests : List String} (ended : tables.endImpersonations digests now = some left) :
    left = { tables with impersonations := tables.impersonations.map fun row =>
      if row.sessionId ∈ digests then { row with endedAt := some now } else row } := by
  unfold Tables.endImpersonations at ended
  split at ended
  · exact (Option.some.inj ended).symm
  · cases ended

section
variable (sound : Sound tables)
include sound

theorem Sound.revoke {ended sessions : List String} (covers : ∀ digest ∈ ended, digest ∈ sessions)
    (done : (tables.endImpersonations ended now).bind (·.revokeSessions sessions) = some left) :
    Sound left ∧ left.users = tables.users ∧ left.tokens = tables.tokens ∧
      left.impersonations = tables.impersonations.map fun row =>
        if row.sessionId ∈ ended then { row with endedAt := some now } else row := by
  obtain ⟨mid, finished, revoked⟩ := Option.bind_eq_some_iff.mp done
  rw [endImpersonations_rows finished] at revoked
  rw [revokeSessions_rows revoked]
  refine ⟨{ sound with sessions := unique_map (fun row => ?_) sound.sessions,
                       impersonations := unique_map (fun row => ?_) sound.impersonations,
                       owners := fun imp member => ?_, rows := fun imp member => ?_,
                       closed := fun imp member finished row later same => ?_ }, rfl, rfl, rfl⟩
  · split <;> rfl
  · split <;> rfl
  · obtain ⟨original, first, rfl⟩ := mem_map.mp member
    split <;> exact sound.owners original first
  · obtain ⟨original, first, equal⟩ := mem_map.mp member
    have kept : imp.sessionId = original.sessionId ∧ imp.adminPanelUserId = original.adminPanelUserId := by
      rw [← equal]
      split <;> exact ⟨rfl, rfl⟩
    obtain ⟨row, inside, same, owner⟩ := sound.rows original first
    refine ⟨_, mem_map.mpr ⟨row, inside, rfl⟩, ?_, ?_⟩
    · rw [kept.1, ← same]
      split <;> rfl
    · rw [kept.2, ← owner]
      split <;> rfl
  · obtain ⟨original, first, equal⟩ := mem_map.mp member
    obtain ⟨earlier, inside, equal'⟩ := mem_map.mp later
    split at equal'
    · subst equal'
      rfl
    · next spared =>
      subst equal'
      split at equal
      · next own =>
        subst equal
        exact absurd (covers _ own) (same ▸ spared)
      · subst equal
        exact sound.closed original first finished earlier inside same

theorem Sound.revokeSessions {sessions : List String} (revoked : tables.revokeSessions sessions = some left) :
    Sound left ∧ left.users = tables.users ∧ left.impersonations = tables.impersonations ∧ left.tokens = tables.tokens := by
  have nobody : tables.endImpersonations [] 0 = some tables := by
    unfold Tables.endImpersonations
    simp
  have both : (tables.endImpersonations [] 0).bind (·.revokeSessions sessions) = some left := by
    rw [nobody]
    exact revoked
  obtain ⟨sound', users, tokens, _⟩ := sound.revoke (fun _ never => by cases never) both
  rw [revokeSessions_rows revoked] at sound' users tokens ⊢
  exact ⟨sound', users, rfl, tokens⟩

theorem Sound.setDisabled (disabled : Bool) : Sound (tables.setDisabled id disabled) := by
  refine { sound with userIds := unique_change (fun _ => by rfl) sound.userIds,
                      usernames := unique_change (fun _ => by rfl) sound.usernames,
                      owners := fun imp member => ?_, creators := fun row member unused user inside named => ?_ }
  · obtain ⟨user, inside, same, serial⟩ := sound.owners imp member
    refine ⟨_, mem_map.mpr ⟨user, inside, rfl⟩, ?_, ?_⟩
    · split <;> exact same
    · split <;> exact serial
  · obtain ⟨original, first, equal⟩ := mem_map.mp inside
    have kept : user.username = original.username ∧ user.serial = original.serial := by
      rw [← equal]
      split <;> exact ⟨rfl, rfl⟩
    rw [kept.2]
    exact sound.creators row member unused original first (kept.1 ▸ named)

theorem Sound.deleteUser (deleted : tables.deleteUser id = some left) :
    Sound left ∧ (∀ user ∈ left.users, user ∈ tables.users) ∧ left.impersonations = tables.impersonations ∧
      left.tokens = tables.tokens ∧ ∀ row ∈ left.sessions, row ∈ tables.sessions := by
  unfold Tables.deleteUser at deleted
  split at deleted
  · cases deleted
  · next free =>
    cases deleted
    have apart : ∀ imp ∈ tables.impersonations, imp.adminPanelUserId ≠ id := by
      intro imp member same
      exact free (any_eq_true.mpr ⟨imp, member, decide_eq_true same⟩)
    have fewer : ∀ user ∈ Rows.drop PanelUser.id id tables.users, user ∈ tables.users :=
      fun user inside => (mem_filter.mp inside).1
    refine ⟨{ sound with userIds := unique_filter sound.userIds _, usernames := unique_filter sound.usernames _,
                         sessions := unique_filter sound.sessions _, owners := fun imp member => ?_,
                         rows := fun imp member => ?_,
                         closed := fun imp member finished row inside => sound.closed imp member finished row (mem_filter.mp inside).1,
                         creators := fun row member unused user inside => sound.creators row member unused user (fewer user inside) },
      fewer, rfl, rfl, fun row inside => (mem_filter.mp inside).1⟩
    · obtain ⟨user, inside, same, serial⟩ := sound.owners imp member
      exact ⟨user, mem_filter.mpr ⟨inside, decide_eq_true (same ▸ apart imp member)⟩, same, serial⟩
    · obtain ⟨row, inside, same, owner⟩ := sound.rows imp member
      exact ⟨row, mem_filter.mpr ⟨inside, decide_eq_true (owner ▸ apart imp member)⟩, same, owner⟩

theorem Sound.addAdministrator
    (unclaimed : ∀ row ∈ tables.tokens, row.adminUsername = username → row.usedAt.isSome = true)
    (added : tables.addAdministrator username serial = some left) :
    Sound left ∧ (∀ user ∈ left.users, user ∈ tables.users ∨ user.username = username) ∧
      left.impersonations = tables.impersonations ∧ left.tokens = tables.tokens ∧ left.sessions = tables.sessions := by
  unfold Tables.addAdministrator at added
  split at added
  · cases added
  · next free =>
    cases added
    have fresh : ∀ user ∈ tables.users, user.username ≠ username := by
      intro user inside same
      exact free (any_eq_true.mpr ⟨user, inside, decide_eq_true same⟩)
    have known {user : PanelUser} (inside : user ∈ tables.users ++ [⟨Rows.next PanelUser.id tables.users, username, .admin, false, serial⟩]) :
        user ∈ tables.users ∨ user.username = username := by
      rcases mem_append.mp inside with earlier | newest
      · exact .inl earlier
      · rw [mem_singleton.mp newest]
        exact .inr rfl
    refine ⟨{ sound with userIds := unique_append sound.userIds fun user inside => Nat.ne_of_lt (lt_next inside),
                         usernames := unique_append sound.usernames fresh, owners := fun imp member => ?_,
                         creators := fun row member unused user inside named => ?_ }, fun user inside => known inside, rfl, rfl, rfl⟩
    · obtain ⟨user, inside, same⟩ := sound.owners imp member
      exact ⟨user, mem_append_left _ inside, same⟩
    · rcases known inside with earlier | same
      · exact sound.creators row member unused user earlier named
      · have used := unclaimed row member (named.symm.trans same)
        rw [unused] at used
        cases used

end

theorem principal_some {credential : String} {admin : PanelUser} (found : tables.principal host credential now = some admin) :
    admin ∈ tables.users := by
  obtain ⟨digest, _, found⟩ := Option.bind_eq_some_iff.mp found
  obtain ⟨row, _, found⟩ := Option.bind_eq_some_iff.mp found
  split at found
  · cases found
  · exact (user_some (Option.filter_eq_some_iff.mp found).1).1

theorem Sound.named (sound : Sound tables) {user : PanelUser} (inside : user ∈ tables.users) :
    Named user.username user.serial tables := by
  intro other member same
  rw [inj_on_of_nodup_map sound.usernames member inside same]

end

end Boron.Impersonation
