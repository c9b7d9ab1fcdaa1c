import Boron.Webmail.Launching

namespace Boron.Webmail
open List

section
variable {settings : Settings} {store : Store} {server : Server} {phase next : Phase} {moment : Moment} {i : Nat}
  {launch : Launch}

/-- What a turn of one operation leaves of both databases and of the others. -/
structure Turned (settings : Settings) (server : Server) (i : Nat) (left : Phase × Store) : Prop where
  ledger : Ledger settings left.2
  own : Relies settings left.2 left.1
  others : ∀ j, j ≠ i → Relies settings left.2 (server.task j)
  apart : ∀ j, j ≠ i → ∀ launch other, left.1.pending = some launch → (server.task j).pending = some other →
    launch.token ≠ other.token

theorem Turned.sound {who : Nat × Moment} (sound : Sound settings server)
    (turned : Turned settings server who.1 (advance settings who.1 who.2 (server.task who.1) server.store)) :
    Sound settings (server.turn (advance settings) who) := by
  refine ⟨turned.ledger, fun j => ?_, fun j k launch other different mine theirs => ?_⟩
  · by_cases same : j = who.1
    · subst same
      rw [Tasks.turn_own]
      exact turned.own
    · rw [Tasks.turn_other same]
      exact turned.others j same
  · by_cases first : j = who.1
    · subst first
      rw [Tasks.turn_own] at mine
      rw [Tasks.turn_other (Ne.symm different)] at theirs
      exact turned.apart k (Ne.symm different) launch other mine theirs
    · rw [Tasks.turn_other first] at mine
      by_cases second : k = who.1
      · subst second
        rw [Tasks.turn_own] at theirs
        exact (turned.apart j first other launch theirs mine).symm
      · rw [Tasks.turn_other second] at theirs
        exact sound.apart j k launch other different mine theirs

structure Phase.Free (phase : Phase) : Prop where
  undrawn : ∀ mailbox now, phase ≠ .draw mailbox now
  pending : phase.pending = none
  creating : phase.creating = none
  revoking : phase.revoking = none

theorem Phase.Free.relies (free : phase.Free) : Relies settings store phase where
  read mailbox now is := absurd is (free.undrawn mailbox now)
  pending launch is := by
    rw [free.pending] at is
    cases is
  creating launch now is := by
    rw [free.creating] at is
    cases is
  revoking accountId ids is := by
    rw [free.revoking] at is
    cases is

theorem idle_free : Phase.idle.Free := ⟨nofun, rfl, rfl, rfl⟩

theorem start_free (operation : Operation) : (Phase.start operation).Free := ⟨nofun, rfl, rfl, rfl⟩

theorem Turned.of_free (free : next.Free) (ledger : Ledger settings store)
    (others : ∀ j, j ≠ i → Relies settings store (server.task j)) : Turned settings server i (next, store) where
  ledger := ledger
  own := free.relies
  others := others
  apart j _ launch other mine _ := by
    have none : next.pending = some launch := mine
    rw [free.pending] at none
    cases none

/-- The phases of one operation that rely on the same. -/
structure Follows (next phase : Phase) : Prop where
  undrawn : ∀ mailbox now, next ≠ .draw mailbox now
  pending : ∀ launch, next.pending = some launch → phase.pending = some launch
  creating : ∀ launch now, next.creating = some (launch, now) → phase.creating = some (launch, now)
  revoking : ∀ accountId ids, next.revoking = some (accountId, ids) → phase.revoking = some (accountId, ids)

theorem Follows.relies (follows : Follows next phase) (relies : Relies settings store phase) : Relies settings store next where
  read mailbox now is := absurd is (follows.undrawn mailbox now)
  pending launch is := relies.pending launch (follows.pending launch is)
  creating launch now is := relies.creating launch now (follows.creating launch now is)
  revoking accountId ids is := relies.revoking accountId ids (follows.revoking accountId ids is)

theorem follows_purge (change : Change) : Follows (.purge change) (.schema change) :=
  ⟨nofun, fun _ => id, fun _ _ => id, fun _ _ => id⟩

theorem follows_purged (change : Change) : Follows change.purged (.purge change) := by
  cases change <;> exact ⟨nofun, fun _ => id, fun _ _ => id, fun _ _ => id⟩

theorem follows_write (change : Change) : Follows (.write change) (.connect change) :=
  ⟨nofun, fun _ => id, fun _ _ => id, fun _ _ => id⟩

theorem follows_raised (change : Change) : Follows change.raised (.write change) := by
  cases change <;> exact ⟨nofun, fun _ => id, nofun, nofun⟩

theorem follows_undo (launch : Launch) (now : Nat) : Follows (.undo launch) (.insert launch now) :=
  ⟨nofun, fun _ => id, nofun, nofun⟩

theorem follows_insert (launch : Launch) (now : Nat) : Follows (.insert launch now) (.write (.supersede launch now)) :=
  ⟨nofun, fun _ => id, fun _ _ => id, nofun⟩

theorem Turned.of_follows (sound : Sound settings server) (running : server.task i = phase) (follows : Follows next phase)
    (ledger : Ledger settings store) (all : ∀ j, Relies settings store (server.task j)) :
    Turned settings server i (next, store) where
  ledger := ledger
  own := follows.relies (running ▸ all i)
  others j _ := all j
  apart j apart launch other mine theirs := by
    have own : (server.task i).pending = some launch := by
      rw [running]
      exact follows.pending launch mine
    exact sound.apart i j launch other (Ne.symm apart) own theirs

theorem dead_of_refused (ledger : Ledger settings store) {handed : Redemption} (known : handed ∈ store.redemptions)
    (refused : ¬ store.accepts handed.mailbox handed.credential) :
    ∀ session ∈ store.sessions, session.credential = handed.credential → session.live store.clock = false := by
  intro session lodged key
  cases live : session.live store.clock with
  | false => rfl
  | true => exact absurd ⟨session, lodged, ledger.lodged handed known session lodged key, key, live⟩ refused

theorem onlyIn_found (ledger : Ledger settings store) {accountId : Nat}
    (careful : Careful.start server store (.revokeAccount accountId)) :
    OnlyIn store accountId ((store.launches.filter (unrevokedFor accountId)).map Launch.id) := by
  intro handed known account session lodged key live
  have accepted : store.accepts handed.mailbox handed.credential :=
    ⟨session, lodged, ledger.lodged handed known session lodged key, key, live⟩
  obtain ⟨launch, inside, same, unrevoked⟩ := careful handed known account accepted
  obtain ⟨-, -, owner, -⟩ := ledger.redeemed handed known launch inside same
  have credential : session.credential = launch.credential := by
    rw [key, (ledger.handed handed known).2.1, ledger.paired launch inside, same]
  obtain ⟨id, -⟩ := ledger.matched session lodged launch inside credential
  have selected : unrevokedFor accountId launch = true := by
    unfold unrevokedFor
    rw [unrevoked, owner, account]
    simp
  rw [id]
  exact mem_map_of_mem (mem_filter.mpr ⟨inside, selected⟩)

theorem start_turned (ledger : Ledger settings store) (relies : ∀ j, Relies settings store (server.task j))
    {operation : Operation} (careful : moment.fails = false → Careful.start server store operation) :
    Turned settings server i (start moment operation store) := by
  have unchanged : Turned settings server i (.idle, store) := Turned.of_free idle_free ledger fun j _ => relies j
  have selects (change : Change) (selected : Launch → Bool) (free : (Phase.schema change).Free) :
      Turned settings server i (.schema change, store.revokeSelected selected) :=
    Turned.of_free free (ledger.revokeSelected selected) fun j _ => (relies j).revokeSelected selected
  cases operation with
  | createLaunch mailbox =>
    refine ⟨ledger, ⟨fun other now is => ?_, nofun, nofun, nofun⟩, fun j _ => relies j, nofun⟩
    have same : store.clock = now := by
      injection is
    exact Nat.le_of_eq same.symm
  | ensureSchema => exact Turned.of_free ⟨nofun, rfl, rfl, rfl⟩ ledger fun j _ => relies j
  | redeem token =>
    unfold start
    dsimp only
    cases redeemed : redeem moment token store with
    | none => exact unchanged
    | some left =>
      obtain ⟨quiet, launch, inside, same, unredeemed, early, rfl⟩ := redeem_some redeemed
      obtain ⟨returned, alone⟩ := careful quiet
      refine Turned.of_free idle_free ?_ fun j _ => ?_
      · rw [← same] at returned
        exact ledger.handedOut inside unredeemed early returned
      · exact (relies j).handedOut (alone launch inside same j)
  | revoke launchId =>
    unfold start
    dsimp only
    split
    · exact unchanged
    · exact selects _ _ ⟨nofun, rfl, rfl, rfl⟩
  | revokeMailbox mailbox =>
    unfold start
    dsimp only
    split
    · exact unchanged
    · exact selects _ _ ⟨nofun, rfl, rfl, rfl⟩
  | revokeDomain domain =>
    unfold start
    dsimp only
    split
    · exact unchanged
    · next works =>
      split
      · next none =>
        have quiet : moment.fails = false := by simpa using works
        rw [List.isEmpty_iff, filter_eq_nil_iff] at none
        refine Turned.of_free idle_free (ledger.bar fun handed known hit => ?_) fun j _ => (relies j).bar _
        rcases careful quiet with ⟨launch, inside, unrevoked⟩ | refused
        · exact absurd unrevoked (none launch inside)
        · exact dead_of_refused ledger known (refused handed known (of_decide_eq_true hit))
      · exact selects _ _ ⟨nofun, rfl, rfl, rfl⟩
  | revokeAccount accountId =>
    unfold start
    dsimp only
    split
    · exact unchanged
    · next works =>
      have quiet : moment.fails = false := by simpa using works
      have found : OnlyIn store accountId _ := onlyIn_found ledger (careful quiet)
      split
      · next none =>
        rw [List.isEmpty_iff] at none
        rw [none] at found
        refine Turned.of_free idle_free (ledger.bar fun handed known hit session lodged key => ?_) fun j _ => (relies j).bar _
        cases live : session.live store.clock with
        | false => rfl
        | true => exact nomatch found handed known (of_decide_eq_true hit) session lodged key live
      · refine ⟨ledger.revokeSelected _, ⟨nofun, nofun, nofun, fun account ids is => ?_⟩,
          fun j _ => (relies j).revokeSelected _, nofun⟩
        have both : (accountId, (store.launches.filter (unrevokedFor accountId)).map Launch.id) = (account, ids) :=
          Option.some.inj is
        rw [Prod.mk.injEq] at both
        rw [← both.1, ← both.2]
        exact found

variable {now : Nat}

theorem draw_turned (ledger : Ledger settings store)
    (relies : ∀ j, Relies settings store (server.task j)) {mailbox : Mailbox} (running : server.task i = .draw mailbox now)
    (careful : ∀ j launch, (server.task j).pending = some launch → now ≤ launch.createdAt + weekSeconds)
    {left : Store} (opened : openLaunch settings moment now mailbox store = some (launch, left)) :
    Turned settings server i (.schema (.supersede launch now), left) := by
  obtain ⟨accountId, is, rfl⟩ := openLaunch_some opened
  have read : now ≤ store.clock := (relies i).read mailbox now running
  have pruned := ledger.pruned read
  have marks := marks_revoke (fun previous => decide (previous.accountId = accountId) && decide (previous.mailbox = mailbox)) store.clock
  have marked := (pruned.withdrawn fun previous => decide (previous.mailbox = mailbox)).mapped marks
  have new := @newLaunch_isNew settings (store.prune now) now accountId mailbox read
    (fun previous => decide (previous.accountId = accountId) && decide (previous.mailbox = mailbox))
    (fun previous => decide (previous.mailbox = mailbox))
  rw [← is] at new
  have unreturned : launch.token ∉ store.returned := by
    intro returned
    have below := ledger.returned launch.token returned
    rw [is] at below
    exact Nat.lt_irrefl _ below
  refine ⟨marked.added new, ⟨nofun, fun other same => ?_, fun other now' same => ?_, nofun⟩, fun j _ => ?_,
    fun j _ mine other same theirs => ?_⟩
  · obtain rfl : launch = other := Option.some.inj same
    exact ⟨⟨launch, mem_append_right _ mem_cons_self, rfl⟩, unreturned⟩
  · have both : (launch, now) = (other, now') := Option.some.inj same
    obtain ⟨rfl, rfl⟩ := both
    refine ⟨by rw [is]; rfl, fun session lodged key => ?_⟩
    have below := ledger.sessions session lodged
    rw [key, is] at below
    exact Nat.lt_irrefl _ below
  · have kept := (relies j).pruned (careful j)
    exact ((kept.withdrawn _).mapped marks).added launch
  · obtain rfl : launch = mine := Option.some.inj same
    obtain ⟨row, inside, -, -, token, -⟩ := ((relies j).pending other theirs).facts ledger
    have below := ledger.drawn row inside
    rw [token] at below
    intro equal
    rw [← equal, is] at below
    exact Nat.lt_irrefl _ below

theorem Ledger.superseded (ledger : Ledger settings store) {created : Launch} (careful : Careful.change store (.supersede created now)) :
    Ledger settings (store.revokeSessions fun session => decide (session.mailbox = created.mailbox) && !session.revoked) := by
  refine ledger.revokedSessions fun launch member returned standing session _ _ mailbox => ?_
  have different : session.mailbox ≠ created.mailbox := by
    intro same
    exact standing (careful launch member (mailbox.symm.trans same) returned)
  simp [different]

theorem Ledger.revokedLaunch (ledger : Ledger settings store) {launchId : Nat} (careful : store.Settled launchId) :
    Ledger settings (store.revokeSessions fun session => session.launchId = launchId) := by
  refine ledger.revokedSessions fun launch member returned standing session _ id _ => ?_
  have different : session.launchId ≠ launchId := by
    intro same
    exact standing (careful launch member (id.symm.trans same) returned)
  exact decide_eq_false different

/-- The mailboxes that `revoke_mailbox` and `revoke_domain` select. -/
def Store.revokeWhere (P : Mailbox → Bool) (store : Store) : Store :=
  (store.withdraw fun launch => P launch.mailbox).revokeSessions fun session => P session.mailbox

theorem Ledger.revokedWhere (ledger : Ledger settings store) (P : Mailbox → Bool) :
    Ledger settings (store.revokeWhere P) := by
  refine (ledger.withdrawn _).revokedSessions fun launch member _ standing session _ _ mailbox => ?_
  cases hit : P session.mailbox with
  | false => rfl
  | true =>
    rw [mailbox] at hit
    exact absurd (@mem_withdrawn store (fun launch => P launch.mailbox) launch member hit) standing

theorem Relies.revokedWhere (relies : Relies settings store phase) (P : Mailbox → Bool) :
    Relies settings (store.revokeWhere P) phase := (relies.withdrawn _).revokedSessions _

theorem Ledger.barredWhere (ledger : Ledger settings store) (P : Mailbox → Bool) :
    Ledger settings ((store.revokeWhere P).bar fun handed => P handed.mailbox) := by
  have revoked := ledger.revokedWhere P
  refine revoked.bar fun handed known hit session lodged key => ?_
  have home : session.mailbox = handed.mailbox := revoked.lodged handed known session lodged key
  refine dead_of_revoked lodged fun old _ _ mailbox => ?_
  rw [mailbox, home]
  exact hit

theorem OnlyIn.revokedLaunch {accountId launchId : Nat} {ids : List Nat} (only : OnlyIn store accountId (launchId :: ids)) :
    OnlyIn (store.revokeSessions fun session => session.launchId = launchId) accountId ids := by
  intro handed known account session lodged key live
  obtain ⟨old, inside, id, -, same, alive⟩ := (fewer_revoke _ _).facts lodged
  rcases mem_cons.mp (only handed known account old inside (same.trans key) (alive _ live)) with first | later
  · have dead : session.live store.clock = false :=
      dead_of_revoked lodged fun other _ named _ => decide_eq_true (named.trans (id.symm.trans first))
    rw [show session.live store.clock = true from live] at dead
    cases dead
  · rw [← id]
    exact later

theorem Ledger.barredAccount (ledger : Ledger settings store) {accountId : Nat} (only : OnlyIn store accountId []) :
    Ledger settings (store.bar fun handed => handed.accountId = accountId) := by
  refine ledger.bar fun handed known hit session lodged key => ?_
  cases live : session.live store.clock with
  | false => rfl
  | true => exact nomatch only handed known (of_decide_eq_true hit) session lodged key live

theorem update_turned (sound : Sound settings server) (ledger : Ledger settings store)
    (relies : ∀ j, Relies settings store (server.task j)) {change : Change} (running : server.task i = .write change)
    (careful : Careful.change store change) : Turned settings server i (update change store) := by
  cases change with
  | supersede created now =>
    exact Turned.of_follows sound running (follows_insert created now) (ledger.superseded careful)
      fun j => (relies j).revokedSessions _
  | revokeLaunch launchId =>
    exact Turned.of_free idle_free (ledger.revokedLaunch careful) fun j _ => (relies j).revokedSessions _
  | revokeMailbox mailbox =>
    exact Turned.of_free idle_free (ledger.barredWhere fun other => decide (other = mailbox))
      fun j _ => ((relies j).revokedWhere fun other => decide (other = mailbox)).bar _
  | revokeDomain domain =>
    exact Turned.of_free idle_free (ledger.barredWhere fun other => decide (other.domain = domain))
      fun j _ => ((relies j).revokedWhere fun other => decide (other.domain = domain)).bar _
  | nothing => exact Turned.of_free idle_free ledger fun j _ => relies j
  | revokeLaunches accountId ids =>
    have only : OnlyIn store accountId ids := (relies i).revoking accountId ids (by rw [running]; rfl)
    cases ids with
    | nil => exact Turned.of_free idle_free (ledger.barredAccount only) fun j _ => (relies j).bar _
    | cons launchId ids =>
      have revoked := ledger.revokedLaunch careful
      have rest := only.revokedLaunch
      unfold update
      dsimp only
      split
      · next none =>
        rw [List.isEmpty_iff] at none
        rw [none] at rest
        exact Turned.of_free idle_free (revoked.barredAccount rest) fun j _ => ((relies j).revokedSessions _).bar _
      · refine ⟨revoked, ⟨nofun, nofun, nofun, fun account others is => ?_⟩, fun j _ => (relies j).revokedSessions _, nofun⟩
        have both : (accountId, ids) = (account, others) := Option.some.inj is
        rw [Prod.mk.injEq] at both
        rw [← both.1, ← both.2]
        exact rest

theorem updateLost_kept (ledger : Ledger settings store) {change : Change} (careful : Careful.change store change) :
    Ledger settings (updateLost change store) ∧ ∀ phase, Relies settings store phase →
      Relies settings (updateLost change store) phase := by
  cases change with
  | supersede created now => exact ⟨ledger.superseded careful, fun phase relies => relies.revokedSessions _⟩
  | revokeLaunch launchId => exact ⟨ledger.revokedLaunch careful, fun phase relies => relies.revokedSessions _⟩
  | revokeMailbox mailbox =>
    exact ⟨ledger.revokedWhere fun other => decide (other = mailbox),
      fun phase relies => relies.revokedWhere fun other => decide (other = mailbox)⟩
  | revokeDomain domain =>
    exact ⟨ledger.revokedWhere fun other => decide (other.domain = domain),
      fun phase relies => relies.revokedWhere fun other => decide (other.domain = domain)⟩
  | nothing => exact ⟨ledger, fun _ relies => relies⟩
  | revokeLaunches accountId ids =>
    cases ids with
    | nil => exact ⟨ledger, fun _ relies => relies⟩
    | cons launchId ids => exact ⟨ledger.revokedLaunch careful, fun phase relies => relies.revokedSessions _⟩

theorem creating_pending {launch : Launch} (creating : phase.creating = some (launch, now)) :
    phase.pending = some launch := by
  have change (step : Change) (made : step.creating = some (launch, now)) : step.pending = some launch := by
    cases step with
    | supersede created began =>
      have both : (created, began) = (launch, now) := Option.some.inj made
      rw [Prod.mk.injEq] at both
      rw [← both.1]
      rfl
    | _ => cases made
  cases phase with
  | schema step => exact change step creating
  | purge step => exact change step creating
  | connect step => exact change step creating
  | write step => exact change step creating
  | insert created began =>
    have both : (created, began) = (launch, now) := Option.some.inj creating
    rw [Prod.mk.injEq] at both
    rw [← both.1]
    rfl
  | _ => cases creating

theorem insert_turned (sound : Sound settings server) (ledger : Ledger settings store)
    (relies : ∀ j, Relies settings store (server.task j)) (running : server.task i = .insert launch now) :
    Turned settings server i (run settings moment (.insert launch now) store) := by
  have pending : Pending store launch := (relies i).pending launch (by rw [running]; rfl)
  have expires := ((relies i).creating launch now (by rw [running]; rfl)).1
  have fails : Turned settings server i (.undo launch, store) :=
    Turned.of_follows sound running (follows_undo launch now) ledger relies
  have different (j : Nat) (other : j ≠ i) (theirs : Launch) (is : (server.task j).pending = some theirs) :
      launch.token ≠ theirs.token :=
    sound.apart i j launch theirs (Ne.symm other) (by rw [running]; rfl) is
  unfold run
  dsimp only
  split
  · exact fails
  · split
    · exact fails
    · next left inserted =>
      have is := insertSession_some inserted
      have issued := ledger.inserted pending now
      have others (j : Nat) (other : j ≠ i) :=
        (relies j).inserted ledger pending now (different j other) fun _ _ => creating_pending
      rw [← is] at issued others
      have still : Pending left launch := by
        rw [is]
        exact ⟨pending.row, pending.unreturned⟩
      split
      · refine ⟨issued, ⟨nofun, fun other same => ?_, nofun, nofun⟩, others, fun j other mine theirs same owned => ?_⟩
        · obtain rfl : launch = other := Option.some.inj same
          exact still
        · obtain rfl : launch = mine := Option.some.inj same
          exact different j other theirs owned
      · have ends : now + settings.sessionSeconds = launch.sessionEnds settings := by
          unfold Launch.sessionEnds
          omega
        refine Turned.of_free idle_free (issued.givenBack still ?_) fun j other => (others j other).givenBack (different j other)
        refine ⟨sessionOf settings now launch, ?_, rfl, rfl, ends⟩
        rw [is]
        exact mem_append_right _ mem_cons_self

theorem undo_turned (sound : Sound settings server) (ledger : Ledger settings store)
    (relies : ∀ j, Relies settings store (server.task j)) (running : server.task i = .undo launch) :
    Turned settings server i (.idle, store.deleteLaunch launch.id) := by
  have pending : Pending store launch := (relies i).pending launch (by rw [running]; rfl)
  refine Turned.of_free idle_free (ledger.undone pending) fun j other => ?_
  exact (relies j).undone ledger pending fun theirs is =>
    sound.apart i j launch theirs (Ne.symm other) (by rw [running]; rfl) is

theorem turn_sound (sound : Sound settings server) {who : Nat × Moment} (careful : Careful server who) :
    Sound settings (server.turn (advance settings) who) := by
  obtain ⟨i, moment⟩ := who
  refine Turned.sound sound ?_
  have ledger := sound.ledger.tick moment.elapsed
  have relies (j : Nat) := (sound.relies j).tick moment.elapsed
  change Turned settings server i (run settings moment (server.task i) (server.store.tick moment.elapsed))
  unfold Careful at careful
  have unchanged : Turned settings server i (.idle, server.store.tick moment.elapsed) :=
    Turned.of_free idle_free ledger fun j _ => relies j
  cases running : server.task i with
  | idle =>
    cases asked : moment.request with
    | none =>
      unfold run
      rw [asked]
      exact unchanged
    | some operation =>
      unfold run
      rw [asked]
      exact Turned.of_free (start_free operation) ledger fun j _ => relies j
  | start operation =>
    rw [running] at careful
    exact start_turned ledger relies careful
  | draw mailbox now =>
    rw [running] at careful
    unfold run
    dsimp only
    split
    · next launch left opened => exact draw_turned ledger relies running careful opened
    · exact unchanged
  | schema change =>
    unfold run
    dsimp only
    split
    · exact unchanged
    · exact Turned.of_follows sound running (follows_purge change) ledger relies
  | purge change =>
    unfold run
    dsimp only
    split
    · exact unchanged
    · split
      · exact Turned.of_free idle_free ledger.purged fun j _ => (relies j).purged
      · exact Turned.of_follows sound running (follows_purged change) ledger.purged fun j => (relies j).purged
  | connect change =>
    unfold run
    dsimp only
    split
    · exact unchanged
    · exact Turned.of_follows sound running (follows_write change) ledger relies
  | write change =>
    rw [running] at careful
    unfold run
    dsimp only
    split
    · exact Turned.of_follows sound running (follows_raised change) ledger relies
    · next works =>
      have permitted := careful (by simpa using works)
      split
      · obtain ⟨lost, kept⟩ := updateLost_kept ledger permitted
        exact Turned.of_follows sound running (follows_raised change) lost fun j => kept _ (relies j)
      · exact update_turned sound ledger relies running permitted
  | insert launch now => exact insert_turned sound ledger relies running
  | undo launch =>
    unfold run
    dsimp only
    split
    · exact unchanged
    · exact undo_turned sound ledger relies running

theorem fresh_sound : Sound settings Server.fresh where
  ledger := {
    ids := nodup_nil
    tokens := nodup_nil
    drawn := nofun
    paired := nofun
    dated := nofun
    sessions := nofun
    matched := nofun
    returned := nofun
    handed := nofun
    redeemed := nofun
    once := nodup_nil
    lodged := nofun
    rowed := nofun
    kept := nofun
    barred := nofun }
  relies _ := idle_free.relies
  apart _ _ _ _ _ mine := nomatch mine

end

def defaults : Settings := { webmailLaunchTtlSeconds := 60, webmailSessionTtlSeconds := 3600 }

def quiet : Moment :=
  { elapsed := 0, request := none, fails := false, lost := false, account := some 1, accountActive := true, mailboxOwned := true }

def info : Mailbox := { localPart := "info", domain := "demo.test" }

/-- A launch is created and redeemed; MariaDB does not answer `ensure_schema` of the next one. -/
def launchedTwice : List (Nat × Moment) :=
  [(0, { quiet with request := some (.createLaunch info) }), (0, quiet), (0, quiet), (0, quiet), (0, quiet), (0, quiet),
    (0, quiet), (0, quiet), (0, { quiet with request := some (.redeem ⟨0⟩) }), (0, quiet),
    (0, { quiet with request := some (.createLaunch info) }), (0, quiet), (0, quiet), (0, { quiet with fails := true })]

end Boron.Webmail
