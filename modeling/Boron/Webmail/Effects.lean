import Boron.Webmail.Turns

namespace Boron.Webmail

def Launch.core (launch : Launch) : Launch := { launch with redeemedAt := none, revokedAt := none }

def Launch.sessionEnds (settings : Settings) (launch : Launch) : Nat :=
  launch.expiresAt - settings.launchSeconds + settings.sessionSeconds

structure Ledger (settings : Settings) (store : Store) : Prop where
  ids : Rows.Unique Launch.id store.launches
  tokens : Rows.Unique Launch.token store.launches
  drawn : ∀ launch ∈ store.launches, launch.token.number < store.drawn
  paired : ∀ launch ∈ store.launches, launch.credential = ⟨launch.token.number⟩
  dated : ∀ launch ∈ store.launches,
    launch.createdAt ≤ store.clock ∧ launch.expiresAt ≤ launch.createdAt + settings.launchSeconds
  sessions : ∀ session ∈ store.sessions, session.credential.number < store.drawn
  matched : ∀ session ∈ store.sessions, ∀ launch ∈ store.launches, session.credential = launch.credential →
    session.launchId = launch.id ∧ session.mailbox = launch.mailbox
  returned : ∀ token ∈ store.returned, token.number < store.drawn
  handed : ∀ handed ∈ store.redemptions, handed.token ∈ store.returned ∧ handed.credential = ⟨handed.token.number⟩ ∧
    handed.redeemedAt ≤ handed.expiresAt
  redeemed : ∀ handed ∈ store.redemptions, ∀ launch ∈ store.launches, launch.token = handed.token →
    launch.redeemedAt ≠ none ∧ launch.mailbox = handed.mailbox ∧ launch.accountId = handed.accountId ∧
      launch.expiresAt = handed.expiresAt
  once : (store.redemptions.map Redemption.token).Nodup
  lodged : ∀ handed ∈ store.redemptions, ∀ session ∈ store.sessions, session.credential = handed.credential →
    session.mailbox = handed.mailbox
  rowed : ∀ handed ∈ store.redemptions, store.clock < handed.sessionEnds settings →
    ∃ launch ∈ store.launches, launch.token = handed.token
  kept : ∀ launch ∈ store.launches, launch.token ∈ store.returned → launch.token ∉ store.withdrawn →
    store.clock < launch.sessionEnds settings → ∃ session ∈ store.sessions,
      session.credential = launch.credential ∧ session.revoked = false ∧ session.expiresAt = launch.sessionEnds settings
  barred : ∀ credential ∈ store.barred, (∃ handed ∈ store.redemptions, handed.credential = credential) ∧
    ∀ session ∈ store.sessions, session.credential = credential → session.live store.clock = false

/-- A launch that `create_launch` has added and not returned. -/
structure Pending (store : Store) (launch : Launch) : Prop where
  row : ∃ row ∈ store.launches, row.core = launch.core
  unreturned : launch.token ∉ store.returned

def OnlyIn (store : Store) (accountId : Nat) (ids : List Nat) : Prop :=
  ∀ handed ∈ store.redemptions, handed.accountId = accountId → ∀ session ∈ store.sessions,
    session.credential = handed.credential → session.live store.clock = true → session.launchId ∈ ids

def Change.creating : Change → Option (Launch × Nat)
  | .supersede launch now => some (launch, now)
  | _ => none

def Phase.creating : Phase → Option (Launch × Nat)
  | .schema change => change.creating
  | .purge change => change.creating
  | .connect change => change.creating
  | .write change => change.creating
  | .insert launch now => some (launch, now)
  | _ => none

/-- What an operation under way relies on. -/
structure Relies (settings : Settings) (store : Store) (phase : Phase) : Prop where
  read : ∀ mailbox now, phase = .draw mailbox now → now ≤ store.clock
  pending : ∀ launch, phase.pending = some launch → Pending store launch
  creating : ∀ launch now, phase.creating = some (launch, now) → launch.expiresAt = now + settings.launchSeconds ∧
    ∀ session ∈ store.sessions, session.credential ≠ launch.credential
  revoking : ∀ accountId ids, phase.revoking = some (accountId, ids) → OnlyIn store accountId ids

structure Sound (settings : Settings) (server : Server) : Prop where
  ledger : Ledger settings server.store
  relies : ∀ i, Relies settings server.store (server.task i)
  apart : ∀ i j launch other, i ≠ j → (server.task i).pending = some launch → (server.task j).pending = some other →
    launch.token ≠ other.token

section
variable {settings : Settings} {store left : Store} {server : Server} {phase : Phase} {launch : Launch}

theorem Settings.sessionSeconds_le (settings : Settings) : settings.sessionSeconds ≤ 86400 := by
  unfold Settings.sessionSeconds
  omega

theorem Ledger.promised (ledger : Ledger settings store) : Promised settings store where
  once := ledger.once
  inTime handed member := (ledger.handed handed member).2.2
  accepted handed member standing early := by
    obtain ⟨returned, credential, -⟩ := ledger.handed handed member
    obtain ⟨launch, inside, same⟩ := ledger.rowed handed member early
    obtain ⟨-, mailbox, -, expires⟩ := ledger.redeemed handed member launch inside same
    have ends : launch.sessionEnds settings = handed.sessionEnds settings := by
      unfold Launch.sessionEnds Redemption.sessionEnds
      rw [expires]
    rw [← same] at returned standing
    rw [← ends] at early
    obtain ⟨session, lodged, key, unrevoked, lasts⟩ := ledger.kept launch inside returned standing early
    have own : session.credential = handed.credential := by
      rw [key, ledger.paired launch inside, credential, same]
    refine ⟨session, lodged, ledger.lodged handed member session lodged own, own, ?_⟩
    unfold Session.live
    rw [unrevoked, lasts]
    simpa using early
  barred credential member mailbox accepted := by
    obtain ⟨session, lodged, -, key, live⟩ := accepted
    have dead := (ledger.barred credential member).2 session lodged key
    rw [live] at dead
    cases dead

theorem Session.live_of_later {session : Session} {now later : Nat} (forward : now ≤ later)
    (live : session.live later = true) : session.live now = true := by
  unfold Session.live at live ⊢
  rw [Bool.and_eq_true, decide_eq_true_eq] at live ⊢
  exact ⟨live.1, Nat.lt_of_le_of_lt forward live.2⟩

theorem Session.live_tick {session : Session} {now elapsed : Nat} (dead : session.live now = false) :
    session.live (now + elapsed) = false := by
  cases live : session.live (now + elapsed) with
  | false => rfl
  | true =>
    rw [Session.live_of_later (Nat.le_add_right ..) live] at dead
    cases dead

theorem Ledger.tick (ledger : Ledger settings store) (elapsed : Nat) : Ledger settings (store.tick elapsed) where
  ids := ledger.ids
  tokens := ledger.tokens
  drawn := ledger.drawn
  paired := ledger.paired
  dated launch member := ⟨Nat.le_trans (ledger.dated launch member).1 (Nat.le_add_right ..), (ledger.dated launch member).2⟩
  sessions := ledger.sessions
  matched := ledger.matched
  returned := ledger.returned
  handed := ledger.handed
  redeemed := ledger.redeemed
  once := ledger.once
  lodged := ledger.lodged
  rowed handed member early := ledger.rowed handed member (Nat.lt_of_le_of_lt (Nat.le_add_right ..) early)
  kept launch member returned standing early :=
    ledger.kept launch member returned standing (Nat.lt_of_le_of_lt (Nat.le_add_right ..) early)
  barred credential member := ⟨(ledger.barred credential member).1, fun session lodged key =>
      Session.live_tick ((ledger.barred credential member).2 session lodged key)⟩

theorem Relies.tick (relies : Relies settings store phase) (elapsed : Nat) : Relies settings (store.tick elapsed) phase where
  read mailbox now is := Nat.le_trans (relies.read mailbox now is) (Nat.le_add_right ..)
  pending launch is := ⟨(relies.pending launch is).row, (relies.pending launch is).unreturned⟩
  creating := relies.creating
  revoking accountId ids is handed member account session lodged key live :=
    relies.revoking accountId ids is handed member account session lodged key
      (Session.live_of_later (Nat.le_add_right ..) live)

end

end Boron.Webmail

namespace Boron.Webmail

section
variable {settings : Settings} {store left : Store} {phase : Phase} {moment : Moment}

structure Marks (f : Launch → Launch) : Prop where
  core : ∀ launch, (f launch).core = launch.core
  redeemed : ∀ launch, (f launch).redeemedAt = none → launch.redeemedAt = none

section
variable {f : Launch → Launch} (marks : Marks f) (launch : Launch)
include marks

theorem Marks.id : (f launch).id = launch.id := (congrArg Launch.id (marks.core launch) :)

theorem Marks.token : (f launch).token = launch.token := (congrArg Launch.token (marks.core launch) :)

theorem Marks.accountId : (f launch).accountId = launch.accountId := (congrArg Launch.accountId (marks.core launch) :)

theorem Marks.mailbox : (f launch).mailbox = launch.mailbox := (congrArg Launch.mailbox (marks.core launch) :)

theorem Marks.credential : (f launch).credential = launch.credential := (congrArg Launch.credential (marks.core launch) :)

theorem Marks.expiresAt : (f launch).expiresAt = launch.expiresAt := (congrArg Launch.expiresAt (marks.core launch) :)

theorem Marks.createdAt : (f launch).createdAt = launch.createdAt := (congrArg Launch.createdAt (marks.core launch) :)

theorem Marks.sessionEnds : (f launch).sessionEnds settings = launch.sessionEnds settings := by
  unfold Launch.sessionEnds
  rw [marks.expiresAt]

end

def Store.mapLaunches (f : Launch → Launch) (store : Store) : Store := { store with launches := store.launches.map f }

theorem Ledger.mapped (ledger : Ledger settings store) {f : Launch → Launch} (marks : Marks f) :
    Ledger settings (store.mapLaunches f) := by
  have traced : ∀ launch ∈ (store.mapLaunches f).launches, ∃ row ∈ store.launches, f row = launch :=
    fun launch member => List.mem_map.mp member
  have into : ∀ row ∈ store.launches, f row ∈ (store.mapLaunches f).launches :=
    fun row member => List.mem_map_of_mem member
  exact {
    ids := Rows.unique_map marks.id ledger.ids
    tokens := Rows.unique_map marks.token ledger.tokens
    drawn := fun launch member => by
      obtain ⟨row, inside, rfl⟩ := traced launch member
      rw [marks.token]
      exact ledger.drawn row inside
    paired := fun launch member => by
      obtain ⟨row, inside, rfl⟩ := traced launch member
      rw [marks.token, marks.credential]
      exact ledger.paired row inside
    dated := fun launch member => by
      obtain ⟨row, inside, rfl⟩ := traced launch member
      rw [marks.createdAt, marks.expiresAt]
      exact ledger.dated row inside
    sessions := ledger.sessions
    matched := fun session lodged launch member key => by
      obtain ⟨row, inside, rfl⟩ := traced launch member
      rw [marks.credential] at key
      rw [marks.id, marks.mailbox]
      exact ledger.matched session lodged row inside key
    returned := ledger.returned
    handed := ledger.handed
    redeemed := fun handed known launch member same => by
      obtain ⟨row, inside, rfl⟩ := traced launch member
      rw [marks.token] at same
      obtain ⟨marked, agrees⟩ := ledger.redeemed handed known row inside same
      rw [marks.mailbox, marks.accountId, marks.expiresAt]
      exact ⟨fun none => marked (marks.redeemed row none), agrees⟩
    once := ledger.once
    lodged := ledger.lodged
    rowed := fun handed known early => by
      obtain ⟨row, inside, same⟩ := ledger.rowed handed known early
      exact ⟨f row, into row inside, (marks.token row).trans same⟩
    kept := fun launch member returned standing early => by
      obtain ⟨row, inside, rfl⟩ := traced launch member
      rw [marks.token] at returned standing
      rw [marks.sessionEnds] at early ⊢
      rw [marks.credential]
      exact ledger.kept row inside returned standing early
    barred := ledger.barred }

theorem Relies.mapped (relies : Relies settings store phase) {f : Launch → Launch} (marks : Marks f) :
    Relies settings (store.mapLaunches f) phase where
  read := relies.read
  pending launch is := by
    obtain ⟨⟨row, inside, same⟩, unreturned⟩ := relies.pending launch is
    exact ⟨⟨f row, List.mem_map_of_mem inside, (marks.core row).trans same⟩, unreturned⟩
  creating := relies.creating
  revoking := relies.revoking

theorem marks_revoke (selected : Launch → Bool) (now : Nat) :
    Marks fun launch => if selected launch then launch.revokeAt now else launch := by
  constructor
  · intro launch
    unfold Launch.revokeAt
    split
    · split <;> rfl
    · rfl
  · intro launch unredeemed
    revert unredeemed
    unfold Launch.revokeAt
    split
    · split <;> exact id
    · exact id

theorem Ledger.withdrawn (ledger : Ledger settings store) (selected : Launch → Bool) :
    Ledger settings (store.withdraw selected) :=
  { ledger with
    kept := fun launch member returned standing early =>
      ledger.kept launch member returned (fun before => standing (List.mem_append_left _ before)) early }

theorem Relies.withdrawn (relies : Relies settings store phase) (selected : Launch → Bool) :
    Relies settings (store.withdraw selected) phase where
  read := relies.read
  pending launch is := ⟨(relies.pending launch is).row, (relies.pending launch is).unreturned⟩
  creating := relies.creating
  revoking := relies.revoking

theorem mem_withdrawn {selected : Launch → Bool} {launch : Launch} (member : launch ∈ store.launches)
    (hit : selected launch = true) : launch.token ∈ (store.withdraw selected).withdrawn :=
  List.mem_append_right _ (List.mem_map_of_mem (List.mem_filter.mpr ⟨member, hit⟩))

theorem Ledger.revokeSelected (ledger : Ledger settings store) (selected : Launch → Bool) :
    Ledger settings (store.revokeSelected selected) :=
  (ledger.withdrawn selected).mapped (marks_revoke selected store.clock)

theorem Relies.revokeSelected (relies : Relies settings store phase) (selected : Launch → Bool) :
    Relies settings (store.revokeSelected selected) phase :=
  (relies.withdrawn selected).mapped (marks_revoke selected store.clock)

def Fewer (sessions before : List Session) : Prop :=
  ∀ session ∈ sessions, ∃ old ∈ before, session = old ∨ session = { old with revoked := true }

theorem Fewer.facts {sessions before : List Session} (fewer : Fewer sessions before) {session : Session}
    (member : session ∈ sessions) : ∃ old ∈ before, old.launchId = session.launchId ∧ old.mailbox = session.mailbox ∧
      old.credential = session.credential ∧ ∀ now, session.live now = true → old.live now = true := by
  obtain ⟨old, inside, same | same⟩ := fewer session member
  · exact ⟨old, inside, by rw [same], by rw [same], by rw [same], fun now live => by rwa [← same]⟩
  · refine ⟨old, inside, by rw [same], by rw [same], by rw [same], fun now live => ?_⟩
    rw [same] at live
    cases live

def Store.withSessions (sessions : List Session) (store : Store) : Store := { store with sessions }

def Spares (settings : Settings) (sessions : List Session) (store : Store) : Prop :=
  ∀ launch ∈ store.launches, launch.token ∈ store.returned → launch.token ∉ store.withdrawn →
    store.clock < launch.sessionEnds settings → ∀ session ∈ store.sessions, session.credential = launch.credential →
      session.revoked = false → session.expiresAt = launch.sessionEnds settings → session ∈ sessions

theorem Ledger.fewer (ledger : Ledger settings store) {sessions : List Session} (fewer : Fewer sessions store.sessions)
    (spares : Spares settings sessions store) : Ledger settings (store.withSessions sessions) :=
  { ledger with
    sessions := fun session member => by
      obtain ⟨old, inside, -, -, key, -⟩ := fewer.facts member
      rw [← key]
      exact ledger.sessions old inside
    matched := fun session member launch known key => by
      obtain ⟨old, inside, id, mailbox, same, -⟩ := fewer.facts member
      rw [← id, ← mailbox]
      exact ledger.matched old inside launch known (same.trans key)
    lodged := fun handed known session member key => by
      obtain ⟨old, inside, -, mailbox, same, -⟩ := fewer.facts member
      rw [← mailbox]
      exact ledger.lodged handed known old inside (same.trans key)
    kept := fun launch member returned standing early => by
      obtain ⟨session, inside, key, unrevoked, ends⟩ := ledger.kept launch member returned standing early
      exact ⟨session, spares launch member returned standing early session inside key unrevoked ends, key, unrevoked, ends⟩
    barred := fun credential member => by
      obtain ⟨known, dead⟩ := ledger.barred credential member
      refine ⟨known, fun session lodged key => ?_⟩
      obtain ⟨old, inside, -, -, same, live⟩ := fewer.facts lodged
      have before := dead old inside (same.trans key)
      cases alive : session.live store.clock with
      | false => exact alive
      | true =>
        rw [live store.clock alive] at before
        cases before }

theorem Relies.fewer (relies : Relies settings store phase) {sessions : List Session}
    (fewer : Fewer sessions store.sessions) : Relies settings (store.withSessions sessions) phase where
  read := relies.read
  pending launch is := ⟨(relies.pending launch is).row, (relies.pending launch is).unreturned⟩
  creating launch now is := by
    obtain ⟨expires, unissued⟩ := relies.creating launch now is
    refine ⟨expires, fun session member key => ?_⟩
    obtain ⟨old, inside, -, -, same, -⟩ := fewer.facts member
    exact unissued old inside (same.trans key)
  revoking accountId ids is handed known account session member key live := by
    obtain ⟨old, inside, id, -, same, alive⟩ := fewer.facts member
    rw [← id]
    exact relies.revoking accountId ids is handed known account old inside (same.trans key) (alive _ live)

theorem fewer_revoke (selected : Session → Bool) (sessions : List Session) :
    Fewer (sessions.map fun session => if selected session then { session with revoked := true } else session) sessions := by
  intro session member
  obtain ⟨old, inside, rfl⟩ := List.mem_map.mp member
  refine ⟨old, inside, ?_⟩
  split
  · exact .inr rfl
  · exact .inl rfl

theorem fewer_filter (P : Session → Bool) (sessions : List Session) : Fewer (sessions.filter P) sessions :=
  fun session member => ⟨session, (List.mem_filter.mp member).1, .inl rfl⟩

theorem Ledger.purged (ledger : Ledger settings store) : Ledger settings store.purge := by
  refine ledger.fewer (fewer_filter _ _) fun launch _ _ _ early session inside _ unrevoked ends => ?_
  have fresh : store.clock ≤ session.expiresAt := by omega
  refine List.mem_filter.mpr ⟨inside, ?_⟩
  rw [unrevoked, decide_eq_true fresh]
  rfl

theorem Relies.purged (relies : Relies settings store phase) : Relies settings store.purge phase :=
  relies.fewer (fewer_filter _ _)

theorem Ledger.revokedSessions (ledger : Ledger settings store) {selected : Session → Bool}
    (misses : ∀ launch ∈ store.launches, launch.token ∈ store.returned → launch.token ∉ store.withdrawn →
      ∀ session ∈ store.sessions, session.launchId = launch.id → session.mailbox = launch.mailbox →
        selected session = false) : Ledger settings (store.revokeSessions selected) := by
  refine ledger.fewer (fewer_revoke selected _) fun launch member returned standing _ session inside key _ _ => ?_
  obtain ⟨id, mailbox⟩ := ledger.matched session inside launch member key
  have untouched := misses launch member returned standing session inside id mailbox
  refine List.mem_map.mpr ⟨session, inside, ?_⟩
  rw [if_neg (by simp [untouched])]

theorem Relies.revokedSessions (relies : Relies settings store phase) (selected : Session → Bool) :
    Relies settings (store.revokeSessions selected) phase := relies.fewer (fewer_revoke selected _)

theorem dead_of_revoked {selected : Session → Bool} {session : Session} {now : Nat}
    (member : session ∈ (store.revokeSessions selected).sessions)
    (selects : ∀ old ∈ store.sessions, old.launchId = session.launchId → old.mailbox = session.mailbox →
      selected old = true) : session.live now = false := by
  obtain ⟨old, inside, same⟩ := List.mem_map.mp member
  have both : old.launchId = session.launchId ∧ old.mailbox = session.mailbox := by
    rw [← same]
    split
    · exact ⟨rfl, rfl⟩
    · exact ⟨rfl, rfl⟩
  rw [if_pos (selects old inside both.1 both.2)] at same
  rw [← same]
  rfl

theorem Ledger.bar (ledger : Ledger settings store) {concerned : Redemption → Bool}
    (dead : ∀ handed ∈ store.redemptions, concerned handed = true → ∀ session ∈ store.sessions,
      session.credential = handed.credential → session.live store.clock = false) :
    Ledger settings (store.bar concerned) :=
  { ledger with
    barred := fun credential member => by
      rcases List.mem_append.mp member with before | new
      · exact ledger.barred credential before
      · obtain ⟨handed, chosen, rfl⟩ := List.mem_map.mp new
        obtain ⟨known, hit⟩ := List.mem_filter.mp chosen
        exact ⟨⟨handed, known, rfl⟩, dead handed known hit⟩ }

theorem Relies.bar (relies : Relies settings store phase) (concerned : Redemption → Bool) :
    Relies settings (store.bar concerned) phase where
  read := relies.read
  pending launch is := ⟨(relies.pending launch is).row, (relies.pending launch is).unreturned⟩
  creating := relies.creating
  revoking := relies.revoking

end

end Boron.Webmail
