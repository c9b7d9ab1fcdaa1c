import Boron.Webmail.Effects
import Mathlib.Data.Option.Basic

namespace Boron.Webmail
open List Rows

section
variable {settings : Settings} {store left : Store} {phase : Phase} {moment : Moment} {launch row : Launch}

theorem Pending.facts (pending : Pending store launch) (ledger : Ledger settings store) :
    ∃ row ∈ store.launches, row.core = launch.core ∧ row.id = launch.id ∧ row.token = launch.token ∧
      row.mailbox = launch.mailbox ∧ row.credential = launch.credential ∧ row.expiresAt = launch.expiresAt ∧
        launch.credential = ⟨launch.token.number⟩ := by
  obtain ⟨row, inside, same⟩ := pending.row
  have token : row.token = launch.token := (congrArg Launch.token same :)
  have credential : row.credential = launch.credential := (congrArg Launch.credential same :)
  refine ⟨row, inside, same, (congrArg Launch.id same :), token, (congrArg Launch.mailbox same :), credential,
    (congrArg Launch.expiresAt same :), ?_⟩
  rw [← credential, ← token]
  exact ledger.paired row inside

theorem Ledger.launch_eq (ledger : Ledger settings store) {launch other : Launch} (member : launch ∈ store.launches)
    (inside : other ∈ store.launches) (same : launch.token = other.token) : launch = other :=
  inj_on_of_nodup_map ledger.tokens member inside same

theorem Ledger.token_of_credential (ledger : Ledger settings store) {handed : Redemption} (known : handed ∈ store.redemptions)
    {token : Token} (same : (⟨token.number⟩ : Credential) = handed.credential) : handed.token = token := by
  obtain ⟨-, credential, -⟩ := ledger.handed handed known
  rw [credential] at same
  have number : token.number = handed.token.number := congrArg Credential.number same
  exact congrArg Token.mk number.symm

def Store.filterLaunches (P : Launch → Bool) (store : Store) : Store := { store with launches := store.launches.filter P }

theorem Ledger.filtered (ledger : Ledger settings store) {P : Launch → Bool}
    (useless : ∀ launch ∈ store.launches, P launch = false →
      launch.token ∉ store.returned ∨ launch.sessionEnds settings ≤ store.clock) :
    Ledger settings (store.filterLaunches P) := by
  have before : ∀ launch ∈ (store.filterLaunches P).launches, launch ∈ store.launches :=
    fun launch member => (mem_filter.mp member).1
  exact { ledger with
    ids := unique_filter ledger.ids P
    tokens := unique_filter ledger.tokens P
    drawn := fun launch member => ledger.drawn launch (before launch member)
    paired := fun launch member => ledger.paired launch (before launch member)
    dated := fun launch member => ledger.dated launch (before launch member)
    matched := fun session lodged launch member => ledger.matched session lodged launch (before launch member)
    redeemed := fun handed known launch member => ledger.redeemed handed known launch (before launch member)
    rowed := fun handed known early => by
      obtain ⟨launch, inside, same⟩ := ledger.rowed handed known early
      obtain ⟨returned, -⟩ := ledger.handed handed known
      obtain ⟨-, -, -, expires⟩ := ledger.redeemed handed known launch inside same
      refine ⟨launch, mem_filter.mpr ⟨inside, ?_⟩, same⟩
      cases stays : P launch with
      | true => rfl
      | false =>
        rcases useless launch inside stays with unreturned | past
        · rw [same] at unreturned
          exact absurd returned unreturned
        · unfold Launch.sessionEnds at past
          rw [expires] at past
          exact absurd early (Nat.not_lt.mpr past)
    kept := fun launch member => ledger.kept launch (before launch member) }

theorem Relies.filtered (relies : Relies settings store phase) {P : Launch → Bool}
    (stays : ∀ launch, phase.pending = some launch → ∀ row ∈ store.launches, row.core = launch.core → P row = true) :
    Relies settings (store.filterLaunches P) phase where
  read := relies.read
  pending launch is := by
    obtain ⟨⟨row, inside, same⟩, unreturned⟩ := relies.pending launch is
    exact ⟨⟨row, mem_filter.mpr ⟨inside, stays launch is row inside same⟩, same⟩, unreturned⟩
  creating := relies.creating
  revoking := relies.revoking

theorem Ledger.pruned (ledger : Ledger settings store) {now : Nat} (read : now ≤ store.clock) :
    Ledger settings (store.prune now) := by
  refine ledger.filtered fun launch member gone => .inr ?_
  have old : launch.createdAt + weekSeconds < now := by simpa using gone
  have dated := (ledger.dated launch member).2
  have bound := settings.sessionSeconds_le
  unfold Launch.sessionEnds
  unfold weekSeconds at old
  omega

theorem Relies.pruned (relies : Relies settings store phase) {now : Nat}
    (young : ∀ launch, phase.pending = some launch → now ≤ launch.createdAt + weekSeconds) :
    Relies settings (store.prune now) phase := by
  refine relies.filtered fun launch is row _ same => ?_
  have created : row.createdAt = launch.createdAt := (congrArg Launch.createdAt same :)
  have early := young launch is
  rw [← created] at early
  exact decide_eq_true early

/-- A failed `create_launch` deletes the row that it has added. -/
theorem Ledger.undone (ledger : Ledger settings store) (pending : Pending store launch) :
    Ledger settings (store.deleteLaunch launch.id) := by
  obtain ⟨row, inside, -, id, token, -⟩ := pending.facts ledger
  refine ledger.filtered fun other member gone => .inl ?_
  have named : other.id = launch.id := by simpa using gone
  have same : other = row := inj_on_of_nodup_map ledger.ids member inside (named.trans id.symm)
  rw [same, token]
  exact pending.unreturned

theorem Relies.undone (relies : Relies settings store phase) (ledger : Ledger settings store)
    (pending : Pending store launch) (apart : ∀ other, phase.pending = some other → launch.token ≠ other.token) :
    Relies settings (store.deleteLaunch launch.id) phase := by
  obtain ⟨row, inside, -, id, token, -⟩ := pending.facts ledger
  refine relies.filtered fun other is found member same => ?_
  have named : found.token = other.token := (congrArg Launch.token same :)
  cases known : decide (found.id ≠ launch.id) with
  | true => rfl
  | false =>
    have named' : found.id = launch.id := by simpa using known
    have same' : found = row := inj_on_of_nodup_map ledger.ids member inside (named'.trans id.symm)
    rw [same', token] at named
    exact absurd named (apart other is)

structure IsNew (settings : Settings) (store : Store) (launch : Launch) : Prop where
  id : launch.id = Rows.next Launch.id store.launches
  token : launch.token = ⟨store.drawn⟩
  credential : launch.credential = ⟨store.drawn⟩
  created : launch.createdAt = store.clock
  expires : launch.expiresAt ≤ store.clock + settings.launchSeconds

theorem Ledger.added (ledger : Ledger settings store) (new : IsNew settings store launch) :
    Ledger settings (store.addLaunch launch) := by
  have grows : ∀ {number : Nat}, number < store.drawn → number < store.drawn + 1 := fun below => Nat.lt_succ_of_lt below
  have unreturned : launch.token ∉ store.returned := by
    intro returned
    have below := ledger.returned launch.token returned
    rw [new.token] at below
    exact Nat.lt_irrefl _ below
  have grown : ∀ {P : Launch → Prop}, (∀ row ∈ store.launches, P row) → P launch →
      ∀ row ∈ (store.addLaunch launch).launches, P row := by
    intro P earlier newest row member
    rcases mem_append.mp member with before | last
    · exact earlier row before
    · rw [mem_singleton.mp last]
      exact newest
  exact { ledger with
    ids := by
      refine unique_append ledger.ids fun other member same => ?_
      have below : other.id < Rows.next Launch.id store.launches := lt_next member
      rw [same, new.id] at below
      exact Nat.lt_irrefl _ below
    tokens := by
      refine unique_append ledger.tokens fun other member same => ?_
      have below := ledger.drawn other member
      rw [same, new.token] at below
      exact Nat.lt_irrefl _ below
    drawn := grown (fun row member => grows (ledger.drawn row member)) (by rw [new.token]; exact Nat.lt_succ_self _)
    paired := grown ledger.paired (by rw [new.token, new.credential])
    dated := grown ledger.dated ⟨Nat.le_of_eq new.created, by rw [new.created]; exact new.expires⟩
    sessions := fun session member => grows (ledger.sessions session member)
    matched := fun session lodged => grown (ledger.matched session lodged) fun key => by
      have below := ledger.sessions session lodged
      rw [key, new.credential] at below
      exact absurd below (Nat.lt_irrefl _)
    returned := fun token member => grows (ledger.returned token member)
    redeemed := fun handed known => grown (ledger.redeemed handed known) fun same => by
      rw [same] at unreturned
      exact absurd (ledger.handed handed known).1 unreturned
    rowed := fun handed known early => by
      obtain ⟨row, inside, same⟩ := ledger.rowed handed known early
      exact ⟨row, mem_append_left _ inside, same⟩
    kept := grown ledger.kept fun returned => absurd returned unreturned }

theorem Relies.added (relies : Relies settings store phase) (launch : Launch) :
    Relies settings (store.addLaunch launch) phase where
  read := relies.read
  pending other is := by
    obtain ⟨⟨row, inside, same⟩, unreturned⟩ := relies.pending other is
    exact ⟨⟨row, mem_append_left _ inside, same⟩, unreturned⟩
  creating := relies.creating
  revoking := relies.revoking

theorem openLaunch_some {now : Nat} {mailbox : Mailbox} (opened : openLaunch settings moment now mailbox store = some (launch, left)) :
    ∃ accountId, launch = newLaunch settings now accountId mailbox (store.prune now) ∧
      left = (((store.prune now).withdraw fun previous => previous.mailbox = mailbox).revokeLaunches fun previous =>
        previous.accountId = accountId && previous.mailbox = mailbox).addLaunch launch := by
  unfold openLaunch at opened
  cases account : moment.account with
  | none => simp [account] at opened
  | some accountId =>
    refine ⟨accountId, ?_⟩
    simp only [account, Option.bind_eq_bind, Option.bind_some, Option.bind_eq_some_iff, Option.guard_eq_some', Option.some.injEq,
      Prod.mk.injEq] at opened
    obtain ⟨-, -, -, -, -, -, rfl, rfl⟩ := opened
    exact ⟨rfl, rfl⟩

theorem rows_of_revokeLaunches (selected : Launch → Bool) (now : Nat) (rows : List Launch) :
    (rows.map fun launch => if selected launch then launch.revokeAt now else launch).map Launch.id = rows.map Launch.id := by
  rw [map_map]
  exact map_congr_left fun launch _ => (marks_revoke selected now).id launch

theorem newLaunch_isNew {now accountId : Nat} {mailbox : Mailbox} (read : now ≤ store.clock) (selected superseded : Launch → Bool) :
    IsNew settings ((store.withdraw superseded).revokeLaunches selected) (newLaunch settings now accountId mailbox store) := by
  refine ⟨?_, rfl, rfl, rfl, Nat.add_le_add_right read _⟩
  unfold newLaunch Rows.next
  rw [show ((store.withdraw superseded).revokeLaunches selected).launches.map Launch.id = store.launches.map Launch.id from
    rows_of_revokeLaunches selected store.clock store.launches]

theorem redeem_some {token : Token} (redeemed : redeem moment token store = some left) :
    moment.fails = false ∧ ∃ launch ∈ store.launches, launch.token = token ∧ launch.redeemedAt = none ∧
      store.clock ≤ launch.expiresAt ∧ left = { (store.mapLaunches fun row =>
          if row.id = launch.id then { row with redeemedAt := some store.clock } else row) with
        redemptions := store.redemptions ++ [launch.redemption store.clock] } := by
  unfold redeem at redeemed
  cases found : launchByToken store.launches token with
  | none => simp [found] at redeemed
  | some launch =>
    obtain ⟨inside, same⟩ := byKey_some found
    simp only [found, Option.bind_eq_bind, Option.bind_some, Option.bind_eq_some_iff, Option.guard_eq_some',
      Option.some.injEq] at redeemed
    obtain ⟨-, ⟨unredeemed, -⟩, -, early, -, -, -, quiet, rfl⟩ := redeemed
    exact ⟨quiet, launch, inside, same, unredeemed, early, rfl⟩

theorem marks_redeem (id now : Nat) :
    Marks fun launch => if launch.id = id then { launch with redeemedAt := some now } else launch := by
  constructor
  · intro launch
    split <;> rfl
  · intro launch unredeemed
    split at unredeemed
    · cases unredeemed
    · exact unredeemed

theorem Ledger.handedOut (ledger : Ledger settings store) (inside : launch ∈ store.launches)
    (unredeemed : launch.redeemedAt = none) (early : store.clock ≤ launch.expiresAt) (returned : launch.token ∈ store.returned) :
    Ledger settings { (store.mapLaunches fun row =>
        if row.id = launch.id then { row with redeemedAt := some store.clock } else row) with
      redemptions := store.redemptions ++ [launch.redemption store.clock] } := by
  have marks := marks_redeem launch.id store.clock
  have mapped := ledger.mapped marks
  have grown : ∀ {P : Redemption → Prop}, (∀ handed ∈ store.redemptions, P handed) → P (launch.redemption store.clock) →
      ∀ handed ∈ store.redemptions ++ [launch.redemption store.clock], P handed := by
    intro P earlier newest handed member
    rcases mem_append.mp member with before | last
    · exact earlier handed before
    · rw [mem_singleton.mp last]
      exact newest
  exact { mapped with
    handed := grown mapped.handed ⟨returned, ledger.paired launch inside, early⟩
    redeemed := grown mapped.redeemed fun other member same => by
      obtain ⟨row, known, rfl⟩ := mem_map.mp member
      have own : row = launch := ledger.launch_eq known inside ((marks.token row).symm.trans same)
      subst own
      rw [if_pos rfl]
      exact ⟨nofun, rfl, rfl, rfl⟩
    once := by
      rw [map_append]
      refine Nodup.append ledger.once (nodup_singleton _) fun token earlier newest => ?_
      obtain ⟨handed, known, same⟩ := mem_map.mp earlier
      have named : handed.token = launch.token := same.trans (mem_singleton.mp newest)
      exact (ledger.redeemed handed known launch inside named.symm).1 unredeemed
    lodged := grown mapped.lodged fun session lodged key => (ledger.matched session lodged launch inside key).2
    rowed := grown mapped.rowed fun _ => ⟨_, mem_map_of_mem inside, marks.token launch⟩
    barred := fun credential member => by
      obtain ⟨⟨handed, known, same⟩, dead⟩ := mapped.barred credential member
      exact ⟨⟨handed, mem_append_left _ known, same⟩, dead⟩ }

theorem Relies.handedOut (relies : Relies settings store phase)
    (alone : ∀ ids, phase.revoking ≠ some (launch.accountId, ids)) :
    Relies settings { (store.mapLaunches fun row =>
        if row.id = launch.id then { row with redeemedAt := some store.clock } else row) with
      redemptions := store.redemptions ++ [launch.redemption store.clock] } phase := by
  have mapped := relies.mapped (marks_redeem launch.id store.clock)
  refine ⟨mapped.read, fun other is => ⟨(mapped.pending other is).row, (mapped.pending other is).unreturned⟩, mapped.creating,
    fun accountId ids is handed member account => ?_⟩
  rcases mem_append.mp member with before | last
  · exact relies.revoking accountId ids is handed before account
  · rw [mem_singleton.mp last] at account
    have same : launch.accountId = accountId := account
    rw [← same] at is
    exact absurd is (alone ids)

theorem insertSession_some {session : Session} (inserted : store.insertSession session = some left) :
    left = store.withSessions (store.sessions ++ [session]) := by
  unfold Store.insertSession at inserted
  split at inserted
  · cases inserted
  · exact (Option.some.inj inserted).symm

theorem Ledger.inserted (ledger : Ledger settings store) (pending : Pending store launch) (now : Nat) :
    Ledger settings (store.withSessions (store.sessions ++ [sessionOf settings now launch])) := by
  obtain ⟨row, inside, -, id, token, mailbox, credential, -, paired⟩ := pending.facts ledger
  have unknown : ∀ handed ∈ store.redemptions, launch.credential ≠ handed.credential := by
    intro handed known same
    rw [paired] at same
    have named := ledger.token_of_credential known same
    have returned := (ledger.handed handed known).1
    rw [named] at returned
    exact pending.unreturned returned
  have grown : ∀ {P : Session → Prop}, (∀ session ∈ store.sessions, P session) → P (sessionOf settings now launch) →
      ∀ session ∈ store.sessions ++ [sessionOf settings now launch], P session := by
    intro P earlier newest session member
    rcases mem_append.mp member with before | last
    · exact earlier session before
    · rw [mem_singleton.mp last]
      exact newest
  exact { ledger with
    sessions := grown ledger.sessions (by
      have below := ledger.drawn row inside
      rw [token] at below
      change launch.credential.number < _
      rw [paired]
      exact below)
    matched := grown ledger.matched fun other known key => by
      have same : launch.credential = other.credential := key
      rw [paired, ledger.paired other known] at same
      have number : launch.token.number = other.token.number := congrArg Credential.number same
      have named : row.token = other.token := by
        rw [token]
        exact congrArg Token.mk number
      have own := ledger.launch_eq inside known named
      rw [← own]
      exact ⟨id.symm, mailbox.symm⟩
    lodged := fun handed known => grown (ledger.lodged handed known) fun key => absurd key (unknown handed known)
    kept := fun other known returned standing early => by
      obtain ⟨session, lodged, facts⟩ := ledger.kept other known returned standing early
      exact ⟨session, mem_append_left _ lodged, facts⟩
    barred := fun credential member => by
      obtain ⟨⟨handed, known, same⟩, dead⟩ := ledger.barred credential member
      refine ⟨⟨handed, known, same⟩, grown dead fun key => ?_⟩
      rw [← same] at key
      exact absurd key (unknown handed known) }

theorem Relies.inserted (relies : Relies settings store phase) (ledger : Ledger settings store)
    (pending : Pending store launch) (now : Nat)
    (apart : ∀ other, phase.pending = some other → launch.token ≠ other.token) (agrees : ∀ other now',
      phase.creating = some (other, now') → phase.pending = some other) :
    Relies settings (store.withSessions (store.sessions ++ [sessionOf settings now launch])) phase := by
  obtain ⟨-, -, -, -, -, -, -, -, paired⟩ := pending.facts ledger
  refine ⟨relies.read, fun other is => ⟨(relies.pending other is).row, (relies.pending other is).unreturned⟩,
    fun other now' is => ?_, fun accountId ids is handed known account session member key live => ?_⟩
  · obtain ⟨expires, unissued⟩ := relies.creating other now' is
    have theirs := agrees other now' is
    obtain ⟨-, -, -, -, -, -, -, -, paired'⟩ := (relies.pending other theirs).facts ledger
    refine ⟨expires, fun session member key => ?_⟩
    rcases mem_append.mp member with before | last
    · exact unissued session before key
    · rw [mem_singleton.mp last] at key
      have same : launch.credential = other.credential := key
      rw [paired, paired'] at same
      have number : launch.token.number = other.token.number := congrArg Credential.number same
      exact apart other theirs (congrArg Token.mk number)
  · rcases mem_append.mp member with before | last
    · exact relies.revoking accountId ids is handed known account session before key live
    · rw [mem_singleton.mp last] at key
      have same : launch.credential = handed.credential := key
      rw [paired] at same
      have named := ledger.token_of_credential known same
      have returned := (ledger.handed handed known).1
      rw [named] at returned
      exact absurd returned pending.unreturned

def Store.giveBack (token : Token) (store : Store) : Store := { store with returned := store.returned ++ [token] }

theorem Ledger.givenBack (ledger : Ledger settings store) (pending : Pending store launch)
    (issued : ∃ session ∈ store.sessions, session.credential = launch.credential ∧ session.revoked = false ∧
      session.expiresAt = launch.sessionEnds settings) : Ledger settings (store.giveBack launch.token) := by
  obtain ⟨row, inside, -, -, token, -, credential, expires, -⟩ := pending.facts ledger
  exact { ledger with
    returned := fun other member => by
      rcases mem_append.mp member with before | last
      · exact ledger.returned other before
      · rw [mem_singleton.mp last, ← token]
        exact ledger.drawn row inside
    handed := fun handed known => ⟨mem_append_left _ (ledger.handed handed known).1, (ledger.handed handed known).2⟩
    kept := fun other known returned standing early => by
      rcases mem_append.mp returned with before | last
      · exact ledger.kept other known before standing early
      · have own : other = row := ledger.launch_eq known inside ((mem_singleton.mp last).trans token.symm)
        have ends : row.sessionEnds settings = launch.sessionEnds settings := by
          unfold Launch.sessionEnds
          rw [expires]
        rw [own, credential, ends]
        exact issued }

theorem Relies.givenBack (relies : Relies settings store phase)
    (apart : ∀ other, phase.pending = some other → launch.token ≠ other.token) :
    Relies settings (store.giveBack launch.token) phase where
  read := relies.read
  pending other is := by
    obtain ⟨row, unreturned⟩ := relies.pending other is
    refine ⟨row, fun returned => ?_⟩
    rcases mem_append.mp returned with before | last
    · exact unreturned before
    · exact apart other is (mem_singleton.mp last).symm
  creating := relies.creating
  revoking := relies.revoking

end

end Boron.Webmail
