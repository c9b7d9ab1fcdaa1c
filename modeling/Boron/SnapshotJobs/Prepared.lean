import Boron.SnapshotJobs.Allowance

namespace Boron.SnapshotJobs.Downloads

section
variable {calm : Prop} {quotaHardMb : Nat → Nat} {i id : Nat} {job : Job} {touched : Nat → Prop} {store : Store}
  {moment : Moment} {task : Task}

theorem run_turned (sound : Sound calm quotaHardMb store) (phase : RunPhase) :
    Turned calm quotaHardMb i touched store (runTurn moment i id job phase store) := by
  have written (f : SnapshotRun → SnapshotRun) (phase : RunPhase) :
      Turned calm quotaHardMb i touched store (.run id job phase, store.update id f) :=
    turned_apart sound trivial rfl fun _ _ _ held => held
  have ended (f : SnapshotRun → SnapshotRun) : Turned calm quotaHardMb i touched store (.idle, store.update id f) :=
    turned_apart sound trivial rfl fun _ _ _ held => held
  cases phase with
  | lockAccount => exact turned_lock sound trivial trivial
  | lockRepository => exact turned_lock sound trivial trivial
  | check =>
    unfold runTurn
    dsimp only
    split
    · exact turned_release sound trivial
    · split
      · exact turned_same sound trivial
      · split
        · exact turned_same sound trivial
        · exact turned_same sound trivial
  | verify | prepare | list => exact turned_same sound trivial
  | cancelEarly => exact written _ _
  | cancelPrepared => exact written _ _
  | cancelSaved snapshot => exact written _ _
  | record snapshot => exact written _ _
  | start => exact turned_apart sound trivial rfl fun _ _ _ held => held
  | save => exact turned_apart sound trivial rfl fun _ _ _ held => held
  | forget obsolete => exact turned_apart sound trivial rfl fun _ _ _ held => held
  | expire obsolete => exact turned_apart sound trivial rfl fun _ _ _ held => held
  | checkPrepared =>
    unfold runTurn
    dsimp only
    split
    · exact turned_release sound trivial
    · split
      · exact turned_same sound trivial
      · exact turned_same sound trivial
  | checkSaved snapshot =>
    unfold runTurn
    dsimp only
    split
    · exact turned_release sound trivial
    · split
      · exact turned_same sound trivial
      · exact turned_same sound trivial
  | protect items =>
    unfold runTurn
    dsimp only
    split
    · exact turned_same sound trivial
    · exact turned_same sound trivial
  | safety | leave => exact turned_release sound trivial
  | complete => exact ended _
  | fail => exact ended _

theorem call_turned (sound : Sound calm quotaHardMb store) :
    Turned calm quotaHardMb i touched store (callTurn moment store) := by
  unfold callTurn
  cases moment.call with
  | queuePolicy policyId options destinationIds accountIds busy =>
    obtain ⟨downloads, locks⟩ := queuePolicy_keeps
      (P := fun left => left.downloads = store.downloads ∧ left.locks = store.locks) (fun _ _ same => same) policyId options
      destinationIds busy accountIds store ⟨rfl, rfl⟩
    exact turned_apart sound trivial downloads fun name j _ held => (congrFun locks name).trans held
  | executeRun id =>
    dsimp only
    split
    · exact turned_same sound trivial
    · exact turned_same sound trivial
  | cancelRun id =>
    dsimp only
    unfold Store.cancelRun
    split
    · exact turned_same sound trivial
    · split
      · exact turned_apart sound trivial rfl fun _ _ _ held => held
      · exact turned_apart sound trivial rfl fun _ _ _ held => held
      · exact turned_same sound trivial
  | retryRun id =>
    dsimp only
    unfold Store.retryRun
    split
    · exact turned_same sound trivial
    · split
      · exact turned_apart sound trivial rfl fun _ _ _ held => held
      · exact turned_same sound trivial
  | setRunPin id pinned =>
    dsimp only
    split
    · exact turned_same sound trivial
    · split
      · exact turned_same sound trivial
      · exact turned_same sound trivial
  | queueDownload accountId runId => exact turned_same sound trivial
  | executeDownload id =>
    dsimp only
    cases found : store.download id with
    | none => exact turned_same sound trivial
    | some row => exact turned_same sound (relies_found found rfl rfl rfl (fun same => by cases same) (fun same => by cases same))
  | cleanupDownloads => exact cleanup_turned sound trivial
  | recoverRuns => exact turned_same sound trivial

theorem raised_relies (relies : Relies calm quotaHardMb i task store) :
    Relies calm quotaHardMb i task.raised (store.release i) := by
  cases task with
  | download id runId accountId phase =>
    have failed := WorkerRelies.failing relies
    cases phase with
    | fail => exact trivial
    | _ => exact failed
  | run id job phase => cases phase <;> exact trivial
  | _ => exact trivial

/-- A turn writes to the downloads of `failing`, and to the one its own worker is at. -/
def Touches (moment : Moment) (task : Task) (id : Nat) : Prop := id ∈ failing moment task ∨ preparing task = some id

theorem advance_turned (sound : Sound calm quotaHardMb store) (relies : Relies calm quotaHardMb i task store) :
    Turned calm quotaHardMb i (Touches moment task) store (advance quotaHardMb i moment task store) := by
  unfold advance
  split
  · exact turned_release sound trivial
  · next running =>
    split
    · exact turned_release sound (raised_relies relies)
    · next fine =>
      have goes : (moment.stops || moment.raises) = false := by simp [running, fine]
      cases task with
      | idle => exact call_turned sound
      | run id job phase => exact run_turned sound phase
      | pin id pinned => exact turned_apart sound trivial rfl fun _ _ _ held => held
      | queue accountId runId phase => exact queue_turned sound phase
      | download id runId accountId phase =>
        refine download_turned sound relies .inr fun failed => .inl ?_
        subst failed
        simp [failing, goes]
      | recover phase =>
        refine recover_turned sound phase fun item rest reads started => .inl ?_
        subst reads
        simp [failing, goes, started]

theorem preparing_phase (busy : preparing task = some id) :
    ∃ runId accountId phase, task = .download id runId accountId phase ∧ (isEarly phase || isLate phase) = true := by
  cases task with
  | download other runId accountId phase =>
    unfold preparing at busy
    dsimp only at busy
    split at busy
    · next works =>
      cases busy
      exact ⟨runId, accountId, phase, rfl, works⟩
    · cases busy
  | _ => cases busy

theorem relies_turned {server : Panel} {who : Nat × Moment} (permitted : calm → Undisturbed server who)
    (holds : Tasks.Holds (Sound calm quotaHardMb) (Relies calm quotaHardMb) server) {left : Store} (j : Nat)
    (other : j ≠ who.1) (leaves : Leaves calm who.1 (Touches who.2 (server.task who.1)) server.store left) :
    Relies calm quotaHardMb j (server.task j) left := by
  cases found : server.task j with
  | download id runId accountId phase =>
    have relies := holds.relied j
    rw [found] at relies
    refine WorkerRelies.others relies other leaves fun isCalm touched busy => ?_
    rcases touched with fails | own
    · refine permitted isCalm id fails j ?_
      rw [found]
      simp only [preparing, busy, if_true]
    · obtain ⟨runId', accountId', phase', same, busy'⟩ := preparing_phase own
      have mine := holds.relied who.1
      rw [same] at mine
      exact other (preparing_apart relies mine busy busy')
  | _ => exact trivial

/-- In every interleaving the shared facts hold, and every worker has what it relies on. -/
theorem reaches_holds {allowed : Panel → Nat × Moment → Prop}
    (permits : calm → ∀ server who, allowed server who → Undisturbed server who) {start server : Panel}
    (initial : Tasks.Holds (Sound calm quotaHardMb) (Relies calm quotaHardMb) start)
    (reached : Reaches quotaHardMb allowed start server) :
    Tasks.Holds (Sound calm quotaHardMb) (Relies calm quotaHardMb) server := by
  refine Tasks.Reaches.holds_at initial (fun server who permitted holds => ?_) reached
  have turned : Turned calm quotaHardMb who.1 _ server.store
      (advance quotaHardMb who.1 who.2 (server.task who.1) server.store) :=
    advance_turned holds.shared (holds.relied who.1)
  exact ⟨turned.sound, turned.relies, fun j other =>
    relies_turned (fun isCalm => permits isCalm server who permitted) holds j other turned.leaves⟩

theorem fresh_holds : Tasks.Holds (Sound calm quotaHardMb) (Relies calm quotaHardMb) Panel.fresh :=
  ⟨⟨List.nodup_nil, fun _ => Nat.zero_le _, fun _ _ => Nat.zero_le _⟩, fun _ => trivial⟩

/-- While no worker at work is disturbed, every download only goes on. -/
theorem rows_onward {server later : Panel} (holds : Tasks.Holds (Sound True quotaHardMb) (Relies True quotaHardMb) server)
    (reached : Reaches quotaHardMb Undisturbed server later) :
    ∀ id row, server.store.download id = some row →
      ∃ row', later.store.download id = some row' ∧ rank row.status ≤ rank row'.status := by
  induction reached with
  | start => exact fun id row found => ⟨row, found, Nat.le_refl _⟩
  | @next mid who before permitted ih =>
    intro id row found
    obtain ⟨between, found', grown⟩ := ih id row found
    have held := reaches_holds (fun _ _ _ allowed => allowed) holds before
    have turned : Turned True quotaHardMb who.1 _ mid.store
        (advance quotaHardMb who.1 who.2 (mid.task who.1) mid.store) :=
      advance_turned held.shared (held.relied who.1)
    obtain ⟨row', found'', onward, _⟩ := turned.leaves.rows id between found'
    exact ⟨row', found'', Nat.le_trans grown (onward.rank trivial)⟩

end

/-- The ready downloads of an account fit its allowance in every interleaving. An account has one
active download at most, and a failed or expired download is never ready again, while no failure
is recorded on a download whose worker is between its status check and its publication. -/
theorem prepared_downloads (quotaHardMb : Nat → Nat) :
    (∀ server, Reaches quotaHardMb (fun _ _ => True) Panel.fresh server → ∀ accountId,
      server.store.readyBytes accountId (fun _ => true) ≤ allowance quotaHardMb accountId) ∧
    ∀ server, Reaches quotaHardMb Undisturbed Panel.fresh server →
      (∀ accountId, server.store.downloads.countP (activeOf accountId) ≤ 1) ∧
      ∀ later, Reaches quotaHardMb Undisturbed server later → ∀ id row row',
        server.store.download id = some row → later.store.download id = some row' →
          row.status = .failed ∨ row.status = .expired → row'.status = .failed ∨ row'.status = .expired := by
  constructor
  · intro server reached
    have holds : Tasks.Holds (Sound False quotaHardMb) (Relies False quotaHardMb) server :=
      reaches_holds (fun never => never.elim) fresh_holds reached
    exact holds.shared.budget
  · intro server reached
    have holds : Tasks.Holds (Sound True quotaHardMb) (Relies True quotaHardMb) server :=
      reaches_holds (fun _ _ _ allowed => allowed) fresh_holds reached
    refine ⟨holds.shared.one trivial, fun later afterwards id row row' found found' ended => ?_⟩
    obtain ⟨same, now, grown⟩ := rows_onward holds afterwards id row found
    rw [found'] at now
    cases now
    have last : rank row.status = 3 := by
      rcases ended with failed | expired
      · rw [failed]
        rfl
      · rw [expired]
        rfl
    cases status : row'.status with
    | failed => exact .inl rfl
    | expired => exact .inr rfl
    | pending | running | ready =>
      rw [status, last] at grown
      exact absurd grown (by decide)

def calmTurns (quotaHardMb : Nat → Nat) : List (Nat × Moment) → Panel → Bool
  | [], _ => true
  | who :: rest, panel =>
    (failing who.2 (panel.task who.1)).isEmpty && calmTurns quotaHardMb rest (panel.turn (advance quotaHardMb) who)

theorem reaches_calm {quotaHardMb : Nat → Nat} {start panel : Panel} (reached : Reaches quotaHardMb Undisturbed start panel)
    (turns : List (Nat × Moment)) (calm : calmTurns quotaHardMb turns panel = true) :
    Reaches quotaHardMb Undisturbed start (panel.after (advance quotaHardMb) turns) := by
  induction turns generalizing panel with
  | nil => exact reached
  | cons who rest ih =>
    obtain ⟨none, further⟩ := Bool.and_eq_true_iff.mp calm
    refine ih (reached.next who fun id member => ?_) further
    rw [List.isEmpty_iff.mp none] at member
    cases member

def queuedDownload : List (Nat × Moment) :=
  checkedRun ++ turnsOf 1 12 ++ (2, .calling (.queueDownload 1 1)) :: turnsOf 2 4

def publishedDownload : List (Nat × Moment) := (3, .calling (.executeDownload 1)) :: turnsOf 3 11

/-- A clean-up when the prepared files are a day old. -/
def dayLater : Moment := { Moment.plain with now := 24 * 60 * 60 }

theorem prepared_downloads_published :
    let server := Panel.fresh.after (advance fun _ => 0) (queuedDownload ++ publishedDownload ++ [(4, dayLater)])
    let later := server.after (advance fun _ => 0) ((5, .calling (.executeDownload 1)) :: turnsOf 5 5)
    server.store.readyBytes 1 (fun _ => true) ≤ allowance (fun _ => 0) 1 ∧
      server.store.downloads.countP (activeOf 1) ≤ 1 ∧
      ∀ row', later.store.download 1 = some row' → row'.status = .failed ∨ row'.status = .expired := by
  intro server later
  have reached : Reaches (fun _ => 0) Undisturbed Panel.fresh server := reaches_calm .start _ (by decide)
  have afterwards : Reaches (fun _ => 0) Undisturbed server later := reaches_calm .start _ (by decide)
  obtain ⟨within, ends⟩ := prepared_downloads fun _ => 0
  obtain ⟨one, onward⟩ := ends server reached
  refine ⟨within server (Tasks.Reaches.after .start _) 1, one 1, fun row' found => ?_⟩
  have known : ∃ row, server.store.download 1 = some row ∧ row.status = .expired := by decide
  obtain ⟨row, found', expired⟩ := known
  exact onward later afterwards 1 row row' found' found (.inr expired)

/-- A recovery marks the running download failed, and its worker publishes it afterwards. -/
theorem failed_download_returns : ∃ server later, Reaches (fun _ => 0) (fun _ _ => True) Panel.fresh server ∧
      Reaches (fun _ => 0) (fun _ _ => True) server later ∧
      (server.store.download 1).map SnapshotDownload.status = some .failed ∧
      (later.store.download 1).map SnapshotDownload.status = some .ready :=
  ⟨_, _, Tasks.Reaches.after .start (queuedDownload ++ (3, .calling (.executeDownload 1)) :: turnsOf 3 7
      ++ (4, .calling .recoverRuns) :: turnsOf 4 3),
    Tasks.Reaches.after .start (turnsOf 3 3), by decide, by decide⟩

end Boron.SnapshotJobs.Downloads
