import Boron.Accounts.KernelQuotas
import Boron.Accounts.Reselling

namespace Boron.Accounts.Quotas

section
variable {panel : Panel} {i : Nat} {who : Nat × Moment} {task : Task} {store left : Store} {moment : Moment} {call : Call}

theorem after_tables (steady : Steady panel) (was : Quiet (panel.task i)) (accounts : left.accounts = panel.store.accounts)
    (kernel : left.kernel = panel.store.kernel)
    (locks : ∀ lock j, j ≠ i → panel.store.locks lock = some j → left.locks lock = some j) (own : Relies i task left)
    (quiet : Quiet task) : After panel i (task, left) := by
  have frame : Frame i (fun _ => False) panel.store left := by
    refine ⟨locks, fun username _ => ?_, fun username _ => by rw [kernel]⟩
    unfold Store.account
    rw [accounts]
  refine after_quiet steady frame accounts own ?_ ?_ (fun username inside => ?_) fun username renews => ?_
  · rw [quiet.writes, was.writes]
  · rw [quiet.records, was.records]
  · rw [quiet.enforces] at inside
    cases inside
  · rw [quiet.renews] at renews
    cases renews

variable {username : String}

theorem manages_relies {action : Action} {row : Account} (found : store.account username = some row) :
    Relies i (.manage action username row.id .lock) store :=
  ⟨⟨row, found, rfl, nofun, nofun⟩, fun past => absurd rfl past⟩

theorem creates_relies {owner : Option Nat} {softMb hardMb : Nat} :
    Relies i (.create owner username softMb hardMb .lock) store :=
  ⟨fun past => absurd rfl past, nofun, nofun⟩

theorem applies_relies {planId : Nat} : Relies i (.apply username (.lock planId)) store :=
  ⟨fun past => absurd rfl (past planId), fun _ stands => by rcases stands with never | never <;> cases never⟩

theorem call_after (steady : Steady panel) (stands : panel.task i = .idle)
    (free : moment.call = .enforceDue → ∀ candidate ∈ panel.store.candidates moment.now, ∀ j,
      writing (panel.task j) ≠ some candidate.username) : After panel i (callTurn moment panel.store) := by
  have was : Quiet (panel.task i) := by
    rw [stands]
    exact ⟨rfl, rfl, rfl, rfl⟩
  have starts (task : Task) (own : Relies i task panel.store) (quiet : Quiet task) : After panel i (task, panel.store) :=
    after_tables steady was rfl rfl (fun _ _ _ held => held) own quiet
  unfold callTurn
  cases called : moment.call with
  | createAccount username softMb hardMb => exact starts _ creates_relies ⟨rfl, rfl, rfl, rfl⟩
  | applyPlan username planId => exact starts _ applies_relies ⟨rfl, rfl, rfl, rfl⟩
  | manage action username =>
    dsimp only
    cases found : panel.store.account username with
    | none => exact starts _ trivial ⟨rfl, rfl, rfl, rfl⟩
    | some row => exact starts _ (manages_relies found) (manage_quiet action username row.id (by simp))
  | enforceDue => exact reconcile_after steady stands moment.now (free called)
  | savePlan planId plan =>
    exact after_tables steady was rfl rfl (fun _ _ _ held => held) trivial ⟨rfl, rfl, rfl, rfl⟩
  | createResellerAccount | lifecycle | moveAccount | updateReseller | updatePlan =>
    exact starts _ trivial ⟨rfl, rfl, rfl, rfl⟩

/-- What the reseller module writes leaves the accounts and the kernel alone. -/
structure SameAccounts (store left : Store) : Prop where
  accounts : left.accounts = store.accounts
  kernel : left.kernel = store.kernel
  locks : left.locks = store.locks

theorem moveAccount_same {target : Option Nat} (done : store.moveAccount username target = some left) :
    SameAccounts store left := by
  obtain ⟨row, _, _, rfl | rfl | ⟨profileId, profile, plan, _, _, _, rfl⟩⟩ := moveAccount_cases done
  · exact ⟨rfl, rfl, rfl⟩
  · exact ⟨rfl, rfl, rfl⟩
  · exact ⟨rfl, rfl, rfl⟩

theorem updateReseller_same {profileId : Nat} {planId : Option Nat} {active : Option Bool}
    (done : store.updateReseller profileId planId active = some left) : SameAccounts store left := by
  unfold Store.updateReseller at done
  split at done
  · cases done
  · split at done
    · cases done
      exact ⟨rfl, rfl, rfl⟩
    · cases done

theorem updatePlan_same {planId : Nat} {params : PlanParams} (done : store.updatePlan planId params = some left) :
    SameAccounts store left := by
  unfold Store.updatePlan at done
  split at done
  · cases done
  · split at done
    · cases done
    · split at done
      · cases done
        exact ⟨rfl, rfl, rfl⟩
      · cases done

theorem link_same {profileId accountId : Nat} (done : store.link profileId username accountId = some left) :
    SameAccounts store left := by
  unfold Store.link at done
  split at done
  · cases done
  · split at done
    · cases done
      exact ⟨rfl, rfl, rfl⟩
    · cases done

theorem state_after (steady : Steady panel) (stands : panel.task i = .wait call) (unlocked : panel.store.locks .state = none) :
    After panel i (stateTurn i call (panel.store.acquire i .state)) := by
  have was : Quiet (panel.task i) := by
    rw [stands]
    exact ⟨rfl, rfl, rfl, rfl⟩
  have calm : Quiet .idle := ⟨rfl, rfl, rfl, rfl⟩
  have held (lock : LockName) (j : Nat) (mine : panel.store.locks lock = some j) :
      (panel.store.acquire i .state).locks lock = some j := acquire_locks unlocked mine
  have starts (task : Task) (own : Relies i task (panel.store.acquire i .state)) (quiet : Quiet task) :
      After panel i (task, panel.store.acquire i .state) :=
    after_tables steady was rfl rfl (fun lock j _ mine => held lock j mine) own quiet
  have leaves (result : Option Store) (same : ∀ left, result = some left → SameAccounts (panel.store.acquire i .state) left) :
      After panel i (leave i (result.getD (panel.store.acquire i .state))) := by
    cases result with
    | none => exact after_tables steady was rfl rfl (fun lock j other mine => release_locks other (held lock j mine)) trivial calm
    | some left =>
      obtain ⟨accounts, kernel, locks⟩ := same left rfl
      refine after_tables steady was accounts kernel (fun lock j other mine => release_locks other ?_) trivial calm
      rw [Option.getD_some, locks]
      exact held lock j mine
  cases call with
  | createResellerAccount resellerUsername username =>
    unfold stateTurn
    dsimp only
    split
    · exact leaves none nofun
    · exact starts _ creates_relies ⟨rfl, rfl, rfl, rfl⟩
  | lifecycle action resellerUsername username =>
    unfold stateTurn
    dsimp only
    split
    · next row _ found => exact starts _ (manages_relies found) (manage_quiet action username row.id (by simp))
    · exact leaves none nofun
  | moveAccount username target => exact leaves _ fun left done => moveAccount_same done
  | updateReseller profileId planId active => exact leaves _ fun left done => updateReseller_same done
  | updatePlan planId params => exact leaves _ fun left done => updatePlan_same done
  | createAccount | applyPlan | manage | enforceDue | savePlan => exact leaves none nofun

/-- Every turn of a separate run. -/
theorem task_after (steady : Steady panel) (separate : Separate panel who) :
    After panel who.1 (taskTurn who.1 who.2 (panel.task who.1) panel.store) := by
  cases stands : panel.task who.1 with
  | idle => exact call_after steady stands (separate.reconciles stands)
  | create owner username softMb hardMb phase => exact create_after steady stands
  | link owner username accountId =>
    have was : Quiet (panel.task who.1) := by
      rw [stands]
      exact ⟨rfl, rfl, rfl, rfl⟩
    unfold taskTurn
    dsimp only
    cases done : panel.store.link owner username accountId with
    | none => exact after_tables steady was rfl rfl (fun _ _ _ held => held) trivial ⟨rfl, rfl, rfl, rfl⟩
    | some linked =>
      obtain ⟨accounts, kernel, locks⟩ := link_same done
      refine after_tables steady was accounts kernel (fun lock j _ held => ?_) trivial ⟨rfl, rfl, rfl, rfl⟩
      rw [locks]
      exact held
  | reconcile username => exact after_leave steady (by rw [stands]; rfl) (by rw [stands]; rfl)
  | compensate username =>
    have was : Quiet (panel.task who.1) := by
      rw [stands]
      exact ⟨rfl, rfl, rfl, rfl⟩
    unfold taskTurn
    dsimp only
    cases found : panel.store.account username with
    | none => exact after_leave steady was.writes was.records
    | some row =>
      exact after_tables steady was rfl rfl (fun _ _ _ held => held) (manages_relies found) (manage_quiet .terminate username row.id (by simp))
  | apply username phase =>
    refine apply_after steady stands fun planId commits => ?_
    subst commits
    exact separate.applies username planId stands
  | manage action username id phase =>
    refine manage_after steady stands fun softMb hardMb acts sets => ?_
    subst acts sets
    exact separate.reactivates softMb hardMb username id stands
  | enforce phase candidates => exact enforce_after steady stands
  | wait call =>
    unfold taskTurn
    cases unlocked : panel.store.locks .state with
    | none => exact state_after steady stands unlocked
    | some holder =>
      refine after_on steady trivial ?_ ?_ nofun nofun
      · rw [stands]
      · rw [stands]

theorem steady_turn (steady : Steady panel) (separate : Separate panel who) : Steady (panel.turn advance who) := by
  refine After.steady ?_ steady
  unfold advance
  rw [separate.calm.1, separate.calm.2]
  exact task_after steady separate

end

def expected (row : Account) : Limits :=
  if isEnforced row then blocks row.quotaSoftMb row.quotaHardMb row.inodeSoftLimit row.inodeHardLimit
  else blocks row.quotaSoftMb row.quotaHardMb 0 0

structure Begins (panel : Panel) : Prop where
  ids : Rows.Unique Account.id panel.store.accounts
  names : Rows.Unique Account.username panel.store.accounts
  idle : ∀ i, panel.task i = .idle
  kernel : ∀ row ∈ panel.store.accounts, row.status.isLive = true → panel.store.kernel row.username = some (expected row)

theorem begins_steady {start : Panel} (begins : Begins start) : Steady start := by
  have known (username : String) (row : Account) (found : start.store.account username = some row) (live : row.status.isLive = true) :
      start.store.kernel username = some (expected row) := by
    obtain ⟨member, named⟩ := Rows.byKey_some found
    rw [← named]
    exact begins.kernel row member live
  have calm (task : Task) : Apart .idle task := ⟨nofun, nofun⟩
  refine ⟨begins.ids, begins.names, fun i => ?_, fun i j _ => ?_, fun username row found live => ⟨_, known username row found live⟩,
    fun username row limits found live sent _ => .inl ?_⟩
  · rw [begins.idle i]
    exact trivial
  · rw [begins.idle i]
    exact calm _
  · rw [known username row found live] at sent
    cases sent
    rfl

theorem reaches_steady {start server : Panel} (begins : Begins start) (reached : Reaches Separate start server) : Steady server := by
  induction reached with
  | start => exact begins_steady begins
  | next who _ separate ih => exact steady_turn ih separate

/-- What the panel shows of an account is what the kernel has. -/
structure Shown (row : Account) (limits : Limits) (now : Nat) : Prop where
  softBlocks : limits.softBlocks = row.quotaSoftMb * 1024
  hardBlocks : limits.hardBlocks = row.quotaHardMb * 1024
  enforced : row.enforcementState now = .enforced → limits.inodeSoft = row.inodeSoftLimit ∧ limits.inodeHard = row.inodeHardLimit
  free : row.enforcementState now = .warning ∨ row.enforcementState now = .unlimited → limits.inodeSoft = 0 ∧ limits.inodeHard = 0

theorem isEnforced_iff (row : Account) (now : Nat) : isEnforced row = true ↔ row.enforcementState now = .enforced := by
  unfold isEnforced Account.enforcementState
  by_cases unlimited : row.inodeHardLimit = 0
  · simp [unlimited]
  · cases dated : row.inodeEnforceAt with
    | none => simp [unlimited]
    | some due =>
      by_cases early : now < due
      · simp [unlimited, early]
      · simp [unlimited, early]

theorem expected_shown (row : Account) (now : Nat) : Shown row (expected row) now := by
  unfold expected
  cases enforced : isEnforced row with
  | true =>
    have state := (isEnforced_iff row now).mp enforced
    refine ⟨rfl, rfl, fun _ => ⟨rfl, rfl⟩, fun free => ?_⟩
    rw [state] at free
    rcases free with never | never <;> cases never
  | false =>
    refine ⟨rfl, rfl, fun state => ?_, fun _ => ⟨rfl, rfl⟩⟩
    rw [(isEnforced_iff row now).mpr state] at enforced
    cases enforced

/-- Whenever no operation is in progress, the kernel has what the panel shows of each active or
suspended account: in every run in which nothing fails, plans and reactivations keep clear of a
reconciliation that has read the same account, and no account with enforced inode limits is
reactivated. -/
theorem kernel_quotas {start server : Panel} (begins : Begins start) (reached : Reaches Separate start server)
    (idle : ∀ i, server.task i = .idle) (now : Nat) (row : Account) (member : row ∈ server.store.accounts)
    (live : row.status.isLive = true) : ∃ limits, server.store.kernel row.username = some limits ∧ Shown row limits now := by
  have steady := reaches_steady begins reached
  have found : server.store.account row.username = some row := Rows.byKey_of_mem steady.names member
  obtain ⟨limits, sent⟩ := steady.present row.username row found live
  have free (j : Nat) : writing (server.task j) ≠ some row.username := by
    rw [idle j]
    exact nofun
  refine ⟨limits, sent, ?_⟩
  rcases steady.agrees row.username row limits found live sent free with same | ⟨⟨j, records⟩, _⟩
  · have same' : limits = expected row := same
    rw [same']
    exact expected_shown row now
  · rw [idle j] at records
    cases records

theorem separate_alone {panel : Panel} {who : Nat × Moment} (alone : ∀ j, j ≠ who.1 → panel.task j = .idle)
    (calm : who.2.stops = false ∧ who.2.raises = false)
    (fresh : ∀ softMb hardMb username id, panel.task who.1 ≠ .manage (.reactivate softMb hardMb) username id .setQuota) :
    Separate panel who := by
  refine ⟨calm, fun username planId applies j => ?_, fun idle _ candidate _ j => ?_, fun softMb hardMb username id never =>
    absurd never (fresh softMb hardMb username id)⟩
  · by_cases own : j = who.1
    · subst own
      rw [applies]
      exact nofun
    · rw [alone j own]
      exact nofun
  · by_cases own : j = who.1
    · subst own
      rw [idle]
      exact nofun
    · rw [alone j own]
      exact nofun

def isReactivating : Task → Bool
  | .manage (.reactivate ..) _ _ .setQuota => true
  | _ => false

def isIdle : Task → Bool
  | .idle => true
  | _ => false

theorem isIdle_iff {task : Task} : isIdle task = true ↔ task = .idle := by
  cases task <;> simp [isIdle]

/-- Turns of one worker alone, with no failure and no reactivation. -/
def steadyTurns : List (Nat × Moment) → Panel → Bool
  | [], _ => true
  | who :: rest, panel => who.1 = 0 && !who.2.stops && !who.2.raises && !isReactivating (panel.task 0)
      && steadyTurns rest (panel.turn advance who)

theorem reaches_alone {start panel : Panel} (reached : Reaches Separate start panel) (alone : ∀ j, j ≠ 0 → panel.task j = .idle)
    (turns : List (Nat × Moment)) (checked : steadyTurns turns panel = true) :
    Reaches Separate start (panel.after advance turns) ∧ ∀ j, j ≠ 0 → (panel.after advance turns).task j = .idle := by
  induction turns generalizing panel with
  | nil => exact ⟨reached, alone⟩
  | cons who rest ih =>
    unfold steadyTurns at checked
    simp only [Bool.and_eq_true, decide_eq_true_eq, Bool.not_eq_true'] at checked
    obtain ⟨⟨⟨⟨zero, stops⟩, raises⟩, fresh⟩, further⟩ := checked
    have separate : Separate panel who := by
      refine separate_alone (fun j other => alone j (zero ▸ other)) ⟨stops, raises⟩ fun softMb hardMb username id stands => ?_
      rw [zero] at stands
      rw [stands] at fresh
      cases fresh
    refine ih (reached.next who separate) (fun j other => ?_) further
    rw [Tasks.turn_other (zero ▸ other)]
    exact alone j other

def emptyPanel : Panel :=
  { store := { accounts := [], panelUsers := [], plans := fun _ => none, resellerPlans := [], profiles := []
               resellerAccounts := [], kernel := fun _ => none, locks := fun _ => none }
    task := fun _ => .idle }

theorem emptyPanel_begins : Begins emptyPanel := ⟨List.nodup_nil, List.nodup_nil, fun _ => rfl, nofun⟩

def Moment.later (moment : Moment) : Moment := { moment with now := 7 * 24 * 60 * 60 }

/-- An account is created, and seven days later its inode limits are enforced. -/
def enforcedTurns : List (Nat × Moment) :=
  (0, .calling (.createAccount "alice" 4096 5120)) :: turnsOf 0 7 ++ (0, Moment.later (.calling .enforceDue)) :: turnsOf 0 3

def enforcedRow : Account :=
  { id := 1, username := "alice", status := .active, quotaSoftMb := 4096, quotaHardMb := 5120, inodeSoftLimit := 450000
    inodeHardLimit := 500000, inodeEnforceAt := none }

theorem kernel_quotas_applied :
    ∃ limits, (emptyPanel.after advance enforcedTurns).store.kernel "alice" = some limits ∧ Shown enforcedRow limits 700000 := by
  have checked : steadyTurns enforcedTurns emptyPanel = true := by decide +kernel
  obtain ⟨reached, alone⟩ := reaches_alone .start (fun _ _ => rfl) enforcedTurns checked
  refine kernel_quotas emptyPanel_begins reached (fun i => ?_) 700000 enforcedRow (by decide +kernel) rfl
  by_cases own : i = 0
  · subst own
    exact isIdle_iff.mp (by decide +kernel)
  · exact alone i own

theorem reaches_calm {start panel : Panel} (reached : Reaches (fun _ who => who.2.stops = false ∧ who.2.raises = false) start panel)
    (turns : List (Nat × Moment)) (calm : ∀ who ∈ turns, who.2.stops = false ∧ who.2.raises = false) :
    Reaches (fun _ who => who.2.stops = false ∧ who.2.raises = false) start (panel.after advance turns) := by
  induction turns generalizing panel with
  | nil => exact reached
  | cons who rest ih =>
    exact ih (reached.next who (calm who List.mem_cons_self)) fun other member => calm other (List.mem_cons_of_mem who member)

/-- The inode limits of an account are enforced; the account is terminated and reactivated. -/
def renewedTurns : List (Nat × Moment) :=
  enforcedTurns ++ (0, .calling (.manage .terminate "alice")) :: turnsOf 0 6
    ++ (0, .calling (.manage (.reactivate 4096 5120) "alice")) :: turnsOf 0 7

/-- The panel shows the inode limits as enforced, and the kernel has none. -/
theorem inode_limits_lost :
    ∃ server, Reaches (fun _ who => who.2.stops = false ∧ who.2.raises = false) emptyPanel server ∧
      (∀ i, server.task i = .idle) ∧
      ∃ row ∈ server.store.accounts, row.status.isLive = true ∧ row.enforcementState 700000 = .enforced ∧
        row.inodeHardLimit = 500000 ∧
        server.store.kernel row.username = some { softBlocks := 4096 * 1024, hardBlocks := 5120 * 1024, inodeSoft := 0, inodeHard := 0 } := by
  have calm : ∀ who ∈ renewedTurns, who.2.stops = false ∧ who.2.raises = false := by decide
  have mine : ∀ who ∈ renewedTurns.map Prod.fst, who = 0 := by decide
  refine ⟨_, reaches_calm .start renewedTurns calm, fun i => ?_, enforcedRow, ?_⟩
  · by_cases own : i = 0
    · subst own
      exact isIdle_iff.mp (by decide +kernel)
    · refine Tasks.task_after _ _ fun who member => ?_
      rw [mine who.1 (List.mem_map_of_mem member)]
      exact own
  · decide +kernel

end Boron.Accounts.Quotas
