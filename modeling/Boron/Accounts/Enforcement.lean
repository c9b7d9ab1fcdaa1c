import Boron.Accounts.Quotas

namespace Boron.Accounts.Quotas
open Rows

section
variable {panel : Panel} {i j : Nat} {task task' : Task} {store left : Store} {name username : String} {row later : Account}
  {moment : Moment}

theorem frame_release : Frame i (fun _ => False) store (store.release i) :=
  ⟨fun _ _ other held => release_locks other held, fun _ _ => rfl, fun _ _ => rfl⟩

theorem frame_acquire {lock : LockName} (free : store.locks lock = none) : Frame i (fun _ => False) store (store.acquire i lock) :=
  ⟨fun _ _ _ held => acquire_locks free held, fun _ _ => rfl, fun _ _ => rfl⟩

theorem frame_same (accounts : left.accounts = store.accounts) (kernel : left.kernel = store.kernel) (locks : left.locks = store.locks) :
    Frame i (fun _ => False) store left := by
  refine ⟨fun lock j _ held => ?_, fun username _ => ?_, fun username _ => ?_⟩
  · rw [locks]
    exact held
  · unfold Store.account
    rw [accounts]
  · rw [kernel]

theorem after_leave (steady : Steady panel) (writes : writing (panel.task i) = none) (records : recording (panel.task i) = none) :
    After panel i (leave i panel.store) :=
  after_quiet steady frame_release rfl trivial writes.symm records.symm nofun nofun

theorem after_on (steady : Steady panel) (own : Relies i task panel.store) (writes : writing task = writing (panel.task i))
    (records : recording task = recording (panel.task i))
    (enforces : ∀ username ∈ enforcing task, username ∈ enforcing (panel.task i))
    (renews : ∀ username, renewing task = some username → renewing (panel.task i) = some username) : After panel i (task, panel.store) :=
  after_quiet steady (frame_same rfl rfl rfl) rfl own writes records enforces renews

theorem after_tryLock {lock : LockName} (steady : Steady panel) (own : Relies i task (panel.store.acquire i lock))
    (quiet : writing (panel.task i) = none ∧ recording (panel.task i) = none)
    (still : writing task = none ∧ recording task = none ∧ enforcing task = [] ∧ renewing task = none) :
    After panel i (tryLock i lock task panel.store) := by
  unfold tryLock
  split
  · next free =>
    refine after_quiet steady (frame_acquire free) rfl own ?_ ?_ (fun username inside => ?_) fun username renews => ?_
    · rw [still.1, quiet.1]
    · rw [still.2.1, quiet.2]
    · rw [still.2.2.1] at inside
      cases inside
    · rw [still.2.2.2] at renews
      cases renews
  · exact after_leave steady quiet.1 quiet.2

/-- A task that only waits, holds locks or is idle. -/
structure Quiet (task : Task) : Prop where
  writes : writing task = none
  records : recording task = none
  enforces : enforcing task = []
  renews : renewing task = none

theorem Quiet.apart (quiet : Quiet task) (other : Task) : Apart task other ∧ Apart other task := by
  refine ⟨⟨fun username writes => ?_, fun username renews => ?_⟩, fun username _ inside => ?_, fun username _ => ⟨fun inside => ?_, fun writes => ?_⟩⟩
  · rw [quiet.writes] at writes
    cases writes
  · rw [quiet.renews] at renews
    cases renews
  · rw [quiet.enforces] at inside
    cases inside
  · rw [quiet.enforces] at inside
    cases inside
  · rw [quiet.writes] at writes
    cases writes

theorem after_dead (steady : Steady panel) (frame : Frame i (· = name) panel.store left)
    (accounts : left.accounts = panel.store.accounts)
    (mine : (∃ row, panel.store.account name = some row) ∨ panel.store.locks .databaseMutations = some i)
    (dead : ∀ row, panel.store.account name = some row → row.status.isLive = false)
    (renews : ∀ j, j ≠ i → renewing (panel.task j) ≠ some name) (was : Quiet (panel.task i)) (own : Relies i task left)
    (apart : ∀ j, j ≠ i → Apart task (panel.task j) ∧ Apart (panel.task j) task) (writes : writing task = none) :
    After panel i (task, left) := by
  have same (username : String) : left.account username = panel.store.account username := by
    unfold Store.account
    rw [accounts]
  have elsewhere : Elsewhere panel i name (task, left) := by
    refine ⟨frame, ⟨fun username writes => ?_, fun username records => ?_⟩, fun username writes' => ?_⟩
    · rw [was.writes] at writes
      cases writes
    · rw [was.records] at records
      cases records
    · rw [writes] at writes'
      cases writes'
  have gone (row : Account) (found : left.account name = some row) (live : row.status.isLive = true) : False := by
    rw [same] at found
    rw [dead row found] at live
    cases live
  refine ⟨?_, ?_, own, fun j other => ?_, apart, elsewhere.present steady fun row found live => (gone row found live).elim,
    elsewhere.agrees steady fun row limits found live _ _ _ => (gone row found live).elim⟩
  · rw [accounts]
    exact steady.ids
  · rw [accounts]
    exact steady.names
  · refine kernel_others (steady.relies j) other frame accounts mine (renews j other) fun _ row found live => ?_
    rw [dead row found] at live
    cases live

theorem frame_setKernel (limits : Option Limits) : Frame i (· = name) store (store.setKernel name limits) := by
  refine ⟨fun _ _ _ held => held, fun _ _ => rfl, fun username different => ?_⟩
  unfold Store.setKernel
  dsimp only
  rw [if_neg different]

theorem kernel_setKernel (limits : Option Limits) : (store.setKernel name limits).kernel name = limits := by
  simp [Store.setKernel]

theorem setQuota_cases {softMb hardMb inodeSoft inodeHard : Nat}
    (set : store.setQuota name softMb hardMb inodeSoft inodeHard = some left) :
    left = store.setKernel name (some (blocks softMb hardMb inodeSoft inodeHard)) := by
  unfold Store.setQuota at set
  split at set
  · cases set
  · split at set
    · cases set
    · cases set
      rfl

theorem setQuota_none {softMb hardMb : Nat} (failed : store.setQuota name softMb hardMb 0 0 = none) : store.kernel name = none := by
  unfold Store.setQuota at failed
  split at failed
  · next missing => exact missing
  · split at failed
    · next wrong => exact absurd rfl wrong.1
    · cases failed

theorem Frame.release {touched : String → Prop} (frame : Frame i touched store left) : Frame i touched store (left.release i) :=
  ⟨fun lock j other held => release_locks other (frame.locks lock j other held), frame.account, frame.kernel⟩

theorem renewing_found (relies : Relies j task store) (renews : renewing task = some name) :
    ∃ row, store.account name = some row ∧ row.status.isLive = false ∧ store.locks (.account row.id) = some j := by
  cases task with
  | manage action username id phase =>
    obtain ⟨⟨row, found, named, dead, _⟩, locked⟩ := relies
    cases action <;> cases phase <;> cases renews
    refine ⟨row, found, dead rfl, ?_⟩
    rw [named]
    exact locked (by simp)
  | _ => cases renews

end

section Creation
variable {panel : Panel} {i : Nat} {owner : Option Nat} {username : String} {softMb hardMb : Nat} {moment : Moment}

theorem create_quiet (phase : CreatePhase) : Quiet (.create owner username softMb hardMb phase) := ⟨rfl, rfl, rfl, rfl⟩

theorem after_new {left : Store} {task : Task} (steady : Steady panel) {phase : CreatePhase}
    (stands : panel.task i = .create owner username softMb hardMb phase) (isNew : isNew phase = true)
    (frame : Frame i (· = username) panel.store left) (accounts : left.accounts = panel.store.accounts)
    (own : Relies i task left) (quiet : Quiet task) : After panel i (task, left) := by
  have relies := steady.relies i
  rw [stands] at relies
  obtain ⟨locked, new, _⟩ := relies
  have absent := new isNew
  have held : panel.store.locks .databaseMutations = some i := locked (by rintro rfl; cases isNew)
  refine after_dead steady frame accounts (.inr held) (fun row found => ?_) (fun j _ renews => ?_) ?_ own
    (fun j _ => quiet.apart _) quiet.writes
  · rw [absent] at found
    cases found
  · obtain ⟨row, found, _⟩ := renewing_found (steady.relies j) renews
    rw [absent] at found
    cases found
  · rw [stands]
    exact create_quiet phase

theorem insert_after {added : Store} (steady : Steady panel) (stands : panel.task i = .create owner username softMb hardMb .insert)
    (inserted : panel.store.addAccount username softMb hardMb moment.now = some added) (accountId : Nat) :
    After panel i (.create owner username softMb hardMb (.provision accountId), added) := by
  have relies := steady.relies i
  rw [stands] at relies
  obtain ⟨locked, new, set⟩ := relies
  have absent : panel.store.account username = none := new rfl
  have held := locked (by simp)
  unfold Store.addAccount at inserted
  dsimp only at inserted
  split at inserted
  · next panelUsers _ _ =>
    cases inserted
    generalize drawn : newAccount panel.store.accounts username softMb hardMb moment.now = row
    have title : row.username = username := by
      rw [← drawn]
      rfl
    have fresh (other : Account) (inside : other ∈ panel.store.accounts) : other.id ≠ row.id := by
      have less : other.id < next Account.id panel.store.accounts := lt_next inside
      have named : row.id = next Account.id panel.store.accounts := by
        rw [← drawn]
        rfl
      omega
    have lookup (other : String) (different : other ≠ username) :
        byKey Account.username (panel.store.accounts ++ [row]) other = panel.store.account other := by
      cases found : panel.store.account other with
      | some row' => exact byKey_append found
      | none =>
        refine byKey_none.mpr fun row' inside same => ?_
        rcases List.mem_append.mp inside with earlier | newest
        · exact byKey_none.mp found row' earlier same
        · rw [List.mem_singleton.mp newest, title] at same
          exact different same.symm
    have frame : Frame i (· = username) panel.store { panel.store with accounts := panel.store.accounts ++ [row], panelUsers } :=
      ⟨fun _ _ _ held => held, lookup, fun _ _ => rfl⟩
    have elsewhere : Elsewhere panel i username (.create owner username softMb hardMb (.provision accountId),
        { panel.store with accounts := panel.store.accounts ++ [row], panelUsers }) := by
      refine ⟨frame, ?_, nofun⟩
      rw [stands]
      exact ⟨nofun, nofun⟩
    refine ⟨unique_append steady.ids fresh, unique_append steady.names fun other inside => ?_, ⟨fun _ => held, nofun, nofun⟩,
      fun j other => insert_others (steady.relies j) other frame absent held, fun j _ => (create_quiet _).apart _,
      elsewhere.present steady fun _ _ _ => ⟨_, set rfl⟩, elsewhere.agrees steady fun row' limits found live known _ _ => .inl ?_⟩
    · rw [title]
      exact byKey_none.mp absent other inside
    · have only : row' = row := by
        obtain ⟨inside, same⟩ := byKey_some found
        rcases List.mem_append.mp inside with earlier | newest
        · exact absurd same (byKey_none.mp absent row' earlier)
        · exact List.mem_singleton.mp newest
      have same : some limits = some (blocks softMb hardMb 0 0) := known.symm.trans (set rfl)
      cases same
      rw [only, ← drawn]
      rfl
  · cases inserted

theorem create_after (steady : Steady panel) {phase : CreatePhase} (stands : panel.task i = .create owner username softMb hardMb phase) :
    After panel i (createTurn moment i owner username softMb hardMb phase panel.store) := by
  have relies := steady.relies i
  rw [stands] at relies
  obtain ⟨locked, new, set⟩ := relies
  have leaves : After panel i (leave i panel.store) := by
    refine after_leave steady ?_ ?_ <;> rw [stands] <;> rfl
  have on (phase' : CreatePhase) (own : Relies i (.create owner username softMb hardMb phase') panel.store) :
      After panel i (.create owner username softMb hardMb phase', panel.store) := by
    refine after_on steady own ?_ ?_ nofun nofun
    · rw [stands]
      rfl
    · rw [stands]
      rfl
  cases phase with
  | lock =>
    refine after_tryLock steady ⟨fun _ => ?_, nofun, nofun⟩ ?_ ⟨rfl, rfl, rfl, rfl⟩
    · simp [Store.acquire]
    · rw [stands]
      exact ⟨rfl, rfl⟩
  | check =>
    unfold createTurn
    dsimp only
    split
    · next fine =>
      refine on .useradd ⟨fun _ => locked (by simp), fun _ => ?_, nofun⟩
      have both := fine.1
      unfold Store.isNewName at both
      rw [Bool.and_eq_true] at both
      exact Option.isNone_iff_eq_none.mp both.1
    · exact leaves
  | useradd =>
    unfold createTurn
    dsimp only
    split
    · exact leaves
    · exact after_new steady stands rfl (frame_setKernel _) rfl
        ⟨fun _ => locked (by simp), fun _ => new rfl, nofun⟩ (create_quiet _)
  | prepareHome => exact on .setQuota ⟨fun _ => locked (by simp), fun _ => new rfl, nofun⟩
  | setQuota =>
    unfold createTurn
    dsimp only
    split
    · exact on .rollback ⟨fun _ => locked (by simp), fun _ => new rfl, nofun⟩
    · next left applied =>
      cases setQuota_cases applied
      exact after_new steady stands rfl (frame_setKernel _) rfl
        ⟨fun _ => locked (by simp), fun _ => new rfl, fun _ => kernel_setKernel _⟩ (create_quiet _)
  | insert =>
    unfold createTurn
    dsimp only
    split
    · exact on .rollback ⟨fun _ => locked (by simp), fun _ => new rfl, nofun⟩
    · next added inserted => exact insert_after steady stands inserted _
  | provision accountId =>
    unfold createTurn
    dsimp only
    split
    · exact leaves
    · refine after_quiet steady ⟨fun name j other held => ?_, fun _ _ => rfl, fun _ _ => rfl⟩ rfl trivial ?_ ?_
        nofun nofun
      · exact free_locks other held
      · rw [stands]
        rfl
      · rw [stands]
        rfl
  | rollback =>
    exact after_new steady stands rfl (frame_setKernel _).release rfl trivial ⟨rfl, rfl, rfl, rfl⟩

end Creation

end Boron.Accounts.Quotas

namespace Boron.Accounts.Quotas

section
variable {panel : Panel} {i : Nat} {username name : String} {moment : Moment} {store left : Store} {row later : Account}
  {task : Task}

theorem writing_apply {phase : ApplyPhase} (writes : writing (.apply username phase) = some name) : name = username := by
  cases phase <;> cases writes <;> rfl

variable {f : Account → Account}

theorem frame_update (same : ∀ row, (f row).username = row.username)
    (accounts : left.accounts = Rows.change Account.username username f store.accounts) (kernel : left.kernel = store.kernel)
    (locks : ∀ lock j, j ≠ i → store.locks lock = some j → left.locks lock = some j) : Frame i (· = username) store left := by
  refine ⟨locks, fun other different => ?_, fun other _ => by rw [kernel]⟩
  have changed := Rows.byKey_change same store.accounts username other
  rw [if_neg (Ne.symm different)] at changed
  unfold Store.account
  rw [accounts]
  exact changed

theorem account_changed (same : ∀ row, (f row).username = row.username)
    (accounts : left.accounts = Rows.change Account.username username f store.accounts) (found : store.account username = some row) :
    left.account username = some (f row) := by
  have changed := Rows.byKey_change same store.accounts username username
  rw [if_pos rfl] at changed
  unfold Store.account at found ⊢
  rw [accounts, changed, found]
  rfl

theorem after_status (steady : Steady panel) (was : Quiet (panel.task i)) (keeps : KeepsKeys f) (found : panel.store.account username = some row) (candidate : (f row).candidate = row.candidate)
    (enforceAt : (f row).inodeEnforceAt = row.inodeEnforceAt) (live : (f row).status.isLive = true → row.status.isLive = true)
    (dead : (row.status.isLive = false → (f row).status.isLive = false))
    (accounts : left.accounts = Rows.change Account.username username f panel.store.accounts)
    (kernel : left.kernel = panel.store.kernel)
    (locks : ∀ lock j, j ≠ i → panel.store.locks lock = some j → left.locks lock = some j) (own : Relies i task left)
    (quiet : Quiet task) : After panel i (task, left) := by
  have found' := account_changed keeps.username accounts found
  have softMb : (f row).quotaSoftMb = row.quotaSoftMb := congrArg Candidate.quotaSoftMb candidate
  have hardMb : (f row).quotaHardMb = row.quotaHardMb := congrArg Candidate.quotaHardMb candidate
  have inodeSoft : (f row).inodeSoftLimit = row.inodeSoftLimit := congrArg Candidate.inodeSoftLimit candidate
  have inodeHard : (f row).inodeHardLimit = row.inodeHardLimit := congrArg Candidate.inodeHardLimit candidate
  have enforced : isEnforced (f row) = isEnforced row := by
    unfold isEnforced
    rw [inodeHard, enforceAt]
  have frame : Frame i (· = username) panel.store left := frame_update keeps.username accounts kernel locks
  have elsewhere : Elsewhere panel i username (task, left) := by
    refine ⟨frame, ⟨fun name writes => ?_, fun name records => ?_⟩, fun name writes => ?_⟩
    · rw [was.writes] at writes
      cases writes
    · rw [was.records] at records
      cases records
    · rw [quiet.writes] at writes
      cases writes
  refine ⟨?_, ?_, own, fun j other => ?_, fun j _ => quiet.apart _, elsewhere.present steady fun row' known lives => ?_,
    elsewhere.agrees steady fun row' limits known lives sent mine theirs => ?_⟩
  · rw [accounts]
    exact Rows.unique_change keeps.id steady.ids
  · rw [accounts]
    exact Rows.unique_change keeps.username steady.names
  · exact row_others (steady.relies j) other frame kernel found found' (keeps.id row) (fun _ => .inr ⟨softMb, hardMb, enforced⟩)
      (.inl dead) (fun _ => enforced) fun _ => ⟨candidate, live⟩
  · have same : some row' = some (f row) := known.symm.trans found'
    cases same
    rw [kernel]
    exact steady.present username row found (live lives)
  · have same : some row' = some (f row) := known.symm.trans found'
    cases same
    rw [kernel] at sent
    have free (j : Nat) : writing (panel.task j) ≠ some username := by
      by_cases here : j = i
      · subst here
        rw [was.writes]
        exact nofun
      · exact theirs j here
    have agreed := steady.agrees username row limits found (live lives) sent free
    unfold Agrees at agreed ⊢
    rw [enforced, softMb, hardMb, inodeSoft, inodeHard]
    refine agreed.imp_right fun recorded => ⟨?_, recorded.2⟩
    obtain ⟨j, records⟩ := recorded.1
    by_cases here : j = i
    · subst here
      rw [was.records] at records
      cases records
    · exact .inr ⟨j, here, records⟩

end

section Application
variable {panel : Panel} {i : Nat} {username : String} {moment : Moment}

theorem commit_after {planId : Nat} {plan : Plan} {applied : Store} (steady : Steady panel)
    (stands : panel.task i = .apply username (.commit planId)) (free : ∀ j, username ∉ enforcing (panel.task j))
    (done : panel.store.applyPlan username planId moment.now = some (plan, applied)) :
    After panel i (.apply username (.limits plan), applied) := by
  have relies := steady.relies i
  rw [stands] at relies
  have held : panel.store.locks .databaseMutations = some i := relies.1 fun _ => by simp
  unfold Store.applyPlan at done
  split at done
  · next row plan' found _ =>
    split at done
    · next live =>
      cases done
      let f (row : Account) : Account := { row with quotaSoftMb := plan.quotaSoftMb, quotaHardMb := plan.quotaHardMb }.schedule
        plan.inodeSoftLimit plan.inodeHardLimit moment.now
      have keeps : KeepsKeys f := ⟨fun _ => rfl, fun _ => rfl⟩
      have found' : (panel.store.update username f).account username = some (f row) := account_changed keeps.username rfl found
      have quiet : isEnforced (f row) = false := by
        unfold isEnforced
        by_cases unlimited : plan.inodeHardLimit = 0
        · simp [f, Account.schedule, unlimited]
        · simp [f, Account.schedule, unlimited]
      have frame : Frame i (· = username) panel.store (panel.store.update username f) :=
        frame_update keeps.username rfl rfl fun _ _ _ held => held
      have elsewhere : Elsewhere panel i username (.apply username (.limits plan), panel.store.update username f) := by
        refine ⟨frame, ?_, fun name writes => writing_apply writes⟩
        rw [stands]
        exact ⟨nofun, nofun⟩
      have gone (j : Nat) (renews : renewing (panel.task j) = some username) : False := by
        obtain ⟨row', known, dead, _⟩ := renewing_found (steady.relies j) renews
        have same : some row' = some row := known.symm.trans found
        cases same
        rw [dead] at live
        cases live
      refine ⟨Rows.unique_change keeps.id steady.ids, Rows.unique_change keeps.username steady.names, ⟨fun _ => held, fun plan' stands' => ?_⟩,
        fun j other => ?_, fun j _ => ⟨⟨fun name writes => ?_, nofun⟩, ⟨nofun, fun name renews => ⟨nofun, fun writes => ?_⟩⟩⟩, elsewhere.present steady fun row' known lives => ?_,
        elsewhere.agrees steady fun row' limits known lives sent mine => absurd rfl mine⟩
      · rcases stands' with limits | never
        · cases limits
          exact ⟨f row, found', rfl, rfl, quiet⟩
        · cases never
      · refine row_others (steady.relies j) other frame rfl found found' rfl (fun _ => .inl held) (.inl fun dead => ?_)
          (fun renews => (gone j renews).elim) fun inside => absurd inside (free j)
        rw [live] at dead
        cases dead
      · rw [writing_apply writes]
        exact free j
      · rw [writing_apply writes] at renews
        exact gone j renews
      · exact steady.present username row found live
    · cases done
  · cases done

theorem sent_after {plan : Plan} {sent : Store} (steady : Steady panel) (stands : panel.task i = .apply username (.setQuota plan))
    (done : panel.store.setQuota username plan.quotaSoftMb plan.quotaHardMb 0 0 = some sent) :
    After panel i (.apply username .rest, sent) := by
  have relies := steady.relies i
  rw [stands] at relies
  obtain ⟨locked, written⟩ := relies
  obtain ⟨row, found, softMb, hardMb, quiet⟩ := written plan (.inr rfl)
  cases setQuota_cases done
  have writes : writing (panel.task i) = some username := by
    rw [stands]
    rfl
  have frame : Frame i (· = username) panel.store (panel.store.setKernel username (some (blocks plan.quotaSoftMb plan.quotaHardMb 0 0))) :=
    frame_setKernel _
  have elsewhere : Elsewhere panel i username
      (.apply username .rest, panel.store.setKernel username (some (blocks plan.quotaSoftMb plan.quotaHardMb 0 0))) := by
    refine ⟨frame, ?_, nofun⟩
    rw [stands]
    exact ⟨fun name writes => writing_apply writes, nofun⟩
  have calm : Quiet (.apply username .rest) := ⟨rfl, rfl, rfl, rfl⟩
  refine ⟨steady.ids, steady.names, ⟨fun _ => locked fun _ => by simp, fun plan' never => by rcases never with never | never <;> cases never⟩,
    fun j other => ?_, fun j _ => calm.apart _, elsewhere.present steady fun _ _ _ => ⟨_, kernel_setKernel _⟩,
    elsewhere.agrees steady fun row' limits known _ now _ _ => .inl ?_⟩
  · refine kernel_others (steady.relies j) other frame rfl (.inl ⟨row, found⟩) (fun renews => ?_) fun inside => ?_
    · exact ((steady.apart j i other).2 username renews).2 writes
    · exact absurd inside ((steady.apart i j (Ne.symm other)).1 username writes)
  · have same : some row' = some row := known.symm.trans found
    cases same
    rw [kernel_setKernel] at now
    cases now
    rw [quiet, softMb, hardMb]
    rfl

theorem apply_after (steady : Steady panel) {phase : ApplyPhase} (stands : panel.task i = .apply username phase)
    (free : ∀ planId, phase = .commit planId → ∀ j, username ∉ enforcing (panel.task j)) :
    After panel i (applyTurn moment i username phase panel.store) := by
  have relies := steady.relies i
  rw [stands] at relies
  obtain ⟨locked, written⟩ := relies
  cases phase with
  | lock planId =>
    refine after_tryLock steady ⟨fun _ => by simp [Store.acquire], fun plan never => by rcases never with never | never <;> cases never⟩ ?_
      ⟨rfl, rfl, rfl, rfl⟩
    rw [stands]
    exact ⟨rfl, rfl⟩
  | commit planId =>
    unfold applyTurn
    dsimp only
    cases done : panel.store.applyPlan username planId moment.now with
    | none => exact after_leave steady (by rw [stands]; rfl) (by rw [stands]; rfl)
    | some result => exact commit_after steady stands (free planId rfl) done
  | limits plan =>
    refine after_on steady ⟨fun _ => locked fun _ => by simp, fun plan' stands' => ?_⟩ (by rw [stands]; rfl) (by rw [stands]; rfl)
      nofun nofun
    rcases stands' with never | same
    · cases never
    · cases same
      exact written plan (.inl rfl)
  | setQuota plan =>
    unfold applyTurn
    dsimp only
    cases done : panel.store.setQuota username plan.quotaSoftMb plan.quotaHardMb 0 0 with
    | some sent => exact sent_after steady stands done
    | none =>
      -- The Linux user is gone, and so is the account.
      have missing := setQuota_none done
      have elsewhere : Elsewhere panel i username (leave i panel.store) := by
        refine ⟨⟨frame_release.locks, fun _ _ => rfl, fun _ _ => rfl⟩, ?_, nofun⟩
        rw [stands]
        exact ⟨fun name writes => writing_apply writes, nofun⟩
      have calm : Quiet .idle := ⟨rfl, rfl, rfl, rfl⟩
      have gone (row : Account) (found : panel.store.account username = some row) (live : row.status.isLive = true) : False := by
        obtain ⟨limits, known⟩ := steady.present username row found live
        rw [missing] at known
        cases known
      exact ⟨steady.ids, steady.names, trivial, fun j other => (steady.relies j).frame other frame_release fun _ _ never => never,
        fun j _ => calm.apart _, elsewhere.present steady fun row found live => (gone row found live).elim,
        elsewhere.agrees steady fun row limits found live _ _ _ => (gone row found live).elim⟩
  | rest => exact after_leave steady (by rw [stands]; rfl) (by rw [stands]; rfl)

end Application

end Boron.Accounts.Quotas
