import Boron.Accounts.Granting

namespace Boron.Accounts
open List Rows

section
variable {i j : Nat} {weigh : Account → Option Nat} {task task' : Task} {store left : Store} {profileId : Nat}
  {pledged : List Nat} {moment : Moment} {username : String}

theorem turned_tables (held : store.locks .state = some i) (sound : Sound left) (relies : Relies i task left)
    (accounts : left.accounts = store.accounts) (locks : left.locks = store.locks) :
    Turned i Account.charge store (task, left) := by
  refine ⟨sound, relies, ⟨fun name j _ mine => ?_, .inl fun j other mine => ?_, fun row inside => ⟨row, ?_, rfl⟩,
    fun username row found => ⟨row, ?_, rfl, .inl⟩, fun member _ => ?_⟩⟩
  · rw [locks]
    exact mine
  · rw [held] at mine
    exact other (Option.some.inj mine).symm
  · rw [accounts]
    exact inside
  · unfold Store.account at found ⊢
    rw [accounts]
    exact found
  · unfold Store.charges
    rw [accounts]
    exact Below.refl _

theorem turned_leaves (turned : Turned i weigh store (task, left)) : Turned i weigh store (leave i left) := by
  obtain ⟨sound, _, leaves⟩ := turned
  obtain ⟨sound', relies, _⟩ := turned_leave (i := i) sound
  exact ⟨sound', relies, fun name j other mine => release_locks other (leaves.locks name j other mine), leaves.tables,
    leaves.rows, leaves.alive, leaves.charges⟩

theorem usage_below {profileId : Nat} (more : Nat → Bool) (accounts : left.accounts = store.accounts)
    (owned : ∀ id, left.owns profileId id = true → store.owns profileId id = true ∨ more id = true) :
    Below (left.charges Account.charge (left.owns profileId))
      (store.charges Account.charge (store.owns profileId) ++ store.charges Account.charge more) := by
  have same : left.charges Account.charge (left.owns profileId) = store.charges Account.charge (left.owns profileId) := by
    unfold Store.charges
    rw [accounts]
  rw [same]
  refine Below.trans (charges_part fun row _ inside => ?_) (charges_or (store.owns profileId) more)
  rw [Bool.or_eq_true]
  exact owned row.id inside

theorem below_nil (quotas : List Nat) : Below [] quotas := ⟨Nat.zero_le _, Nat.zero_le _⟩

theorem charges_none : store.charges Account.charge (fun _ => false) = [] := by
  simp [Store.charges]

theorem room_fewer {profileId : Nat} (sound : Sound store) (accounts : left.accounts = store.accounts)
    (profiles : left.profiles = store.profiles) (resellerPlans : left.resellerPlans = store.resellerPlans)
    (owned : ∀ id, left.owns profileId id = true → store.owns profileId id = true) :
    Room Account.charge left profileId [] := by
  refine (sound.room profileId).below profiles resellerPlans ?_
  have fewer := usage_below (fun _ => false) accounts fun id inside => .inl (owned id inside)
  rw [charges_none, append_nil] at fewer
  exact fewer.append (Below.refl _)

theorem link_turned {owner accountId : Nat} (sound : Sound store) (relies : Relies i (.link owner username accountId) store) {linked : Store}
    (done : store.link owner username accountId = some linked) :
    Turned i Account.charge store (.reconcile username, linked) := by
  obtain ⟨held, known, room⟩ := relies.pledged owner (.account accountId) rfl
  unfold Store.link at done
  split at done
  · cases done
  · split at done
    · cases done
      refine turned_tables held ⟨sound.unique, sound.names, sound.profiles, fun link inside => ?_, fun profileId => ?_⟩ (relies_none rfl trivial) rfl rfl
      · rcases mem_append.mp inside with earlier | newest
        · exact sound.known link earlier
        · obtain ⟨row, member, named⟩ := known accountId rfl
          rw [mem_singleton.mp newest]
          exact ⟨row, member, named⟩
      · by_cases mine : profileId = owner
        · subst mine
          refine room.below rfl rfl ?_
          rw [append_nil]
          refine usage_below (fun id => decide (id = accountId)) rfl fun id inside => ?_
          unfold Store.owns at inside ⊢
          rw [any_append, Bool.or_eq_true] at inside
          refine inside.imp_right fun newest => ?_
          simp only [any_cons, any_nil, Bool.or_false, decide_true, Bool.true_and, decide_eq_true_eq] at newest ⊢
          exact newest.symm
        · refine room_fewer sound rfl rfl rfl fun id inside => ?_
          unfold Store.owns at inside ⊢
          rw [any_append, Bool.or_eq_true] at inside
          rcases inside with earlier | newest
          · exact earlier
          · simp only [any_cons, any_nil, Bool.or_false, Bool.and_eq_true, decide_eq_true_eq] at newest
            exact absurd newest.1.symm mine
    · cases done

theorem unlinked_owns {profileId accountId id : Nat}
    (owned : (store.unlinked accountId).any (fun link => link.resellerId = profileId && link.accountId = id) = true) :
    store.owns profileId id = true ∧ id ≠ accountId := by
  obtain ⟨link, inside, same⟩ := any_eq_true.mp owned
  obtain ⟨earlier, kept⟩ := mem_filter.mp inside
  refine ⟨any_eq_true.mpr ⟨link, earlier, same⟩, ?_⟩
  simp only [Bool.and_eq_true, decide_eq_true_eq, ne_eq] at same kept
  rw [← same.2]
  exact kept

theorem moveAccount_cases {target : Option Nat} {moved : Store} (done : store.moveAccount username target = some moved) :
    ∃ row ∈ store.accounts, row.status ≠ .terminated ∧
      (moved = store ∨ moved = { store with resellerAccounts := store.unlinked row.id } ∨
        ∃ profileId profile plan, store.profile profileId = some profile ∧ store.resellerPlan profile.planId = some plan ∧
          plan.fits (store.profileUsage profileId ++ [row.quotaHardMb]) = true ∧
          moved = store.relink profileId row.id) := by
  unfold Store.moveAccount at done
  split at done
  · cases done
  · next row found =>
    obtain ⟨member, _⟩ := byKey_some found
    split at done
    · cases done
    · next alive =>
      refine ⟨row, member, alive, ?_⟩
      split at done
      · cases done
        exact .inr (.inl rfl)
      · next profileId =>
        split at done
        · cases done
          exact .inl rfl
        · split at done
          · cases done
          · next profile found' =>
            split at done
            · cases done
            · next plan planned =>
              dsimp only at done
              split at done
              · next fits =>
                cases done
                refine .inr (.inr ⟨profileId, profile, plan, found', planned, ?_, rfl⟩)
                obtain ⟨_, count, sum⟩ := fits
                simp [ResellerPlan.fits, total_append, total, count, sum]
              · cases done

variable {row : Account}

theorem moved_room (sound : Sound store) (member : row ∈ store.accounts) {profileId other : Nat}
    {profile : ResellerProfile} {plan : ResellerPlan} (found : store.profile profileId = some profile)
    (planned : store.resellerPlan profile.planId = some plan)
    (fits : plan.fits (store.profileUsage profileId ++ [row.quotaHardMb]) = true) :
    Room Account.charge (store.relink profileId row.id) other [] := by
  have either (id : Nat) (owned : (store.relink profileId row.id).owns other id = true) :
      store.owns other id = true ∨ profileId = other ∧ row.id = id := by
    unfold Store.owns Store.relink at owned
    rw [any_append, Bool.or_eq_true] at owned
    refine owned.imp (fun earlier => (unlinked_owns earlier).1) fun newest => ?_
    simpa using newest
  by_cases mine : other = profileId
  · subst mine
    intro profile' plan' found' planned'
    have same : some profile' = some profile := found'.symm.trans found
    cases same
    have same' : some plan' = some plan := planned'.symm.trans planned
    cases same'
    have usage : Below ((store.relink other row.id).charges Account.charge ((store.relink other row.id).owns other))
        (store.charges Account.charge (store.owns other) ++ store.charges Account.charge fun id => decide (id = row.id)) :=
      usage_below _ rfl fun id owned => (either id owned).imp_right fun newest => decide_eq_true newest.2.symm
    have alone : Below (store.charges Account.charge fun id => decide (id = row.id)) [row.quotaHardMb] := by
      unfold Store.charges
      rw [filter_key sound.unique member]
      by_cases ended : row.status = .terminated
      · simp [Account.charge, ended, below_nil]
      · simp [Account.charge, ended, Below.refl]
    rw [append_nil]
    exact (usage.trans ((Below.refl _).append alone)).fits fits
  · exact room_fewer sound rfl rfl rfl fun id owned => (either id owned).resolve_right fun newest => mine newest.1.symm

theorem move_sound (sound : Sound store) {target : Option Nat} {moved : Store} (done : store.moveAccount username target = some moved) :
    Sound moved ∧ moved.accounts = store.accounts ∧ moved.locks = store.locks := by
  obtain ⟨row, member, _, rfl | rfl | ⟨profileId, profile, plan, found, planned, fits, rfl⟩⟩ := moveAccount_cases done
  · exact ⟨sound, rfl, rfl⟩
  · refine ⟨⟨sound.unique, sound.names, sound.profiles, fun link inside => sound.known link (mem_filter.mp inside).1, fun profileId => ?_⟩, rfl, rfl⟩
    exact room_fewer sound rfl rfl rfl fun id owned => (unlinked_owns owned).1
  · refine ⟨⟨sound.unique, sound.names, sound.profiles, fun link inside => ?_, fun other => moved_room sound member found planned fits⟩, rfl, rfl⟩
    rcases mem_append.mp inside with earlier | newest
    · exact sound.known link (mem_filter.mp earlier).1
    · rw [mem_singleton.mp newest]
      exact ⟨row, member, rfl⟩

theorem updateReseller_sound (sound : Sound store) {planId : Option Nat} {active : Option Bool} {updated : Store}
    (done : store.updateReseller profileId planId active = some updated) :
    Sound updated ∧ updated.accounts = store.accounts ∧ updated.locks = store.locks := by
  unfold Store.updateReseller at done
  split at done
  · cases done
  · next profile found =>
    split at done
    · next fits =>
      cases done
      refine ⟨⟨sound.unique, sound.names, unique_change (fun _ => by rfl) sound.profiles, sound.known, fun other changed plan found' planned => ?_⟩, rfl, rfl⟩
      rw [append_nil]
      have rows : byKey ResellerProfile.id (change ResellerProfile.id profileId (fun profile =>
          { profile with planId := planId.getD profile.planId, active := active.getD profile.active }) store.profiles) other
          = some changed := found'
      have same (row : ResellerProfile) : ({ row with planId := planId.getD row.planId, active := active.getD row.active } :
          ResellerProfile).id = row.id := rfl
      rw [byKey_change same] at rows
      have before (row : ResellerProfile) (known : store.profile other = some row)
          (planned : store.resellerPlan row.planId = some plan) : plan.fits (store.profileUsage other) = true := by
        have room := sound.room other row plan known planned
        rw [append_nil] at room
        exact room
      split at rows
      · next mine =>
        subst mine
        have known : store.profile profileId = some profile := found
        unfold Store.profile at known
        rw [known, Option.map_some] at rows
        cases rows
        cases planId with
        | none => exact before profile found planned
        | some planId =>
          have planned' : store.resellerPlan planId = some plan := planned
          unfold Store.requireCapacity at fits
          simp only [planned'] at fits
          exact fits
      · exact before changed rows planned
    · cases done

theorem updatePlan_sound (sound : Sound store) {planId : Nat} {params : PlanParams} {updated : Store}
    (done : store.updatePlan planId params = some updated) :
    Sound updated ∧ updated.accounts = store.accounts ∧ updated.locks = store.locks := by
  unfold Store.updatePlan at done
  split at done
  · cases done
  · next row _ =>
    split at done
    · cases done
    · next candidate _ =>
      split at done
      · next fits =>
        cases done
        refine ⟨⟨sound.unique, sound.names, sound.profiles, sound.known, fun other profile plan found' planned => ?_⟩, rfl, rfl⟩
        rw [append_nil]
        have same (row : ResellerPlan) : ({ candidate with id := row.id } : ResellerPlan).id = row.id := rfl
        have rows : byKey ResellerPlan.id (change ResellerPlan.id planId (fun row => { candidate with id := row.id })
            store.resellerPlans) profile.planId = some plan := planned
        rw [byKey_change same] at rows
        split at rows
        · next mine =>
          obtain ⟨row', _, new⟩ := Option.map_eq_some_iff.mp rows
          obtain ⟨inside, named⟩ := byKey_some found'
          have checked := all_eq_true.mp fits profile (mem_filter.mpr ⟨inside, decide_eq_true mine.symm⟩)
          rw [← new, ← named]
          exact checked
        · have room := sound.room other profile plan found' rows
          rw [append_nil] at room
          exact room
      · cases done

theorem getD_turned (held : store.locks .state = some i) (sound : Sound store) {result : Option Store}
    (kept : ∀ left, result = some left → Sound left ∧ left.accounts = store.accounts ∧ left.locks = store.locks) :
    Turned i Account.charge store (leave i (result.getD store)) := by
  cases result with
  | none => exact turned_leave sound
  | some left =>
    obtain ⟨sound', accounts, locks⟩ := kept left rfl
    have turned : Turned i Account.charge store (.idle, left) :=
      turned_tables held sound' (relies_none rfl trivial) accounts locks
    exact turned_leaves turned

theorem requestAccount_room {resellerUsername : String} {profile : ResellerProfile} {plan : ResellerPlan}
    (requested : store.requestAccount resellerUsername username = some (profile, plan)) :
    store.resellerPlan profile.planId = some plan ∧ profile ∈ store.profiles ∧
      plan.fits (store.profileUsage profile.id ++ [plan.accountQuotaHardMb]) = true := by
  unfold Store.requestAccount at requested
  split at requested
  · cases requested
  · next found =>
    split at requested
    · cases requested
    · next planned =>
      split at requested
      · next fits =>
        cases requested
        obtain ⟨count, sum, _⟩ := fits
        refine ⟨planned, ?_, by simp [ResellerPlan.fits, total_append, total, Nat.succ_le_of_lt count, sum]⟩
        unfold Store.profileForUsername at found
        split at found
        · cases found
        · obtain ⟨inside, _⟩ := Option.filter_eq_some_iff.mp found
          exact List.mem_of_find?_eq_some inside
      · cases requested

theorem state_turned (held : store.locks .state = some i) (sound : Sound store) (call : Call) : Turned i Account.charge store (stateTurn i call store) := by
  cases call with
  | createResellerAccount resellerUsername username =>
    unfold stateTurn
    dsimp only
    split
    · exact turned_leave sound
    · next profile plan requested =>
      obtain ⟨planned, member, fits⟩ := requestAccount_room requested
      refine turned_same sound ⟨fun owner pledge pledges => ?_, trivial⟩
      cases pledges
      refine ⟨held, nofun, fun profile' plan' found planned' => ?_⟩
      have same : some profile' = some profile := found.symm.trans (byKey_of_mem sound.profiles member)
      cases same
      have same' : some plan' = some plan := planned'.symm.trans planned
      cases same'
      exact fits
  | lifecycle action resellerUsername username =>
    unfold stateTurn
    dsimp only
    split
    · next row _ found =>
      exact turned_same sound (relies_none rfl ⟨⟨row, found, rfl, nofun⟩, fun past => absurd rfl past⟩)
    · exact turned_leave sound
  | moveAccount username target => exact getD_turned held sound fun left done => move_sound sound done
  | updateReseller profileId planId active => exact getD_turned held sound fun left done => updateReseller_sound sound done
  | updatePlan planId params => exact getD_turned held sound fun left done => updatePlan_sound sound done
  | createAccount | applyPlan | manage | enforceDue | savePlan => exact turned_leave sound

theorem wait_turned (free : store.locks .state = none) (sound : Sound store) (call : Call) : Turned i Account.charge store (stateTurn i call (store.acquire i .state)) := by
  have held : (store.acquire i .state).locks .state = some i := by simp [Store.acquire]
  have sound' : Sound (store.acquire i .state) := ⟨sound.unique, sound.names, sound.profiles, sound.known, sound.room⟩
  obtain ⟨after, relies, leaves⟩ := state_turned held sound' call
  have nobody (j : Nat) (mine : store.locks .state = some j) : False := by
    rw [free] at mine
    cases mine
  refine ⟨after, relies, fun name j other mine => ?_, .inl fun j _ mine => nobody j mine, leaves.rows, fun username row found => ?_,
    leaves.charges⟩
  · exact leaves.locks name j other (acquire_locks free mine)
  · obtain ⟨later, found', named, ends⟩ := leaves.alive username row found
    refine ⟨later, found', named, fun ended => (ends ended).imp_right fun mine => ?_⟩
    unfold Store.acquire at mine
    dsimp only at mine
    exact mine

theorem call_turned (sound : Sound store) : Turned i Account.charge store (callTurn moment store) := by
  unfold callTurn
  cases moment.call with
  | createAccount username softMb hardMb => exact turned_same sound (relies_none rfl trivial)
  | applyPlan username planId => exact turned_same sound (relies_none rfl trivial)
  | manage action username =>
    dsimp only
    cases found : store.account username with
    | none => exact turned_same sound (relies_none rfl trivial)
    | some row =>
      exact turned_same sound (relies_none rfl ⟨⟨row, found, rfl, nofun⟩, fun past => absurd rfl past⟩)
  | enforceDue => exact turned_same sound (relies_none rfl trivial)
  | savePlan planId plan => exact turned_apart sound (relies_none rfl trivial) rfl ⟨rfl, rfl, rfl⟩ fun _ _ _ held => held
  | createResellerAccount | lifecycle | moveAccount | updateReseller | updatePlan =>
    exact turned_same sound (relies_none rfl trivial)

variable {f : Account → Account}

theorem account_update (same : ∀ row, (f row).username = row.username) (username other : String) :
    (store.update username f).account other =
      if username = other then (store.account other).map f else store.account other :=
  byKey_change same store.accounts username other

theorem account_changed (same : ∀ row, (f row).username = row.username)
    (found : store.account username = some row) : (store.update username f).account username = some (f row) := by
  rw [account_update same, if_pos rfl, found]
  rfl

theorem update_turned (sound : Sound store) (found : store.account username = some row)
    (pledge : task.pledge = none) (manages : Manages i task (store.update username f)) (keeps : KeepsKeys f)
    (spares : (f row).status = .terminated → row.status = .terminated ∨ store.locks (.account row.id) = some i)
    (lighter : Lighter (f row).charge row.charge) : Turned i Account.charge store (task, store.update username f) := by
  obtain ⟨member, named⟩ := byKey_some found
  have only (other : Account) (inside : other ∈ store.accounts) (same : other.username = username) : other = row :=
    inj_on_of_nodup_map sound.names inside member (same.trans named.symm)
  refine turned_rows sound pledge manages ⟨fun other => ?_, fun other => ?_⟩ rfl ⟨rfl, rfl, rfl⟩ (fun _ _ _ held => held)
    (fun other inside => ?_) (fun other inside => ?_) sound.room
  · split
    · exact keeps.id other
    · rfl
  · split
    · exact keeps.username other
    · rfl
  · split
    · next same =>
      rw [only other inside same]
      exact spares
    · exact .inl
  · split
    · next same =>
      rw [only other inside same]
      exact lighter
    · exact Lighter.refl _

theorem lighter_status (row : Account) (status : Status) (ends : status = .terminated ∨ row.status ≠ .terminated) :
    Lighter ({ row with status } : Account).charge row.charge := by
  unfold Account.charge
  rcases ends with ended | alive
  · simp [ended, Lighter]
  · split
    · exact nofun
    · exact Lighter.refl _

theorem status_turned (sound : Sound store) (found : store.account username = some row) (pledge : task.pledge = none)
    (status : Status) (manages : Manages i task (store.update username fun row => { row with status }))
    (spares : status = .terminated → store.locks (.account row.id) = some i)
    (ends : status = .terminated ∨ row.status ≠ .terminated) :
    Turned i Account.charge store (task, store.update username fun row => { row with status }) :=
  update_turned sound found pledge manages ⟨fun _ => rfl, fun _ => rfl⟩ (fun ended => .inr (spares ended))
    (lighter_status row status ends)

variable {id : Nat}

theorem begin_turned (sound : Sound store) (action : Action) (known : ∃ row, store.account username = some row ∧ row.id = id) (locked : store.locks (.account id) = some i) :
    Turned i Account.charge store (beginTurn i action username id store) := by
  obtain ⟨row, found, named⟩ := known
  unfold beginTurn
  rw [found]
  have changed (status : Status) (other : status ≠ .terminated) (before : row.status ≠ .terminated) :
      Turned i Account.charge store (.idle, store.update username fun row => { row with status }) :=
    status_turned sound found rfl status trivial (fun ended => absurd ended other) (.inr before)
  cases action with
  | suspend =>
    dsimp only
    split
    · next active => exact turned_leaves (changed .suspended (by decide) (by rw [active]; decide))
    · exact turned_leave sound
  | unsuspend =>
    dsimp only
    split
    · next suspended => exact turned_leaves (changed .active (by decide) (by rw [suspended]; decide))
    · exact turned_leave sound
  | terminate =>
    dsimp only
    split
    · exact turned_leave sound
    · next alive =>
      have now := account_changed (f := fun row => { row with status := .terminating }) (fun _ => rfl) found
      exact status_turned sound found rfl _ ⟨⟨_, now, named, fun _ => by simp⟩, fun _ => locked⟩ nofun (.inr alive)
  | reactivate softMb hardMb =>
    dsimp only
    split
    · exact turned_same sound (relies_none rfl ⟨⟨row, found, named, nofun⟩, fun _ => locked⟩)
    · exact turned_leave sound

theorem finish_turned (sound : Sound store) (found : store.account username = some row) (errors : Bool)
    (alive : row.status ≠ .terminated) (locked : store.locks (.account row.id) = some i) :
    Turned i Account.charge store (leave i (store.finish username errors)) := by
  obtain ⟨sound', _, leaves⟩ : Turned i Account.charge store (.idle, store.update username fun row =>
      { row with status := if errors then .error_ else .terminated }) :=
    status_turned sound found rfl _ trivial (fun _ => locked) (.inr alive)
  have turned : Turned i Account.charge store (.idle, store.finish username errors) :=
    ⟨⟨sound'.unique, sound'.names, sound'.profiles, sound'.known, sound'.room⟩, relies_none rfl trivial,
      ⟨leaves.locks, leaves.tables, leaves.rows, leaves.alive, leaves.charges⟩⟩
  exact turned_leaves turned

theorem Relies.manage {action action' : Action} {phase phase' : ManagePhase}
    (relies : Relies i (.manage action username id phase) store) (past : phase ≠ .lock)
    (ends : phase'.ends = true → phase.ends = true) (accounts : left.accounts = store.accounts)
    (locks : left.locks = store.locks) : Relies i (.manage action' username id phase') left := by
  obtain ⟨⟨row, found, named, alive⟩, locked⟩ := relies.manages
  refine relies_none rfl ⟨⟨row, ?_, named, fun ended => alive (ends ended)⟩, fun _ => ?_⟩
  · unfold Store.account at found ⊢
    rw [accounts]
    exact found
  · rw [locks]
    exact locked past

theorem manage_on {action action' : Action} {phase phase' : ManagePhase} (sound : Sound store)
    (relies : Relies i (.manage action username id phase) store) (past : phase ≠ .lock)
    (ends : phase'.ends = true → phase.ends = true) (accounts : left.accounts = store.accounts)
    (tables : SameTables store left) (locks : left.locks = store.locks) :
    Turned i Account.charge store (.manage action' username id phase', left) := by
  refine turned_apart sound (relies.manage past ends accounts locks) accounts tables fun name j _ held => ?_
  rw [locks]
  exact held

theorem manage_turned (sound : Sound store) {action : Action} {phase : ManagePhase}
    (relies : Relies i (.manage action username id phase) store) (before : phase ≠ .commit) :
    Turned i Account.charge store (manageTurn moment i action username id phase store) := by
  obtain ⟨⟨row, found, named, alive⟩, locked⟩ := relies.manages
  cases phase with
  | lock =>
    refine turned_tryLock sound relies rfl ⟨⟨row, found, named, fun ends => ?_⟩, fun _ => by simp [Store.acquire]⟩
    cases action <;> cases ends
  | recheck =>
    unfold manageTurn
    dsimp only
    split
    · exact turned_leave sound
    · split
      · exact manage_on sound relies (by simp) nofun rfl (SameTables.refl store) rfl
      · exact turned_leave sound
  | begin => exact begin_turned sound action ⟨row, found, named⟩ (locked (by simp))
  | hooks => exact manage_on sound relies (by simp) (fun _ => rfl) rfl (SameTables.refl store) rfl
  | removeQuota =>
    obtain ⟨accounts, tables, locks⟩ := removeQuota_apart store username
    exact manage_on sound relies (by simp) (fun _ => rfl) accounts tables locks
  | userdel => exact manage_on sound relies (by simp) (fun _ => rfl) rfl ⟨rfl, rfl, rfl⟩ rfl
  | finish errors =>
    refine finish_turned sound found errors (alive rfl) ?_
    rw [named]
    exact locked (by simp)
  | useradd =>
    unfold manageTurn
    dsimp only
    split
    · exact turned_leave sound
    · exact manage_on sound relies (by simp) nofun rfl ⟨rfl, rfl, rfl⟩ rfl
  | prepareHome => exact manage_on sound relies (by simp) nofun rfl (SameTables.refl store) rfl
  | setQuota =>
    unfold manageTurn
    dsimp only
    split
    · split
      · exact manage_on sound relies (by simp) nofun rfl (SameTables.refl store) rfl
      · next set applied =>
        obtain ⟨accounts, tables, locks⟩ := setQuota_apart applied
        exact manage_on sound relies (by simp) nofun accounts tables locks
    · exact turned_leave sound
  | commit => exact absurd rfl before
  | rollback =>
    have idle : Relies i .idle (store.setKernel username none) := relies_none rfl trivial
    exact turned_leaves (turned_apart sound idle rfl ⟨rfl, rfl, rfl⟩ fun _ _ _ held => held)

theorem grant_turned {hardMb : Nat} (sound : Sound store) (pledge : task.pledge = none)
    (manages : Manages i task left) (keeps : KeepsKeys f) (grants : ∀ row, (f row).quotaHardMb = hardMb)
    (alive : ∀ row, (f row).status = .terminated → row.status = .terminated)
    (rooms : ∀ profileId, Room (chargeAt username hardMb) store profileId [])
    (accounts : left.accounts = change Account.username username f store.accounts) (tables : SameTables store left)
    (locks : left.locks = store.locks) : Turned i (chargeAt username hardMb) store (task, left) := by
  refine turned_rows sound pledge manages ⟨fun row => ?_, fun row => ?_⟩ accounts tables (fun name j _ held => ?_)
    (fun row _ ended => .inl ?_) (fun row _ => ?_) rooms
  · split
    · exact keeps.id row
    · rfl
  · split
    · exact keeps.username row
    · rfl
  · rw [locks]
    exact held
  · split at ended
    · exact alive row ended
    · exact ended
  · unfold chargeAt
    split
    · unfold Account.charge
      split
      · exact nofun
      · rw [grants]
        exact Lighter.refl _
    · exact Lighter.refl _

theorem apply_turned (moment : Moment) (username : String) (sound : Sound store) (phase : ApplyPhase) (before : ∀ planId, phase ≠ .commit planId) :
    Turned i Account.charge store (applyTurn moment i username phase store) := by
  cases phase with
  | lock planId =>
    have waits : Relies i (.apply username (.lock planId)) store := relies_none rfl trivial
    exact turned_tryLock sound waits rfl trivial
  | commit planId => exact absurd rfl (before planId)
  | limits plan => exact turned_same sound (relies_none rfl trivial)
  | setQuota plan =>
    unfold applyTurn
    dsimp only
    split
    · exact turned_leave sound
    · next set applied =>
      obtain ⟨accounts, tables, locks⟩ := setQuota_apart applied
      refine turned_apart sound (relies_none rfl trivial) accounts tables fun name j _ held => ?_
      rw [locks]
      exact held
  | rest => exact turned_leave sound

theorem enforce_turned (sound : Sound store) (phase : EnforcePhase) (candidates : List Candidate) :
    Turned i Account.charge store (enforceTurn i phase candidates store) := by
  cases candidates with
  | nil => cases phase <;> exact turned_leave sound
  | cons candidate rest =>
    cases phase with
    | setQuota =>
      unfold enforceTurn
      dsimp only
      split
      · exact turned_same sound (relies_none rfl trivial)
      · next set applied =>
        obtain ⟨accounts, tables, locks⟩ := setQuota_apart applied
        refine turned_apart sound (relies_none rfl trivial) accounts tables fun name j _ held => ?_
        rw [locks]
        exact held
    | record =>
      obtain ⟨id, username, status, charge⟩ := recorded_keeps candidate
      refine turned_rows sound rfl trivial ⟨fun row => ?_, fun row => ?_⟩ rfl ⟨rfl, rfl, rfl⟩ (fun _ _ _ held => held)
        (fun row _ ended => .inl ?_) (fun row _ => ?_) sound.room
      · split
        · exact id row
        · rfl
      · split
        · exact username row
        · rfl
      · split at ended
        · rwa [status row] at ended
        · exact ended
      · split
        · rw [charge row]
          exact Lighter.refl _
        · exact Lighter.refl _

end

end Boron.Accounts
