import Boron.Accounts.Capacity

namespace Boron.Accounts
open List Rows

structure SameTables (store left : Store) : Prop where
  profiles : left.profiles = store.profiles
  resellerPlans : left.resellerPlans = store.resellerPlans
  resellerAccounts : left.resellerAccounts = store.resellerAccounts

section
variable {i j : Nat} {weigh : Account → Option Nat} {task task' : Task} {store left : Store} {profileId : Nat}
  {pledged : List Nat} {moment : Moment}

theorem SameTables.refl (store : Store) : SameTables store store := ⟨rfl, rfl, rfl⟩

theorem SameTables.owns (tables : SameTables store left) (profileId : Nat) : left.owns profileId = store.owns profileId := by
  unfold Store.owns
  rw [tables.resellerAccounts]

/-- The same plans, and accounts and pledges that count for less. -/
theorem Room.below {weigh' : Account → Option Nat} {pledged' : List Nat} (room : Room weigh' store profileId pledged')
    (profiles : left.profiles = store.profiles) (resellerPlans : left.resellerPlans = store.resellerPlans)
    (below : Below (left.charges weigh (left.owns profileId) ++ pledged)
      (store.charges weigh' (store.owns profileId) ++ pledged')) : Room weigh left profileId pledged := by
  intro profile plan found planned
  unfold Store.profile at found
  unfold Store.resellerPlan at planned
  rw [profiles] at found
  rw [resellerPlans] at planned
  exact below.fits (room profile plan found planned)

theorem Sound.owned (sound : Sound store) (profileId id : Nat) (owned : store.owns profileId id = true) :
    ∃ row ∈ store.accounts, row.id = id := by
  obtain ⟨link, inside, same⟩ := any_eq_true.mp owned
  simp only [Bool.and_eq_true, decide_eq_true_eq] at same
  obtain ⟨row, member, named⟩ := sound.known link inside
  exact ⟨row, member, named.trans same.2⟩

/-- What a task relies on stands after a turn of another one. -/
theorem Relies.others (relies : Relies j task store) (other : j ≠ i) (sound : Sound store)
    (leaves : Leaves i weigh store left) (fits : ∀ owner pledge, task.pledge = some (owner, pledge) →
      Room weigh store owner (pledge.charges weigh store)) : Relies j task left := by
  constructor
  · intro owner pledge pledges
    obtain ⟨held, known, _⟩ := relies.pledged owner pledge pledges
    have same : SameTables store left := by
      rcases leaves.tables with free | ⟨profiles, resellerPlans, resellerAccounts⟩
      · exact absurd held (free j other)
      · exact ⟨profiles, resellerPlans, resellerAccounts⟩
    have still (id : Nat) (promised : pledge = .account id) : ∃ row ∈ left.accounts, row.id = id := by
      obtain ⟨row, inside, named⟩ := known id promised
      obtain ⟨later, inside', named'⟩ := leaves.rows row inside
      exact ⟨later, inside', named'.trans named⟩
    refine ⟨leaves.locks _ j other held, still, ?_⟩
    have usage : Below (left.charges Account.charge (left.owns owner)) (store.charges weigh (store.owns owner)) := by
      rw [same.owns]
      exact leaves.charges _ fun id owned => sound.owned owner id owned
    have reserved : Below (pledge.charges Account.charge left) (pledge.charges weigh store) := by
      cases pledge with
      | quota hardMb => exact Below.refl _
      | account id =>
        refine leaves.charges (fun other => decide (other = id)) fun other equal => ?_
        rw [decide_eq_true_eq] at equal
        subst equal
        exact known other rfl
    exact (fits owner pledge pledges).below same.profiles same.resellerPlans (usage.append reserved)
  · cases task with
    | manage action username id phase =>
      obtain ⟨⟨row, found, named, alive⟩, locked⟩ := relies.manages
      obtain ⟨later, found', named', ends⟩ := leaves.alive username row found
      refine ⟨⟨later, found', named'.trans named, fun phase ended => ?_⟩, fun past => leaves.locks _ j other (locked past)⟩
      rcases ends ended with before | held
      · exact alive phase before
      · rw [named] at held
        have past : store.locks (.account id) = some j := locked (by rintro rfl; cases phase)
        rw [held] at past
        exact other (Option.some.inj past).symm
    | _ => exact trivial

/-- What a turn of task `i` has to show. -/
structure Turned (i : Nat) (weigh : Account → Option Nat) (store : Store) (result : Task × Store) : Prop where
  sound : Sound result.2
  relies : Relies i result.1 result.2
  leaves : Leaves i weigh store result.2

theorem relies_none (none : task.pledge = none) (manages : Manages i task store) : Relies i task store := by
  refine ⟨fun owner pledge pledges => ?_, manages⟩
  rw [none] at pledges
  cases pledges

/-- The next line of a creation relies on the same. -/
theorem Relies.keep (relies : Relies i task store) (pledge : task'.pledge = task.pledge) (manages : Manages i task' left)
    (accounts : left.accounts = store.accounts) (tables : SameTables store left)
    (locks : store.locks .state = some i → left.locks .state = some i) : Relies i task' left := by
  refine ⟨fun owner given pledges => ?_, manages⟩
  rw [pledge] at pledges
  obtain ⟨held, known, room⟩ := relies.pledged owner given pledges
  refine ⟨locks held, ?_, room.below tables.profiles tables.resellerPlans ?_⟩
  · rw [accounts]
    exact known
  · have equal (weigh : Account → Option Nat) (member : Nat → Bool) : left.charges weigh member = store.charges weigh member := by
      unfold Store.charges
      rw [accounts]
    have same : given.charges Account.charge left = given.charges Account.charge store := by
      cases given with
      | quota hardMb => rfl
      | account id => exact equal Account.charge fun other => decide (other = id)
    rw [same, equal, tables.owns]
    exact Below.refl _

structure KeepsKeys (g : Account → Account) : Prop where
  id : ∀ row, (g row).id = row.id
  username : ∀ row, (g row).username = row.username

theorem recorded_keeps (candidate : Candidate) :
    (∀ row : Account, (row.recorded candidate).id = row.id) ∧ (∀ row : Account, (row.recorded candidate).username = row.username) ∧
      (∀ row : Account, (row.recorded candidate).status = row.status) ∧
        ∀ row : Account, (row.recorded candidate).charge = row.charge := by
  refine ⟨fun row => ?_, fun row => ?_, fun row => ?_, fun row => ?_⟩ <;> unfold Account.recorded <;> split <;> rfl

def Spares (i : Nat) (g : Account → Account) (store : Store) : Prop :=
  ∀ row ∈ store.accounts, (g row).status = .terminated → row.status = .terminated ∨ store.locks (.account row.id) = some i

variable {g : Account → Account}

theorem rows_leave (keeps : KeepsKeys g) (accounts : left.accounts = store.accounts.map g)
    (tables : SameTables store left) (locks : ∀ name j, j ≠ i → store.locks name = some j → left.locks name = some j)
    (spares : Spares i g store) (lighter : ∀ row ∈ store.accounts, Lighter (g row).charge (weigh row)) :
    Leaves i weigh store left := by
  refine ⟨locks, .inr ⟨tables.profiles, tables.resellerPlans, tables.resellerAccounts⟩, fun row inside => ?_,
    fun username row found => ?_, fun member _ => ?_⟩
  · refine ⟨g row, ?_, keeps.id row⟩
    rw [accounts]
    exact mem_map_of_mem inside
  · refine ⟨g row, ?_, keeps.id row, spares row (byKey_some found).1⟩
    have mapped := byKey_map keeps.username store.accounts username
    unfold Store.account at found ⊢
    rw [accounts, mapped, found]
    rfl
  · rw [charges_map keeps.id accounts]
    exact charges_below lighter member

theorem sound_rows (sound : Sound store) (keeps : KeepsKeys g)
    (accounts : left.accounts = store.accounts.map g) (tables : SameTables store left)
    (leaves : Leaves i weigh store left) (rooms : ∀ profileId, Room weigh store profileId []) : Sound left := by
  refine ⟨?_, ?_, ?_, fun link inside => ?_, fun profileId => ?_⟩
  · rw [accounts]
    exact unique_map keeps.id sound.unique
  · rw [accounts]
    exact unique_map keeps.username sound.names
  · rw [tables.profiles]
    exact sound.profiles
  · rw [tables.resellerAccounts] at inside
    obtain ⟨row, member, named⟩ := sound.known link inside
    obtain ⟨later, member', named'⟩ := leaves.rows row member
    exact ⟨later, member', named'.trans named⟩
  · refine (rooms profileId).below tables.profiles tables.resellerPlans ?_
    rw [tables.owns]
    exact (leaves.charges _ fun id owned => sound.owned profileId id owned).append (Below.refl _)

theorem turned_rows (sound : Sound store) (pledge : task.pledge = none)
    (manages : Manages i task left) (keeps : KeepsKeys g) (accounts : left.accounts = store.accounts.map g)
    (tables : SameTables store left) (locks : ∀ name j, j ≠ i → store.locks name = some j → left.locks name = some j)
    (spares : Spares i g store) (lighter : ∀ row ∈ store.accounts, Lighter (g row).charge (weigh row))
    (rooms : ∀ profileId, Room weigh store profileId []) : Turned i weigh store (task, left) :=
  have leaves : Leaves i weigh store left := rows_leave keeps accounts tables locks spares lighter
  ⟨sound_rows sound keeps accounts tables leaves rooms, relies_none pledge manages, leaves⟩

theorem turned_apart (sound : Sound store) (relies : Relies i task left) (accounts : left.accounts = store.accounts)
    (tables : SameTables store left) (locks : ∀ name j, j ≠ i → store.locks name = some j → left.locks name = some j) :
    Turned i Account.charge store (task, left) := by
  have mapped : left.accounts = store.accounts.map id := by rw [accounts, map_id]
  have keeps : KeepsKeys (id : Account → Account) := ⟨fun _ => rfl, fun _ => rfl⟩
  have leaves : Leaves i Account.charge store left :=
    rows_leave keeps mapped tables locks (fun _ _ => .inl) fun _ _ => Lighter.refl _
  exact ⟨sound_rows sound keeps mapped tables leaves sound.room, relies, leaves⟩

theorem turned_same (sound : Sound store) (relies : Relies i task store) : Turned i Account.charge store (task, store) :=
  turned_apart sound relies rfl (SameTables.refl store) fun _ _ _ held => held

theorem release_locks {name : LockName} (other : j ≠ i) (held : store.locks name = some j) :
    (store.release i).locks name = some j := by
  have different : store.locks name ≠ some i := by
    rw [held]
    simpa using other
  unfold Store.release
  dsimp only
  rw [if_neg different]
  exact held

theorem acquire_locks {name taken : LockName} (free : store.locks taken = none) (held : store.locks name = some j) :
    (store.acquire i taken).locks name = some j := by
  have different : name ≠ taken := by
    rintro rfl
    rw [free] at held
    cases held
  unfold Store.acquire
  dsimp only
  rw [if_neg different]
  exact held

theorem free_locks {name freed : LockName} (other : j ≠ i) (held : store.locks name = some j) :
    (store.free i freed).locks name = some j := by
  unfold Store.free
  dsimp only
  split
  · next own =>
    obtain ⟨rfl, mine⟩ := own
    rw [mine] at held
    exact absurd (Option.some.inj held).symm other
  · exact held

theorem turned_leave (sound : Sound store) : Turned i Account.charge store (leave i store) :=
  turned_apart sound (relies_none rfl trivial) rfl ⟨rfl, rfl, rfl⟩ fun _ _ other held => release_locks other held

theorem turned_tryLock {name : LockName} (sound : Sound store) (relies : Relies i task store) (pledge : task'.pledge = task.pledge)
    (manages : Manages i task' (store.acquire i name)) : Turned i Account.charge store (tryLock i name task' store) := by
  unfold tryLock
  split
  · next free =>
    exact turned_apart sound (relies.keep pledge manages rfl ⟨rfl, rfl, rfl⟩ fun held => acquire_locks free held) rfl
      ⟨rfl, rfl, rfl⟩ fun _ _ _ held => acquire_locks free held
  · exact turned_leave sound

theorem turned_on (sound : Sound store) (relies : Relies i task store) (pledge : task'.pledge = task.pledge)
    (manages : Manages i task' left) (accounts : left.accounts = store.accounts) (tables : SameTables store left)
    (locks : left.locks = store.locks) : Turned i Account.charge store (task', left) := by
  have kept (name : LockName) (j : Nat) (held : store.locks name = some j) : left.locks name = some j := by
    rw [locks]
    exact held
  exact turned_apart sound (relies.keep pledge manages accounts tables (kept _ i)) accounts tables fun name j _ held =>
    kept name j held

theorem setQuota_apart {username : String} {softMb hardMb inodeSoft inodeHard : Nat}
    (set : store.setQuota username softMb hardMb inodeSoft inodeHard = some left) :
    left.accounts = store.accounts ∧ SameTables store left ∧ left.locks = store.locks := by
  unfold Store.setQuota at set
  split at set
  · cases set
  · split at set
    · cases set
    · cases set
      exact ⟨rfl, ⟨rfl, rfl, rfl⟩, rfl⟩

theorem removeQuota_apart (store : Store) (username : String) :
    (store.removeQuota username).accounts = store.accounts ∧ SameTables store (store.removeQuota username) ∧
      (store.removeQuota username).locks = store.locks := by
  unfold Store.removeQuota
  cases set : store.setQuota username 0 0 0 0 with
  | none => exact ⟨rfl, SameTables.refl store, rfl⟩
  | some left => exact setQuota_apart set

section Creation
variable {owner : Option Nat} {username : String} {softMb hardMb : Nat}

theorem insert_turned {added : Store} (sound : Sound store) (relies : Relies i (.create owner username softMb hardMb .insert) store)
    (inserted : store.addAccount username softMb hardMb moment.now = some added) :
    Turned i Account.charge store
      (.create owner username softMb hardMb (.provision (newAccount store.accounts username softMb hardMb moment.now).id), added) := by
  unfold Store.addAccount at inserted
  dsimp only at inserted
  split at inserted
  · next panelUsers absent_ _ =>
    cases inserted
    generalize drawn : newAccount store.accounts username softMb hardMb moment.now = row
    have named : row.id = Rows.next Account.id store.accounts := by
      rw [← drawn]
      rfl
    have title : row.username = username := by
      rw [← drawn]
      rfl
    have charge : row.charge = some hardMb := by
      rw [← drawn]
      rfl
    have fresh (other : Account) (inside : other ∈ store.accounts) : other.id ≠ row.id := by
      have less : other.id < Rows.next Account.id store.accounts := lt_next inside
      omega
    have grown (member : Nat → Bool) : ({ store with accounts := store.accounts ++ [row], panelUsers } : Store).charges
        Account.charge member = store.charges Account.charge member ++ if member row.id = true then [hardMb] else [] := by
      unfold Store.charges
      cases counted : member row.id with
      | false => simp [counted]
      | true => simp [counted, charge]
    have absent (member : Nat → Bool) (known : ∀ id, member id = true → ∃ row ∈ store.accounts, row.id = id) :
        member row.id ≠ true := by
      intro counted
      obtain ⟨other, inside, same⟩ := known row.id counted
      exact fresh other inside same
    have leaves : Leaves i Account.charge store { store with accounts := store.accounts ++ [row], panelUsers } := by
      refine ⟨fun _ _ _ held => held, .inr ⟨rfl, rfl, rfl⟩, fun other inside => ⟨other, mem_append_left _ inside, rfl⟩,
        fun other row found => ⟨row, byKey_append found, rfl, .inl⟩, fun member known => ?_⟩
      rw [grown, if_neg (absent member known), append_nil]
      exact Below.refl _
    refine ⟨⟨?_, ?_, sound.profiles, fun link inside => ?_, fun profileId => ?_⟩, ⟨fun profileId pledge pledges => ?_, trivial⟩, leaves⟩
    · exact unique_append sound.unique fresh
    · refine unique_append sound.names fun other inside => ?_
      rw [title]
      exact byKey_none.mp absent_ other inside
    · obtain ⟨other, member, same⟩ := sound.known link inside
      exact ⟨other, mem_append_left _ member, same⟩
    · refine (sound.room profileId).below rfl rfl ?_
      exact (leaves.charges _ fun id owned => sound.owned profileId id owned).append (Below.refl _)
    · cases owner with
      | none => cases pledges
      | some reseller =>
        obtain ⟨held, _, room⟩ := relies.pledged reseller (.quota hardMb) rfl
        cases pledges
        refine ⟨held, fun id promised => ?_, room.below rfl rfl ?_⟩
        · cases promised
          exact ⟨row, mem_append_right _ mem_cons_self, rfl⟩
        · refine (leaves.charges _ fun id owned => sound.owned profileId id owned).append ?_
          have alone : store.charges Account.charge (fun other => decide (other = row.id)) = [] := by
            unfold Store.charges
            have nobody : store.accounts.filter (fun other => decide (other.id = row.id)) = [] := by
              rw [filter_eq_nil_iff]
              intro other inside
              simpa using fresh other inside
            rw [nobody]
            rfl
          have pledged : (Pledge.account row.id).charges Account.charge
              { store with accounts := store.accounts ++ [row], panelUsers } = [hardMb] := by
            have sum := grown fun other => decide (other = row.id)
            rw [alone, nil_append, if_pos (by simp)] at sum
            exact sum
          rw [pledged]
          exact Below.refl _
  · cases inserted

theorem create_turned (sound : Sound store) (phase : CreatePhase) (relies : Relies i (.create owner username softMb hardMb phase) store) :
    Turned i Account.charge store (createTurn moment i owner username softMb hardMb phase store) := by
  cases phase with
  | lock => exact turned_tryLock sound relies (by cases owner <;> rfl) trivial
  | check =>
    unfold createTurn
    dsimp only
    split
    · exact turned_on sound relies (by cases owner <;> rfl) trivial rfl (SameTables.refl store) rfl
    · exact turned_leave sound
  | useradd =>
    unfold createTurn
    dsimp only
    split
    · exact turned_leave sound
    · exact turned_on sound relies (by cases owner <;> rfl) trivial rfl ⟨rfl, rfl, rfl⟩ rfl
  | prepareHome => exact turned_on sound relies (by cases owner <;> rfl) trivial rfl (SameTables.refl store) rfl
  | setQuota =>
    unfold createTurn
    dsimp only
    split
    · exact turned_same sound (relies_none (by cases owner <;> rfl) trivial)
    · next set applied =>
      obtain ⟨accounts, tables, locks⟩ := setQuota_apart applied
      exact turned_on sound relies (by cases owner <;> rfl) trivial accounts tables locks
  | insert =>
    unfold createTurn
    dsimp only
    split
    · exact turned_same sound (relies_none (by cases owner <;> rfl) trivial)
    · next added inserted => exact insert_turned sound relies inserted
  | provision accountId =>
    unfold createTurn
    dsimp only
    split
    · exact turned_leave sound
    · have kept (held : store.locks .state = some i) : (store.free i .databaseMutations).locks .state = some i := by
        unfold Store.free
        dsimp only
        exact held
      exact turned_apart sound (relies.keep rfl trivial rfl ⟨rfl, rfl, rfl⟩ kept) rfl ⟨rfl, rfl, rfl⟩
        fun _ _ other held => free_locks other held
  | rollback => exact turned_apart sound (relies_none rfl trivial) rfl ⟨rfl, rfl, rfl⟩ fun _ _ other held => release_locks other held

end Creation

end

end Boron.Accounts
