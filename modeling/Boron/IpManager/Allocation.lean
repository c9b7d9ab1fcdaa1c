import Boron.IpManager.Addresses

namespace Boron.IpManager
open List Rows Statements

/-- The address that the policy `primary` stands for. -/
def Host.primaryAddress (host : Host) : Option String := if host.serverPublicIp = "" then none else
    match host.canonicalAddress host.serverPublicIp with
    | .ok (address, _) => some address
    | .error _ => none

namespace Db
variable (db : Db)

/-- The recorded policy has what it needs to give every new account an address. -/
def PolicyMet (host : Host) : Prop :=
  match db.policy.allocationPolicy with
  | .specific => ∃ row ∈ db.sharedIps, db.policy.defaultServerIpId = some row.id
  | .randomShared => db.sharedIps ≠ []
  | .primary => ∀ row ∈ db.ips, host.primaryAddress = some row.address → row.active → row.allocationMode = .shared

def Open (serverIpId accountId : Nat) : Prop :=
  ∀ row, db.ip serverIpId = some row →
    row.active = true ∧ (row.allocationMode = .dedicated → db.occupied serverIpId accountId = none)

/-- The recorded policy would fail if this address were not active and shared. -/
def RestsOn (host : Host) (row : ServerIp) : Prop :=
  match db.policy.allocationPolicy with
  | .specific => db.policy.defaultServerIpId = some row.id
  | .randomShared => ∀ other ∈ db.sharedIps, other.id = row.id
  | .primary => host.primaryAddress = some row.address

/-- An address that is active and shared; for `primary` one that is not active does as well. -/
def Serves (row : ServerIp) : Prop :=
  row.allocationMode = .shared ∧ row.active = true ∨
    db.policy.allocationPolicy = .primary ∧ row.active = false

end Db

namespace Write

/-- What the request checked before it wrote holds when the write lands. -/
def StillChecked (write : Write) (db : Db) : Prop :=
  match write with
  | .changeIp id columns =>
    (columns.allocationMode = some .dedicated → (db.assignmentsOf id).length ≤ 1) ∧
      (columns.active = some false → db.assignmentsOf id = [])
  | .changeSettings policy default =>
    match (db.landed policy default).allocationPolicy with
    | .specific => ∃ row ∈ db.sharedIps, (db.landed policy default).defaultServerIpId = some row.id
    | .randomShared => db.sharedIps ≠ []
    | .primary => True
  | .addAssignment serverIpId accountId => db.Open serverIpId accountId
  | .moveAssignment old serverIpId =>
    db.Open serverIpId old.accountId ∧ ∀ row ∈ db.assignments, row.id = old.id → row.accountId = old.accountId
  | _ => True

/-- What no request checks: `update_ip` and `delete_ip` leave the address of the recorded policy
as it needs it, and `set_policy` does not choose a primary address that is dedicated. -/
def SparesPolicy (host : Host) (write : Write) (db : Db) : Prop :=
  match write with
  | .changeIp id columns => ∀ row, db.ip id = some row → db.RestsOn host row → db.Serves (columns.set row)
  | .dropIp id => db.policy.allocationPolicy = .randomShared → ∃ other ∈ db.sharedIps, other.id ≠ id
  | .changeSettings policy default =>
    (db.landed policy default).allocationPolicy = .primary →
      ∀ row ∈ db.ips, host.primaryAddress = some row.address → row.active → row.allocationMode = .shared
  | _ => True

end Write

/-- A committed state as it should be. -/
structure Allocated (host : Host) (db : Db) : Prop where
  ips : Rows.Unique ServerIp.id db.ips
  rows : Rows.Unique ServerIpAssignment.id db.assignments
  /-- An account has at most one assignment. -/
  accounts : Rows.Unique ServerIpAssignment.accountId db.assignments
  /-- Every assignment is of an active address. -/
  active : ∀ assignment ∈ db.assignments, ∃ row ∈ db.ips, row.id = assignment.serverIpId ∧ row.active = true
  /-- A dedicated address has at most one assignment. -/
  dedicated : ∀ row ∈ db.ips, row.allocationMode = .dedicated → (db.assignmentsOf row.id).length ≤ 1
  policy : db.PolicyMet host

namespace Allocated
variable {host : Host} {db next : Db} {row : ServerIp}

section
variable (allocated : Allocated host db)
include allocated

theorem ip_of_mem (member : row ∈ db.ips) : db.ip row.id = some row := byKey_of_mem allocated.ips member

theorem default_shared (specific : db.policy.allocationPolicy = .specific) :
    ∃ row ∈ db.ips, db.policy.defaultServerIpId = some row.id ∧ row.active = true ∧ row.allocationMode = .shared := by
  have met := allocated.policy
  unfold Db.PolicyMet at met
  rw [specific] at met
  obtain ⟨row, member, named⟩ := met
  obtain ⟨inside, holds⟩ := mem_filter.mp member
  simp only [Bool.and_eq_true, decide_eq_true_eq] at holds
  exact ⟨row, inside, named, holds.1, holds.2⟩

theorem fewer (keep : ServerIpAssignment → Bool) :
    Allocated host { db with assignments := db.assignments.filter keep } where
  ips := allocated.ips
  rows := unique_filter allocated.rows keep
  accounts := unique_filter allocated.accounts keep
  active assignment member := allocated.active assignment (mem_filter.mp member).1
  dedicated row member mode := by
    have bound := allocated.dedicated row member mode
    have smaller : ((db.assignments.filter keep).filter (·.serverIpId = row.id)).length ≤
        (db.assignments.filter (·.serverIpId = row.id)).length :=
      (filter_sublist.filter _).length_le
    exact smaller.trans bound
  policy := allocated.policy

theorem addSettings (applied : Write.addSettings.apply db = .ok next) : Allocated host next := by
  unfold Write.apply at applied
  dsimp only at applied
  split at applied
  · cases applied
  · next unset =>
    cases applied
    have same : db.policy = { allocationPolicy := .primary, defaultServerIpId := none } := by
      unfold Db.policy
      rw [Option.not_isSome_iff_eq_none.mp unset]
      rfl
    have met := allocated.policy
    unfold Db.PolicyMet at met
    rw [same] at met
    exact { allocated with policy := met }

theorem addIp {item : Detected} (applied : (Write.addIp item).apply db = .ok next) : Allocated host next := by
  unfold Write.apply at applied
  dsimp only at applied
  split at applied
  · cases applied
  · cases applied
    refine ⟨?_, allocated.rows, allocated.accounts, ?_, ?_, ?_⟩
    · exact unique_append allocated.ips fun other member => (lt_next member).ne
    · intro assignment member
      obtain ⟨row, inside, named, active⟩ := allocated.active assignment member
      exact ⟨row, mem_append_left _ inside, named, active⟩
    · intro row member mode
      rcases mem_append.mp member with inside | added
      · exact allocated.dedicated row inside mode
      · rw [mem_singleton.mp added] at mode
        cases mode
    · have met := allocated.policy
      unfold Db.PolicyMet at met ⊢
      simp only [Db.policy, Db.sharedIps] at met ⊢
      split at met
      · obtain ⟨row, member, named⟩ := met
        refine ⟨row, ?_, named⟩
        rw [filter_append]
        exact mem_append_left _ member
      · rw [filter_append]
        exact append_ne_nil_of_right_ne_nil _ (cons_ne_nil _ _)
      · intro row member primary active
        rcases mem_append.mp member with inside | added
        · exact met row inside primary active
        · rw [mem_singleton.mp added]

end

variable {columns : Columns} {id : Nat}

theorem mem_change (member : row ∈ db.ips) :
    (if row.id = id then columns.set row else row) ∈ change ServerIp.id id columns.set db.ips :=
  mem_map.mpr ⟨row, member, rfl⟩

theorem of_mem_change (member : row ∈ change ServerIp.id id columns.set db.ips) :
    ∃ earlier ∈ db.ips, earlier.id = row.id ∧
      (earlier.id = id ∧ row = columns.set earlier ∨ earlier.id ≠ id ∧ row = earlier) := by
  obtain ⟨earlier, inside, same⟩ := mem_map.mp member
  split at same
  · next named =>
    subst same
    exact ⟨earlier, inside, rfl, .inl ⟨named, rfl⟩⟩
  · next other =>
    subst same
    exact ⟨earlier, inside, rfl, .inr ⟨other, rfl⟩⟩

theorem changeIp (allocated : Allocated host db)
    (checked : (Write.changeIp id columns).StillChecked db) (spares : (Write.changeIp id columns).SparesPolicy host db)
    (applied : (Write.changeIp id columns).apply db = .ok next) : Allocated host next := by
  unfold Write.apply at applied
  dsimp only at applied
  split at applied
  · cases applied
  · cases applied
    obtain ⟨few, nobody⟩ := checked
    have unique : Rows.Unique ServerIp.id (change ServerIp.id id columns.set db.ips) := by
      refine unique_change (fun row => ?_) allocated.ips
      rfl
    refine ⟨unique, allocated.rows, allocated.accounts, ?_, ?_, ?_⟩
    · intro assignment member
      obtain ⟨row, inside, named, active⟩ := allocated.active assignment member
      refine ⟨_, mem_change inside, ?_, ?_⟩
      · split
        · exact named
        · exact named
      · split
        · next same =>
          unfold Columns.set
          cases change : columns.active with
          | none => exact active
          | some value =>
            cases value with
            | true => rfl
            | false =>
              have none := nobody change
              have there : assignment ∈ db.assignmentsOf id :=
                mem_filter.mpr ⟨member, decide_eq_true (named.symm.trans same)⟩
              rw [none] at there
              cases there
        · exact active
    · intro row member mode
      obtain ⟨earlier, inside, same, ⟨named, landed⟩ | ⟨_, kept⟩⟩ := of_mem_change member
      · subst landed
        cases change : columns.allocationMode with
        | none =>
          unfold Columns.set at mode
          rw [change] at mode
          exact allocated.dedicated earlier inside mode
        | some value =>
          unfold Columns.set at mode
          rw [change] at mode
          cases mode
          have bound := few change
          rw [← named, same] at bound
          exact bound
      · subst kept
        exact allocated.dedicated row inside mode
    · have met := allocated.policy
      have unweakened : ∀ row ∈ db.ips, row.id = id → db.RestsOn host row → db.Serves (columns.set row) := by
        intro row inside named
        refine spares row ?_
        rw [← named]
        exact allocated.ip_of_mem inside
      unfold Db.PolicyMet at met ⊢
      have served : ∀ row ∈ db.ips, (row.id = id → db.Serves (columns.set row)) → row ∈ db.sharedIps →
          db.policy.allocationPolicy ≠ .primary →
          ∃ later ∈ ({ db with ips := change ServerIp.id id columns.set db.ips } : Db).sharedIps, later.id = row.id := by
        intro row inside serves shared other
        refine ⟨_, mem_filter.mpr ⟨mem_change inside, ?_⟩, ?_⟩
        · split
          · next named =>
            rcases serves named with ⟨mode, active⟩ | ⟨primary, _⟩
            · simp [mode, active]
            · exact absurd primary other
          · exact (mem_filter.mp shared).2
        · split
          · rfl
          · rfl
      have same : ({ db with ips := change ServerIp.id id columns.set db.ips } : Db).policy = db.policy := rfl
      rw [same]
      unfold Db.RestsOn at unweakened
      split at met
      · next policy =>
        simp only [policy] at unweakened
        obtain ⟨row, shared, named⟩ := met
        have inside := (mem_filter.mp shared).1
        obtain ⟨later, stays, sameId⟩ := served row inside (fun hit => unweakened row inside hit named) shared (by simp [policy])
        exact ⟨later, stays, named.trans (congrArg some sameId.symm)⟩
      · next policy =>
        simp only [policy] at unweakened
        by_cases last : ∀ other ∈ db.sharedIps, other.id = id
        · obtain ⟨row, shared⟩ := exists_mem_of_ne_nil _ met
          have inside := (mem_filter.mp shared).1
          obtain ⟨later, stays, _⟩ := served row inside
            (fun hit => unweakened row inside hit fun other member => (last other member).trans hit.symm) shared (by simp [policy])
          exact ne_nil_of_mem stays
        · push Not at last
          obtain ⟨row, shared, other⟩ := last
          have inside := (mem_filter.mp shared).1
          obtain ⟨later, stays, _⟩ := served row inside (fun hit => absurd hit other) shared (by simp [policy])
          exact ne_nil_of_mem stays
      · next policy =>
        simp only [policy] at unweakened
        intro row member primary active
        obtain ⟨earlier, inside, _, ⟨named, landed⟩ | ⟨_, kept⟩⟩ := of_mem_change member
        · subst landed
          rcases unweakened earlier inside named primary with ⟨mode, _⟩ | ⟨_, inactive⟩
          · exact mode
          · rw [active] at inactive
            cases inactive
        · subst kept
          exact met row inside primary active

theorem dropIp (allocated : Allocated host db) (spares : (Write.dropIp id).SparesPolicy host db)
    (applied : (Write.dropIp id).apply db = .ok next) : Allocated host next := by
  unfold Write.apply at applied
  dsimp only at applied
  split at applied
  · cases applied
  · next free =>
    cases applied
    simp only [Bool.or_eq_true, any_eq_true, Option.any_eq_true, decide_eq_true_eq, not_or, not_exists, not_and] at free
    obtain ⟨unassigned, undefault⟩ := free
    refine ⟨unique_filter allocated.ips _, allocated.rows, allocated.accounts, ?_, ?_, ?_⟩
    · intro assignment member
      obtain ⟨row, inside, named, active⟩ := allocated.active assignment member
      have other : row.id ≠ id := fun same => unassigned assignment member (named.symm.trans same)
      exact ⟨row, mem_filter.mpr ⟨inside, decide_eq_true other⟩, named, active⟩
    · intro row member mode
      exact allocated.dedicated row (mem_filter.mp member).1 mode
    · have met := allocated.policy
      have stays : ∀ row ∈ db.sharedIps, row.id ≠ id →
          row ∈ ({ db with ips := db.ips.filter (·.id ≠ id) } : Db).sharedIps := by
        intro row shared other
        obtain ⟨inside, holds⟩ := mem_filter.mp shared
        exact mem_filter.mpr ⟨mem_filter.mpr ⟨inside, decide_eq_true other⟩, holds⟩
      have same : ({ db with ips := db.ips.filter (·.id ≠ id) } : Db).policy = db.policy := rfl
      unfold Db.PolicyMet at met ⊢
      rw [same]
      split at met
      · obtain ⟨row, shared, named⟩ := met
        refine ⟨row, stays row shared fun hit => ?_, named⟩
        have recorded : ∃ settings, db.settings = some settings ∧ settings.defaultServerIpId = some id := by
          unfold Db.policy at named
          cases present : db.settings with
          | none =>
            rw [present] at named
            cases named
          | some settings =>
            rw [present] at named
            exact ⟨settings, rfl, named.trans (congrArg some hit)⟩
        obtain ⟨settings, present, isDefault⟩ := recorded
        exact undefault settings present isDefault
      · next policy =>
        obtain ⟨other, shared, apart⟩ := spares policy
        exact ne_nil_of_mem (stays other shared apart)
      · intro row member primary active
        exact met row (mem_filter.mp member).1 primary active

theorem changeSettings {policy : Option Policy} {default : Option (Option Nat)} (allocated : Allocated host db)
    (checked : (Write.changeSettings policy default).StillChecked db)
    (spares : (Write.changeSettings policy default).SparesPolicy host db)
    (applied : (Write.changeSettings policy default).apply db = .ok next) : Allocated host next := by
  unfold Write.apply at applied
  dsimp only at applied
  split at applied
  · cases applied
  · split at applied
    · cases applied
    · cases applied
      refine ⟨allocated.ips, allocated.rows, allocated.accounts, allocated.active, allocated.dedicated, ?_⟩
      have same : ({ db with settings := some (db.landed policy default) } : Db).policy = db.landed policy default := rfl
      unfold Db.PolicyMet
      rw [same]
      unfold Write.StillChecked at checked
      split
      · next specific =>
        simp only [specific] at checked
        exact checked
      · next random =>
        simp only [random] at checked
        exact checked
      · next primary => exact spares primary

theorem occupied_none {serverIpId accountId : Nat} : db.occupied serverIpId accountId = none ↔
      ∀ assignment ∈ db.assignments, assignment.serverIpId = serverIpId → assignment.accountId = accountId := by
  unfold Db.occupied
  simp

/-- All assignments of one address are of one account, which has one. -/
theorem single {assignments : List ServerIpAssignment} {serverIpId : Nat} (accountId : Nat)
    (unique : Rows.Unique ServerIpAssignment.accountId assignments)
    (all : ∀ assignment ∈ assignments, assignment.serverIpId = serverIpId → assignment.accountId = accountId) :
    (assignments.filter (·.serverIpId = serverIpId)).length ≤ 1 := by
  by_contra several
  rw [← countP_eq_length_filter] at several
  obtain ⟨row, inside, named, other⟩ := exists_other unique (Nat.lt_of_not_le several) accountId
  exact other (all row inside (of_decide_eq_true named))

theorem addAssignment {serverIpId accountId : Nat} (allocated : Allocated host db)
    (checked : db.Open serverIpId accountId)
    (applied : (Write.addAssignment serverIpId accountId).apply db = .ok next) : Allocated host next := by
  unfold Write.apply at applied
  dsimp only at applied
  split at applied
  · cases applied
  · next free =>
    cases applied
    simp only [Bool.or_eq_true, not_or, Bool.not_eq_true, Option.isNone_eq_false_iff, Option.isSome_eq_false_iff] at free
    obtain ⟨⟨known, _⟩, unassigned⟩ := free
    obtain ⟨row, found⟩ := Option.isSome_iff_exists.mp known
    obtain ⟨inside, named⟩ := byKey_some found
    obtain ⟨active, vacant⟩ := checked row found
    have first : ∀ other ∈ db.assignments, other.accountId ≠ accountId := by
      have none := Option.isNone_iff_eq_none.mp unassigned
      unfold Db.assignmentOf at none
      simpa using none
    have accounts : Rows.Unique ServerIpAssignment.accountId (db.assignments ++
        [{ id := Rows.next ServerIpAssignment.id db.assignments, serverIpId, accountId }]) :=
      unique_append allocated.accounts first
    refine ⟨allocated.ips, ?_, accounts, ?_, ?_, allocated.policy⟩
    · exact unique_append allocated.rows fun other member => (lt_next member).ne
    · intro assignment member
      rcases mem_append.mp member with old | added
      · exact allocated.active assignment old
      · rw [mem_singleton.mp added]
        exact ⟨row, inside, named, active⟩
    · intro other member mode
      by_cases same : other.id = serverIpId
      · have equal : other = row := by
          have foundOther := allocated.ip_of_mem member
          rw [same, found] at foundOther
          exact (Option.some.inj foundOther).symm
        subst equal
        rw [same]
        refine single accountId accounts fun assignment held names => ?_
        rcases mem_append.mp held with old | added
        · exact occupied_none.mp (vacant mode) assignment old names
        · rw [mem_singleton.mp added]
      · have bound := allocated.dedicated other member mode
        unfold Db.assignmentsOf at bound ⊢
        have apart : decide (serverIpId = other.id) = false := decide_eq_false (Ne.symm same)
        simpa [filter_cons, apart] using bound

theorem moveAssignment {old : ServerIpAssignment} {serverIpId : Nat} (allocated : Allocated host db)
    (checked : (Write.moveAssignment old serverIpId).StillChecked db)
    (applied : (Write.moveAssignment old serverIpId).apply db = .ok next) : Allocated host next := by
  obtain ⟨opened, owned⟩ := checked
  unfold Write.apply at applied
  dsimp only at applied
  split at applied
  · cases applied
  · split at applied
    · cases applied
    · next known =>
      cases applied
      obtain ⟨row, found⟩ := Option.ne_none_iff_exists'.mp (by simpa using known)
      obtain ⟨inside, named⟩ := byKey_some found
      obtain ⟨active, vacant⟩ := opened row found
      have accounts : Rows.Unique ServerIpAssignment.accountId
          (change ServerIpAssignment.id old.id (fun row => { row with serverIpId }) db.assignments) := by
        refine unique_change (fun row => ?_) allocated.accounts
        rfl
      have rows : Rows.Unique ServerIpAssignment.id
          (change ServerIpAssignment.id old.id (fun row => { row with serverIpId }) db.assignments) := by
        refine unique_change (fun row => ?_) allocated.rows
        rfl
      refine ⟨allocated.ips, rows, accounts, ?_, ?_, allocated.policy⟩
      · intro assignment member
        obtain ⟨earlier, held, same⟩ := mem_map.mp member
        split at same
        · subst same
          exact ⟨row, inside, named, active⟩
        · subst same
          exact allocated.active earlier held
      · intro other member mode
        by_cases same : other.id = serverIpId
        · have equal : other = row := by
            have foundOther := allocated.ip_of_mem member
            rw [same, found] at foundOther
            exact (Option.some.inj foundOther).symm
          subst equal
          rw [same]
          refine single old.accountId accounts fun assignment held names => ?_
          obtain ⟨earlier, before, left⟩ := mem_map.mp held
          split at left
          · next moved =>
            subst left
            exact owned earlier before moved
          · subst left
            exact occupied_none.mp (vacant mode) earlier before names
        · have bound := allocated.dedicated other member mode
          have smaller : (({ db with
              assignments := change ServerIpAssignment.id old.id (fun row => { row with serverIpId }) db.assignments } : Db).assignmentsOf
                other.id).length ≤ (db.assignmentsOf other.id).length := by
            unfold Db.assignmentsOf change
            rw [← countP_eq_length_filter, ← countP_eq_length_filter, countP_map]
            refine countP_mono_left fun assignment _ holds => ?_
            simp only [Function.comp_apply] at holds
            split at holds
            · exact absurd (of_decide_eq_true holds).symm same
            · exact holds
          exact smaller.trans bound

/-- Each write that finds what it needs leaves the allocation as it should be. -/
theorem apply {write : Write} (allocated : Allocated host db) (checked : write.StillChecked db)
    (spares : write.SparesPolicy host db) (applied : write.apply db = .ok next) : Allocated host next := by
  cases write with
  | addSettings => exact allocated.addSettings applied
  | addIp item => exact allocated.addIp applied
  | changeIp id columns => exact allocated.changeIp checked spares applied
  | dropIp id => exact allocated.dropIp spares applied
  | changeSettings policy default => exact allocated.changeSettings checked spares applied
  | addAssignment serverIpId accountId => exact allocated.addAssignment checked applied
  | moveAssignment old serverIpId => exact allocated.moveAssignment checked applied
  | dropAssignment id =>
    cases applied
    exact allocated.fewer _
  | dropAssignments accountId =>
    cases applied
    exact allocated.fewer _
  | changeAccounts accounts =>
    unfold Write.apply at applied
    dsimp only at applied
    split at applied
    · cases applied
      exact { allocated with }
    · cases applied

end Allocated

end Boron.IpManager
