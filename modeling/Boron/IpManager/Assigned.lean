import Boron.IpManager.Allocation

namespace Boron.IpManager
open List Rows Statements

/-- The settings row as `_settings_row` leaves it. -/
def Db.settled (db : Db) : Db := { db with settings := some db.policy }

@[simp] theorem settled_policy (db : Db) : db.settled.policy = db.policy := rfl

theorem Allocated.settled {host : Host} {db : Db} (allocated : Allocated host db) : Allocated host db.settled :=
  { allocated with policy := allocated.policy }

section
variable {fits : Moment → Prop} {allows : Write → Db → Prop} {before db : Db}

theorem calm_settingsRow {Q : Except Raised ServerIpSettings → Db → Db → Prop} (allowed : allows .addSettings db)
    (later : Q (.ok db.policy) before db.settled) : settingsRow.Calm Write.apply fits allows before db Q := by
  unfold settingsRow
  rw [calm_bind, calm_select]
  intro moment _
  cases present : db.settings with
  | some row =>
    have same : db.settled = db := by
      unfold Db.settled Db.policy
      rw [present]
      exact congrArg (fun settings => ({ db with settings } : Db)) present.symm
    have named : db.policy = row := by
      unfold Db.policy
      rw [present]
      rfl
    rw [same, named] at later
    exact later
  | none =>
    refine (calm_execute _ _).mpr ⟨allowed, ?_⟩
    have named : db.policy = { allocationPolicy := .primary, defaultServerIpId := none } := by
      unfold Db.policy
      rw [present]
      rfl
    unfold Db.settled at later
    rw [named] at later
    unfold Write.apply
    simp only [present, Option.isSome_none, Bool.false_eq_true, if_false]
    exact later

end

/-- Anything may be found outside. -/
abbrev anywhere : Moment → Prop := fun _ => True

abbrev Checked {α : Type} (request : Request α) (before db : Db) (Q : Except Raised α → Db → Db → Prop) : Prop :=
  request.Calm Write.apply anywhere Write.StillChecked before db Q

section
variable {host : Host} {before db : Db}

theorem checked_addEach (existing : List String) (items : List Detected) (db : Db) :
    Checked (addEach existing items) before db fun _ _ _ => True := by
  induction items generalizing db with
  | nil => exact trivial
  | cons item rest ih =>
    unfold addEach
    split
    · exact ih db
    · refine (calm_bind _ _).mpr ((calm_execute _ _).mpr ⟨trivial, ?_⟩)
      split
      · next next _ =>
        refine (calm_bind _ _).mpr ((ih next).imp fun outcome _ _ _ => ?_)
        cases outcome <;> exact trivial
      · exact trivial

theorem checked_normalized (available : List Detected) (raws : List String)
    {Q : Except Raised (List Detected) → Db → Db → Prop} (later : ∀ outcome, Q outcome before db) :
    Checked (normalized host available raws) before db Q := by
  induction raws generalizing Q with
  | nil => exact later _
  | cons raw rest ih =>
    unfold normalized
    split
    · exact later _
    · split
      · exact later _
      · refine (calm_bind _ _).mpr (ih fun outcome => ?_)
        cases outcome <;> exact later _

theorem checked_importAddresses (addresses : List String) :
    Checked (importAddresses host addresses) db db fun _ _ _ => True := by
  refine (calm_bind _ _).mpr fun moment _ => ?_
  refine (calm_bind _ _).mpr ((calm_raiseIf _ _).mpr ⟨fun _ => trivial, fun _ => ?_⟩)
  refine (calm_bind _ _).mpr (checked_normalized _ _ fun outcome => ?_)
  cases outcome with
  | error raised => exact trivial
  | ok items =>
    refine (calm_transaction _).mpr ((calm_bind _ _).mpr fun _ _ => ?_)
    refine (checked_addEach _ items db).imp fun outcome _ _ _ => ?_
    cases outcome <;> exact trivial

theorem checked_requirePresent (active : Bool) (address : String) {Q : Except Raised Unit → Db → Db → Prop}
    (later : ∀ outcome, Q outcome before db) : Checked (requirePresent active address) before db Q := by
  unfold requirePresent
  split
  · refine (calm_bind _ _).mpr fun moment _ => ?_
    exact (calm_raiseIf _ _).mpr ⟨fun _ => later _, fun _ => later _⟩
  · exact later _

theorem checked_execute {α : Type} {write : Write} (tells : Db → α) (allowed : write.StillChecked db) :
    Checked (execute write tells) before db fun _ _ _ => True := by
  refine (calm_execute _ _).mpr ⟨allowed, ?_⟩
  split <;> exact trivial

theorem checked_flushIp {id : Nat} {columns : Columns} (allowed : (Write.changeIp id columns).StillChecked db) :
    Checked (flushIp id columns) before db fun _ _ _ => True := by
  unfold flushIp
  split
  · exact trivial
  · exact checked_execute _ allowed

theorem checked_updateIp (params : UpdateParams) : Checked (updateIp params) db db fun _ _ _ => True := by
  unfold Checked updateIp
  simp only [calm_transaction, calm_bind, calm_select]
  intro _ _
  split
  · exact trivial
  next row found =>
  split
  · exact trivial
  next mode _ =>
  simp only [calm_bind, calm_select, calm_raiseIf, presentAddresses, calm_look, calm_pure]
  intro _ _
  refine ⟨fun _ => trivial, fun few => ⟨fun _ => trivial, fun _ => ?_⟩⟩
  refine checked_requirePresent _ _ fun outcome => ?_
  cases outcome with
  | error raised => exact trivial
  | ok _ =>
    refine ⟨fun _ => trivial, fun vacant => ?_⟩
    refine (checked_flushIp ⟨?_, ?_⟩).imp fun outcome _ _ _ => ?_
    rotate_left 2
    · cases outcome with
      | ok _ => exact fun _ _ _ _ => trivial
      | error raised => exact trivial
    · intro dedicated
      have given : mode = .dedicated := by
        unfold changed at dedicated
        split at dedicated
        · cases dedicated
        · exact Option.some.inj dedicated
      exact Nat.le_of_not_lt fun several => few ⟨given, several⟩
    · intro disabled
      have given : params.active.getD row.active = false := by
        unfold changed at disabled
        dsimp only at disabled
        split at disabled
        · cases disabled
        · exact Option.some.inj disabled
      by_contra some
      exact vacant ⟨by rw [given]; rfl, fun empty => some (length_eq_zero_iff.mp empty)⟩

theorem checked_deleteIp (id : Nat) : Checked (deleteIp id) db db fun _ _ _ => True := by
  unfold Checked deleteIp
  simp only [calm_transaction, calm_bind, calm_select]
  intro _ _
  split
  · exact trivial
  · simp only [calm_bind, calm_select, calm_raiseIf]
    intro _ _
    refine ⟨fun _ => trivial, fun _ => calm_settingsRow trivial ⟨fun _ => trivial, fun _ => ?_⟩⟩
    have allowed : (Write.dropIp id).StillChecked db.settled := trivial
    exact (checked_execute _ allowed).imp fun outcome _ _ _ => by cases outcome <;> exact trivial

theorem checked_checkPolicy (policy : Policy) (ipId : Option Nat) {Q : Except Raised (Option Nat) → Db → Db → Prop}
    (raises : ∀ raised, Q (.error raised) before db)
    (chosen : ∀ default, (policy = .specific → ∃ row ∈ db.sharedIps, default = some row.id) →
      (policy = .randomShared → db.sharedIps ≠ []) → Q (.ok default) before db) :
    Checked (checkPolicy policy ipId) before db Q := by
  unfold Checked checkPolicy
  split
  · split
    · exact raises _
    · next id =>
      simp only [calm_bind, calm_select]
      intro _ _
      split
      · exact raises _
      · next row found =>
        obtain ⟨inside, named⟩ := byKey_some found
        simp only [calm_bind, calm_raiseIf, presentAddresses, calm_look, calm_pure]
        refine ⟨fun _ => raises _, fun active _ _ => ⟨fun _ => raises _, fun _ => ⟨fun _ => raises _, fun shared => ?_⟩⟩⟩
        refine chosen _ (fun _ => ⟨row, mem_filter.mpr ⟨inside, ?_⟩, congrArg some named.symm⟩) (fun same => by cases same)
        simp only [Bool.not_eq_true', Bool.not_eq_false, ne_eq, Decidable.not_not] at active shared
        simp [active, shared]
  · simp only [calm_bind, calm_select, presentAddresses, calm_look, calm_raiseIf, calm_pure]
    intro moment _ _ _
    refine ⟨fun _ => raises _, fun some => chosen _ (fun same => by cases same) fun _ none => some ?_⟩
    rw [none]
    rfl
  · exact chosen _ (fun same => by cases same) (fun same => by cases same)

theorem checked_setPolicy (policy : Option Policy) (ipId : Option Nat) :
    Checked (setPolicy policy ipId) db db fun _ _ _ => True := by
  unfold Checked setPolicy
  split
  · exact trivial
  next policy =>
  simp only [calm_transaction, calm_bind]
  refine checked_checkPolicy policy ipId (fun _ => trivial) fun default specific random => ?_
  refine calm_settingsRow trivial ?_
  have landed : (Write.changeSettings (if policy = db.policy.allocationPolicy then none else some policy)
      (if default = db.policy.defaultServerIpId then none else some default)).StillChecked db.settled := by
    have kept : db.settled.landed (if policy = db.policy.allocationPolicy then none else some policy)
        (if default = db.policy.defaultServerIpId then none else some default) =
          { allocationPolicy := policy, defaultServerIpId := default } := by
      unfold Db.landed
      congr 1
      · split
        · next same => exact same.symm
        · rfl
      · split
        · next same => exact same.symm
        · rfl
    unfold Write.StillChecked
    dsimp only
    rw [kept]
    cases policy with
    | specific => exact specific rfl
    | randomShared => exact random rfl
    | primary => exact trivial
  have flushed : Checked (flushSettings db.policy policy default) db db.settled fun _ _ _ => True := by
    unfold flushSettings
    split
    · exact trivial
    · exact checked_execute _ landed
  exact flushed.imp fun outcome _ _ _ => by cases outcome <;> exact trivial

/-- What is chosen may be given to the account, as the database is. -/
structure Choice (db : Db) (row : ServerIp) : Prop where
  found : db.ip row.id = some row
  active : row.active = true

variable {oldRow : Option ServerIp}

theorem loaded_eq (unique : Rows.Unique ServerIp.id db.ips) (old : ∀ row, oldRow = some row → row ∈ db.ips)
    {row : ServerIp} (member : row ∈ db.ips) : loaded oldRow row = row := by
  unfold loaded
  cases oldRow with
  | none => rfl
  | some earlier =>
    dsimp only
    split
    · next same => exact inj_on_of_nodup_map unique (old earlier rfl) member same
    · rfl

theorem loaded_map (unique : Rows.Unique ServerIp.id db.ips) (old : ∀ row, oldRow = some row → row ∈ db.ips) :
    db.sharedIps.map (loaded oldRow) = db.sharedIps := by
  refine (map_congr_left fun row member => ?_).trans (map_id _)
  exact loaded_eq unique old (mem_filter.mp member).1

section
variable {fits : Moment → Prop} {allows : Write → Db → Prop} {oldRow : Option ServerIp}
  {Q : Except Raised (Option ServerIp) → Db → Db → Prop}

theorem calm_getIp (unique : Rows.Unique ServerIp.id db.ips) (old : ∀ row, oldRow = some row → row ∈ db.ips) (id : Nat)
    (later : Q (.ok (db.ip id)) before db) : (getIp oldRow id).Calm Write.apply fits allows before db Q := by
  unfold getIp
  split
  · next row =>
    split
    · next same =>
      have found : db.ip row.id = some row := byKey_of_mem unique (old row rfl)
      rw [← same, found] at later
      exact later
    · exact fun _ _ => later
  · exact fun _ _ => later

end

theorem choice_of_mem (unique : Rows.Unique ServerIp.id db.ips) {row : ServerIp} (member : row ∈ db.ips)
    (active : row.active = true) : Choice db row := ⟨byKey_of_mem unique member, active⟩

variable {Q : Except Raised (Option ServerIp) → Db → Db → Prop}

theorem checked_chooseRandom (unique : Rows.Unique ServerIp.id db.ips) (old : ∀ row, oldRow = some row → row ∈ db.ips) (raises : ∀ raised, Q (.error raised) before db)
    (chosen : ∀ choice, (∀ row, choice = some row → Choice db row) → Q (.ok choice) before db) :
    Checked (chooseRandom oldRow) before db Q := by
  unfold Checked chooseRandom
  simp only [calm_bind, calm_select, presentAddresses, calm_look, calm_raiseIf, calm_pure]
  intro _ _ _ _
  refine ⟨fun _ => raises _, fun _ _ _ => chosen _ fun row taken => ?_⟩
  rw [loaded_map unique old] at taken
  have candidate := (mem_filter.mp (mem_of_getElem? taken)).1
  obtain ⟨member, holds⟩ := mem_filter.mp candidate
  simp only [Bool.and_eq_true, decide_eq_true_eq] at holds
  exact choice_of_mem unique member holds.1

theorem checked_chooseBy (unique : Rows.Unique ServerIp.id db.ips) (old : ∀ row, oldRow = some row → row ∈ db.ips) (mode : Selection) (ipId : Option Nat)
    (raises : ∀ raised, Q (.error raised) before db)
    (chosen : ∀ choice, (∀ row, choice = some row → Choice db row) → Q (.ok choice) before db) :
    Checked (chooseBy host oldRow mode ipId) before db Q := by
  unfold Checked chooseBy
  split
  · unfold choosePrimary
    split
    · exact chosen none nofun
    · split
      · exact raises _
      · refine fun _ _ => chosen _ fun row taken => ?_
        obtain ⟨found, hit, same⟩ := Option.map_eq_some_iff.mp taken
        have member := List.mem_of_find?_eq_some hit
        have holds := List.find?_some hit
        simp only [Bool.and_eq_true, decide_eq_true_eq] at holds
        rw [loaded_eq unique old member] at same
        subst same
        exact choice_of_mem unique member holds.2
  · exact checked_chooseRandom unique old raises chosen
  · exact checked_chooseRandom unique old raises chosen
  · unfold chooseSpecific
    split
    · exact raises _
    next id =>
    simp only [calm_bind]
    refine calm_getIp unique old id ?_
    dsimp only
    split
    · exact raises _
    next row found =>
    simp only [calm_bind, calm_raiseIf, presentAddresses, calm_look, calm_pure]
    refine ⟨fun _ => raises _, fun active _ _ => ⟨fun _ => raises _, fun _ => chosen _ fun other same => ?_⟩⟩
    cases same
    exact choice_of_mem unique (byKey_some found).1 (by simpa using active)
  · exact raises _

theorem checked_unassign (username : String) (old : Option ServerIpAssignment) :
    Checked (unassign host username old) before db fun _ _ _ => True := by
  unfold unassign
  split
  · next row =>
    have allowed : (Write.dropAssignment row.id).StillChecked db := trivial
    exact checked_execute _ allowed
  · exact trivial

def OldOf (db : Db) (accountId : Nat) (old : Option ServerIpAssignment) : Prop :=
  ∀ row, old = some row → row ∈ db.assignments ∧ row.accountId = accountId

variable {old : Option ServerIpAssignment}

theorem checked_assignTo (rows : Rows.Unique ServerIpAssignment.id db.assignments) {account : Account}
    {username : String} {chosen : ServerIp} (choice : Choice db chosen)
    (owned : OldOf db account.id old) :
    Checked (assignTo host account username old chosen) before db fun _ _ _ => True := by
  have flushed : (chosen.allocationMode = .dedicated → db.occupied chosen.id account.id = none) →
      Checked (flushAssignment account.id old chosen) before db fun _ _ _ => True := by
    intro vacant
    have opened : db.Open chosen.id account.id := by
      intro row found
      rw [choice.found] at found
      cases found
      exact ⟨choice.active, vacant⟩
    unfold flushAssignment
    split
    · have allowed : (Write.addAssignment chosen.id account.id).StillChecked db := opened
      exact checked_execute _ allowed
    · next row =>
      obtain ⟨member, own⟩ := owned row rfl
      split
      · exact trivial
      · have allowed : (Write.moveAssignment row chosen.id).StillChecked db := by
          refine ⟨own ▸ opened, fun other held same => ?_⟩
          rw [inj_on_of_nodup_map rows held member same]
        exact checked_execute _ allowed
  have ended : (chosen.allocationMode = .dedicated → db.occupied chosen.id account.id = none) →
      Checked (do flushAssignment account.id old chosen; pure (assignmentDict host (some chosen) username)) before db
        fun _ _ _ => True := by
    intro vacant
    refine (calm_bind _ _).mpr ((flushed vacant).imp fun outcome _ _ _ => ?_)
    cases outcome <;> exact trivial
  unfold Checked assignTo requireVacant
  split
  · simp only [calm_bind, calm_select, calm_raiseIf]
    refine fun _ _ => ⟨fun _ => trivial, fun free => ?_⟩
    exact (calm_bind _ _).mp (ended fun _ => by simpa using free)
  · next shared =>
    exact (calm_bind _ _).mpr (ended fun dedicated => absurd dedicated shared)

theorem checked_assignSelected (ips : Rows.Unique ServerIp.id db.ips) (rows : Rows.Unique ServerIpAssignment.id db.assignments)
    {account : Account} {params : AssignParams} (owned : OldOf db account.id old) (known : ∀ row, oldRow = some row → row ∈ db.ips) :
    Checked (assignSelected host account params old oldRow) before db fun _ _ _ => True := by
  unfold Checked assignSelected
  split
  · exact checked_unassign _ _
  · unfold chooseIp
    simp only [calm_bind]
    refine calm_settingsRow trivial ?_
    have ips' : Rows.Unique ServerIp.id db.settled.ips := ips
    have known' : ∀ row, oldRow = some row → row ∈ db.settled.ips := known
    refine checked_chooseBy ips' known' _ _ ?_ ?_
    · exact fun _ => trivial
    · intro choice given
      cases choice with
      | none => exact checked_unassign _ _
      | some chosen =>
        have rows' : Rows.Unique ServerIpAssignment.id db.settled.assignments := rows
        have owned' : OldOf db.settled account.id old := owned
        exact checked_assignTo rows' (given chosen rfl) owned'

theorem oldOf_assignmentOf (accountId : Nat) : OldOf db accountId (db.assignmentOf accountId) := by
  intro row found
  exact ⟨List.mem_of_find?_eq_some found, by simpa using List.find?_some found⟩

theorem calm_addressOf {fits : Moment → Prop} {allows : Write → Db → Prop} (later : ∀ oldRow, (∀ row, oldRow = some row → row ∈ db.ips) → Q (.ok oldRow) before db) :
    (addressOf old).Calm Write.apply fits allows before db Q := by
  unfold addressOf
  split
  · exact fun _ _ => later _ fun row found => (byKey_some found).1
  · exact later none nofun

theorem checked_assignAccount (ips : Rows.Unique ServerIp.id db.ips)
    (rows : Rows.Unique ServerIpAssignment.id db.assignments) (params : AssignParams) :
    Checked (assignAccount host params) db db fun _ _ _ => True := by
  unfold Checked assignAccount
  simp only [calm_transaction, calm_bind, calm_select]
  intro _ _
  split
  · exact trivial
  next account _ =>
  simp only [calm_bind, calm_raiseIf, calm_select]
  refine ⟨fun _ => trivial, fun _ _ _ => calm_addressOf fun oldRow known => ?_⟩
  refine (checked_assignSelected ips rows (oldOf_assignmentOf account.id) known).imp fun outcome _ _ _ => ?_
  cases outcome <;> exact trivial

end

inductive Call
  | importAddresses (addresses : List String)
  | updateIp (params : UpdateParams)
  | deleteIp (id : Nat)
  | setPolicy (policy : Option Policy) (defaultServerIpId : Option Nat)
  | assignAccount (params : AssignParams)
  | assignForNewAccount (username : String) (selection : Option Selection) (serverIpId : Option Nat)
  | releaseAccount (accountId : Nat)
  | changeAccounts (accounts : List Account)

inductive Answer
  | imported (created : List IpDict)
  | updated (ip : IpDict)
  | deleted (id : Nat) (address : String)
  | policy (policy : Policy) (defaultServerIpId : Option Nat)
  | assigned (assignment : AssignmentDict)
  | done

def Call.program (host : Host) : Call → Request Answer
  | .importAddresses addresses => do return .imported (← IpManager.importAddresses host addresses)
  | .updateIp params => do return .updated (← IpManager.updateIp params)
  | .deleteIp id => do
    let (id, address) ← IpManager.deleteIp id
    return .deleted id address
  | .setPolicy policy ipId => do
    let (policy, ipId) ← IpManager.setPolicy policy ipId
    return .policy policy ipId
  | .assignAccount params => do return .assigned (← IpManager.assignAccount host params)
  | .assignForNewAccount username selection serverIpId => do
    return .assigned (← IpManager.assignForNewAccount host username selection serverIpId)
  | .releaseAccount accountId => do
    IpManager.releaseAccount accountId
    return .done
  | .changeAccounts accounts => transaction (execute (.changeAccounts accounts) fun _ => .done)

theorem checked_return {α : Type} {request : Request α} {db : Db} (answer : α → Answer)
    (checked : Checked request db db fun _ _ _ => True) :
    Checked (do return answer (← request)) db db fun _ _ _ => True := by
  refine (calm_bind _ _).mpr (checked.imp fun outcome _ _ _ => ?_)
  cases outcome <;> exact trivial

theorem checked_program {host : Host} {db : Db} (allocated : Allocated host db) (call : Call) :
    Checked (call.program host) db db fun _ _ _ => True := by
  cases call with
  | importAddresses addresses => exact checked_return _ (checked_importAddresses addresses)
  | updateIp params => exact checked_return _ (checked_updateIp params)
  | deleteIp id => exact checked_return _ (checked_deleteIp id)
  | setPolicy policy ipId => exact checked_return _ (checked_setPolicy policy ipId)
  | assignAccount params => exact checked_return _ (checked_assignAccount allocated.ips allocated.rows params)
  | assignForNewAccount username selection serverIpId =>
    exact checked_return _ (checked_assignAccount allocated.ips allocated.rows _)
  | releaseAccount accountId =>
    have allowed : (Write.dropAssignments accountId).StillChecked db := trivial
    refine checked_return _ ((calm_transaction _).mpr ((checked_execute _ allowed).imp fun outcome _ _ _ => ?_))
    cases outcome <;> exact trivial
  | changeAccounts accounts =>
    have allowed : (Write.changeAccounts accounts).StillChecked db := trivial
    refine (calm_transaction _).mpr ((checked_execute _ allowed).imp fun outcome _ _ _ => ?_)
    cases outcome <;> exact trivial

def Host.Configured (host : Host) : Prop := host.serverPublicIp = "" ∨ host.primaryAddress.isSome

/-- What the policy rests on outside the database: the host still has its addresses. -/
def Provides (db : Db) (moment : Moment) : Prop :=
  match db.policy.allocationPolicy with
  | .specific => ∀ row ∈ db.ips, db.policy.defaultServerIpId = some row.id → row.address ∈ moment.detected.map Detected.address
  | .randomShared => ∃ row ∈ db.sharedIps, row.address ∈ moment.detected.map Detected.address
  | .primary => True

section
variable {host : Host} {before db : Db} {oldRow : Option ServerIp}

/-- The writes are not asked for anything here, only for what comes of them. -/
abbrev Served {α : Type} (asked : Db) (request : Request α) (before db : Db)
    (Q : Except Raised α → Db → Db → Prop) : Prop :=
  request.Calm Write.apply (Provides asked) (fun _ _ => True) before db Q

theorem mem_sharedIps {row : ServerIp} : row ∈ db.sharedIps ↔ row ∈ db.ips ∧ row.active = true ∧ row.allocationMode = .shared := by
  unfold Db.sharedIps
  simp

variable {Q : Except Raised (Option ServerIp) → Db → Db → Prop} {asked : Db}

theorem served_choosePrimary (allocated : Allocated host db) (policy : db.policy.allocationPolicy = .primary)
    (configured : host.Configured)
    (old : ∀ row, oldRow = some row → row ∈ db.ips) (later : ∀ choice, (∀ row, choice = some row → row ∈ db.sharedIps) → Q (.ok choice) before db) :
    Served asked (choosePrimary host oldRow) before db Q := by
  have met := allocated.policy
  unfold Db.PolicyMet at met
  simp only [policy] at met
  unfold Host.Configured at configured
  unfold Host.primaryAddress at met configured
  unfold Served choosePrimary
  by_cases unset : host.serverPublicIp = ""
  · simp only [unset, if_true]
    exact later none nofun
  · simp only [unset, if_false, false_or] at met configured ⊢
    cases canonical : host.canonicalAddress host.serverPublicIp with
    | error message => simp [canonical] at configured
    | ok pair =>
      simp only [canonical, Option.some.injEq] at met ⊢
      refine fun _ _ => later _ fun row taken => ?_
      obtain ⟨found, hit, same⟩ := Option.map_eq_some_iff.mp taken
      have member := List.mem_of_find?_eq_some hit
      have holds := List.find?_some hit
      simp only [Bool.and_eq_true, decide_eq_true_eq] at holds
      rw [loaded_eq allocated.ips old member] at same
      subst same
      exact mem_sharedIps.mpr ⟨member, holds.2, met found member holds.1.symm holds.2⟩

theorem served_chooseRandom (allocated : Allocated host db) (provides : ∀ moment, Provides asked moment → ∃ row ∈ db.sharedIps, row.address ∈ moment.detected.map Detected.address)
    (old : ∀ row, oldRow = some row → row ∈ db.ips) (later : ∀ choice, (∀ row, choice = some row → row ∈ db.sharedIps) → Q (.ok choice) before db) :
    Served asked (chooseRandom oldRow) before db Q := by
  unfold Served chooseRandom
  simp only [calm_bind, calm_select, presentAddresses, calm_look, calm_raiseIf, calm_pure]
  intro moment fits _ _
  obtain ⟨row, shared, present⟩ := provides moment fits
  rw [loaded_map allocated.ips old]
  have candidate : row ∈ db.sharedIps.filter (·.address ∈ moment.detected.map Detected.address) :=
    mem_filter.mpr ⟨shared, decide_eq_true present⟩
  refine ⟨fun empty => ?_, fun _ _ _ => later _ fun chosen taken => ?_⟩
  · rw [List.isEmpty_iff.mp empty] at candidate
    cases candidate
  · exact (mem_filter.mp (mem_of_getElem? taken)).1

theorem served_chooseSpecific (allocated : Allocated host db) (policy : db.policy.allocationPolicy = .specific) (provides : ∀ moment, Provides asked moment → ∀ row ∈ db.ips, db.policy.defaultServerIpId = some row.id →
      row.address ∈ moment.detected.map Detected.address)
    (old : ∀ row, oldRow = some row → row ∈ db.ips) (later : ∀ choice, (∀ row, choice = some row → row ∈ db.sharedIps) → Q (.ok choice) before db) :
    Served asked (chooseSpecific oldRow db.policy.defaultServerIpId) before db Q := by
  obtain ⟨row, member, named, active, shared⟩ := allocated.default_shared policy
  have found : db.ip row.id = some row := allocated.ip_of_mem member
  unfold Served chooseSpecific
  rw [named]
  rw [calm_bind]
  refine calm_getIp allocated.ips old row.id ?_
  simp only [found, calm_bind, calm_raiseIf, presentAddresses, calm_look, calm_pure]
  refine ⟨fun inactive => ?_, fun _ moment fits => ⟨fun absent => ?_, fun _ => later _ fun chosen same => ?_⟩⟩
  · rw [active] at inactive
    cases inactive
  · exact absurd (provides moment fits row member named) absent
  · cases same
    exact mem_sharedIps.mpr ⟨member, active, shared⟩

theorem served_unassign (username : String) (old : Option ServerIpAssignment) :
    Served asked (unassign host username old) before db fun outcome _ _ => ∃ dict, outcome = .ok dict := by
  unfold Served unassign
  split
  · exact (calm_execute _ _).mpr ⟨trivial, _, rfl⟩
  · exact ⟨_, rfl⟩

theorem served_assignTo (allocated : Allocated host db) {account : Account} (username : String) {chosen : ServerIp}
    (known : account ∈ db.accounts) (shared : chosen ∈ db.sharedIps) :
    Served asked (assignTo host account username (db.assignmentOf account.id) chosen) before db
      fun outcome _ _ => ∃ dict, outcome = .ok dict := by
  obtain ⟨member, _, mode⟩ := mem_sharedIps.mp shared
  have found : db.ip chosen.id = some chosen := allocated.ip_of_mem member
  have notDedicated : chosen.allocationMode ≠ .dedicated := by rw [mode]; exact nofun
  unfold Served assignTo requireVacant
  rw [if_neg notDedicated]
  simp only [calm_bind, calm_pure]
  unfold flushAssignment
  split
  · next unassigned =>
    have present : db.accounts.any (·.id = account.id) = true := any_eq_true.mpr ⟨account, known, by simp⟩
    refine (calm_execute _ _).mpr ⟨trivial, ?_⟩
    unfold Write.apply
    simp [found, present, unassigned]
  · next old had =>
    split
    · exact ⟨_, rfl⟩
    · have held : db.assignments.any (·.id = old.id) = true :=
        any_eq_true.mpr ⟨old, (oldOf_assignmentOf account.id old had).1, by simp⟩
      refine (calm_execute _ _).mpr ⟨trivial, ?_⟩
      unfold Write.apply
      simp [found, held]

theorem served_chooseBy (allocated : Allocated host db) (configured : host.Configured) (requestedId : Option Nat)
    (old : ∀ row, oldRow = some row → row ∈ db.ips) (later : ∀ choice, (∀ row, choice = some row → row ∈ db.sharedIps) → Q (.ok choice) before db) :
    Served db (chooseBy host oldRow (resolve db.policy .automatic requestedId).1
      (resolve db.policy .automatic requestedId).2) before db Q := by
  unfold resolve
  cases policy : db.policy.allocationPolicy with
  | primary => exact served_choosePrimary allocated policy configured old later
  | randomShared =>
    refine served_chooseRandom allocated (fun moment provides => ?_) old later
    unfold Provides at provides
    rw [policy] at provides
    exact provides
  | specific =>
    refine served_chooseSpecific allocated policy (fun moment provides => ?_) old later
    unfold Provides at provides
    rw [policy] at provides
    exact provides

theorem served_automatic (allocated : Allocated host db) (configured : host.Configured) {username : String} {selection : Option Selection}
    (automatic : selection.getD .automatic = .automatic) (serverIpId : Option Nat) {account : Account}
    (found : db.account username = some account) (live : account.status ≠ .terminated) :
    Served db (assignForNewAccount host username selection serverIpId) db db fun outcome _ _ => ∃ dict, outcome = .ok dict := by
  have known : account ∈ db.accounts := List.mem_of_find?_eq_some found
  unfold Served assignForNewAccount assignAccount
  simp only [calm_transaction, calm_bind, calm_select, found, calm_raiseIf]
  refine fun _ _ => ⟨fun terminated => absurd terminated live, fun _ _ _ => calm_addressOf fun oldRow old => ?_⟩
  dsimp only
  unfold assignSelected chooseIp
  rw [automatic, if_neg (fun same => by cases same)]
  simp only [calm_bind]
  refine calm_settingsRow trivial ?_
  have settled := allocated.settled
  have old' : ∀ row, oldRow = some row → row ∈ db.settled.ips := old
  refine served_chooseBy settled configured serverIpId old' fun choice shared => ?_
  refine Calm.imp (P := fun outcome _ _ => ∃ dict, outcome = .ok dict) ?_ fun outcome _ _ done => ?_
  · cases choice with
    | none => exact served_unassign _ _
    | some chosen => exact served_assignTo settled username known (shared chosen rfl)
  · obtain ⟨dict, same⟩ := done
    subst same
    exact ⟨dict, rfl⟩

end

end Boron.IpManager
