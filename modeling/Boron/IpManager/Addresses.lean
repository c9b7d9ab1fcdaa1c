import Boron.Lib.Statements
import Boron.Lib.Text
import Boron.Accounts.Store

namespace Boron.IpManager

inductive Family
  | ipv4
  | ipv6
  deriving DecidableEq

inductive AllocationMode
  | shared
  | dedicated
  deriving DecidableEq

inductive Policy
  | primary
  | randomShared
  | specific
  deriving DecidableEq

/-- An entry of `detected_addresses`. -/
structure Detected where
  address : String
  family : Family
  interface : String
  prefixLength : Option Nat

structure ServerIp where
  id : Nat
  address : String
  family : Family
  interface : Option String
  prefixLength : Option Nat
  allocationMode : AllocationMode
  label : Option String
  active : Bool

structure ServerIpAssignment where
  id : Nat
  serverIpId : Nat
  accountId : Nat

structure ServerIpSettings where
  allocationPolicy : Policy
  defaultServerIpId : Option Nat
  deriving DecidableEq

structure Account where
  id : Nat
  username : String
  status : Accounts.Status

structure Db where
  accounts : List Account
  ips : List ServerIp
  assignments : List ServerIpAssignment
  settings : Option ServerIpSettings

inductive Raised
  | validation (message : String)
  | integrityError
  | staleData
  deriving DecidableEq

/-- `_canonical_address`, and `settings.server_public_ip`, empty when there is none. -/
structure Host where
  canonicalAddress : String → Except String (String × Family)
  serverPublicIp : String

/-- What a statement finds outside: the detected addresses, and what `secrets.choice` draws. -/
structure Moment where
  detected : List Detected
  drawn : Nat

/-- The columns that an `UPDATE` of an address names: those that differ from what was read. -/
structure Columns where
  allocationMode : Option AllocationMode
  label : Option (Option String)
  active : Option Bool

def Columns.set (columns : Columns) (row : ServerIp) : ServerIp :=
  { row with
    allocationMode := columns.allocationMode.getD row.allocationMode
    label := columns.label.getD row.label
    active := columns.active.getD row.active }

inductive Write
  | addSettings
  | addIp (item : Detected)
  | changeIp (id : Nat) (columns : Columns)
  | dropIp (id : Nat)
  | changeSettings (policy : Option Policy) (default : Option (Option Nat))
  | addAssignment (serverIpId accountId : Nat)
  | moveAssignment (old : ServerIpAssignment) (serverIpId : Nat)
  | dropAssignment (id : Nat)
  | dropAssignments (accountId : Nat)
  | changeAccounts (accounts : List Account)

namespace Db
variable (db : Db)

def ip (id : Nat) : Option ServerIp := Rows.byKey ServerIp.id db.ips id

def account (username : String) : Option Account := db.accounts.find? (·.username = username)

def assignmentOf (accountId : Nat) : Option ServerIpAssignment := db.assignments.find? (·.accountId = accountId)

def assignmentsOf (serverIpId : Nat) : List ServerIpAssignment := db.assignments.filter (·.serverIpId = serverIpId)

def occupied (serverIpId accountId : Nat) : Option ServerIpAssignment :=
  db.assignments.find? fun row => row.serverIpId = serverIpId && row.accountId ≠ accountId

/-- `Account.username`, `Account.status` of the accounts that have this address. -/
def tenants (serverIpId : Nat) : List (String × Accounts.Status) :=
  (db.assignmentsOf serverIpId).flatMap fun row =>
    (db.accounts.filter (·.id = row.accountId)).map fun account => (account.username, account.status)

/-- The row that `_settings_row` finds or adds. -/
def policy : ServerIpSettings := db.settings.getD { allocationPolicy := .primary, defaultServerIpId := none }

def sharedIps : List ServerIp := db.ips.filter fun row => row.active && row.allocationMode = .shared

/-- The settings row as an `UPDATE` of these columns leaves it. -/
def landed (policy : Option Policy) (default : Option (Option Nat)) : ServerIpSettings :=
  { allocationPolicy := policy.getD db.policy.allocationPolicy
    defaultServerIpId := default.getD db.policy.defaultServerIpId }

end Db

/-- A statement that writes, with the keys that the tables declare: an address, an account's
assignment and the settings row are unique, and a row that is referred to stays. -/
def Write.apply (write : Write) (db : Db) : Except Raised Db :=
  match write with
  | .addSettings =>
    if db.settings.isSome then .error .integrityError
    else .ok { db with settings := some { allocationPolicy := .primary, defaultServerIpId := none } }
  | .addIp item =>
    if db.ips.any (·.address = item.address) then .error .integrityError
    else .ok { db with
      ips := db.ips ++ [{
        id := Rows.next ServerIp.id db.ips, address := item.address, family := item.family,
        interface := some item.interface, prefixLength := item.prefixLength, allocationMode := .shared,
        label := none, active := true }] }
  | .changeIp id columns =>
    if (db.ip id).isNone then .error .staleData
    else .ok { db with ips := Rows.change ServerIp.id id columns.set db.ips }
  | .dropIp id =>
    if db.assignments.any (·.serverIpId = id) || db.settings.any (·.defaultServerIpId = some id) then .error .integrityError
    else .ok { db with ips := db.ips.filter (·.id ≠ id) }
  | .changeSettings policy default =>
    if db.settings.isNone then .error .staleData
    else if (default.join.any fun id => (db.ip id).isNone) then .error .integrityError
    else .ok { db with settings := some (db.landed policy default) }
  | .addAssignment serverIpId accountId =>
    if (db.ip serverIpId).isNone || !db.accounts.any (·.id = accountId) || (db.assignmentOf accountId).isSome then
      .error .integrityError
    else .ok { db with
      assignments := db.assignments ++ [{ id := Rows.next ServerIpAssignment.id db.assignments, serverIpId, accountId }] }
  | .moveAssignment old serverIpId =>
    if !db.assignments.any (·.id = old.id) then .error .staleData
    else if (db.ip serverIpId).isNone then .error .integrityError
    else .ok { db with
      assignments := Rows.change ServerIpAssignment.id old.id (fun row => { row with serverIpId }) db.assignments }
  | .dropAssignment id => .ok { db with assignments := db.assignments.filter (·.id ≠ id) }
  | .dropAssignments accountId => .ok { db with assignments := db.assignments.filter (·.accountId ≠ accountId) }
  | .changeAccounts accounts =>
    if db.assignments.all fun row => accounts.any (·.id = row.accountId) then .ok { db with accounts }
    else .error .integrityError

abbrev Request (α : Type) := Statements Moment Db Write Raised α

open Statements

structure IpDict where
  row : ServerIp
  presentOnHost : Bool
  assignments : List (String × Accounts.Status)

def IpDict.assignmentCount (dict : IpDict) : Nat := dict.assignments.length

def detectedAddresses : Request (List Detected) := look Moment.detected

def presentAddresses : Request (List String) := look fun moment => moment.detected.map Detected.address

def settingsRow : Request ServerIpSettings := do
  match ← select Db.settings with
  | some row => pure row
  | none => execute .addSettings Db.policy

def normalized (host : Host) (available : List Detected) : List String → Request (List Detected)
  | [] => pure []
  | raw :: rest => do
    match host.canonicalAddress raw with
    | .error message => raise (.validation message)
    | .ok (address, _) =>
      match available.find? (·.address = address) with
      | none => raise (.validation (address ++ " is not currently configured on this host"))
      | some item => do
        let items ← normalized host available rest
        pure (item :: items)

def addEach (existing : List String) : List Detected → Request (List IpDict)
  | [] => pure []
  | item :: rest =>
    if item.address ∈ existing then addEach existing rest
    else do
      let row ← execute (.addIp item) fun db => db.ips.find? (·.address = item.address)
      let created ← addEach existing rest
      pure (row.toList.map (fun row => { row, presentOnHost := true, assignments := [] }) ++ created)

def importAddresses (host : Host) (addresses : List String) : Request (List IpDict) := do
  let available ← detectedAddresses
  let requested := if addresses.isEmpty then available.map Detected.address else addresses
  raiseIf requested.isEmpty (.validation "Choose at least one detected address")
  let items ← normalized host available requested
  transaction do
    let existing ← select fun db => (db.ips.filter fun row => items.any (·.address = row.address)).map ServerIp.address
    addEach existing items

/-- `_LABEL_RE` -/
def labelOk (label : String) : Bool :=
  label.toList.length ≤ 100 && label.toList.all fun c => 0x1f < c.toNat && c.toNat ≠ 0x7f

/-- `str(label or "").strip() or None` -/
def cleanLabel (label : Option String) : Option String :=
  let text := Text.strip (label.getD "")
  if text.isEmpty then none else some text

/-- The parameters of `update_ip`; an unknown mode is `some none`. -/
structure UpdateParams where
  id : Nat
  allocationMode : Option (Option AllocationMode)
  label : Option (Option String)
  active : Option Bool

def changed (row : ServerIp) (mode : AllocationMode) (label : Option String) (active : Bool) : Columns :=
  { allocationMode := if mode = row.allocationMode then none else some mode
    label := if label = row.label then none else some label
    active := if active = row.active then none else some active }

def Columns.isEmpty (columns : Columns) : Bool :=
  columns.allocationMode.isNone && columns.label.isNone && columns.active.isNone

/-- `if active and row.address not in _present_addresses()` -/
def requirePresent (active : Bool) (address : String) : Request Unit :=
  if active then do
    let present ← presentAddresses
    raiseIf (address ∉ present) (.validation "This address is not currently configured on the host")
  else pure ()

/-- The `flush` of a row: no statement where no column has another value. -/
def flushIp (id : Nat) (columns : Columns) : Request Unit :=
  if columns.isEmpty then pure () else execute (.changeIp id columns) fun _ => ()

def updateIp (params : UpdateParams) : Request IpDict := transaction do
  match ← select (Db.ip · params.id) with
  | none => raise (.validation "Server IP was not found")
  | some row =>
    match params.allocationMode.getD (some row.allocationMode) with
    | none => raise (.validation "allocation_mode must be shared or dedicated")
    | some mode => do
      let count ← select fun db => (db.assignmentsOf row.id).length
      raiseIf (mode = .dedicated ∧ 1 < count)
        (.validation "Remove extra account assignments before marking this IP dedicated")
      let label := cleanLabel (params.label.getD row.label)
      raiseIf (label.any (!labelOk ·)) (.validation "Label contains unsupported characters")
      let active := params.active.getD row.active
      requirePresent active row.address
      raiseIf (!active ∧ count ≠ 0) (.validation "Remove account assignments before disabling this IP")
      let columns := changed row mode label active
      flushIp row.id columns
      let assignments ← select (Db.tenants · row.id)
      let present ← presentAddresses
      pure { row := columns.set row, presentOnHost := row.address ∈ present, assignments }

def deleteIp (id : Nat) : Request (Nat × String) := transaction do
  match ← select (Db.ip · id) with
  | none => raise (.validation "Server IP was not found")
  | some row => do
    let assigned ← select fun db => db.assignments.any (·.serverIpId = id)
    raiseIf assigned (.validation "Remove account assignments before deleting this IP")
    let cfg ← settingsRow
    raiseIf (cfg.defaultServerIpId = some id)
      (.validation "Choose another new-account policy before deleting the default IP")
    execute (.dropIp id) fun _ => (id, row.address)

/-- The checks of `set_policy` on the rows, and the default to be recorded. -/
def checkPolicy (policy : Policy) (ipId : Option Nat) : Request (Option Nat) :=
  match policy with
  | .specific =>
    match ipId with
    | none => raise (.validation "Choose the IP used for new accounts")
    | some id => do
      match ← select (Db.ip · id) with
      | none => raise (.validation "The selected default IP is unavailable")
      | some row => do
        raiseIf (!row.active) (.validation "The selected default IP is unavailable")
        let present ← presentAddresses
        raiseIf (row.address ∉ present) (.validation "The selected default IP is missing from the host")
        raiseIf (row.allocationMode ≠ .shared) (.validation "A new-account default must be a shared IP")
        pure (some id)
  | .randomShared => do
    let present ← presentAddresses
    let available ← select Db.sharedIps
    raiseIf (!available.any (·.address ∈ present)) (.validation "Import and enable at least one shared IP first")
    pure none
  | .primary => pure none

/-- The row `cfg` with its new values, as the commit writes it. -/
def flushSettings (cfg : ServerIpSettings) (policy : Policy) (ipId : Option Nat) : Request Unit :=
  if policy = cfg.allocationPolicy ∧ ipId = cfg.defaultServerIpId then pure ()
  else
    execute (.changeSettings (if policy = cfg.allocationPolicy then none else some policy)
      (if ipId = cfg.defaultServerIpId then none else some ipId)) fun _ => ()

/-- An unknown policy is `none`. -/
def setPolicy (policy : Option Policy) (ipId : Option Nat) : Request (Policy × Option Nat) :=
  match policy with
  | none => raise (.validation "allocation_policy must be primary, random_shared, or specific")
  | some policy => transaction do
    let ipId ← checkPolicy policy ipId
    let cfg ← settingsRow
    flushSettings cfg policy ipId
    pure (policy, ipId)

/-- `selection`; what is none of the known ones is `unknown`. -/
inductive Selection
  | automatic
  | primary
  | random
  | randomShared
  | specific
  | unassigned
  | unknown
  deriving DecidableEq

def Policy.selection : Policy → Selection
  | .primary => .primary
  | .randomShared => .randomShared
  | .specific => .specific

/-- A row that the session has loaded before keeps the values it had then. -/
def loaded (old : Option ServerIp) (row : ServerIp) : ServerIp :=
  match old with
  | some old => if old.id = row.id then old else row
  | none => row

def choosePrimary (host : Host) (old : Option ServerIp) : Request (Option ServerIp) :=
  if host.serverPublicIp = "" then pure none
  else
    match host.canonicalAddress host.serverPublicIp with
    | .error message => raise (.validation message)
    | .ok (address, _) => select fun db =>
      (db.ips.find? fun row => row.address = address && row.active).map (loaded old)

def chooseRandom (old : Option ServerIp) : Request (Option ServerIp) := do
  let present ← presentAddresses
  let candidates ← select fun db => (db.sharedIps.map (loaded old)).filter (·.address ∈ present)
  raiseIf candidates.isEmpty (.validation "No active shared IP is available")
  let drawn ← look Moment.drawn
  pure candidates[drawn % candidates.length]?

def getIp (old : Option ServerIp) (id : Nat) : Request (Option ServerIp) :=
  match old with
  | some row => if row.id = id then pure (some row) else select (Db.ip · id)
  | none => select (Db.ip · id)

def chooseSpecific (old : Option ServerIp) (ipId : Option Nat) : Request (Option ServerIp) :=
  match ipId with
  | none => raise (.validation "Choose a server IP")
  | some id => do
    match ← getIp old id with
    | none => raise (.validation "The selected server IP is unavailable")
    | some row => do
      raiseIf (!row.active) (.validation "The selected server IP is unavailable")
      let present ← presentAddresses
      raiseIf (row.address ∉ present) (.validation "The selected server IP is missing from the host")
      pure (some row)

/-- The selection and the address that the policy stands for, or those that were asked for. -/
def resolve (cfg : ServerIpSettings) (selection : Selection) (requestedId : Option Nat) : Selection × Option Nat :=
  if selection = .automatic then (cfg.allocationPolicy.selection, cfg.defaultServerIpId) else (selection, requestedId)

def chooseBy (host : Host) (old : Option ServerIp) (mode : Selection) (ipId : Option Nat) : Request (Option ServerIp) :=
  match mode with
  | .primary => choosePrimary host old
  | .random | .randomShared => chooseRandom old
  | .specific => chooseSpecific old ipId
  | _ => raise (.validation "selection must be automatic, primary, random, or specific")

def chooseIp (host : Host) (old : Option ServerIp) (selection : Selection) (requestedId : Option Nat) :
    Request (Option ServerIp) := do
  let cfg ← settingsRow
  let chosen := resolve cfg selection requestedId
  chooseBy host old chosen.1 chosen.2

structure AssignmentDict where
  username : String
  serverIpId : Option Nat
  address : Option String
  allocationMode : Option AllocationMode

/-- `_assignment_dict`; the mode `"primary"` is `none`. -/
def assignmentDict (host : Host) (row : Option ServerIp) (username : String) : AssignmentDict :=
  { username
    serverIpId := row.map ServerIp.id
    address := match row with
      | some row => some row.address
      | none => if host.serverPublicIp = "" then none else some host.serverPublicIp
    allocationMode := row.map ServerIp.allocationMode }

structure AssignParams where
  username : String
  selection : Selection
  serverIpId : Option Nat

/-- No address: the account's assignment goes. -/
def unassign (host : Host) (username : String) (old : Option ServerIpAssignment) : Request AssignmentDict :=
  match old with
  | some old => execute (.dropAssignment old.id) fun _ => assignmentDict host none username
  | none => pure (assignmentDict host none username)

def requireVacant (chosen : ServerIp) (accountId : Nat) : Request Unit :=
  if chosen.allocationMode = .dedicated then do
    let occupied ← select (Db.occupied · chosen.id accountId)
    raiseIf occupied.isSome (.validation ("Dedicated IP " ++ chosen.address ++ " is already assigned"))
  else pure ()

def flushAssignment (accountId : Nat) (old : Option ServerIpAssignment) (chosen : ServerIp) : Request Unit :=
  match old with
  | none => execute (.addAssignment chosen.id accountId) fun _ => ()
  | some old => if old.serverIpId = chosen.id then pure () else execute (.moveAssignment old chosen.id) fun _ => ()

def assignTo (host : Host) (account : Account) (username : String) (old : Option ServerIpAssignment) (chosen : ServerIp) :
    Request AssignmentDict := do
  requireVacant chosen account.id
  flushAssignment account.id old chosen
  pure (assignmentDict host (some chosen) username)

def addressOf (old : Option ServerIpAssignment) : Request (Option ServerIp) :=
  match old with
  | some old => select (Db.ip · old.serverIpId)
  | none => pure none

def assignSelected (host : Host) (account : Account) (params : AssignParams) (old : Option ServerIpAssignment)
    (oldRow : Option ServerIp) : Request AssignmentDict :=
  if params.selection = .unassigned then unassign host params.username old
  else do
    match ← chooseIp host oldRow params.selection params.serverIpId with
    | none => unassign host params.username old
    | some chosen => assignTo host account params.username old chosen

def assignAccount (host : Host) (params : AssignParams) : Request AssignmentDict := transaction do
  match ← select (Db.account · params.username) with
  | none => raise (.validation ("Account '" ++ params.username ++ "' was not found"))
  | some account => do
    raiseIf (account.status = .terminated) (.validation ("Account '" ++ params.username ++ "' was not found"))
    let old ← select (Db.assignmentOf · account.id)
    let oldRow ← addressOf old
    assignSelected host account params old oldRow

/-- `selection` and `server_ip_id` as they may be given. -/
def assignForNewAccount (host : Host) (username : String) (selection : Option Selection) (serverIpId : Option Nat) :
    Request AssignmentDict :=
  assignAccount host { username, selection := selection.getD .automatic, serverIpId }

def releaseAccount (accountId : Nat) : Request Unit := transaction (execute (.dropAssignments accountId) fun _ => ())

end Boron.IpManager
