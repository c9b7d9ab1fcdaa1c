import Mathlib.Data.List.Sort
import Mathlib.Data.List.Lex
import Mathlib.Data.Char
import Mathlib.Data.Rat.Defs
import Boron.Lib.Sys
import Boron.Lib.Rows

namespace Boron.Cloudflare
open Checks

inductive Json
  | null
  | bool (value : Bool)
  | number (value : Rat)
  | string (value : String)
  | array (values : List Json)
  | object (fields : List (String × Json))

/-- A record document: its fields by name. -/
abbrev Row := List (String × Json)

/-- What the code takes from elsewhere: `snapshot_cloudflare_records.normalize`,
the labels of a name as dnspython reads it, and `json.dumps` with sorted keys. -/
structure Library where
  normalize : String → Row → Bool → Except String Row
  labels : String → Option (List String)
  dumps : Row → String

variable (lib : Library)

/-- `row.get(field)` -/
def Row.get (row : Row) (field : String) : Option Json := (row.find? fun entry => entry.1 = field).map Prod.snd

def Row.text (row : Row) (field : String) : String :=
  match Row.get row field with
  | some (.string value) => value
  | _ => ""

def Row.without (row : Row) (field : String) : Row := row.filter fun entry => entry.1 ≠ field

def Json.truthy : Json → Bool
  | .null => false
  | .bool value => value
  | .number value => value ≠ 0
  | .string value => value ≠ ""
  | .array values => !values.isEmpty
  | .object fields => !fields.isEmpty

def enabledSettings (row : Row) : Json :=
  match Row.get row "settings" with
  | some (.object fields) => .object (fields.filter fun entry => entry.2.truthy)
  | _ => .object []

/-- The fields that tell records apart: no transport id, no disabled option. -/
def comparable (row : Row) : Row :=
  let value := Row.without (Row.without row "id") "settings"
  let value := match Row.get value "private_routing" with
    | some (.bool false) => Row.without value "private_routing"
    | _ => value
  value ++ [("settings", enabledSettings row)]

def key (row : Row) : String := lib.dumps (comparable row)

def identity (row : Row) : String :=
  lib.dumps (row.filter fun entry => entry.1 ∈ ["name", "type", "content", "data", "priority"])

def conflict (group : List Row) : Option String :=
  let types := group.map fun row => Row.text row "type"
  let cnames := types.filter fun type => type = "CNAME"
  if 1 < cnames.length ∨ (cnames ≠ [] ∧ types.any fun type => type = "A" ∨ type = "AAAA") then
    some "Conflicting saved Cloudflare CNAME records"
  else if "NS" ∈ types ∧ types.any fun type => type ≠ "NS" ∧ type ≠ "DS" then
    some "Cloudflare nameserver records conflict with other records"
  else none

def collection (zone : String) (records : List Row) (current : Bool) : Except String (List Row) := do
  raiseIf (100000 < records.length) "Invalid Cloudflare recovery record collection"
  let rows ← records.mapM fun row => lib.normalize zone row current
  raiseIf (current ∧ ¬ (rows.map fun row => Row.text row "id").Nodup) "Duplicate current Cloudflare record identifiers"
  match rows.findSome? fun row => conflict (rows.filter fun other => Row.text other "name" = Row.text row "name") with
  | some reason => .error reason
  | none => .ok rows

def inOrder (texts : List String) : List String := texts.insertionSort fun a b => a.toList ≤ b.toList

def state (zone : String) (records : List Row) : Except String (List String) := do
  let rows ← collection lib zone records false
  return inOrder (rows.map (key lib))

structure Batch where
  deletes : List String
  puts : List Row
  posts : List Row

structure Changes where
  batches : List Batch
  unchanged : Nat
  deletes : Nat
  updates : Nat
  creates : Nat

inductive Change
  | delete (id : String)
  | put (row : Row)
  | post (row : Row)

def byId (rows : List Row) : List Row :=
  rows.insertionSort fun a b => (Row.text a "id").toList ≤ (Row.text b "id").toList

def byKey (rows : List Row) : List Row := rows.insertionSort fun a b => (key lib a).toList ≤ (key lib b).toList

/-- Take the first element that `P` holds of. -/
def takeFirst {α : Type} (P : α → Bool) : List α → Option (α × List α)
  | [] => none
  | a :: rest => if P a then some (a, rest) else (takeFirst P rest).map fun found => (found.1, a :: found.2)

/-- The rows that are there already are taken out on both sides. What is left is
`(available, remaining, unchanged)`. -/
def matchUnchanged : List Row → List Row → List Row × List Row × Nat
  | available, [] => (available, [], 0)
  | available, row :: rest =>
    match takeFirst (fun other => key lib other = key lib row) available with
    | some (_, others) =>
      let (left, remaining, unchanged) := matchUnchanged others rest
      (left, remaining, unchanged + 1)
    | none =>
      let (left, remaining, unchanged) := matchUnchanged available rest
      (left, row :: remaining, unchanged)

/-- Pair new rows with old ones of the same identity: `(pairs, old, new)`. -/
def pairIdentical : List Row → List Row → List (Row × Row) × List Row × List Row
  | old, [] => ([], old, [])
  | old, row :: rest =>
    match takeFirst (fun other => identity lib other = identity lib row) old with
    | some (previous, others) =>
      let (pairs, left, unmatched) := pairIdentical others rest
      ((previous, row) :: pairs, left, unmatched)
    | none =>
      let (pairs, left, unmatched) := pairIdentical old rest
      (pairs, left, row :: unmatched)

def withId (row : Row) (id : String) : Row := row ++ [("id", .string id)]

/-- The changes of one name and type: deletes, puts and posts. -/
def groupChanges (old new : List Row) : List String × List Row × List Row :=
  let (pairs, old, new) := pairIdentical lib (byId old) (byKey lib new)
  let all := pairs ++ old.zip new
  ((old.drop new.length).map fun row => Row.text row "id", all.map fun pair => withId pair.2 (Row.text pair.1 "id"),
    new.drop old.length)

def groupOf (row : Row) : String × String := (Row.text row "name", Row.text row "type")

def groups (rows : List Row) : List (String × String) :=
  ((rows.map groupOf).dedup).insertionSort fun a b =>
    a.1.toList < b.1.toList ∨ (a.1 = b.1 ∧ a.2.toList ≤ b.2.toList)

def batchOf (changes : List Change) : Batch :=
  { deletes := changes.filterMap fun | .delete id => some id | _ => none
    puts := changes.filterMap fun | .put row => some row | _ => none
    posts := changes.filterMap fun | .post row => some row | _ => none }

def batches : Nat → List Change → List Batch
  | 0, _ => []
  | _ + 1, [] => []
  | fuel + 1, change :: rest => batchOf ((change :: rest).take 200) :: batches fuel ((change :: rest).drop 200)

def plan (zone : String) (current desired : List Row) : Except String Changes := do
  let before ← collection lib zone current true
  let after ← collection lib zone desired false
  let (available, remaining, unchanged) := matchUnchanged lib (byId before) (byKey lib after)
  let parts := (groups (available ++ remaining)).map fun group =>
    groupChanges lib (available.filter fun row => groupOf row = group) (remaining.filter fun row => groupOf row = group)
  let deletes := parts.flatMap fun part => part.1
  let puts := parts.flatMap fun part => part.2.1
  let posts := parts.flatMap fun part => part.2.2
  let ordered := deletes.map Change.delete ++ puts.map Change.put ++ posts.map Change.post
  return { batches := batches ordered.length ordered, unchanged, deletes := deletes.length
           updates := puts.length, creates := posts.length }

end Boron.Cloudflare

namespace Boron.Cloudflare
open Checks

def authorityTypes : List String := ["SOA", "DNSKEY", "CDNSKEY", "CDS", "RRSIG", "NSEC", "NSEC3", "NSEC3PARAM"]

variable (lib : Library)

/-- `_name`: the labels of a name, the last one first kept last. -/
def nameOf (value : Option Json) : Except String (List String) :=
  match value with
  | some (.string text) =>
    if text = "" ∨ 255 < text.length ∨ '\x00' ∈ text.toList then .error "Invalid saved Cloudflare record name"
    else orRaise (lib.labels text) "Invalid saved Cloudflare record name"
  | _ => .error "Invalid saved Cloudflare record name"

def isHexId (ident : String) : Bool :=
  ident.length = 32 && ident.toList.all fun c => c ∈ "0123456789abcdefABCDEF".toList

def currentId (row : Row) (ids : List String) : Except String (List String) :=
  match Row.get row "id" with
  | some (.string ident) =>
    if isHexId ident ∧ ident ∉ ids then .ok (ident :: ids)
    else .error "Invalid or duplicate current Cloudflare record ID"
  | _ => .error "Invalid or duplicate current Cloudflare record ID"

def isManaged (row : Row) : Except String Bool := do
  let flags ← match Row.get row "meta" with
    | none => .ok []
    | some (.object fields) => .ok fields
    | some _ => .error "Invalid Cloudflare managed-record metadata"
  let locked ← match Row.get row "locked" with
    | none => .ok false
    | some (.bool locked) => .ok locked
    | some _ => .error "Invalid Cloudflare managed-record metadata"
  return locked || ["auto_added", "managed_by_apps", "managed_by_argo_tunnel"].any fun flag =>
    (Row.get flags flag).any Json.truthy

def isAuthority (type : String) (owner origin : List String) : Bool :=
  type ∈ authorityTypes || (type = "NS" && owner = origin)

/-- One record of `partition`: whether it is protected, and the ids so far. -/
def protectedRow (origin : List String) (current : Bool) (row : Row) (ids : List String) :
    Except String (Bool × List String) := do
  let type ← match Row.get row "type" with
    | some (.string type) => .ok type
    | _ => .error "Invalid Cloudflare recovery record"
  let owner ← nameOf lib (Row.get row "name")
  raiseIf (¬ origin <:+ owner) "Cloudflare record is outside the selected zone"
  let ids ← if current then currentId row ids else .ok ids
  let managed ← isManaged row
  return (managed || isAuthority type owner origin, ids)

def partitionRows (origin : List String) (current : Bool) :
    List Row → List String → Except String (List Row × List Row)
  | [], _ => .ok ([], [])
  | row :: rest, ids => do
    let (isProtected, ids) ← protectedRow lib origin current row ids
    let (writable, protected_) ← partitionRows origin current rest ids
    return if isProtected then (writable, row :: protected_) else (row :: writable, protected_)

/-- `partition`: the writable and the protected records. -/
def partition (zone : String) (records : List Row) (current : Bool) : Except String (List Row × List Row) := do
  raiseIf (100000 < records.length) "Invalid Cloudflare recovery record collection"
  let origin ← nameOf lib (some (.string zone))
  partitionRows lib origin current records []

def validate (zone : String) (records : List Row) : Except String (List Row) := do
  let (writable, _) ← partition lib zone records false
  collection lib zone writable false

def timestamps : List String := ["created_on", "modified_on", "comment_modified_on", "tags_modified_on"]

def protectedState (records : List Row) : List String :=
  inOrder (records.map fun row => lib.dumps (row.filter fun entry => entry.1 ∉ timestamps))

/-- What is called, in order: the check of the binding, a read with its answer, a
batch, and the report of a confirmed one. -/
inductive Event
  | bound
  | read (records : List Row)
  | submitted (batch : Batch)
  | confirmed (done total : Nat)

/-- How `apply_record_batch` ends: an answer, a `CloudflareError`, or something else. -/
inductive Submission
  | answered
  | cloudflareError
  | raised (reason : String)

/-- Everything outside answers from the calls so far. -/
structure Provider where
  binding : List Event → Except String Unit
  records : List Event → Except String (List Row)
  submit : List Event → Batch → Submission
  onBatch : List Event → Except String Unit

abbrev Recover := Sys (List Event) String

variable (provider : Provider)

def validateBinding : Recover Unit := ⟨fun log => (provider.binding log, log ++ [.bound])⟩

/-- `cloudflare.export_record_documents` -/
def exportRecords : Recover (List Row) := ⟨fun log => match provider.records log with
  | .ok records => (.ok records, log ++ [.read records])
  | .error reason => (.error reason, log)⟩

/-- `cloudflare.apply_record_batch`, whose `CloudflareError` is dropped. -/
def submitBatch (batch : Batch) : Recover Unit := ⟨fun log => match provider.submit log batch with
  | .raised reason => (.error reason, log ++ [.submitted batch])
  | _ => (.ok (), log ++ [.submitted batch])⟩

def reportBatch (done total : Nat) : Recover Unit :=
  ⟨fun log => (provider.onBatch log, log ++ [.confirmed done total])⟩

/-- A read, split into the writable and the protected records. -/
def readZone (zone : String) : Recover (List Row × List Row) := do
  let raw ← exportRecords provider
  Sys.ofExcept (partition lib zone raw true)

def rowId (row : Row) : String := Row.text row "id"

def identities (zone : String) (records : List Row) : Except String (List (String × String)) := do
  let rows ← collection lib zone records true
  return (rows.map fun row => (rowId row, key lib row))

/-- Remove the records with the ids, each of which must be there. -/
def popAll (expected : List Row) : List String → Except String (List Row)
  | [] => .ok expected
  | id :: rest => do
    raiseIf (Rows.byKey rowId expected id).isNone "KeyError"
    popAll (Rows.drop rowId id expected) rest

def expectedAfter (current : List Row) (batch : Batch) : Except String (List Row) := do
  let kept ← popAll current batch.deletes
  return batch.puts.foldl (fun rows row => Rows.put rowId row rows) kept ++ batch.posts

/-- The writable records are in the state of the rows, and the protected ones as
at first. -/
def Agrees (zone : String) (read : List Row × List Row) (rows : List Row) (protectedBefore : List String) : Prop :=
  (∃ texts, state lib zone read.1 = .ok texts ∧ state lib zone rows = .ok texts) ∧
    protectedState lib read.2 = protectedBefore

def compare (zone : String) (read : List Row × List Row) (rows : List Row) (protectedBefore : List String)
    (reason : String) : Except String Unit := do
  let found ← state lib zone read.1
  let wanted ← state lib zone rows
  raiseIf (found ≠ wanted ∨ protectedState lib read.2 ≠ protectedBefore) reason

/-- One round of `apply`. -/
def applyBatch (zone : String) (protectedBefore : List String) (done total : Nat) (current : List Row) (batch : Batch) :
    Recover (List Row) := do
  validateBinding provider
  let fresh ← readZone lib provider zone
  Sys.ofExcept (compare lib zone fresh current protectedBefore "Cloudflare records changed before a recovery batch")
  let found ← Sys.ofExcept (identities lib zone fresh.1)
  let known ← Sys.ofExcept (identities lib zone current)
  Sys.ofExcept (raiseIf (¬ (found ⊆ known ∧ known ⊆ found)) "Cloudflare record identities changed before recovery")
  let after ← Sys.ofExcept (expectedAfter current batch)
  submitBatch provider batch
  validateBinding provider
  let actual ← readZone lib provider zone
  Sys.ofExcept (compare lib zone actual after protectedBefore
    "Cloudflare recovery batch could not be confirmed; previous configuration is retained")
  reportBatch provider (done + 1) total
  return actual.1

def applyBatches (zone : String) (protectedBefore : List String) (total : Nat) :
    Nat → List Row → List Batch → Recover (List Row)
  | _, current, [] => pure current
  | done, current, batch :: rest => do
    let current ← applyBatch lib provider zone protectedBefore done total current batch
    applyBatches zone protectedBefore total (done + 1) current rest

def managedOwners (origin : List String) : List Row → Except String (List (List String))
  | [] => .ok []
  | row :: rest => do
    let owner ← nameOf lib (Row.get row "name")
    let others ← managedOwners origin rest
    return if isAuthority (Row.text row "type") owner origin then others else owner :: others

def overlaps (owners : List (List String)) : List Row → Except String Bool
  | [] => .ok false
  | row :: rest => do
    let owner ← nameOf lib (Row.get row "name")
    if owners.contains owner then return true else overlaps owners rest

/-- `apply` -/
def applyRecovery (zone : String) (desired expectedBefore : List Row) : Recover Changes := do
  validateBinding provider
  let (current, protected_) ← readZone lib provider zone
  let found ← Sys.ofExcept (state lib zone current)
  let wanted ← Sys.ofExcept (state lib zone expectedBefore)
  Sys.ofExcept (raiseIf (found ≠ wanted) "Cloudflare records changed while preparing recovery")
  let selected ← Sys.ofExcept (validate lib zone desired)
  let origin ← Sys.ofExcept (nameOf lib (some (.string zone)))
  let owners ← Sys.ofExcept (managedOwners lib origin protected_)
  let overlapping ← Sys.ofExcept (overlaps lib owners selected)
  Sys.ofExcept (raiseIf overlapping "Selected DNS records overlap provider-managed records")
  let changes ← Sys.ofExcept (plan lib zone current selected)
  let final ← applyBatches lib provider zone (protectedState lib protected_) changes.batches.length 0 current
    changes.batches
  validateBinding provider
  let last ← Sys.ofExcept (state lib zone final)
  let chosen ← Sys.ofExcept (state lib zone selected)
  Sys.ofExcept (raiseIf (last ≠ chosen) "Cloudflare recovery final verification failed")
  return changes

end Boron.Cloudflare
