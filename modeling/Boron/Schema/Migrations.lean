import Mathlib.Data.List.Sort
import Mathlib.Data.List.Dedup
import Mathlib.Data.List.Range
import Boron.Lib.Sys

namespace Boron.Schema

inductive Compatibility
  | additive
  | breaking
  deriving DecidableEq

def Compatibility.text : Compatibility → String
  | .additive => "additive"
  | .breaking => "breaking"

/-- One entry of `REVISIONS`. `upgrade` is what its DDL does to the tables
that are not part of the ledger. -/
structure Revision (Tables : Type) where
  revision : Nat
  name : String
  compatibility : Compatibility
  upgrade : Tables → Tables

def Revision.material {Tables : Type} (r : Revision Tables) : String :=
  toString r.revision ++ ":" ++ r.name ++ ":" ++ r.compatibility.text

structure LedgerRow where
  revision : Nat
  name : String
  compatibility : Compatibility
  checksum : String
  deriving DecidableEq

/-- The control-plane database: the ledger table, absent before the first
migration, the two metadata keys the migrations write, and everything else. -/
structure Database (Tables : Type) where
  tables : Tables
  ledger : Option (List LedgerRow)
  schemaVersion : Option Nat
  appVersion : Option String

structure Release (Tables : Type) where
  revisions : List (Revision Tables)
  currentSchemaVersion : Nat
  boronVersion : String

inductive MigrationError
  | registry
  | newer (found maximum : Nat)
  | unknown (revision : Nat)
  | mismatch (revision : Nat)
  | integrity
  | manifest
  | manifestRange

def MigrationError.message : MigrationError → String
  | .registry => "schema revisions must be unique and contiguous from 1"
  | .newer found maximum => "database schema v" ++ toString found ++
      " is newer than this panel supports (maximum v" ++ toString maximum ++ ")"
  | .unknown revision => "database contains unknown schema revision " ++ toString revision
  | .mismatch revision => "schema revision " ++ toString revision ++
      " does not match this release; restore matching code"
  | .integrity => "UNIQUE constraint failed: schema_migrations"
  | .manifest => "invalid schema compatibility manifest"
  | .manifestRange => "invalid schema compatibility range"

structure SchemaState where
  schemaVersion : Nat
  appVersion : Option String
  revisions : List LedgerRow

section
variable {Tables : Type}

def orderByRevision (rows : List LedgerRow) : List LedgerRow :=
  rows.insertionSort fun a b => a.revision ≤ b.revision

/-- `schema_state_from_engine`; `schema_state_from_path` reads the same. -/
def schemaState (db : Database Tables) : SchemaState :=
  match db.ledger with
  | none => { schemaVersion := 0, appVersion := none, revisions := [] }
  | some rows =>
    let ordered := orderByRevision rows
    { schemaVersion := db.schemaVersion.getD ((ordered.getLast?.map LedgerRow.revision).getD 0)
      appVersion := db.appVersion
      revisions := ordered }

/-- The registry by number, provided it is exactly `1 .. CURRENT_SCHEMA_VERSION`. -/
def knownRevisions (rel : Release Tables) : Except MigrationError (List (Revision Tables)) :=
  if (rel.revisions.map Revision.revision).dedup.insertionSort (· ≤ ·) = List.range' 1 rel.currentSchemaVersion then
    .ok rel.revisions
  else .error .registry

abbrev Migration (Tables : Type) := Sys (Database Tables) MigrationError

def ensureLedger : Migration Tables Unit := Sys.modify fun db => { db with ledger := some (db.ledger.getD []) }

def readLedger : Migration Tables (List LedgerRow) := do
  let db ← Sys.get
  return orderByRevision (db.ledger.getD [])

/-- `revision` is the primary key of the ledger and `name` is `UNIQUE`. -/
def insertRow (row : LedgerRow) : Migration Tables Unit := do
  let db ← Sys.get
  if (db.ledger.getD []).any fun old => old.revision = row.revision ∨ old.name = row.name then
    Sys.fail .integrity
  else
    Sys.modify fun db => { db with ledger := some (db.ledger.getD [] ++ [row]) }

def metadataSet (version : Nat) (appVersion : String) : Migration Tables Unit :=
  Sys.modify fun db => { db with schemaVersion := some version, appVersion := some appVersion }

section
variable (sha256 : String → String)

def baselineRow : LedgerRow :=
  { revision := 0, name := "baseline", compatibility := .additive
    checksum := sha256 "0:baseline:additive" }

def revisionRow (r : Revision Tables) : LedgerRow :=
  { revision := r.revision, name := r.name, compatibility := r.compatibility
    checksum := sha256 r.material }

def checkRow (known : List (Revision Tables)) (row : LedgerRow) : Migration Tables Unit :=
  if row.revision = 0 then pure ()
  else match known.find? fun r => r.revision = row.revision with
    | none => Sys.fail (.unknown row.revision)
    | some expected =>
      if row.name ≠ expected.name ∨ row.compatibility ≠ expected.compatibility ∨
          row.checksum ≠ sha256 expected.material then
        Sys.fail (.mismatch row.revision)
      else pure ()

variable (rel : Release Tables)

/-- The first transaction of the start-up: create and baseline the ledger,
then refuse a database this release does not know. -/
def checkLedger (known : List (Revision Tables)) : Migration Tables (List Nat) := do
  ensureLedger
  let stored ← readLedger
  if stored.isEmpty then insertRow (baselineRow sha256) else pure ()
  let applied := if stored.isEmpty then [baselineRow sha256] else stored
  let newest := (applied.map LedgerRow.revision).foldl max 0
  if rel.currentSchemaVersion < newest then Sys.fail (.newer newest rel.currentSchemaVersion)
  else Sys.each (checkRow sha256 known) applied
  return applied.map LedgerRow.revision

def applyRevision (r : Revision Tables) : Migration Tables Unit := do
  ensureLedger
  Sys.modify fun db => { db with tables := r.upgrade db.tables }
  insertRow (revisionRow sha256 r)
  metadataSet r.revision rel.boronVersion

/-- Each pending revision commits together with its ledger row. -/
def applyPending : List (Revision Tables) → List Nat → Migration Tables Unit
  | [], _ => pure ()
  | r :: rest, applied =>
    if r.revision ∈ applied then applyPending rest applied
    else do
      Sys.atomically (applyRevision sha256 rel r)
      applyPending rest (r.revision :: applied)

def applySchemaMigrations : Migration Tables SchemaState := do
  let known ← Sys.ofExcept (knownRevisions rel)
  let applied ← Sys.atomically (checkLedger sha256 rel known)
  applyPending sha256 rel rel.revisions applied
  Sys.atomically (do ensureLedger; metadataSet rel.currentSchemaVersion rel.boronVersion)
  return schemaState (← Sys.get)

end

/-- `schema-compat.json` of a release directory, as `load_schema_manifest` finds it. -/
inductive ManifestFile
  | missing
  | malformed
  | document (minimum maximum : Int)

/-- A manifest `load_schema_manifest` accepts declares a nonempty range. -/
structure Manifest where
  minimum : Nat
  maximum : Nat
  legacy : Bool
  ordered : minimum ≤ maximum

def loadSchemaManifest : ManifestFile → Except MigrationError Manifest
  | .missing => .ok { minimum := 0, maximum := 0, legacy := true, ordered := le_rfl }
  | .malformed => .error .manifest
  | .document minimum maximum =>
    if range : 0 ≤ minimum ∧ minimum ≤ maximum then
      .ok { minimum := minimum.toNat, maximum := maximum.toNat, legacy := false
            ordered := Int.toNat_le_toNat range.2 }
    else .error .manifestRange

structure Verdict where
  compatible : Bool
  reason : String
  schemaVersion : Nat
  target : Manifest

/-- The decision of `rollback_compatibility` once the manifest is read. -/
def rollbackVerdict (target : Manifest) (db : Database Tables) : Verdict :=
  let state := schemaState db
  let current := state.schemaVersion
  let newer := state.revisions.filter fun row => target.maximum < row.revision
  if current < target.minimum then
    { compatible := false
      reason := "target code requires schema v" ++ toString target.minimum ++
        " or newer, but the database is v" ++ toString current
      schemaVersion := current, target }
  else if current ≤ target.maximum then
    { compatible := true, reason := "schema is within the target release range"
      schemaVersion := current, target }
  else if newer ≠ [] ∧ newer.all fun row => row.compatibility = .additive then
    { compatible := true
      reason := "newer database revisions are additive and safe for the target to ignore"
      schemaVersion := current, target }
  else
    { compatible := false
      reason := "database schema v" ++ toString current ++
        " contains a breaking revision newer than the target release maximum v" ++
        toString target.maximum
      schemaVersion := current, target }

def rollbackCompatibility (file : ManifestFile) (db : Database Tables) : Except MigrationError Verdict := do
  let manifest ← loadSchemaManifest file
  return rollbackVerdict manifest db

end

end Boron.Schema

namespace Boron.Schema
variable {Tables : Type}

/-- A revision list as its authors extend it: the i-th entry is revision i. -/
structure Registry (Tables : Type) where
  revisions : List (Revision Tables)
  contiguous : revisions.map Revision.revision = List.range' 1 revisions.length

namespace Registry
variable (reg : Registry Tables)

/-- The release that ships the first `k` revisions. -/
def release (k : Nat) (boronVersion : String) : Release Tables :=
  { revisions := reg.revisions.take k, currentSchemaVersion := k, boronVersion }

/-- The names the ledger holds once the first `k` revisions are recorded. -/
def ledgerNames (k : Nat) : List String := "baseline" :: (reg.revisions.take k).map Revision.name

/-- The ledger of a database that has exactly the first `k` revisions. -/
def ledgerRows (sha256 : String → String) (k : Nat) : List LedgerRow :=
  baselineRow sha256 :: (reg.revisions.take k).map (revisionRow sha256)

variable {k : Nat}

theorem take_numbers (bound : k ≤ reg.revisions.length) :
    (reg.revisions.take k).map Revision.revision = List.range' 1 k := by
  have split : List.range' 1 k ++ List.range' (1 + k) (reg.revisions.length - k) =
      List.range' 1 reg.revisions.length := by
    rw [List.range'_append_1, Nat.add_sub_cancel' bound]
  rw [List.map_take, reg.contiguous, ← split, List.take_left' (List.length_range' ..)]

variable {r : Revision Tables}

theorem mem_take_number (bound : k ≤ reg.revisions.length) (member : r ∈ reg.revisions.take k) : 1 ≤ r.revision ∧ r.revision ≤ k := by
  have listed : r.revision ∈ List.range' 1 k := by
    rw [← reg.take_numbers bound]
    exact List.mem_map_of_mem member
  rw [List.mem_range'_1] at listed
  omega

theorem number_at {i : Nat} (atIndex : reg.revisions[i]? = some r) : r.revision = i + 1 := by
  have bound := (List.getElem?_eq_some_iff.mp atIndex).1
  have numbered : (reg.revisions.map Revision.revision)[i]? = some r.revision := by
    rw [List.getElem?_map, atIndex, Option.map_some]
  rw [reg.contiguous, List.getElem?_range' bound, Option.some.injEq] at numbered
  omega

theorem find_number {k number : Nat} (bound : k ≤ reg.revisions.length) (member : r ∈ reg.revisions.take k) (numbered : r.revision = number) :
    (reg.revisions.take k).find? (fun x => x.revision = number) = some r := by
  obtain ⟨found, isFound⟩ := Option.isSome_iff_exists.mp (List.find?_isSome.mpr ⟨r, member, by simp [numbered]⟩ :
      ((reg.revisions.take k).find? fun x => decide (x.revision = number)).isSome)
  have same : found.revision = r.revision := by
    rw [numbered]
    simpa using List.find?_some isFound
  have distinct : ((reg.revisions.take k).map Revision.revision).Nodup := by
    rw [reg.take_numbers bound]
    exact List.nodup_range'
  rw [isFound, List.inj_on_of_nodup_map distinct (List.mem_of_find?_eq_some isFound) member same]

theorem knownRevisions_release (bound : k ≤ reg.revisions.length) (version : String) :
    knownRevisions (reg.release k version) = .ok (reg.revisions.take k) := by
  have distinct : (List.range' 1 k).Nodup := List.nodup_range'
  have sorted : (List.range' 1 k).Pairwise (· ≤ ·) := List.pairwise_le_range'
  simp only [knownRevisions, release, reg.take_numbers bound, distinct.dedup, sorted.insertionSort_eq, if_true]

theorem ledgerNames_succ (atIndex : reg.revisions[k]? = some r) :
    reg.ledgerNames (k + 1) = reg.ledgerNames k ++ [r.name] := by
  rw [ledgerNames, List.take_add_one, atIndex, Option.toList_some, List.map_append]
  rfl

theorem ledgerNames_prefix {j k : Nat} (le : j ≤ k) : reg.ledgerNames j <+: reg.ledgerNames k :=
  (List.prefix_cons_inj _).mpr ((List.take_prefix_take_left le).map _)

variable (sha256 : String → String)

theorem ledgerRows_succ (atIndex : reg.revisions[k]? = some r) :
    reg.ledgerRows sha256 (k + 1) = reg.ledgerRows sha256 k ++ [revisionRow sha256 r] := by
  rw [ledgerRows, List.take_add_one, atIndex, Option.toList_some, List.map_append]
  rfl

theorem ledgerRows_names (k : Nat) : (reg.ledgerRows sha256 k).map LedgerRow.name = reg.ledgerNames k := by
  rw [ledgerRows, List.map_cons, List.map_map]
  rfl

theorem ledgerRows_numbers (bound : k ≤ reg.revisions.length) :
    (reg.ledgerRows sha256 k).map LedgerRow.revision = List.range' 0 (k + 1) := by
  rw [ledgerRows, List.map_cons, List.map_map,
    show LedgerRow.revision ∘ revisionRow sha256 = @Revision.revision Tables from rfl,
    reg.take_numbers bound]
  rfl

theorem ledgerRows_ordered (bound : k ≤ reg.revisions.length) :
    orderByRevision (reg.ledgerRows sha256 k) = reg.ledgerRows sha256 k := by
  have sorted : ((reg.ledgerRows sha256 k).map LedgerRow.revision).Pairwise (· ≤ ·) := by
    rw [reg.ledgerRows_numbers sha256 bound]
    exact List.pairwise_le_range'
  exact List.Pairwise.insertionSort_eq (List.pairwise_map.mp sorted)

theorem ledgerRows_newest (bound : k ≤ reg.revisions.length) :
    ((reg.ledgerRows sha256 k).map LedgerRow.revision).foldl max 0 = k := by
  rw [reg.ledgerRows_numbers sha256 bound]
  clear bound
  induction k with
  | zero => rfl
  | succ k ih => rw [List.range'_concat, List.foldl_append, ih]; simp

theorem checkRow_ok {n k : Nat} (known : n ≤ k) (bound : k ≤ reg.revisions.length) {row : LedgerRow}
    (member : row ∈ reg.ledgerRows sha256 n) (db : Database Tables) :
    (checkRow sha256 (reg.revisions.take k) row).run db = (.ok (), db) := by
  rcases List.mem_cons.mp member with rfl | recorded
  · rw [checkRow, if_pos (show (baselineRow sha256).revision = 0 from rfl), Sys.run_pure]
  · obtain ⟨r, inTake, rfl⟩ := List.mem_map.mp recorded
    have positive := reg.mem_take_number (known.trans bound) inTake
    have inLonger := (List.take_prefix_take_left known).subset inTake
    have same : r.revision = (revisionRow sha256 r).revision := rfl
    rw [checkRow, if_neg (same ▸ Nat.ne_of_gt positive.1), reg.find_number bound inLonger same]
    simp [revisionRow]

theorem checkRows_ok {n k : Nat} (known : n ≤ k) (bound : k ≤ reg.revisions.length) (db : Database Tables) :
    (Sys.each (checkRow sha256 (reg.revisions.take k)) (reg.ledgerRows sha256 n)).run db = (.ok (), db) := by
  have every := fun row (member : row ∈ reg.ledgerRows sha256 n) =>
    reg.checkRow_ok sha256 known bound member db
  generalize reg.ledgerRows sha256 n = todo at every
  induction todo with
  | nil => rfl
  | cons row rest ih =>
    rw [Sys.each_cons, Sys.bind_of_ok (every row List.mem_cons_self)]
    exact ih fun other inRest => every other (List.mem_cons_of_mem _ inRest)

end Registry

end Boron.Schema
