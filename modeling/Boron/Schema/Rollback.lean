import Boron.Schema.Startup

namespace Boron.Schema
open List Sys
variable {Tables : Type} {sha256 : String → String} {reg : Registry Tables}

/-- Once the first transaction has let the release in, the start-up finishes
exactly when no revision name repeats. -/
theorem start_after_check {m k : Nat} {db checked : Database Tables} {applied : List Nat}
    (version : String) (state : Recorded sha256 reg m checked) (known : m ≤ k)
    (bound : k ≤ reg.revisions.length) (upTo : ∀ i, i ∈ applied ↔ i ≤ m)
    (check : (checkLedger sha256 (reg.release k version) (reg.revisions.take k)).run db = (.ok applied, checked)) :
    ((reg.ledgerNames k).Nodup ∧ ∃ st next,
      (applySchemaMigrations sha256 (reg.release k version)).run db = (.ok st, next) ∧
      MigratedTo sha256 reg k next) ∨
    (¬(reg.ledgerNames k).Nodup ∧ ∃ e next,
      (applySchemaMigrations sha256 (reg.release k version)).run db = (.error e, next)) := by
  have registry : (ofExcept (knownRevisions (reg.release k version)) :
      Migration Tables (List (Revision Tables))).run db = (.ok (reg.revisions.take k), db) := by
    rw [run_ofExcept, reg.knownRevisions_release bound]
  have split : reg.revisions.take k = reg.revisions.take m ++ (reg.revisions.drop m).take (k - m) := by
    rw [← take_add, Nat.add_sub_cancel' known]
  have skip : applyPending sha256 (reg.release k version) (reg.release k version).revisions applied =
      applyPending sha256 (reg.release k version) ((reg.revisions.drop m).take (k - m)) applied := by
    rw [show (reg.release k version).revisions = reg.revisions.take k from rfl, split]
    refine Recorded.applyPending_skip _ _ _ _ fun r member => (upTo _).mpr ?_
    exact (reg.mem_take_number (known.trans bound) member).2
  have total : m + (k - m) = k := Nat.add_sub_cancel' known
  have pending := state.applyPending_run (reg.release k version) (k - m) (by omega)
    fun i member => (upTo i).mp member
  rw [total, ← skip] at pending
  unfold applySchemaMigrations
  rw [bind_of_ok registry, bind_of_ok (atomically_eq_ok.mpr check)]
  rcases pending with ⟨distinct, next, run, recorded⟩ | ⟨repeated, e, next, run⟩
  · have finish : (atomically (do ensureLedger; metadataSet k version)).run next =
        (.ok (), { next with schemaVersion := some k, appVersion := some version }) := by
      rw [atomically_eq_ok, bind_of_ok recorded.ensureLedger_run, metadataSet, run_modify]
    refine .inl ⟨distinct, schemaState { next with schemaVersion := some k, appVersion := some version },
      { next with schemaVersion := some k, appVersion := some version }, ?_,
      recorded.ledger, rfl, bound, distinct⟩
    exact (bind_of_ok run).trans (bind_of_ok finish)
  · exact .inr ⟨repeated, e, next, bind_of_error run⟩

variable {db : Database Tables}

theorem start_known {m k : Nat} (version : String)
    (state : Recorded sha256 reg m db) (known : m ≤ k) (bound : k ≤ reg.revisions.length) :
    ((reg.ledgerNames k).Nodup ∧ ∃ st next,
      (applySchemaMigrations sha256 (reg.release k version)).run db = (.ok st, next) ∧
      MigratedTo sha256 reg k next) ∨
    (¬(reg.ledgerNames k).Nodup ∧ ∃ e next,
      (applySchemaMigrations sha256 (reg.release k version)).run db = (.error e, next)) := by
  refine start_after_check version state known bound (fun i => ?_) (state.checkLedger_known known bound version)
  rw [List.mem_range'_1]
  omega

theorem start_newer {n k : Nat} (version : String) (state : Recorded sha256 reg n db) (older : k < n) :
    (applySchemaMigrations sha256 (reg.release k version)).run db = (.error (.newer n k), db) := by
  have registry : (ofExcept (knownRevisions (reg.release k version)) :
      Migration Tables (List (Revision Tables))).run db = (.ok (reg.revisions.take k), db) := by
    rw [run_ofExcept, reg.knownRevisions_release (older.le.trans state.bound)]
  unfold applySchemaMigrations
  rw [bind_of_ok registry, bind_of_error (atomically_of_error (state.checkLedger_newer older version _))]

/-- An installation from before the ledger: any tables, no revision recorded. -/
def preLedger (tables : Tables) : Database Tables :=
  { tables, ledger := none, schemaVersion := none, appVersion := none }

theorem start_preLedger {k : Nat} (version : String) (tables : Tables) (bound : k ≤ reg.revisions.length) :
    ((reg.ledgerNames k).Nodup ∧ ∃ st next,
      (applySchemaMigrations sha256 (reg.release k version)).run (preLedger tables) = (.ok st, next) ∧
      MigratedTo sha256 reg k next) ∨
    (¬(reg.ledgerNames k).Nodup ∧ ∃ e next,
      (applySchemaMigrations sha256 (reg.release k version)).run (preLedger tables) = (.error e, next)) := by
  have baseline : Recorded sha256 reg 0 { preLedger tables with ledger := some [baselineRow sha256] } :=
    ⟨rfl, Nat.zero_le _, nodup_singleton _⟩
  have upTo (i : Nat) : i ∈ [0] ↔ i ≤ 0 := by simp
  exact start_after_check version baseline (Nat.zero_le k) bound upTo rfl

/-- The databases that a successful start-up of release `n` leaves, on an
installation from before the ledger or on what an earlier release left. -/
inductive Produced (sha256 : String → String) (reg : Registry Tables) : Nat → Database Tables → Prop
  | first {n tables version st db} : n ≤ reg.revisions.length →
      (applySchemaMigrations sha256 (reg.release n version)).run (preLedger tables) = (.ok st, db) →
      Produced sha256 reg n db
  | next {m n version st before db} : Produced sha256 reg m before → n ≤ reg.revisions.length →
      (applySchemaMigrations sha256 (reg.release n version)).run before = (.ok st, db) →
      Produced sha256 reg n db

theorem Produced.migratedTo {n : Nat} (produced : Produced sha256 reg n db) : MigratedTo sha256 reg n db := by
  induction produced with
  | @first n tables version st db bound run =>
    rcases start_preLedger version tables bound with ⟨_, _, _, run', state⟩ | ⟨_, _, _, run'⟩
    · rw [run] at run'
      cases run'
      exact state
    · rw [run] at run'
      cases run'
  | @next m n version st before db _ bound run ih =>
    rcases Nat.lt_or_ge n m with older | known
    · rw [start_newer version ih.recorded older] at run
      cases run
    · rcases start_known version ih.recorded known bound with ⟨_, _, _, run', state⟩ | ⟨_, _, _, run'⟩
      · rw [run] at run'
        cases run'
        exact state
      · rw [run] at run'
        cases run'

/-- What a rollback that was declared compatible is for: the target release
starts on the database and forgets no revision it does not know. -/
def RollbackStarts (sha256 : String → String) (rel : Release Tables) (file : ManifestFile)
    (db : Database Tables) : Prop :=
  ∀ verdict, rollbackCompatibility file db = .ok verdict → verdict.compatible = true →
    ∃ st next, (applySchemaMigrations sha256 rel).run db = (.ok st, next) ∧
      ∀ row ∈ db.ledger.getD [], rel.currentSchemaVersion < row.revision → row ∈ next.ledger.getD []

/-- Within its range the target is compatible; beyond it, compatibility is
read off the classes of the revisions the target does not know. -/
theorem compatible_iff {n : Nat} (state : MigratedTo sha256 reg n db)
    {target : Manifest} (minimum : target.minimum ≤ n) :
    (rollbackVerdict target db).compatible = true ↔
      n ≤ target.maximum ∨ ∀ r ∈ reg.revisions.take n, target.maximum < r.revision →
        r.compatibility = .additive := by
  have newer (row : LedgerRow) :
      row ∈ (schemaState db).revisions.filter (fun row => target.maximum < row.revision) ↔
        ∃ r ∈ reg.revisions.take n, target.maximum < r.revision ∧ revisionRow sha256 r = row := by
    rw [schemaState_revisions state, mem_filter, Registry.ledgerRows, mem_cons, mem_map]
    constructor
    · rintro ⟨rfl | ⟨r, member, rfl⟩, above⟩
      · exact absurd (of_decide_eq_true above) (Nat.not_lt_zero _)
      · exact ⟨r, member, of_decide_eq_true above, rfl⟩
    · rintro ⟨r, member, above, rfl⟩
      exact ⟨.inr ⟨r, member, rfl⟩, decide_eq_true above⟩
  simp only [rollbackVerdict, schemaState_version state, Nat.not_lt.mpr minimum, if_false]
  by_cases within : n ≤ target.maximum
  · simp only [within, if_true, true_or]
  · have last : ∃ r ∈ reg.revisions.take n, target.maximum < r.revision := by
      have inside : n - 1 < reg.revisions.length := by have := state.bound; omega
      refine ⟨reg.revisions[n - 1], mem_take_iff_getElem.mpr ⟨n - 1, by omega, rfl⟩, ?_⟩
      rw [reg.number_at (List.getElem?_eq_getElem inside)]
      omega
    have nonempty : (schemaState db).revisions.filter (fun row => decide (target.maximum < row.revision)) ≠ [] := by
      obtain ⟨r, member, above⟩ := last
      exact ne_nil_of_mem ((newer _).mpr ⟨r, member, above, rfl⟩)
    simp only [within, if_false, nonempty, ne_eq, not_false_eq_true, true_and, false_or]
    split
    · rename_i additive
      rw [all_eq_true] at additive
      simp only [true_iff]
      intro r member above
      exact of_decide_eq_true (additive _ ((newer _).mpr ⟨r, member, above, rfl⟩))
    · rename_i breaking
      simp only [Bool.false_eq_true, false_iff]
      intro additive
      apply breaking
      rw [all_eq_true]
      intro row member
      obtain ⟨r, inTake, above, rfl⟩ := (newer row).mp member
      exact decide_eq_true (additive r inTake above)

/-- A rollback declared compatible starts exactly when the target knows every
revision of the database (and its own names do not repeat), or when a breaking
revision keeps it from being declared compatible in the first place. -/
theorem rollback_starts_iff {n k : Nat} {db : Database Tables} {file : ManifestFile} {target : Manifest}
    (version : String) (produced : Produced sha256 reg n db) (bound : k ≤ reg.revisions.length)
    (manifest : loadSchemaManifest file = .ok target) (maximum : target.maximum = k)
    (minimum : target.minimum ≤ (schemaState db).schemaVersion) :
    RollbackStarts sha256 (reg.release k version) file db ↔ (n ≤ k ∧ (reg.ledgerNames k).Nodup) ∨
        ∃ r ∈ reg.revisions.take n, k < r.revision ∧ r.compatibility = .breaking := by
  have state := produced.migratedTo
  rw [schemaState_version state] at minimum
  have verdict := compatible_iff state minimum
  have decided : rollbackCompatibility file db = .ok (rollbackVerdict target db) := by
    rw [rollbackCompatibility, manifest]
    rfl
  subst maximum
  rcases Nat.lt_or_ge target.maximum n with older | known
  · have refused := start_newer version state.recorded older
    have outside : ¬n ≤ target.maximum := Nat.not_le.mpr older
    constructor
    · intro starts
      by_contra neither
      push Not at neither
      have compatible := verdict.mpr <| .inr fun r member above => by
        cases class_ : r.compatibility with
        | additive => rfl
        | breaking => exact absurd class_ (neither.2 r member above)
      obtain ⟨st, next, run, _⟩ := starts _ decided compatible
      rw [refused] at run
      cases run
    · rintro (⟨inside, _⟩ | ⟨r, member, above, breaking⟩)
      · exact absurd inside outside
      · intro given isGiven compatible
        rw [decided] at isGiven
        cases isGiven
        rcases verdict.mp compatible with inside | additive
        · exact absurd inside outside
        · rw [additive r member above] at breaking
          cases breaking
  · have nothingNewer : ¬∃ r ∈ reg.revisions.take n, target.maximum < r.revision ∧ r.compatibility = .breaking := by
      rintro ⟨r, member, above, _⟩
      have := reg.mem_take_number state.bound member
      omega
    rcases start_known version state.recorded known bound with
      ⟨distinct, st, next, run, after⟩ | ⟨repeated, e, next, run⟩
    · refine iff_of_true (fun _ _ _ => ⟨st, next, run, ?_⟩) (.inl ⟨known, distinct⟩)
      intro row member above
      have beyond : target.maximum < row.revision := above
      rw [state.ledger, Option.getD_some] at member
      have number : row.revision ∈ (reg.ledgerRows sha256 n).map LedgerRow.revision := List.mem_map_of_mem member
      rw [reg.ledgerRows_numbers sha256 state.bound, List.mem_range'_1] at number
      omega
    · constructor
      · intro starts
        obtain ⟨st, next', run', _⟩ := starts _ decided (verdict.mpr (.inl known))
        rw [run] at run'
        cases run'
      · rintro (⟨_, distinct⟩ | breaking)
        · exact absurd distinct repeated
        · exact absurd breaking nothingNewer

/-- The five revisions shipped so far, all additive; their DDL is left out. -/
def shipped : Registry Unit where
  revisions :=
    [{ revision := 1, name := "adopt_preledger_additive_schema", compatibility := .additive, upgrade := id },
     { revision := 2, name := "update_safety_evidence", compatibility := .additive, upgrade := id },
     { revision := 3, name := "control_tasks", compatibility := .additive, upgrade := id },
     { revision := 4, name := "retention_alerts_sessions", compatibility := .additive, upgrade := id },
     { revision := 5, name := "php_lifecycle_isolation", compatibility := .additive, upgrade := id }]
  contiguous := rfl

/-- The database the current release makes of a fresh installation. -/
def shippedDatabase : Database Unit := ((applySchemaMigrations id (shipped.release 5 "5")).run (preLedger ())).2

theorem shippedDatabase_produced : Produced id shipped 5 shippedDatabase :=
  @Produced.first _ id shipped 5 () "5" (schemaState shippedDatabase) _ (by decide) rfl

/-- Rolling back by one additive revision is declared compatible, and then the
older release refuses to start. -/
theorem additive_rollback_does_not_start : Produced id shipped 5 shippedDatabase ∧
      ¬RollbackStarts id (shipped.release 4 "4") (.document 0 4) shippedDatabase := by
  refine ⟨shippedDatabase_produced, fun starts => ?_⟩
  obtain ⟨st, next, run, _⟩ := starts _ rfl rfl
  cases run

theorem rollback_starts_iff_shipped : RollbackStarts id (shipped.release 5 "5") (.document 0 5) shippedDatabase ↔
      (5 ≤ 5 ∧ (shipped.ledgerNames 5).Nodup) ∨
        ∃ r ∈ shipped.revisions.take 5, 5 < r.revision ∧ r.compatibility = .breaking :=
  rollback_starts_iff "5" shippedDatabase_produced (by decide) rfl rfl (Nat.zero_le _)

end Boron.Schema
