import Boron.Schema.Migrations

namespace Boron.Schema
open List Sys
variable {Tables : Type} {sha256 : String → String} {reg : Registry Tables}

/-- A database whose last start-up finished with exactly the first `n` revisions. -/
structure MigratedTo (sha256 : String → String) (reg : Registry Tables) (n : Nat)
    (db : Database Tables) : Prop where
  ledger : db.ledger = some (reg.ledgerRows sha256 n)
  version : db.schemaVersion = some n
  bound : n ≤ reg.revisions.length
  distinct : (reg.ledgerNames n).Nodup

/-- While revisions are being applied the ledger runs ahead of the metadata
of the release, and the tables are whatever the upgrades made of them. -/
structure Recorded (sha256 : String → String) (reg : Registry Tables) (n : Nat) (db : Database Tables) : Prop where
  ledger : db.ledger = some (reg.ledgerRows sha256 n)
  bound : n ≤ reg.revisions.length
  distinct : (reg.ledgerNames n).Nodup

variable {db : Database Tables}

theorem MigratedTo.recorded {n : Nat} (state : MigratedTo sha256 reg n db) :
    Recorded sha256 reg n db := ⟨state.ledger, state.bound, state.distinct⟩

theorem schemaState_version {n : Nat} (state : MigratedTo sha256 reg n db) :
    (schemaState db).schemaVersion = n := by
  simp only [schemaState, state.ledger, state.version, Option.getD_some]

theorem schemaState_revisions {n : Nat} (state : MigratedTo sha256 reg n db) :
    (schemaState db).revisions = reg.ledgerRows sha256 n := by
  simp only [schemaState, state.ledger, reg.ledgerRows_ordered sha256 state.bound]

namespace Recorded
variable {n k : Nat} {db : Database Tables}

section
variable (state : Recorded sha256 reg n db)
include state

theorem ensureLedger_run : ensureLedger.run db = (.ok (), db) := by
  simp only [ensureLedger, run_modify, state.ledger, Option.getD_some]
  rw [← state.ledger]

theorem readLedger_run : readLedger.run db = (.ok (reg.ledgerRows sha256 n), db) := by
  simp only [readLedger, run_get_bind, run_pure, state.ledger, Option.getD_some,
    reg.ledgerRows_ordered sha256 state.bound]

theorem checkLedger_known (known : n ≤ k) (bound : k ≤ reg.revisions.length) (version : String) :
    (checkLedger sha256 (reg.release k version) (reg.revisions.take k)).run db = (.ok (range' 0 (n + 1)), db) := by
  have filled : (reg.ledgerRows sha256 n).isEmpty = false := rfl
  unfold checkLedger
  rw [bind_of_ok state.ensureLedger_run, bind_of_ok state.readLedger_run, filled]
  simp only [Bool.false_eq_true, if_false, reg.ledgerRows_newest sha256 state.bound]
  rw [if_neg (show ¬(reg.release k version).currentSchemaVersion < n from Nat.not_lt.mpr known),
    bind_of_ok (reg.checkRows_ok sha256 known bound db), run_pure,
    reg.ledgerRows_numbers sha256 state.bound]

/-- A release that stops short of the recorded revisions refuses to start,
whatever their compatibility class. -/
theorem checkLedger_newer (older : k < n) (version : String) (known : List (Revision Tables)) :
    (checkLedger sha256 (reg.release k version) known).run db = (.error (.newer n k), db) := by
  have filled : (reg.ledgerRows sha256 n).isEmpty = false := rfl
  unfold checkLedger
  rw [bind_of_ok state.ensureLedger_run, bind_of_ok state.readLedger_run, filled]
  simp only [Bool.false_eq_true, if_false, reg.ledgerRows_newest sha256 state.bound]
  rw [if_pos (show (reg.release k version).currentSchemaVersion < n from older), run_fail_bind]
  rfl

theorem insertRow_next {r : Revision Tables} (atIndex : reg.revisions[n]? = some r) :
    (insertRow (revisionRow sha256 r)).run db =
      if r.name ∈ reg.ledgerNames n then (.error .integrity, db)
      else (.ok (), { db with ledger := some (reg.ledgerRows sha256 n ++ [revisionRow sha256 r]) }) := by
  have clash : ((reg.ledgerRows sha256 n).any fun old =>
      old.revision = (revisionRow sha256 r).revision ∨ old.name = (revisionRow sha256 r).name) = true ↔
      r.name ∈ reg.ledgerNames n := by
    rw [any_eq_true, ← reg.ledgerRows_names sha256 n, mem_map]
    constructor
    · rintro ⟨old, member, same⟩
      rcases of_decide_eq_true same with number | name
      · have listed : old.revision ∈ (reg.ledgerRows sha256 n).map LedgerRow.revision := mem_map_of_mem member
        rw [reg.ledgerRows_numbers sha256 state.bound, List.mem_range'_1, number] at listed
        have next : (revisionRow sha256 r).revision = n + 1 := reg.number_at atIndex
        omega
      · exact ⟨old, member, name⟩
    · rintro ⟨old, member, name⟩
      exact ⟨old, member, decide_eq_true (.inr name)⟩
  simp only [insertRow, run_get_bind, state.ledger, Option.getD_some, run_ite, run_fail, run_modify, clash]

theorem applyRevision_next {r : Revision Tables}
    (atIndex : reg.revisions[n]? = some r) (rel : Release Tables) :
    (r.name ∈ reg.ledgerNames n ∧
        (atomically (applyRevision sha256 rel r)).run db = (.error .integrity, db)) ∨
      (r.name ∉ reg.ledgerNames n ∧ ∃ next,
        (atomically (applyRevision sha256 rel r)).run db = (.ok (), next) ∧
        Recorded sha256 reg (n + 1) next) := by
  have upgraded : Recorded sha256 reg n { db with tables := r.upgrade db.tables } :=
    ⟨state.ledger, state.bound, state.distinct⟩
  have insert := upgraded.insertRow_next atIndex
  by_cases used : r.name ∈ reg.ledgerNames n
  · rw [if_pos used] at insert
    have failed : (applyRevision sha256 rel r).run db =
        (.error .integrity, { db with tables := r.upgrade db.tables }) := by
      rw [applyRevision, bind_of_ok state.ensureLedger_run, run_modify_bind,
        bind_of_error insert]
    exact .inl ⟨used, atomically_of_error failed⟩
  · rw [if_neg used] at insert
    have run : (applyRevision sha256 rel r).run db = (.ok (),
        { tables := r.upgrade db.tables
          ledger := some (reg.ledgerRows sha256 n ++ [revisionRow sha256 r])
          schemaVersion := some r.revision, appVersion := some rel.boronVersion }) := by
      rw [applyRevision, bind_of_ok state.ensureLedger_run, run_modify_bind,
        bind_of_ok insert, metadataSet, run_modify]
    refine .inr ⟨used, _, atomically_eq_ok.mpr run, ?_,
      (List.getElem?_eq_some_iff.mp atIndex).1, ?_⟩
    · rw [reg.ledgerRows_succ sha256 atIndex]
    · rw [reg.ledgerNames_succ atIndex, nodup_append]
      refine ⟨state.distinct, nodup_singleton _, ?_⟩
      rintro name member other single rfl
      exact used (mem_singleton.mp single ▸ member)

end

theorem applyPending_skip (rel : Release Tables) (todo rest : List (Revision Tables))
    (applied : List Nat) (present : ∀ r ∈ todo, r.revision ∈ applied) :
    applyPending sha256 rel (todo ++ rest) applied = applyPending sha256 rel rest applied := by
  induction todo with
  | nil => rfl
  | cons r todo ih =>
    rw [cons_append, applyPending, if_pos (present r mem_cons_self)]
    exact ih fun other member => present other (mem_cons_of_mem _ member)

/-- From `n` recorded revisions the loop reaches the last one of the release
exactly when no name repeats on the way. -/
theorem applyPending_run (rel : Release Tables) (more : Nat) :
    ∀ {n : Nat} {db : Database Tables} {applied : List Nat}, Recorded sha256 reg n db →
      n + more ≤ reg.revisions.length → (∀ i ∈ applied, i ≤ n) →
      ((reg.ledgerNames (n + more)).Nodup ∧ ∃ next,
        (applyPending sha256 rel ((reg.revisions.drop n).take more) applied).run db = (.ok (), next) ∧
        Recorded sha256 reg (n + more) next) ∨
      (¬(reg.ledgerNames (n + more)).Nodup ∧ ∃ e next,
        (applyPending sha256 rel ((reg.revisions.drop n).take more) applied).run db = (.error e, next)) := by
  induction more with
  | zero =>
    intro n db applied state _ _
    exact .inl ⟨state.distinct, db, rfl, state⟩
  | succ more ih =>
    intro n db applied state room below
    obtain ⟨r, atIndex⟩ : ∃ r, reg.revisions[n]? = some r := ⟨_, List.getElem?_eq_getElem (by omega)⟩
    have split : (reg.revisions.drop n).take (more + 1) = r :: (reg.revisions.drop (n + 1)).take more := by
      obtain ⟨inside, value⟩ := List.getElem?_eq_some_iff.mp atIndex
      rw [drop_eq_getElem_cons inside, value, take_succ_cons]
    have number := reg.number_at atIndex
    have pending : r.revision ∉ applied := fun member => by
      have := below _ member
      omega
    have total : n + (more + 1) = n + 1 + more := by omega
    rw [split, applyPending, if_neg pending, total]
    rcases state.applyRevision_next atIndex rel with ⟨used, run⟩ | ⟨_, next, run, recorded⟩
    · refine .inr ⟨fun distinct => ?_, _, _, bind_of_error run⟩
      have shorter := distinct.sublist (reg.ledgerNames_prefix (Nat.le_add_right (n + 1) more)).sublist
      rw [reg.ledgerNames_succ atIndex, nodup_append] at shorter
      exact shorter.2.2 r.name used r.name (mem_singleton_self _) rfl
    · rw [bind_of_ok run]
      apply ih recorded (by omega)
      intro i member
      rcases mem_cons.mp member with rfl | old
      · omega
      · have := below i old
        omega

end Recorded

end Boron.Schema
