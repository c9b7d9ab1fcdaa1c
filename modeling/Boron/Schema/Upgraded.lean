import Boron.Schema.Rollback

namespace Boron.Schema
open List Sys
variable {Tables : Type} {sha256 : String → String} {reg : Registry Tables} {first : Tables} {n k : Nat} {db : Database Tables}

/-- The tables after the first `n` revisions, each applied once. -/
def Registry.upgraded (reg : Registry Tables) (n : Nat) (tables : Tables) : Tables :=
  (reg.revisions.take n).foldl (fun tables r => r.upgrade tables) tables

/-- What the ledger records is what has been done to the tables. -/
structure Upgraded (sha256 : String → String) (reg : Registry Tables) (first : Tables) (n : Nat) (db : Database Tables) : Prop
    extends Recorded sha256 reg n db where
  tables : db.tables = reg.upgraded n first

theorem Upgraded.next (state : Upgraded sha256 reg first n db) {r : Revision Tables} (atIndex : reg.revisions[n]? = some r)
    (rel : Release Tables) :
    (∃ e, (atomically (applyRevision sha256 rel r)).run db = (.error e, db)) ∨
      ∃ next, (atomically (applyRevision sha256 rel r)).run db = (.ok (), next) ∧ Upgraded sha256 reg first (n + 1) next := by
  rcases state.applyRevision_next atIndex rel with ⟨-, ran⟩ | ⟨-, next, ran, recorded⟩
  · exact .inl ⟨_, ran⟩
  · refine .inr ⟨next, ran, recorded, ?_⟩
    have whole := atomically_eq_ok.mp ran
    rw [applyRevision, bind_of_ok state.ensureLedger_run, run_modify_bind] at whole
    obtain ⟨_, mid, inserted, last⟩ := bind_eq_ok.mp whole
    have kept : mid.tables = r.upgrade db.tables := by
      unfold insertRow at inserted
      rw [run_get_bind] at inserted
      split at inserted
      · cases inserted
      · cases inserted
        rfl
    cases last
    have longer : reg.revisions.take (n + 1) = reg.revisions.take n ++ [r] := by
      rw [take_add_one, atIndex]
      rfl
    unfold Registry.upgraded
    rw [longer, foldl_append]
    rw [kept, state.tables]
    rfl

/-- Any number of the pending revisions. -/
theorem Upgraded.pending (rel : Release Tables) (more : Nat) : ∀ {n : Nat} {db : Database Tables} {applied : List Nat},
    Upgraded sha256 reg first n db → n + more ≤ reg.revisions.length → (∀ i ∈ applied, i ≤ n) →
      ∃ m, Upgraded sha256 reg first m
        ((applyPending sha256 rel ((reg.revisions.drop n).take more) applied).run db).2 := by
  induction more with
  | zero => exact fun state _ _ => ⟨_, state⟩
  | succ more ih =>
    intro n db applied state room below
    obtain ⟨r, atIndex⟩ : ∃ r, reg.revisions[n]? = some r := ⟨_, List.getElem?_eq_getElem (by omega)⟩
    have split : (reg.revisions.drop n).take (more + 1) = r :: (reg.revisions.drop (n + 1)).take more := by
      obtain ⟨inside, value⟩ := List.getElem?_eq_some_iff.mp atIndex
      rw [drop_eq_getElem_cons inside, value, take_succ_cons]
    have number := reg.number_at atIndex
    have pending : r.revision ∉ applied := fun member => by
      have := below _ member
      omega
    rw [split, applyPending, if_neg pending]
    rcases state.next atIndex rel with ⟨e, ran⟩ | ⟨next, ran, upgraded⟩
    · rw [bind_of_error ran]
      exact ⟨n, state⟩
    · rw [bind_of_ok ran]
      refine ih upgraded (by omega) fun i member => ?_
      rcases mem_cons.mp member with rfl | old
      · omega
      · have := below i old
        omega

/-- A start-up that is killed after it has come to the first `reached` revisions of the release. -/
def killedStart (sha256 : String → String) (rel : Release Tables) (reached : Nat) : Migration Tables Unit := do
  let known ← Sys.ofExcept (knownRevisions rel)
  let applied ← Sys.atomically (checkLedger sha256 rel known)
  applyPending sha256 rel (rel.revisions.take reached) applied

/-- The databases of an installation from before the ledger, whatever releases were started on it since, with whatever end. -/
inductive Started (sha256 : String → String) (reg : Registry Tables) (first : Tables) : Database Tables → Prop
  | preLedger : Started sha256 reg first (preLedger first)
  | start {db : Database Tables} (before : Started sha256 reg first db) (k : Nat) (version : String)
      (bound : k ≤ reg.revisions.length) :
      Started sha256 reg first ((applySchemaMigrations sha256 (reg.release k version)).run db).2
  | killed {db : Database Tables} (before : Started sha256 reg first db) (k : Nat) (version : String) (reached : Nat)
      (bound : k ≤ reg.revisions.length) :
      Started sha256 reg first ((killedStart sha256 (reg.release k version) reached).run db).2

/-- The ledger is still missing, or it tells what has been done to the tables. -/
def Told (sha256 : String → String) (reg : Registry Tables) (first : Tables) (db : Database Tables) : Prop :=
  db = preLedger first ∨ ∃ n, Upgraded sha256 reg first n db

section
variable (bound : k ≤ reg.revisions.length) (version : String)
include bound

theorem applyPending_told (reached : Nat) {applied : List Nat} (state : Upgraded sha256 reg first n db) (known : n ≤ k)
    (upTo : ∀ i, i ∈ applied ↔ i ≤ n) (rel : Release Tables) :
    ∃ m, Upgraded sha256 reg first m ((applyPending sha256 rel ((reg.revisions.take k).take reached) applied).run db).2 := by
  rw [take_take]
  rcases Nat.le_total (min reached k) n with short | long
  · have skip := @Recorded.applyPending_skip _ sha256 rel (reg.revisions.take (min reached k)) [] applied fun r member =>
      (upTo _).mpr ((reg.mem_take_number (short.trans (known.trans bound)) member).2.trans short)
    rw [append_nil] at skip
    rw [skip]
    exact ⟨n, state⟩
  · have split : reg.revisions.take (min reached k) = reg.revisions.take n ++ (reg.revisions.drop n).take (min reached k - n) := by
      rw [← take_add, Nat.add_sub_cancel' long]
    have skip := @Recorded.applyPending_skip _ sha256 rel (reg.revisions.take n)
      ((reg.revisions.drop n).take (min reached k - n)) applied fun r member =>
      (upTo _).mpr (reg.mem_take_number (known.trans bound) member).2
    rw [split, skip]
    exact (state.pending rel _ (by omega) fun i member => (upTo i).mp member)

theorem killedStart_told (reached : Nat) (told : Told sha256 reg first db) :
    ∃ m, Upgraded sha256 reg first m ((killedStart sha256 (reg.release k version) reached).run db).2 := by
  have registry : (ofExcept (knownRevisions (reg.release k version)) :
      Migration Tables (List (Revision Tables))).run db = (.ok (reg.revisions.take k), db) := by
    rw [run_ofExcept, reg.knownRevisions_release bound]
  unfold killedStart
  rw [bind_of_ok registry]
  rcases told with rfl | ⟨n, state⟩
  · have baseline : Upgraded sha256 reg first 0 { preLedger first with ledger := some [baselineRow sha256] } :=
      ⟨⟨rfl, Nat.zero_le _, nodup_singleton _⟩, rfl⟩
    have check : (checkLedger sha256 (reg.release k version) (reg.revisions.take k)).run (preLedger first) =
        (.ok [0], { preLedger first with ledger := some [baselineRow sha256] }) := rfl
    rw [bind_of_ok (atomically_eq_ok.mpr check)]
    exact applyPending_told bound reached baseline (Nat.zero_le k) (by simp) _
  · rcases Nat.lt_or_ge k n with older | known
    · rw [bind_of_error (atomically_of_error (state.checkLedger_newer older version _))]
      exact ⟨n, state⟩
    · rw [bind_of_ok (atomically_eq_ok.mpr (state.checkLedger_known known bound version))]
      refine applyPending_told bound reached state known (fun i => ?_) _
      rw [List.mem_range'_1]
      omega

/-- A start-up that is not killed goes on from there to write the metadata. -/
theorem start_eq (sha256 : String → String) (version : String) (db : Database Tables) :
    (applySchemaMigrations sha256 (reg.release k version)).run db =
      match (killedStart sha256 (reg.release k version) k).run db with
      | (.ok _, s) => (.ok (schemaState { s with ledger := some (s.ledger.getD []), schemaVersion := some k, appVersion := some version }),
          { s with ledger := some (s.ledger.getD []), schemaVersion := some k, appVersion := some version })
      | (.error e, s) => (.error e, s) := by
  have registry : (ofExcept (knownRevisions (reg.release k version)) :
      Migration Tables (List (Revision Tables))).run db = (.ok (reg.revisions.take k), db) := by
    rw [run_ofExcept, reg.knownRevisions_release bound]
  have whole : (reg.release k version).revisions.take k = (reg.release k version).revisions := by
    change (reg.revisions.take k).take k = _
    rw [take_take, min_self]
    rfl
  unfold applySchemaMigrations killedStart
  rw [bind_of_ok registry, bind_of_ok registry, whole]
  cases check : (atomically (checkLedger sha256 (reg.release k version) (reg.revisions.take k))).run db with
  | mk result checked => cases result with
    | error e => rw [bind_of_error check, bind_of_error check]
    | ok applied =>
      rw [bind_of_ok check, bind_of_ok check]
      cases pending : (applyPending sha256 (reg.release k version) (reg.release k version).revisions applied).run checked with
      | mk result left => cases result with
        | error e => rw [bind_of_error pending]
        | ok _ =>
          rw [bind_of_ok pending]
          rfl

theorem start_told (told : Told sha256 reg first db) :
    ∃ m, Upgraded sha256 reg first m ((applySchemaMigrations sha256 (reg.release k version)).run db).2 := by
  obtain ⟨m, killed⟩ := killedStart_told bound version k told
  rw [start_eq bound]
  cases ran : (killedStart sha256 (reg.release k version) k).run db with
  | mk result left =>
    rw [ran] at killed
    cases result with
    | error e => exact ⟨m, killed⟩
    | ok _ =>
      refine ⟨m, ⟨?_, killed.bound, killed.distinct⟩, killed.tables⟩
      dsimp only
      rw [killed.ledger]
      rfl

end

theorem Started.told (started : Started sha256 reg first db) : Told sha256 reg first db := by
  induction started with
  | preLedger => exact .inl rfl
  | start before k version bound ih => exact .inr (start_told bound version ih)
  | killed before k version reached bound ih => exact .inr (killedStart_told bound version reached ih)

def marked : Registry (List Nat) where
  revisions := [{ revision := 1, name := "first", compatibility := .additive, upgrade := (· ++ [1]) },
     { revision := 2, name := "second", compatibility := .breaking, upgrade := (· ++ [2]) }]
  contiguous := rfl

/-- A start of the second release that was killed when it had come to the first revision. -/
def halfMarked : Database (List Nat) := ((killedStart id (marked.release 2 "2") 1).run (preLedger [])).2

end Boron.Schema
