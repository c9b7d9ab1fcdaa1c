import Mathlib.Data.List.Sort
import Mathlib.Data.Finset.Card

namespace Ranking
open List
variable {α κ : Type}

section
variable {r : α → α → Prop} [DecidableRel r]

theorem filter_orderedInsert [IsTrans α r] {P : α → Bool} {a : α} {rows : List α} (sorted : rows.Pairwise r) :
    (rows.orderedInsert r a).filter P = if P a then (rows.filter P).orderedInsert r a else rows.filter P := by
  induction rows with
  | nil => by_cases keep : P a <;> simp [keep]
  | cons b rest ih =>
    obtain ⟨least, later⟩ := pairwise_cons.mp sorted
    rw [orderedInsert_cons]
    by_cases before : r a b
    · rw [if_pos before]
      by_cases keep : P a
      · have first : ∀ c ∈ (b :: rest).filter P, r a c := by
          intro c member
          rcases mem_cons.mp (mem_filter.mp member).1 with rfl | inside
          · exact before
          · exact IsTrans.trans _ _ _ before (least c inside)
        rw [filter_cons_of_pos keep, if_pos keep]
        cases kept : (b :: rest).filter P with
        | nil => rfl
        | cons c others =>
          rw [orderedInsert_cons_of_le]
          exact first c (kept ▸ mem_cons_self)
      · rw [filter_cons_of_neg keep, if_neg keep]
    · rw [if_neg before]
      by_cases stays : P b
      · rw [filter_cons_of_pos stays, filter_cons_of_pos stays, ih later]
        by_cases keep : P a
        · rw [if_pos keep, if_pos keep, orderedInsert_cons, if_neg before]
        · rw [if_neg keep, if_neg keep]
      · rw [filter_cons_of_neg stays, filter_cons_of_neg stays, ih later]

/-- A stable sort commutes with leaving elements out. -/
theorem filter_insertionSort [IsTrans α r] [Std.Total r] (P : α → Bool) (rows : List α) :
    (rows.insertionSort r).filter P = (rows.filter P).insertionSort r := by
  induction rows with
  | nil => rfl
  | cons a rest ih =>
    rw [insertionSort_cons, filter_orderedInsert (pairwise_insertionSort r rest), ih]
    by_cases keep : P a
    · rw [if_pos keep, filter_cons_of_pos keep, insertionSort_cons]
    · rw [if_neg keep, filter_cons_of_neg keep]

end

theorem mem_take {rows : List α} {n : Nat} {row : α} :
    row ∈ rows.take n ↔ ∃ before after, rows = before ++ row :: after ∧ before.length < n := by
  constructor
  · intro member
    obtain ⟨before, after, split⟩ := append_of_mem member
    refine ⟨before, after ++ rows.drop n, ?_, ?_⟩
    · rw [← cons_append, ← append_assoc, ← split, take_append_drop]
    · have short : (rows.take n).length ≤ n := length_take_le n rows
      rw [split, length_append, length_cons] at short
      omega
  · rintro ⟨before, after, rfl, short⟩
    rw [take_append]
    refine mem_append_right _ ?_
    rw [take_cons (by omega)]
    exact mem_cons_self

section
variable [DecidableEq κ]

def ahead (key : α → κ) (rows : List α) (k : κ) : List α := rows.takeWhile fun row => key row ≠ k

variable {key : α → κ} {rows : List α}

theorem apart_of_ahead {k : κ} {row : α} (member : row ∈ ahead key rows k) : key row ≠ k := by
  have passed := all_eq_true.mp all_takeWhile row member
  exact of_decide_eq_true passed

/-- The first row of a key, which need not be unique. -/
theorem exists_first {k : κ} (present : ∃ row ∈ rows, key row = k) :
    ∃ row after, rows = ahead key rows k ++ row :: after ∧ key row = k := by
  induction rows with
  | nil =>
    obtain ⟨row, member, _⟩ := present
    cases member
  | cons first rest ih =>
    by_cases same : key first = k
    · have nobody : ahead key (first :: rest) k = [] := takeWhile_cons_of_neg (by simp [same])
      exact ⟨first, rest, by rw [nobody, nil_append], same⟩
    · have later : ∃ row ∈ rest, key row = k := by
        obtain ⟨row, member, named⟩ := present
        rcases mem_cons.mp member with rfl | inside
        · exact absurd named same
        · exact ⟨row, inside, named⟩
      obtain ⟨row, after, split, named⟩ := ih later
      have more : ahead key (first :: rest) k = first :: ahead key rest k :=
        takeWhile_cons_of_pos (decide_eq_true same)
      exact ⟨row, after, by rw [more, cons_append, ← split], named⟩

theorem ahead_eq {before after : List α} {row : α} (unique : ((before ++ row :: after).map key).Nodup) :
    ahead key (before ++ row :: after) (key row) = before := by
  have apart : ∀ other ∈ before, key other ≠ key row := by
    intro other member same
    rw [map_append, map_cons, nodup_append] at unique
    exact unique.2.2 _ (mem_map_of_mem member) _ mem_cons_self same
  unfold ahead
  rw [takeWhile_append_of_pos fun other member => decide_eq_true (apart other member),
    takeWhile_cons_of_neg (by simp), append_nil]

theorem exists_ahead (unique : (rows.map key).Nodup) {row : α} (member : row ∈ rows) :
    ∃ after, rows = ahead key rows (key row) ++ row :: after := by
  obtain ⟨before, after, rfl⟩ := append_of_mem member
  exact ⟨after, by rw [ahead_eq unique]⟩

theorem ahead_filter (rows : List α) (P : α → Bool) {row : α} (unique : (rows.map key).Nodup)
    (member : row ∈ rows) (keep : P row) :
    ahead key (rows.filter P) (key row) = (ahead key rows (key row)).filter P := by
  obtain ⟨after, split⟩ := exists_ahead unique member
  have kept : rows.filter P = (ahead key rows (key row)).filter P ++ row :: after.filter P := by
    conv => lhs; rw [split]
    rw [filter_append, filter_cons_of_pos keep]
  have still : ((rows.filter P).map key).Nodup := unique.sublist (filter_sublist.map key)
  rw [kept] at still ⊢
  exact ahead_eq still

end

end Ranking
