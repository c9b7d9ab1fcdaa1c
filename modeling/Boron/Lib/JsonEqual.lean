import Mathlib
import Boron.Lib.JsonRead

namespace Json
open List

section Equal
variable {F : Type}

mutual
def Value.Distinct : Value F → Prop
  | .list items => DistinctItems items
  | .dict entries => (entries.map Prod.fst).Nodup ∧ DistinctEntries entries
  | .null | .bool _ | .int _ | .float _ | .str _ => True

def DistinctItems : List (Value F) → Prop
  | [] => True
  | item :: items => item.Distinct ∧ DistinctItems items

def DistinctEntries : List (Str × Value F) → Prop
  | [] => True
  | (_, value) :: entries => value.Distinct ∧ DistinctEntries entries
end

mutual
/-- No string of a value has a high surrogate right before a low one. -/
def Value.Unpaired : Value F → Prop
  | .str text => Json.Unpaired text
  | .list items => UnpairedItems items
  | .dict entries => UnpairedEntries entries
  | .null | .bool _ | .int _ | .float _ => True

def UnpairedItems : List (Value F) → Prop
  | [] => True
  | item :: items => item.Unpaired ∧ UnpairedItems items

def UnpairedEntries : List (Str × Value F) → Prop
  | [] => True
  | (key, value) :: entries => (Json.Unpaired key ∧ value.Unpaired) ∧ UnpairedEntries entries
end

variable {entries : List (Str × Value F)} {key : Str} {value : Value F}

theorem put_new (new : key ∉ entries.map Prod.fst) : put entries key value = entries ++ [(key, value)] := by
  induction entries with
  | nil => rfl
  | cons entry entries ih =>
    rw [map_cons, mem_cons, not_or] at new
    rw [put, if_neg fun same => new.1 same.symm, ih new.2]
    rfl

theorem length_put (held : key ∈ entries.map Prod.fst) : (put entries key value).length = entries.length := by
  induction entries with
  | nil => cases held
  | cons entry entries ih =>
    obtain ⟨other, there⟩ := entry
    unfold put
    by_cases same : other = key
    · rw [if_pos same]
      rfl
    · have later : key ∈ entries.map Prod.fst := by
        rcases mem_cons.mp held with first | later
        · exact absurd first.symm same
        · exact later
      rw [if_neg same, length_cons, ih later]
      rfl

theorem foldl_put (pairs : List (Str × Value F)) :
    (pairs.foldl (fun entries pair => put entries pair.1 pair.2) entries).length ≤ entries.length + pairs.length ∧
      ((entries.map Prod.fst).Nodup →
        ((pairs.foldl (fun entries pair => put entries pair.1 pair.2) entries).length = entries.length + pairs.length →
          ((entries ++ pairs).map Prod.fst).Nodup) ∧
        (((entries ++ pairs).map Prod.fst).Nodup →
          pairs.foldl (fun entries pair => put entries pair.1 pair.2) entries = entries ++ pairs)) := by
  induction pairs generalizing entries with
  | nil => simp
  | cons pair pairs ih =>
    obtain ⟨key, value⟩ := pair
    rw [foldl_cons]
    by_cases held : key ∈ entries.map Prod.fst
    · have same := @length_put F entries key value held
      obtain ⟨bound, _⟩ := @ih (put entries key value)
      refine ⟨by simp only [length_cons]; omega, fun _ => ⟨fun full => ?_, fun apart => ?_⟩⟩
      · simp only [length_cons] at full
        omega
      · rw [map_append, nodup_append] at apart
        exact absurd rfl (apart.2.2 key held key mem_cons_self)
    · rw [put_new held]
      have shift : entries ++ [(key, value)] ++ pairs = entries ++ (key, value) :: pairs := by simp
      obtain ⟨bound, both⟩ := @ih (entries ++ [(key, value)])
      simp only [length_append, length_cons, length_nil] at bound both ⊢
      rw [shift] at both
      refine ⟨by omega, fun distinct => ?_⟩
      have wider : ((entries ++ [(key, value)]).map Prod.fst).Nodup := by
        rw [map_append, nodup_append]
        refine ⟨distinct, pairwise_singleton _ key, fun a inside b single same => ?_⟩
        have isKey : b = key := mem_singleton.mp single
        rw [same, isKey] at inside
        exact held inside
      obtain ⟨full, same⟩ := both wider
      exact ⟨fun total => full (by omega), same⟩

theorem dictOf_distinct (distinct : (entries.map Prod.fst).Nodup) : dictOf entries = entries :=
  ((@foldl_put F [] entries).2 nodup_nil).2 distinct

theorem dictOf_full (full : (dictOf entries).length = entries.length) : dictOf entries = entries :=
  dictOf_distinct (((@foldl_put F [] entries).2 nodup_nil).1 (full.trans (Nat.zero_add _).symm))

theorem length_readEntries : ∀ entries : List (Str × Value F), (readEntries entries).length = entries.length
  | [] => rfl
  | _ :: entries => congrArg (· + 1) (length_readEntries entries)

mutual
/-- A value is read as it was exactly when none of its strings has a pair of
surrogates to join. -/
theorem read_eq_self_iff : ∀ v : Value F, v.Distinct → (v.read = v ↔ v.Unpaired)
  | .null, _ => ⟨fun _ => trivial, fun _ => rfl⟩
  | .bool _, _ => ⟨fun _ => trivial, fun _ => rfl⟩
  | .int _, _ => ⟨fun _ => trivial, fun _ => rfl⟩
  | .float _, _ => ⟨fun _ => trivial, fun _ => rfl⟩
  | .str text, _ => by
    rw [Value.read, Value.str.injEq]
    exact joined_eq_self_iff
  | .list items, distinct => by
    rw [Value.read, Value.list.injEq]
    exact readItems_eq_self_iff items distinct
  | .dict entries, distinct => by
    have each := readEntries_eq_self_iff entries distinct.2
    rw [Value.read, Value.dict.injEq]
    constructor
    · intro same
      have full : (dictOf (readEntries entries)).length = (readEntries entries).length := by
        rw [same, length_readEntries]
      rw [dictOf_full full] at same
      exact each.mp same
    · intro apart
      rw [each.mpr apart]
      exact dictOf_distinct distinct.1

theorem readItems_eq_self_iff : ∀ items : List (Value F), DistinctItems items → (readItems items = items ↔ UnpairedItems items)
  | [], _ => ⟨fun _ => trivial, fun _ => rfl⟩
  | item :: items, distinct => by
    have first := read_eq_self_iff item distinct.1
    have others := readItems_eq_self_iff items distinct.2
    rw [readItems, cons.injEq, first, others]
    exact Iff.rfl

theorem readEntries_eq_self_iff : ∀ entries : List (Str × Value F), DistinctEntries entries →
    (readEntries entries = entries ↔ UnpairedEntries entries)
  | [], _ => ⟨fun _ => trivial, fun _ => rfl⟩
  | (key, value) :: entries, distinct => by
    have first := read_eq_self_iff value distinct.1
    have others := readEntries_eq_self_iff entries distinct.2
    rw [readEntries, cons.injEq, Prod.mk.injEq, first, others, joined_eq_self_iff]
    exact Iff.rfl
end

end Equal

section Sizes
variable {F : Type} {lib : Floats F}

def width (c : CodePoint) : Nat :=
  if c = 0x22 ∨ c = 0x5C ∨ c = 0x0A ∨ c = 0x0D ∨ c = 0x09 ∨ c = 0x0C ∨ c = 0x08 then 2
  else if 0x20 ≤ c.val ∧ c.val ≤ 0x7E then 1
  else if c.val < 0x10000 then 6
  else 12

def strSize (text : Str) : Nat := 2 + (text.map width).sum

mutual
def Value.size (lib : Floats F) : Value F → Nat
  | .null => 4
  | .bool truth => if truth then 4 else 5
  | .int number => (if number < 0 then 1 else 0) + (Nat.toDigits 10 number.natAbs).length
  | .float number => (lib.text number).length
  | .str text => strSize text
  | .list [] => 2
  | .list (item :: items) => 2 + item.size lib + itemsSize lib items
  | .dict [] => 2
  | .dict ((key, value) :: entries) => 4 + strSize key + value.size lib + entriesSize lib entries

def itemsSize (lib : Floats F) : List (Value F) → Nat
  | [] => 0
  | item :: items => 2 + item.size lib + itemsSize lib items

def entriesSize (lib : Floats F) : List (Str × Value F) → Nat
  | [] => 0
  | (key, value) :: entries => 4 + strSize key + value.size lib + entriesSize lib entries
end

theorem length_escape (c : CodePoint) : (escape c).length = width c := by
  unfold escape width
  repeat' split
  all_goals first | rfl | grind

theorem length_strText (text : Str) : (strText text).length = strSize text := by
  have each : (text.flatMap escape).length = (text.map width).sum := by
    rw [length_flatMap]
    simp only [length_escape]
  simp only [strText, strSize, length_cons, length_append, length_nil, each]
  omega

mutual
theorem length_text : ∀ v : Value F, (v.text lib).length = v.size lib
  | .null => rfl
  | .bool true => rfl
  | .bool false => rfl
  | .int n => by
    by_cases negative : n < 0
    · simp only [Value.text, intText, minus, Value.size, negative, decide_true, if_true, length_append,
        length_cons, length_nil]
    · simp only [Value.text, intText, minus, Value.size, negative, decide_false, Bool.false_eq_true, if_false,
        length_append, length_nil]
  | .float _ => rfl
  | .str text => length_strText text
  | .list [] => rfl
  | .list (item :: items) => by
    have first := length_text item
    have others := length_itemsText items
    simp only [Value.text, Value.size, length_cons, length_append, length_nil, first, others]
    omega
  | .dict [] => rfl
  | .dict ((key, value) :: entries) => by
    have first := length_text value
    have others := length_entriesText entries
    simp only [Value.text, Value.size, length_cons, length_append, length_nil, length_strText, first, others]
    omega

theorem length_itemsText : ∀ items : List (Value F), (itemsText lib items).length = itemsSize lib items
  | [] => rfl
  | item :: items => by
    have first := length_text item
    have others := length_itemsText items
    simp only [itemsText, itemsSize, length_cons, length_append, first, others]
    omega

theorem length_entriesText : ∀ entries : List (Str × Value F), (entriesText lib entries).length = entriesSize lib entries
  | [] => rfl
  | (key, value) :: entries => by
    have first := length_text value
    have others := length_entriesText entries
    simp only [entriesText, entriesSize, length_cons, length_append, length_strText, first, others]
    omega
end

def Ascii (text : List Char) : Prop := ∀ c ∈ text, c.toNat < 128

theorem ascii_cons {c : Char} {text : List Char} : Ascii (c :: text) ↔ c.toNat < 128 ∧ Ascii text := forall_mem_cons

theorem ascii_append {front back : List Char} : Ascii (front ++ back) ↔ Ascii front ∧ Ascii back :=
  forall_mem_append

theorem ascii_nil : Ascii [] := nofun

theorem ascii_of_all {text : List Char} (all : (text.all fun c => decide (c.toNat < 128)) = true) : Ascii text := by
  intro c member
  have low := all_eq_true.mp all c member
  exact of_decide_eq_true low

theorem ascii_digits {digits : List Char} (all : ∀ c ∈ digits, c.isDigit) : Ascii digits := by
  intro c member
  have digit := all c member
  simp only [Char.isDigit, Bool.and_eq_true, decide_eq_true_eq, ge_iff_le] at digit
  have most : c.toNat ≤ 57 := digit.2
  omega

theorem ascii_minus (negative : Bool) : Ascii (minus negative) := by
  cases negative with
  | true => exact ascii_cons.mpr ⟨by decide, ascii_nil⟩
  | false => exact ascii_nil

theorem ascii_unit (n : Nat) : Ascii (unit n) := by
  have hex (n : Nat) : (hexDigit n).toNat < 128 := by
    have all : ∀ digit < 16, (Nat.digitChar digit).toNat < 128 := by decide
    exact all (n % 16) (Nat.mod_lt n (by decide))
  simp only [unit, ascii_cons, hex, ascii_nil, and_true]
  exact ⟨by decide, by decide⟩

theorem ascii_escape (c : CodePoint) : Ascii (escape c) := by
  unfold escape
  split
  iterate 6 exact ascii_cons.mpr ⟨by decide, ascii_cons.mpr ⟨by decide, ascii_nil⟩⟩; split
  · exact ascii_cons.mpr ⟨by decide, ascii_cons.mpr ⟨by decide, ascii_nil⟩⟩
  split
  · next printable =>
    have valid : c.val.isValidChar := .inl (by omega)
    have value : (Char.ofNat c.val).toNat = c.val := by
      unfold Char.ofNat
      rw [dif_pos valid]
      rfl
    exact ascii_cons.mpr ⟨by omega, ascii_nil⟩
  split
  · exact ascii_unit _
  · exact ascii_append.mpr ⟨ascii_unit _, ascii_unit _⟩

theorem ascii_strText (text : Str) : Ascii (strText text) := by
  refine ascii_cons.mpr ⟨by decide, ascii_append.mpr ⟨fun c member => ?_, ascii_cons.mpr ⟨by decide, ascii_nil⟩⟩⟩
  obtain ⟨d, _, inside⟩ := mem_flatMap.mp member
  exact ascii_escape d c inside

theorem ascii_whole {whole : List Char} (isWhole : Whole whole) : Ascii whole := by
  obtain rfl | ⟨digits, _⟩ := isWhole
  · exact ascii_cons.mpr ⟨by decide, ascii_nil⟩
  · exact ascii_digits digits.2

theorem ascii_float (lib : Floats F) (x : F) : Ascii (lib.text x) := by
  obtain ⟨negative, whole, fraction, exponent, same, isWhole, isFraction, isExponent, _⟩ := lib.written x
  rw [same]
  have front : Ascii fraction := by
    obtain rfl | ⟨digits, isDigits, rfl⟩ := isFraction
    · exact ascii_nil
    · exact ascii_cons.mpr ⟨by decide, ascii_digits isDigits.2⟩
  have back : Ascii exponent := by
    obtain rfl | ⟨mark, sign, digits, isMark, isSign, isDigits, rfl⟩ := isExponent
    · exact ascii_nil
    · refine ascii_cons.mpr ⟨?_, ascii_append.mpr ⟨?_, ascii_digits isDigits.2⟩⟩
      · obtain rfl | rfl := isMark <;> decide
      · obtain rfl | rfl | rfl := isSign
        · exact ascii_nil
        · exact ascii_cons.mpr ⟨by decide, ascii_nil⟩
        · exact ascii_cons.mpr ⟨by decide, ascii_nil⟩
  exact ascii_append.mpr ⟨ascii_append.mpr ⟨ascii_append.mpr ⟨ascii_minus negative, ascii_whole isWhole⟩, front⟩, back⟩

mutual
theorem ascii_text : ∀ v : Value F, Ascii (v.text lib)
  | .null => ascii_of_all rfl
  | .bool true => ascii_of_all rfl
  | .bool false => ascii_of_all rfl
  | .int n => ascii_append.mpr ⟨ascii_minus _, ascii_whole (head_toDigits n.natAbs)⟩
  | .float x => ascii_float lib x
  | .str text => ascii_strText text
  | .list [] => ascii_of_all rfl
  | .list (item :: items) => by
    have first := ascii_text item
    have others := ascii_itemsText items
    simp only [Value.text, ascii_cons, ascii_append, first, others, ascii_nil, true_and, and_true]
    exact ⟨by decide, by decide⟩
  | .dict [] => ascii_of_all rfl
  | .dict ((key, value) :: entries) => by
    have name := ascii_strText key
    have first := ascii_text value
    have others := ascii_entriesText entries
    simp only [Value.text, ascii_cons, ascii_append, name, first, others, ascii_nil, true_and, and_true]
    exact ⟨by decide, ⟨by decide, by decide⟩, by decide⟩

theorem ascii_itemsText : ∀ items : List (Value F), Ascii (itemsText lib items)
  | [] => ascii_nil
  | item :: items => by
    have first := ascii_text item
    have others := ascii_itemsText items
    simp only [itemsText, ascii_cons, ascii_append, first, others, and_true]
    exact ⟨by decide, by decide⟩

theorem ascii_entriesText : ∀ entries : List (Str × Value F), Ascii (entriesText lib entries)
  | [] => ascii_nil
  | (key, value) :: entries => by
    have name := ascii_strText key
    have first := ascii_text value
    have others := ascii_entriesText entries
    simp only [entriesText, ascii_cons, ascii_append, name, first, others, and_true]
    exact ⟨⟨by decide, by decide⟩, by decide, by decide⟩
end

end Sizes

end Json
