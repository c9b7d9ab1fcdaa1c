import Mathlib.Data.List.Infix
import Mathlib.Data.List.TakeWhile
import Mathlib.Tactic.IntervalCases
import Boron.Lib.Text

namespace IpAddress
open List

def digitValue (c : Char) : Nat :=
  if c.isDigit then c.toNat - '0'.toNat
  else if 'a' ≤ c ∧ c ≤ 'f' then c.toNat - 'a'.toNat + 10
  else if 'A' ≤ c ∧ c ≤ 'F' then c.toNat - 'A'.toNat + 10
  else 16

/-- `int(text, base)` of ASCII digits. -/
def readDigits (base : Nat) (text : List Char) : Option Nat :=
  if text ≠ [] ∧ text.all (fun c => decide (digitValue c < base)) then
    some (text.foldl (fun n c => base * n + digitValue c) 0)
  else none

/-- The lowest groups of a number, the highest of them first. -/
def groupsOf (base : Nat) : Nat → Nat → List Nat
  | 0, _ => []
  | count + 1, n => groupsOf base count (n / base) ++ [n % base]

def fromGroups (base : Nat) (groups : List Nat) : Nat := groups.foldl (fun n group => base * n + group) 0

/-- `_parse_octet` -/
def readOctet (text : List Char) : Option Nat :=
  if text.length ≤ 3 ∧ (text = ['0'] ∨ text.head? ≠ some '0') then (readDigits 10 text).filter (· ≤ 255) else none

/-- `IPv4Address` -/
def read4 (text : List Char) : Option Nat :=
  let octets := text.splitOn '.'
  if octets.length = 4 then (octets.mapM readOctet).map (fromGroups 256) else none

def write4 (n : Nat) : List Char := ['.'].intercalate ((groupsOf 256 4 n).map (Nat.toDigits 10))

/-- `_parse_hextet` -/
def readHextet (text : List Char) : Option Nat := if text.length ≤ 4 then readDigits 16 text else none

/-- The groups on one side of a `::`, of which there may be none. -/
def readSide (parts : List (List Char)) : Option (List Nat) := if parts = [[]] then some [] else parts.mapM readHextet

/-- A last part in IPv4 notation stands for two groups. -/
def expandLast (parts : List (List Char)) : Option (List (List Char)) :=
  match parts.getLast? with
  | none => some parts
  | some last =>
    if '.' ∈ last then (read4 last).map fun n => parts.dropLast ++ (groupsOf 65536 2 n).map (Nat.toDigits 16)
    else some parts

/-- The `::` between two sides stands for at least one group. -/
def joinSides (high low : List (List Char)) : Option (List Nat) := do
  let high ← readSide high
  let low ← readSide low
  if high.length + low.length < 8 then some (high ++ List.replicate (8 - (high.length + low.length)) 0 ++ low) else none

/-- The eight groups of parts among which at most one, which is not the first or the last, is empty. -/
def readParts (parts : List (List Char)) : Option (List Nat) :=
  let inner := parts.tail.dropLast
  if inner.count [] = 0 then if parts.length = 8 then parts.mapM readHextet else none
  else if inner.count [] = 1 then
    joinSides (parts.take (inner.idxOf [] + 1)) (parts.drop (inner.idxOf [] + 2))
  else none

/-- `IPv6Address` -/
def read6 (text : List Char) : Option Nat := ((expandLast (text.splitOn ':')).bind readParts).map (fromGroups 65536)

def zerosFrom (groups : List Nat) (start : Nat) : Nat := ((groups.drop start).takeWhile (· = 0)).length

def longestZeros (groups : List Nat) : Nat :=
  (List.range groups.length).foldl (fun best start =>
    if zerosFrom groups best < zerosFrom groups start then start else best) 0

/-- What stands on one side of a `::`. -/
def writeSide (groups : List Nat) : List (List Char) := if groups = [] then [[]] else groups.map (Nat.toDigits 16)

/-- `_compress_hextets` -/
def writeParts (groups : List Nat) : List (List Char) :=
  let start := longestZeros groups
  let count := zerosFrom groups start
  if 1 < count then writeSide (groups.take start) ++ [] :: writeSide (groups.drop (start + count))
  else groups.map (Nat.toDigits 16)

def write6 (n : Nat) : List Char := [':'].intercalate (writeParts (groupsOf 65536 8 n))

/-- `_prefix_from_ip_int`, of a netmask or of its complement. -/
def maskLength (mask : Nat) : Option Nat :=
  (List.range 33).find? fun length => mask = 2 ^ 32 - 2 ^ (32 - length) ∨ mask = 2 ^ (32 - length) - 1

def width (v6 : Bool) : Nat := if v6 then 128 else 32

/-- `_make_netmask` -/
def readLength (v6 : Bool) (text : List Char) : Option Nat :=
  match readDigits 10 text with
  | some length => if length ≤ width v6 then some length else none
  | none => if v6 then none else (read4 text).bind maskLength

def write (v6 : Bool) (n : Nat) : List Char := if v6 then write6 n else write4 n

/-- `ip_address`: the version and the number. -/
def read (text : List Char) : Option (Bool × Nat) :=
  match read4 text with
  | some n => some (false, n)
  | none => (read6 text).map fun n => (true, n)

/-- `ip_network`, before the bits after the prefix are cleared. -/
def readNetwork (text : List Char) : Option (Bool × Nat × Nat) :=
  match text.splitOn '/' with
  | [address, length] => do
    let (v6, n) ← read address
    let length ← readLength v6 length
    some (v6, n, length)
  | _ => none

section
variable {base n count : Nat} {text : List Char} {groups : List Nat}

theorem digitValue_digitChar (small : n < 16) : digitValue (Nat.digitChar n) = n := by
  interval_cases n <;> rfl

theorem mem_toDigits {c : Char} (wide : 1 < base) (member : c ∈ Nat.toDigits base n) :
    ∃ digit < base, c = Nat.digitChar digit := by
  induction n using Nat.base_induction base wide with
  | single digit small =>
    rw [Nat.toDigits_of_lt_base small, mem_singleton] at member
    exact ⟨digit, small, member⟩
  | digit high low small positive ih =>
    rw [← Nat.toDigits_append_toDigits wide positive small, mem_append] at member
    rcases member with member | member
    · exact ih member
    · rw [Nat.toDigits_of_lt_base small, mem_singleton] at member
      exact ⟨low, small, member⟩

theorem readDigits_toDigits (wide : 1 < base) (narrow : base ≤ 16) : readDigits base (Nat.toDigits base n) = some n := by
  have digits : (Nat.toDigits base n).all (fun c => decide (digitValue c < base)) = true := by
    rw [all_eq_true]
    intro c member
    obtain ⟨digit, small, rfl⟩ := mem_toDigits wide member
    rwa [digitValue_digitChar (small.trans_le narrow), decide_eq_true_eq]
  rw [readDigits, if_pos ⟨Nat.toDigits_ne_nil, digits⟩, Option.some.injEq]
  clear digits
  induction n using Nat.base_induction base wide with
  | single digit small =>
    rw [Nat.toDigits_of_lt_base small, foldl_cons, foldl_nil, digitValue_digitChar (small.trans_le narrow),
      Nat.mul_zero, Nat.zero_add]
  | digit high low small positive ih =>
    rw [← Nat.toDigits_append_toDigits wide positive small, foldl_append, ih, Nat.toDigits_of_lt_base small,
      foldl_cons, foldl_nil, digitValue_digitChar (small.trans_le narrow)]

theorem groupsOf_length : (groupsOf base count n).length = count := by
  induction count generalizing n with
  | zero => rfl
  | succ count ih => rw [groupsOf, length_append, ih, length_singleton]

theorem groupsOf_lt (positive : 0 < base) : ∀ group ∈ groupsOf base count n, group < base := by
  induction count generalizing n with
  | zero => exact nofun
  | succ count ih =>
    intro group member
    rcases mem_append.mp member with member | member
    · exact ih group member
    · rw [mem_singleton.mp member]
      exact Nat.mod_lt n positive

theorem fromGroups_groupsOf (bounded : n < base ^ count) : fromGroups base (groupsOf base count n) = n := by
  induction count generalizing n with
  | zero =>
    rw [Nat.pow_zero, Nat.lt_one_iff] at bounded
    exact bounded.symm
  | succ count ih =>
    have high : n / base < base ^ count := Nat.div_lt_of_lt_mul (by rwa [Nat.pow_succ, Nat.mul_comm] at bounded)
    have split := ih high
    rw [fromGroups] at split
    rw [fromGroups, groupsOf, foldl_append, split, foldl_cons, foldl_nil, Nat.div_add_mod]

theorem mapM_written {read : List Char → Option Nat} {write : Nat → List Char}
    (inverse : ∀ group ∈ groups, read (write group) = some group) : (groups.map write).mapM read = some groups := by
  induction groups with
  | nil => rfl
  | cons group groups ih =>
    rw [map_cons, mapM_cons, inverse group mem_cons_self,
      ih fun other member => inverse other (mem_cons_of_mem group member)]
    rfl

theorem not_mem_toDigits {c : Char} (wide : 1 < base) (narrow : base ≤ 16) (other : 16 ≤ digitValue c) :
    c ∉ Nat.toDigits base n := by
  intro member
  obtain ⟨digit, small, rfl⟩ := mem_toDigits wide member
  rw [digitValue_digitChar (small.trans_le narrow)] at other
  omega

end

section
variable {n : Nat} {c : Char} {groups : List Nat}

theorem readOctet_toDigits : ∀ octet < 256, readOctet (Nat.toDigits 10 octet) = some octet := by decide +kernel

theorem write4_splitOn : (write4 n).splitOn '.' = (groupsOf 256 4 n).map (Nat.toDigits 10) := by
  refine splitOn_intercalate '.' (fun part member => ?_) (fun empty => ?_)
  · obtain ⟨octet, -, rfl⟩ := mem_map.mp member
    exact not_mem_toDigits (by decide) (by decide) (by decide)
  · have length := congrArg length empty
    rw [length_map, groupsOf_length] at length
    cases length

theorem read4_write4 (bounded : n < 2 ^ 32) : read4 (write4 n) = some n := by
  have octets : ((groupsOf 256 4 n).map (Nat.toDigits 10)).mapM readOctet = some (groupsOf 256 4 n) :=
    mapM_written fun octet member => readOctet_toDigits octet (groupsOf_lt (by decide) octet member)
  have whole : fromGroups 256 (groupsOf 256 4 n) = n := fromGroups_groupsOf bounded
  rw [read4, write4_splitOn, if_pos (by rw [length_map, groupsOf_length]), octets, Option.map_some, whole]

theorem readHextet_toDigits (small : n < 65536) : readHextet (Nat.toDigits 16 n) = some n := by
  have short : (Nat.toDigits 16 n).length ≤ 4 := (Nat.length_toDigits_le_iff (by decide) (by decide)).mpr small
  rw [readHextet, if_pos short, readDigits_toDigits (by decide) (by decide)]

theorem readSide_writeSide (small : ∀ group ∈ groups, group < 65536) : readSide (writeSide groups) = some groups := by
  unfold readSide writeSide
  by_cases empty : groups = []
  · rw [if_pos empty, if_pos rfl, empty]
  · have some_digits : groups.map (Nat.toDigits 16) ≠ [[]] := by
      intro same
      have member : [] ∈ groups.map (Nat.toDigits 16) := same ▸ mem_cons_self
      obtain ⟨group, -, none_left⟩ := mem_map.mp member
      exact Nat.toDigits_ne_nil none_left
    rw [if_neg empty, if_neg some_digits]
    exact mapM_written fun group member => readHextet_toDigits (small group member)

theorem writeSide_ne_nil : writeSide groups ≠ [] := by
  unfold writeSide
  split
  · exact cons_ne_nil _ _
  · next some_group => exact fun empty => some_group (map_eq_nil_iff.mp empty)

theorem nil_notMem_digits : [] ∉ groups.map (Nat.toDigits 16) := by
  intro member
  obtain ⟨group, -, none_left⟩ := mem_map.mp member
  exact Nat.toDigits_ne_nil none_left

theorem nil_notMem_writeSide : [] ∉ (writeSide groups).tail ∧ [] ∉ (writeSide groups).dropLast := by
  unfold writeSide
  split
  · exact ⟨nofun, nofun⟩
  · exact ⟨fun member => nil_notMem_digits (mem_of_mem_tail member),
      fun member => nil_notMem_digits (mem_of_mem_dropLast member)⟩

theorem drop_zeros (groups : List Nat) (start : Nat) :
    groups.drop start = replicate (zerosFrom groups start) 0 ++ groups.drop (start + zerosFrom groups start) := by
  have zeros : (groups.drop start).takeWhile (· = 0) = replicate (zerosFrom groups start) 0 := by
    refine eq_replicate_of_mem fun group member => ?_
    have zero := mem_takeWhile_imp member
    exact of_decide_eq_true zero
  have split := takeWhile_append_dropWhile (p := (· = 0)) (l := groups.drop start)
  have rest : (groups.drop start).drop (zerosFrom groups start) = (groups.drop start).dropWhile (· = 0) := by
    nth_rewrite 1 [← split]
    exact drop_left
  rw [← zeros, ← drop_drop, rest, split]

theorem readParts_writeParts (length : groups.length = 8) (small : ∀ group ∈ groups, group < 65536) :
    readParts (writeParts groups) = some groups := by
  have digits : (groups.map (Nat.toDigits 16)).mapM readHextet = some groups :=
    mapM_written fun group member => readHextet_toDigits (small group member)
  unfold writeParts
  dsimp only
  split
  · next many =>
    generalize longestZeros groups = start at many ⊢
    have split := drop_zeros groups start
    generalize zerosFrom groups start = count at many split ⊢
    have before : readSide (writeSide (groups.take start)) = some (groups.take start) :=
      readSide_writeSide fun group member => small group (List.mem_of_mem_take member)
    have after : readSide (writeSide (groups.drop (start + count))) = some (groups.drop (start + count)) :=
      readSide_writeSide fun group member => small group (List.mem_of_mem_drop member)
    obtain ⟨noHigh, -⟩ := @nil_notMem_writeSide (groups.take start)
    obtain ⟨-, noLow⟩ := @nil_notMem_writeSide (groups.drop (start + count))
    have someHigh := @writeSide_ne_nil (groups.take start)
    have someLow := @writeSide_ne_nil (groups.drop (start + count))
    generalize writeSide (groups.take start) = high at before noHigh someHigh ⊢
    generalize writeSide (groups.drop (start + count)) = low at after noLow someLow ⊢
    have inner : (high ++ [] :: low).tail.dropLast = high.tail ++ [] :: low.dropLast := by
      rw [List.tail_append_of_ne_nil someHigh, List.dropLast_append_of_ne_nil (List.cons_ne_nil _ _),
        List.dropLast_cons_of_ne_nil someLow]
    have once : (high.tail ++ [] :: low.dropLast).count [] = 1 := by
      rw [List.count_append, List.count_cons_self, List.count_eq_zero.mpr noHigh, List.count_eq_zero.mpr noLow]
    have at_ : (high.tail ++ [] :: low.dropLast).idxOf [] + 1 = high.length := by
      rw [List.idxOf_append_of_notMem noHigh, List.idxOf_cons_self, List.length_tail, Nat.add_zero,
        Nat.sub_add_cancel (List.length_pos_iff.mpr someHigh)]
    have left : (high ++ [] :: low).take high.length = high := List.take_left
    have right : (high ++ [] :: low).drop (high.length + 1) = low := by
      rw [← List.drop_drop, List.drop_left]
      rfl
    have total := congrArg List.length split
    rw [List.length_append, List.length_drop, List.length_replicate, List.length_drop, length] at total
    have counted : (groups.take start).length + (groups.drop (start + count)).length + count = 8 := by
      rw [List.length_take, List.length_drop, length]
      omega
    have whole : groups.take start ++ List.replicate count 0 ++ groups.drop (start + count) = groups := by
      rw [List.append_assoc, ← split, List.take_append_drop]
    have gap : 8 - ((groups.take start).length + (groups.drop (start + count)).length) = count := by omega
    have joined : joinSides high low = some groups := by
      simp only [joinSides, before, after, Option.bind_eq_bind, Option.bind_some]
      rw [if_pos (by omega), gap, whole]
    have next : (high.tail ++ [] :: low.dropLast).idxOf [] + 2 = high.length + 1 := congrArg (· + 1) at_
    rw [readParts, inner, once, if_neg Nat.one_ne_zero, if_pos rfl, at_, next, left, right, joined]
  · have none_left : (groups.map (Nat.toDigits 16)).tail.dropLast.count [] = 0 :=
      List.count_eq_zero.mpr fun member => nil_notMem_digits (List.mem_of_mem_tail (List.mem_of_mem_dropLast member))
    rw [readParts, if_pos none_left, if_pos (by rw [List.length_map, length]), digits]

theorem mem_writeParts {part : List Char} (member : part ∈ writeParts groups) :
    part = [] ∨ ∃ group, part = Nat.toDigits 16 group := by
  have side {groups : List Nat} (member : part ∈ writeSide groups) : part = [] ∨ ∃ group, part = Nat.toDigits 16 group := by
    unfold writeSide at member
    split at member
    · exact .inl (mem_singleton.mp member)
    · obtain ⟨group, -, rfl⟩ := mem_map.mp member
      exact .inr ⟨group, rfl⟩
  unfold writeParts at member
  dsimp only at member
  split at member
  · rcases mem_append.mp member with member | member
    · exact side member
    · rcases mem_cons.mp member with rfl | member
      · exact .inl rfl
      · exact side member
  · obtain ⟨group, -, rfl⟩ := mem_map.mp member
    exact .inr ⟨group, rfl⟩

theorem notMem_writeParts {part : List Char} (other : 16 ≤ digitValue c) (member : part ∈ writeParts groups) : c ∉ part := by
  rcases mem_writeParts member with rfl | ⟨group, rfl⟩
  · exact not_mem_nil
  · exact not_mem_toDigits (by decide) (by decide) other

theorem writeParts_ne_nil (some_group : groups ≠ []) : writeParts groups ≠ [] := by
  unfold writeParts
  dsimp only
  split
  · exact append_ne_nil_of_left_ne_nil writeSide_ne_nil _
  · exact fun empty => some_group (map_eq_nil_iff.mp empty)

theorem read6_write6 (bounded : n < 2 ^ 128) : read6 (write6 n) = some n := by
  have length : (groupsOf 65536 8 n).length = 8 := groupsOf_length
  have some_group : groupsOf 65536 8 n ≠ [] := by
    intro empty
    rw [empty] at length
    cases length
  have parts : (write6 n).splitOn ':' = writeParts (groupsOf 65536 8 n) :=
    splitOn_intercalate ':' (fun part member => notMem_writeParts (by decide) member) (writeParts_ne_nil some_group)
  have plain : expandLast (writeParts (groupsOf 65536 8 n)) = some (writeParts (groupsOf 65536 8 n)) := by
    unfold expandLast
    split
    · rfl
    · next last found =>
      rw [if_neg (notMem_writeParts (by decide) (List.mem_of_getLast? found))]
  have whole : fromGroups 65536 (groupsOf 65536 8 n) = n := fromGroups_groupsOf bounded
  rw [read6, parts, plain, Option.bind_some, readParts_writeParts length (groupsOf_lt (by decide)), Option.map_some, whole]

end

section
variable {v6 : Bool} {n length : Nat} {c : Char}

/-- What an address is written with. -/
theorem mem_write (member : c ∈ write v6 n) : c = '.' ∨ c = ':' ∨ ∃ digit < 16, c = Nat.digitChar digit := by
  unfold write at member
  split at member
  · rcases Text.mem_intercalate member with rfl | ⟨part, listed, held⟩
    · exact .inr (.inl rfl)
    · rcases mem_writeParts listed with rfl | ⟨group, rfl⟩
      · exact absurd held not_mem_nil
      · exact .inr (.inr (mem_toDigits (by decide) held))
  · rcases Text.mem_intercalate member with rfl | ⟨part, listed, held⟩
    · exact .inl rfl
    · obtain ⟨octet, -, rfl⟩ := mem_map.mp listed
      obtain ⟨digit, small, same⟩ := mem_toDigits (by decide) held
      exact .inr (.inr ⟨digit, small.trans (by decide), same⟩)

theorem notMem_write (dot : c ≠ '.') (colon : c ≠ ':') (other : 16 ≤ digitValue c) : c ∉ write v6 n := by
  intro member
  rcases mem_write member with same | same | ⟨digit, small, rfl⟩
  · exact dot same
  · exact colon same
  · rw [digitValue_digitChar small] at other
    omega

/-- An address that is written is read back, in its version. -/
theorem read_write (bounded : n < 2 ^ width v6) : read (write v6 n) = some (v6, n) := by
  cases v6 with
  | false => rw [read, write, if_neg (by decide), read4_write4 bounded]
  | true =>
    have dotless : '.' ∉ write6 n := by
      intro member
      rcases Text.mem_intercalate member with same | ⟨part, listed, held⟩
      · exact absurd same (by decide)
      · exact notMem_writeParts (by decide) listed held
    have single : (write6 n).splitOn '.' = [write6 n] := by
      have parts := @splitOn_intercalate _ [write6 n] _ _ '.'
        (fun part member => mem_singleton.mp member ▸ dotless) (cons_ne_nil _ _)
      rwa [intercalate_singleton] at parts
    have other : read4 (write6 n) = none := by
      rw [read4, single]
      rfl
    have whole : read6 (write6 n) = some n := read6_write6 bounded
    rw [read, write, if_pos rfl, other, whole]
    rfl

theorem readLength_toDigits (short : length ≤ width v6) : readLength v6 (Nat.toDigits 10 length) = some length := by
  rw [readLength, readDigits_toDigits (by decide) (by decide)]
  exact if_pos short

theorem readNetwork_write (bounded : n < 2 ^ width v6) (short : length ≤ width v6) :
    readNetwork (write v6 n ++ '/' :: Nat.toDigits 10 length) = some (v6, n, length) := by
  have parts : (write v6 n ++ '/' :: Nat.toDigits 10 length).splitOn '/' = [write v6 n, Nat.toDigits 10 length] := by
    have split := @splitOn_intercalate _ [write v6 n, Nat.toDigits 10 length] _ _ '/' (fun part member => ?_)
      (cons_ne_nil _ _)
    · rwa [intercalate_cons_of_ne_nil (cons_ne_nil _ _), intercalate_singleton, append_assoc] at split
    · rcases mem_cons.mp member with rfl | member
      · exact notMem_write (by decide) (by decide) (by decide)
      · rw [mem_singleton.mp member]
        exact not_mem_toDigits (by decide) (by decide) (by decide)
  simp only [readNetwork, parts, read_write bounded, readLength_toDigits short, Option.bind_eq_bind, Option.bind_some]

end

end IpAddress
