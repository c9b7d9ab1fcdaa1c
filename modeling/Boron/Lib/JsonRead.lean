import Boron.Lib.Json
import Mathlib.Data.List.Chain

namespace Json
open List

/-- A string with every pair of surrogates made one code point. -/
def joined : Str → Str
  | [] => []
  | [c] => [c]
  | c :: d :: rest => if c.High ∧ d.Low then joinPair c d :: joined rest else c :: joined (d :: rest)

/-- No high surrogate stands right before a low one. -/
def Unpaired (text : Str) : Prop := text.IsChain fun c d => ¬(c.High ∧ d.Low)

section Strings
variable {mode next : Mode} {c d h : CodePoint} {x : Char} {out text : Str} {rest : List Char} {n : Nat}

theorem joined_cons_cons (c d : CodePoint) (text : Str) : joined (c :: d :: text) =
    if c.High ∧ d.Low then joinPair c d :: joined text else c :: joined (d :: text) := rfl

theorem joined_of_not_high (plain : ¬c.High) : joined (c :: text) = c :: joined text := by
  cases text with
  | nil => rfl
  | cons d text => rw [joined_cons_cons, if_neg fun both => plain both.1]

theorem joined_of_not_low (plain : ¬d.Low) : joined (c :: d :: text) = c :: joined (d :: text) := by
  rw [joined_cons_cons, if_neg fun both => plain both.2]

theorem length_joined (text : Str) : (joined text).length ≤ text.length := by
  fun_induction joined text with
  | case1 => exact Nat.le_refl 0
  | case2 c => exact Nat.le_refl 1
  | case3 c d rest both ih =>
    simp only [length_cons]
    omega
  | case4 c d rest apart ih =>
    simp only [length_cons] at ih ⊢
    omega

theorem joined_eq_self_iff : joined text = text ↔ Unpaired text := by
  fun_induction joined text with
  | case1 => exact ⟨fun _ => .nil, fun _ => rfl⟩
  | case2 c => exact ⟨fun _ => .singleton c, fun _ => rfl⟩
  | case3 c d rest both ih =>
    constructor
    · intro same
      have shorter := congrArg length same
      have bound := length_joined rest
      simp only [length_cons] at shorter
      omega
    · intro apart
      exact absurd both (isChain_cons_cons.mp apart).1
  | case4 c d rest apart ih =>
    unfold Unpaired at ih ⊢
    rw [isChain_cons_cons, ← ih, cons_inj_right]
    exact ⟨fun same => ⟨apart, same⟩, fun both => both.2⟩

/-- What a step hands on stands in front of what is read behind it. -/
def emits (out : Str) (read : Option (Str × List Char)) : Option (Str × List Char) :=
  read.map fun (text, rest) => (out ++ text, rest)

theorem emits_emits (read : Option (Str × List Char)) (first second : Str) :
    emits first (emits second read) = emits (first ++ second) read := by
  cases read with
  | none => rfl
  | some read => simp [emits]

theorem emits_nil (read : Option (Str × List Char)) : emits [] read = read := by
  cases read <;> rfl

theorem step_high (high : CodePoint) (x : Char) : step (.high high) x =
    if x = '\\' then .goes (.highEscape high) [] else stepPlain x [high] := rfl

theorem step_highEscape (high : CodePoint) (x : Char) : step (.highEscape high) x =
    if x = 'u' then .goes (.highHex high []) [] else stepEscape x [high] := rfl

theorem scan_goes (goes : step mode x = .goes next out) : scan mode (x :: rest) = emits out (scan next rest) := by
  rw [scan, goes]
  rfl

theorem hexValue_hexDigit (n : Nat) : hexValue (hexDigit n) = some (n % 16) := by
  have all : ∀ digit < 16, hexValue (Nat.digitChar digit) = some digit := by decide
  exact all (n % 16) (Nat.mod_lt n (by decide))

theorem unitOf_digits (small : n < 0x10000) :
    unitOf [n % 16, n / 16 % 16, n / 256 % 16, n / 4096 % 16] = codePoint n := by
  unfold unitOf
  congr 1
  simp only [foldr_cons, foldr_nil]
  omega

theorem step_hex (digits : List Nat) (n : Nat) : step (.hex digits) (hexDigit n) =
    if digits.length = 3 then readUnit (n % 16 :: digits) [] else .goes (.hex (n % 16 :: digits)) [] := by
  unfold step
  dsimp only
  rw [hexValue_hexDigit]

theorem step_highHex (high : CodePoint) (digits : List Nat) (n : Nat) : step (.highHex high digits) (hexDigit n) =
    if digits.length = 3 then
      if (unitOf (n % 16 :: digits)).Low then .goes .plain [joinPair high (unitOf (n % 16 :: digits))]
      else readUnit (n % 16 :: digits) [high]
    else .goes (.highHex high (n % 16 :: digits)) [] := by
  unfold step
  dsimp only
  rw [hexValue_hexDigit]

theorem scan_hex (last : readUnit [n % 16, n / 16 % 16, n / 256 % 16, n / 4096 % 16] [] = .goes next out) :
    scan (.hex []) (hexDigit (n / 4096) :: hexDigit (n / 256) :: hexDigit (n / 16) :: hexDigit n :: rest) =
      emits out (scan next rest) := by
  have first : step (.hex []) (hexDigit (n / 4096)) = .goes (.hex [n / 4096 % 16]) [] := step_hex [] _
  have second : step (.hex [n / 4096 % 16]) (hexDigit (n / 256)) = .goes (.hex [n / 256 % 16, n / 4096 % 16]) [] :=
    step_hex [_] _
  have third : step (.hex [n / 256 % 16, n / 4096 % 16]) (hexDigit (n / 16)) =
      .goes (.hex [n / 16 % 16, n / 256 % 16, n / 4096 % 16]) [] := step_hex [_, _] _
  have fourth : step (.hex [n / 16 % 16, n / 256 % 16, n / 4096 % 16]) (hexDigit n) = .goes next out :=
    (step_hex [_, _, _] n).trans last
  rw [scan_goes first, scan_goes second, scan_goes third, scan_goes fourth, emits_nil, emits_nil, emits_nil]

theorem scan_unit (small : n < 0x10000) : scan .plain (unit n ++ rest) =
    if (codePoint n).High then scan (.high (codePoint n)) rest
    else emits [codePoint n] (scan .plain rest) := by
  have opened : step .plain '\\' = .goes .escape [] := rfl
  have escaped : step .escape 'u' = .goes (.hex []) [] := rfl
  unfold unit
  simp only [cons_append, nil_append]
  rw [scan_goes opened, scan_goes escaped, emits_nil, emits_nil]
  by_cases high : (codePoint n).High
  · have last : readUnit [n % 16, n / 16 % 16, n / 256 % 16, n / 4096 % 16] [] = .goes (.high (codePoint n)) [] := by
      rw [readUnit, unitOf_digits small, if_pos high]
    rw [if_pos high, scan_hex last, emits_nil]
  · have last : readUnit [n % 16, n / 16 % 16, n / 256 % 16, n / 4096 % 16] [] = .goes .plain [codePoint n] := by
      rw [readUnit, unitOf_digits small, if_neg high]
      rfl
    rw [if_neg high, scan_hex last]

theorem scan_highHex (last : step (.highHex h [n / 16 % 16, n / 256 % 16, n / 4096 % 16]) (hexDigit n) =
    .goes next out) :
    scan (.high h) (unit n ++ rest) = emits out (scan next rest) := by
  have opened : step (.high h) '\\' = .goes (.highEscape h) [] := rfl
  have escaped : step (.highEscape h) 'u' = .goes (.highHex h []) [] := rfl
  have first : step (.highHex h []) (hexDigit (n / 4096)) = .goes (.highHex h [n / 4096 % 16]) [] := step_highHex h [] _
  have second : step (.highHex h [n / 4096 % 16]) (hexDigit (n / 256)) =
      .goes (.highHex h [n / 256 % 16, n / 4096 % 16]) [] := step_highHex h [_] _
  have third : step (.highHex h [n / 256 % 16, n / 4096 % 16]) (hexDigit (n / 16)) =
      .goes (.highHex h [n / 16 % 16, n / 256 % 16, n / 4096 % 16]) [] := step_highHex h [_, _] _
  unfold unit
  simp only [cons_append, nil_append]
  rw [scan_goes opened, scan_goes escaped, scan_goes first, scan_goes second, scan_goes third, scan_goes last,
    emits_nil, emits_nil, emits_nil, emits_nil, emits_nil]

theorem scan_high_unit (small : n < 0x10000) : scan (.high h) (unit n ++ rest) =
    if (codePoint n).Low then emits [joinPair h (codePoint n)] (scan .plain rest)
    else if (codePoint n).High then emits [h] (scan (.high (codePoint n)) rest)
    else emits [h, codePoint n] (scan .plain rest) := by
  have last : step (.highHex h [n / 16 % 16, n / 256 % 16, n / 4096 % 16]) (hexDigit n) =
      if (codePoint n).Low then .goes .plain [joinPair h (codePoint n)]
      else if (codePoint n).High then .goes (.high (codePoint n)) [h]
      else .goes .plain [h, codePoint n] := by
    rw [step_highHex h [_, _, _], readUnit, unitOf_digits small]
    rfl
  split
  · next low => exact scan_highHex (last.trans (if_pos low))
  · next notLow =>
    rw [if_neg notLow] at last
    split
    · next high => exact scan_highHex (last.trans (if_pos high))
    · next notHigh => exact scan_highHex (last.trans (if_neg notHigh))

inductive Escaped (c : CodePoint) : Prop
  | short (x : Char) (other : x ≠ 'u') (written : escape c = ['\\', x])
      (read : ∀ out, stepEscape x out = .goes .plain (out ++ [c])) (small : c.val < 0x80)
  | same (x : Char) (other : x ≠ '\\') (written : escape c = [x])
      (read : ∀ out, stepPlain x out = .goes .plain (out ++ [c])) (small : c.val < 0x80)
  | unit (small : c.val < 0x10000) (written : escape c = Json.unit c.val)
  | pair (large : 0x10000 ≤ c.val)
      (written : escape c = Json.unit (0xD800 + (c.val - 0x10000) / 1024) ++ Json.unit (0xDC00 + (c.val - 0x10000) % 1024))

theorem escaped (c : CodePoint) : Escaped c := by
  by_cases mark : c = 0x22
  · subst mark
    exact .short '"' (by decide) rfl (fun _ => rfl) (by decide)
  by_cases slash : c = 0x5C
  · subst slash
    exact .short '\\' (by decide) rfl (fun _ => rfl) (by decide)
  by_cases feed : c = 0x0A
  · subst feed
    exact .short 'n' (by decide) rfl (fun _ => rfl) (by decide)
  by_cases carriage : c = 0x0D
  · subst carriage
    exact .short 'r' (by decide) rfl (fun _ => rfl) (by decide)
  by_cases tab : c = 0x09
  · subst tab
    exact .short 't' (by decide) rfl (fun _ => rfl) (by decide)
  by_cases form : c = 0x0C
  · subst form
    exact .short 'f' (by decide) rfl (fun _ => rfl) (by decide)
  by_cases back : c = 0x08
  · subst back
    exact .short 'b' (by decide) rfl (fun _ => rfl) (by decide)
  have written : escape c = if 0x20 ≤ c.val ∧ c.val ≤ 0x7E then [Char.ofNat c.val]
      else if c.val < 0x10000 then unit c.val
      else unit (0xD800 + (c.val - 0x10000) / 1024) ++ unit (0xDC00 + (c.val - 0x10000) % 1024) := by
    unfold escape
    rw [if_neg mark, if_neg slash, if_neg feed, if_neg carriage, if_neg tab, if_neg form, if_neg back]
  by_cases printable : 0x20 ≤ c.val ∧ c.val ≤ 0x7E
  · have value : (Char.ofNat c.val).toNat = c.val := by
      have valid : c.val.isValidChar := .inl (by omega)
      unfold Char.ofNat
      rw [dif_pos valid]
      rfl
    have notMark : Char.ofNat c.val ≠ '"' := fun same => mark (Fin.ext (value.symm.trans (by rw [same]; rfl)))
    have notSlash : Char.ofNat c.val ≠ '\\' := fun same => slash (Fin.ext (value.symm.trans (by rw [same]; rfl)))
    have back : codePoint (Char.ofNat c.val).toNat = c := by
      rw [value]
      exact Fin.ofNat_val_eq_self c
    refine .same _ notSlash (written.trans (if_pos printable)) (fun out => ?_) (by omega)
    unfold stepPlain
    rw [if_neg notMark, if_neg notSlash, if_neg (by omega), back]
  · rw [if_neg printable] at written
    by_cases small : c.val < 0x10000
    · exact .unit small (written.trans (if_pos small))
    · exact .pair (by omega) (written.trans (if_neg small))

theorem not_high_of_small (small : c.val < 0xD800) : ¬c.High := fun high => by
  have least := high.1
  omega

theorem not_low_of_small (small : c.val < 0xDC00) : ¬c.Low := fun low => by
  have least := low.1
  omega

theorem scan_pair (h : CodePoint) (large : 0x10000 ≤ c.val) :
    scan .plain (unit (0xD800 + (c.val - 0x10000) / 1024) ++ (unit (0xDC00 + (c.val - 0x10000) % 1024) ++ rest)) =
      emits [c] (scan .plain rest) ∧
    scan (.high h) (unit (0xD800 + (c.val - 0x10000) / 1024) ++ (unit (0xDC00 + (c.val - 0x10000) % 1024) ++ rest)) =
      emits [h, c] (scan .plain rest) := by
  have firstValue : (codePoint (0xD800 + (c.val - 0x10000) / 1024)).val = 0xD800 + (c.val - 0x10000) / 1024 :=
    Nat.mod_eq_of_lt (by omega)
  have secondValue : (codePoint (0xDC00 + (c.val - 0x10000) % 1024)).val = 0xDC00 + (c.val - 0x10000) % 1024 :=
    Nat.mod_eq_of_lt (by omega)
  have high : (codePoint (0xD800 + (c.val - 0x10000) / 1024)).High := ⟨by omega, by omega⟩
  have notLow : ¬(codePoint (0xD800 + (c.val - 0x10000) / 1024)).Low := not_low_of_small (by omega)
  have low : (codePoint (0xDC00 + (c.val - 0x10000) % 1024)).Low := ⟨by omega, by omega⟩
  have joins : joinPair (codePoint (0xD800 + (c.val - 0x10000) / 1024)) (codePoint (0xDC00 + (c.val - 0x10000) % 1024)) = c := by
    refine Fin.ext ?_
    unfold joinPair
    exact (Nat.mod_eq_of_lt (by omega)).trans (by omega)
  have second : scan (.high (codePoint (0xD800 + (c.val - 0x10000) / 1024)))
      (unit (0xDC00 + (c.val - 0x10000) % 1024) ++ rest) = emits [c] (scan .plain rest) := by
    rw [scan_high_unit (by omega), if_pos low, joins]
  constructor
  · rw [scan_unit (by omega), if_pos high, second]
  · rw [scan_high_unit (by omega), if_neg notLow, if_pos high, second, emits_emits]
    rfl

theorem scan_escaped (text : Str) (rest : List Char) :
    scan .plain (text.flatMap escape ++ '"' :: rest) = some (joined text, rest) ∧
      ∀ h : CodePoint, h.High → scan (.high h) (text.flatMap escape ++ '"' :: rest) = some (joined (h :: text), rest) := by
  induction text with
  | nil => exact ⟨rfl, fun h _ => rfl⟩
  | cons c text ih =>
    obtain ⟨plain, high⟩ := ih
    rw [flatMap_cons, append_assoc]
    cases escaped c with
    | short x other written read small =>
      have opened : step .plain '\\' = .goes .escape [] := rfl
      have openedHigh (h : CodePoint) : step (.high h) '\\' = .goes (.highEscape h) [] := rfl
      have reads : step .escape x = .goes .plain [c] := read []
      have behind (h : CodePoint) : step (.highEscape h) x = .goes .plain [h, c] := by
        rw [step_highEscape, if_neg other, read]
        rfl
      have notHigh : ¬c.High := not_high_of_small (by omega)
      have notLow : ¬c.Low := not_low_of_small (by omega)
      rw [written, cons_append, cons_append, nil_append]
      refine ⟨?_, fun h _ => ?_⟩
      · rw [scan_goes opened, scan_goes reads, plain, joined_of_not_high notHigh]
        rfl
      · rw [scan_goes (openedHigh h), scan_goes (behind h), plain, joined_of_not_low notLow, joined_of_not_high notHigh]
        rfl
    | same x other written read small =>
      have reads : step .plain x = .goes .plain [c] := read []
      have behind (h : CodePoint) : step (.high h) x = .goes .plain [h, c] := by
        rw [step_high, if_neg other, read]
        rfl
      have notHigh : ¬c.High := not_high_of_small (by omega)
      have notLow : ¬c.Low := not_low_of_small (by omega)
      rw [written, cons_append, nil_append]
      refine ⟨?_, fun h _ => ?_⟩
      · rw [scan_goes reads, plain, joined_of_not_high notHigh]
        rfl
      · rw [scan_goes (behind h), plain, joined_of_not_low notLow, joined_of_not_high notHigh]
        rfl
    | unit small written =>
      have itself : codePoint c.val = c := Fin.ofNat_val_eq_self c
      rw [written]
      refine ⟨?_, fun h isHigh => ?_⟩
      · rw [scan_unit small, itself]
        by_cases surrogate : c.High
        · rw [if_pos surrogate, high c surrogate]
        · rw [if_neg surrogate, plain, joined_of_not_high surrogate]
          rfl
      · rw [scan_high_unit small, itself]
        by_cases low : c.Low
        · rw [if_pos low, plain, joined_cons_cons, if_pos ⟨isHigh, low⟩]
          rfl
        · rw [if_neg low, joined_of_not_low low]
          by_cases surrogate : c.High
          · rw [if_pos surrogate, high c surrogate]
            rfl
          · rw [if_neg surrogate, plain, joined_of_not_high surrogate]
            rfl
    | pair large written =>
      have notHigh : ¬c.High := fun surrogate => by
        have most := surrogate.2
        omega
      have notLow : ¬c.Low := fun surrogate => by
        have most := surrogate.2
        omega
      rw [written, append_assoc]
      refine ⟨?_, fun h _ => ?_⟩
      · rw [(scan_pair c large).1, plain, joined_of_not_high notHigh]
        rfl
      · rw [(scan_pair h large).2, plain, joined_of_not_low notLow, joined_of_not_high notHigh]
        rfl

theorem scan_strText (text : Str) (rest : List Char) :
    ∃ behind, strText text ++ rest = '"' :: behind ∧ scan .plain behind = some (joined text, rest) := by
  refine ⟨text.flatMap escape ++ '"' :: rest, ?_, (scan_escaped text rest).1⟩
  simp [strText]

end Strings

section Numbers
variable {F : Type} {lib : Floats F} {digits whole fraction exponent rest : List Char} {negative : Bool} {c : Char}

/-- Nothing behind a number goes on with it. -/
def Follows (rest : List Char) : Prop := ∀ c ∈ rest.head?, c.isDigit = false ∧ c ≠ '.' ∧ c ≠ 'e' ∧ c ≠ 'E'

theorem span_digits (all : ∀ c ∈ digits, c.isDigit) (stops : ∀ c ∈ rest.head?, c.isDigit = false) :
    (digits ++ rest).takeWhile Char.isDigit = digits ∧ (digits ++ rest).dropWhile Char.isDigit = rest := by
  induction digits with
  | nil =>
    cases rest with
    | nil => exact ⟨rfl, rfl⟩
    | cons c rest =>
      have stop := stops c rfl
      simp [stop]
  | cons c digits ih =>
    have first := all c mem_cons_self
    obtain ⟨taken, dropped⟩ := ih fun d member => all d (mem_cons_of_mem c member)
    simp [first, taken, dropped]

theorem wholeOf_whole (isWhole : Whole whole) (stops : ∀ c ∈ rest.head?, c.isDigit = false) :
    wholeOf (whole ++ rest) = some (whole, rest) := by
  obtain rfl | ⟨⟨nonempty, all⟩, first⟩ := isWhole
  · rfl
  · cases whole with
    | nil => exact absurd rfl nonempty
    | cons c digits =>
      have notZero : c ≠ '0' := fun same => first (congrArg some same)
      have digit := all c mem_cons_self
      obtain ⟨taken, dropped⟩ := span_digits (fun d member => all d (mem_cons_of_mem c member)) stops
      rw [cons_append, wholeOf, if_neg notZero, if_pos digit, taken, dropped]

theorem fractionOf_fraction (isFraction : Fraction fraction) (stops : ∀ c ∈ rest.head?, c.isDigit = false)
    (other : fraction = [] → ∀ c ∈ rest.head?, c ≠ '.') : fractionOf (fraction ++ rest) = (fraction, rest) := by
  obtain rfl | ⟨digits, ⟨nonempty, all⟩, rfl⟩ := isFraction
  · cases rest with
    | nil => rfl
    | cons c rest =>
      have notPoint := other rfl c rfl
      rw [nil_append, fractionOf, if_neg fun both => notPoint both.1]
  · obtain ⟨taken, dropped⟩ := span_digits all stops
    rw [cons_append, fractionOf, taken, dropped, if_pos ⟨rfl, nonempty⟩]

theorem signOf_sign {sign : List Char} (isSign : sign = [] ∨ sign = ['+'] ∨ sign = ['-'])
    (isDigits : Digits digits) : signOf (sign ++ (digits ++ rest)) = (sign, digits ++ rest) := by
  obtain rfl | rfl | rfl := isSign
  · cases digits with
    | nil => exact absurd rfl isDigits.1
    | cons c digits =>
      have digit := isDigits.2 c mem_cons_self
      have notSign : ¬(c = '+' ∨ c = '-') := by
        rintro (rfl | rfl)
        · exact absurd digit (by decide)
        · exact absurd digit (by decide)
      rw [nil_append, cons_append, signOf, if_neg notSign]
  · rfl
  · rfl

theorem exponentOf_exponent (isExponent : Exponent exponent) (follows : Follows rest) :
    exponentOf (exponent ++ rest) = (exponent, rest) := by
  obtain rfl | ⟨mark, sign, digits, isMark, isSign, isDigits, rfl⟩ := isExponent
  · cases rest with
    | nil => rfl
    | cons c rest =>
      obtain ⟨_, _, small, large⟩ := follows c rfl
      have notMark : ¬(c = 'e' ∨ c = 'E') := by
        rintro (same | same)
        · exact small same
        · exact large same
      exact if_neg fun both => notMark both.1
  · obtain ⟨taken, dropped⟩ := span_digits isDigits.2 fun c member => (follows c member).1
    rw [cons_append, append_assoc]
    unfold exponentOf
    dsimp only
    rw [signOf_sign isSign isDigits]
    rw [taken, dropped, if_pos ⟨isMark, isDigits.1⟩]

theorem exponent_head (isExponent : Exponent exponent) (follows : Follows rest) :
    ∀ c ∈ (exponent ++ rest).head?, c.isDigit = false ∧ c ≠ '.' := by
  obtain rfl | ⟨mark, sign, digits, isMark, _, _, rfl⟩ := isExponent
  · intro c member
    obtain ⟨noDigit, noPoint, _⟩ := follows c member
    exact ⟨noDigit, noPoint⟩
  · intro c member
    cases Option.mem_some.mp member
    obtain rfl | rfl := isMark
    · exact ⟨rfl, by decide⟩
    · exact ⟨rfl, by decide⟩

theorem fraction_head (isFraction : Fraction fraction) (isExponent : Exponent exponent) (follows : Follows rest) :
    ∀ c ∈ (fraction ++ (exponent ++ rest)).head?, c.isDigit = false := by
  obtain rfl | ⟨digits, _, rfl⟩ := isFraction
  · exact fun c member => (exponent_head isExponent follows c member).1
  · intro c member
    cases Option.mem_some.mp member
    rfl

theorem unsigned_written (lib : Floats F) (negative : Bool) (isWhole : Whole whole) (isFraction : Fraction fraction) (isExponent : Exponent exponent)
    (follows : Follows rest) : unsigned lib negative (whole ++ (fraction ++ (exponent ++ rest))) =
      if fraction ++ exponent ≠ [] then
        some (.float (lib.ofText (minus negative ++ whole ++ fraction ++ exponent)), rest)
      else if digitsLimit < whole.length then none
      else some (.int (if negative then -(Nat.ofDigitChars 10 whole 0 : Int) else Nat.ofDigitChars 10 whole 0), rest) := by
  have behind := exponent_head isExponent follows
  have first := wholeOf_whole isWhole (fraction_head isFraction isExponent follows)
  have second := fractionOf_fraction isFraction (fun c member => (behind c member).1) fun _ c member => (behind c member).2
  unfold unsigned
  rw [first, Option.bind_some]
  dsimp only
  rw [second, exponentOf_exponent isExponent follows]

theorem whole_head (isWhole : Whole whole) : ∃ c digits, whole = c :: digits ∧ c.isDigit := by
  obtain rfl | ⟨⟨nonempty, all⟩, _⟩ := isWhole
  · exact ⟨'0', [], rfl, rfl⟩
  · cases whole with
    | nil => exact absurd rfl nonempty
    | cons c digits => exact ⟨c, digits, rfl, all c mem_cons_self⟩

theorem number_minus (isWhole : Whole whole) :
    number lib (minus negative ++ (whole ++ rest)) = unsigned lib negative (whole ++ rest) := by
  cases negative with
  | true => rfl
  | false =>
    obtain ⟨c, digits, rfl, digit⟩ := whole_head isWhole
    have notMinus : c ≠ '-' := by
      rintro rfl
      exact absurd digit (by decide)
    exact if_neg notMinus

theorem value_number {fuel : Nat} (isWhole : Whole whole) :
    value lib (fuel + 1) (minus negative ++ (whole ++ rest)) = unsigned lib negative (whole ++ rest) := by
  rw [← number_minus isWhole]
  obtain ⟨d, digits, rfl, digit⟩ := whole_head isWhole
  obtain ⟨c, behind, same, first⟩ : ∃ c behind, minus negative ++ (d :: digits ++ rest) = c :: behind ∧
      (c.isDigit = true ∨ c = '-') := by
    cases negative with
    | true => exact ⟨_, _, rfl, .inr rfl⟩
    | false => exact ⟨_, _, rfl, .inl digit⟩
  have other (x : Char) (noDigit : x.isDigit = false) (noMinus : x ≠ '-') : c ≠ x := by
    rintro rfl
    obtain isDigit | isMinus := first
    · rw [noDigit] at isDigit
      cases isDigit
    · exact noMinus isMinus
  rw [same, value, if_neg (other _ rfl (by decide)), if_neg (other _ rfl (by decide)), if_neg (other _ rfl (by decide)),
    if_neg (other _ rfl (by decide)), if_neg (other _ rfl (by decide)), if_neg (other _ rfl (by decide))]

theorem head_toDigits (n : Nat) : Whole (Nat.toDigits 10 n) := by
  induction n using Nat.strongRecOn with
  | ind n ih =>
    by_cases small : n < 10
    · rw [Nat.toDigits_of_lt_base small]
      by_cases zero : n = 0
      · subst zero
        exact .inl rfl
      · refine .inr ⟨⟨by simp, ?_⟩, by simpa using zero⟩
        simp [small]
    · have digits : Nat.toDigits 10 n = Nat.toDigits 10 (n / 10) ++ [Nat.digitChar (n % 10)] :=
        Nat.toDigits_of_base_le (by decide) (by omega)
      have last : (Nat.digitChar (n % 10)).isDigit = true := by simp [Nat.mod_lt]
      rw [digits]
      have front := ih (n / 10) (by omega)
      obtain zero | ⟨⟨nonempty, all⟩, first⟩ := front
      · have value : n / 10 = 0 := by
          rw [← @Nat.ofDigitChars_ten_toDigits (n / 10), zero]
          rfl
        omega
      · obtain ⟨c, front, same⟩ := exists_cons_of_ne_nil nonempty
        rw [same] at all first ⊢
        refine .inr ⟨⟨by simp, fun d member => ?_⟩, by simpa using first⟩
        obtain inFront | inLast := mem_append.mp member
        · exact all d inFront
        · cases mem_singleton.mp inLast
          exact last

theorem value_int {fuel : Nat} (n : Int) (short : (Nat.toDigits 10 n.natAbs).length ≤ digitsLimit) (follows : Follows rest) :
    value lib (fuel + 1) (intText n ++ rest) = some (.int n, rest) := by
  have isWhole := head_toDigits n.natAbs
  have written := unsigned_written lib (decide (n < 0)) isWhole (.inl rfl) (.inl rfl) follows
  rw [intText, append_assoc, value_number isWhole]
  rw [nil_append, nil_append, if_neg (by simp), if_neg (Nat.not_lt.mpr short)] at written
  rw [written, Nat.ofDigitChars_ten_toDigits]
  congr 3
  by_cases negative : n < 0
  · simp only [negative, decide_true, if_true]
    omega
  · simp only [negative, decide_false, Bool.false_eq_true, if_false]
    omega

theorem value_float {fuel : Nat} (x : F) (follows : Follows rest) :
    value lib (fuel + 1) (lib.text x ++ rest) = some (.float x, rest) := by
  obtain ⟨negative, whole, fraction, exponent, same, isWhole, isFraction, isExponent, some_part⟩ := lib.written x
  have written := unsigned_written lib negative isWhole isFraction isExponent follows
  rw [if_pos some_part, ← same, lib.ofText_text] at written
  rw [same]
  simp only [append_assoc]
  rw [value_number isWhole, written]

end Numbers

section Values
variable {F : Type} {lib : Floats F}

mutual
def Value.read : Value F → Value F
  | .str text => .str (joined text)
  | .list items => .list (readItems items)
  | .dict entries => .dict (dictOf (readEntries entries))
  | .null => .null
  | .bool truth => .bool truth
  | .int number => .int number
  | .float number => .float number

def readItems : List (Value F) → List (Value F)
  | [] => []
  | item :: items => item.read :: readItems items

def readEntries : List (Str × Value F) → List (Str × Value F)
  | [] => []
  | (key, value) :: entries => (joined key, value.read) :: readEntries entries
end

variable {fuel : Nat} {rest : List Char} {c : Char}

theorem skip_cons (stands : isSpace c = false) : skip (c :: rest) = c :: rest := by
  simp [skip, stands]

theorem skip_space : skip (' ' :: rest) = skip rest := rfl

theorem text_head (v : Value F) : ∃ c behind, v.text lib = c :: behind ∧ isSpace c = false ∧ c ≠ ']' := by
  have numeral (negative : Bool) (rest : List Char) {whole : List Char} (isWhole : Whole whole) :
      ∃ c behind, minus negative ++ whole ++ rest = c :: behind ∧ isSpace c = false ∧ c ≠ ']' := by
    obtain ⟨d, digits, rfl, digit⟩ := whole_head isWhole
    cases negative with
    | true => exact ⟨_, _, rfl, rfl, by decide⟩
    | false =>
      refine ⟨d, _, rfl, ?_, ?_⟩
      · unfold isSpace
        simp only [Bool.or_eq_false_iff, decide_eq_false_iff_not]
        refine ⟨⟨⟨?_, ?_⟩, ?_⟩, ?_⟩
        all_goals
          rintro rfl
          exact absurd digit (by decide)
      · rintro rfl
        exact absurd digit (by decide)
  cases v with
  | null => exact ⟨_, _, rfl, rfl, by decide⟩
  | bool truth => cases truth <;> exact ⟨_, _, rfl, rfl, by decide⟩
  | int n =>
    obtain ⟨c, behind, same, stands, other⟩ := numeral (decide (n < 0)) [] (head_toDigits n.natAbs)
    rw [append_nil] at same
    exact ⟨c, behind, same, stands, other⟩
  | float x =>
    obtain ⟨negative, whole, fraction, exponent, same, isWhole, _⟩ := lib.written x
    obtain ⟨c, behind, begins, stands, other⟩ := numeral negative (fraction ++ exponent) isWhole
    refine ⟨c, behind, ?_, stands, other⟩
    rw [← begins, ← append_assoc]
    exact same
  | str text => exact ⟨_, _, rfl, rfl, by decide⟩
  | list items => cases items <;> exact ⟨_, _, rfl, rfl, by decide⟩
  | dict entries => cases entries <;> exact ⟨_, _, rfl, rfl, by decide⟩

theorem follows_cons {c : Char} (noDigit : c.isDigit = false) (noPoint : c ≠ '.') (small : c ≠ 'e') (large : c ≠ 'E') :
    Follows (c :: rest) := by
  intro d member
  cases Option.mem_some.mp member
  exact ⟨noDigit, noPoint, small, large⟩

theorem follows_items (items : List (Value F)) : Follows (itemsText lib items ++ ']' :: rest) := by
  cases items with
  | nil => exact follows_cons rfl (by decide) (by decide) (by decide)
  | cons item items => exact follows_cons rfl (by decide) (by decide) (by decide)

theorem follows_entries (entries : List (Str × Value F)) : Follows (entriesText lib entries ++ '}' :: rest) := by
  cases entries with
  | nil => exact follows_cons rfl (by decide) (by decide) (by decide)
  | cons entry entries => exact follows_cons rfl (by decide) (by decide) (by decide)

theorem skip_text (v : Value F) : skip (v.text lib ++ rest) = v.text lib ++ rest := by
  obtain ⟨c, behind, same, stands, _⟩ := @text_head F lib v
  rw [same]
  exact skip_cons stands

mutual
theorem value_text : ∀ (v : Value F) (fuel : Nat) (rest : List Char), v.printable = true → Follows rest →
    (v.text lib).length ≤ fuel → value lib fuel (v.text lib ++ rest) = some (v.read, rest)
  | v, 0, _, _, _, enough => by
    obtain ⟨c, behind, same, _⟩ := @text_head F lib v
    rw [same] at enough
    cases enough
  | .null, fuel + 1, rest, _, _, _ => rfl
  | .bool true, fuel + 1, rest, _, _, _ => rfl
  | .bool false, fuel + 1, rest, _, _, _ => rfl
  | .int n, fuel + 1, rest, printable, follows, _ => value_int n (of_decide_eq_true printable) follows
  | .float x, fuel + 1, rest, _, follows, _ => value_float x follows
  | .str text, fuel + 1, rest, _, _, _ => by
    obtain ⟨behind, same, read⟩ := scan_strText text rest
    rw [Value.text, same, value, if_pos rfl, read]
    rfl
  | .list [], fuel + 1, rest, _, _, _ => rfl
  | .list (item :: items), fuel + 1, rest, printable, _, enough => by
    obtain ⟨first, others⟩ : item.printable = true ∧ printableItems items = true := by
      simpa only [Value.printable, printableItems, Bool.and_eq_true] using printable
    simp only [Value.text, length_cons, length_append, length_nil] at enough
    obtain ⟨c, behind, same, stands, other⟩ := @text_head F lib item
    have head := value_text item fuel (itemsText lib items ++ ']' :: rest) first (follows_items items) (by omega)
    have tail := elements_text items fuel rest others (by omega)
    have text : (Value.list (item :: items)).text lib ++ rest =
        '[' :: (c :: (behind ++ (itemsText lib items ++ ']' :: rest))) := by
      simp [Value.text, same]
    rw [same, cons_append] at head
    rw [text, value, if_neg (by decide), if_neg (by decide), if_pos rfl, skip_cons stands]
    dsimp only
    rw [if_neg other, head, Option.bind_some, tail]
    rfl
  | .dict [], fuel + 1, rest, _, _, _ => rfl
  | .dict ((key, item) :: entries), fuel + 1, rest, printable, _, enough => by
    obtain ⟨first, others⟩ : item.printable = true ∧ printableEntries entries = true := by
      simpa only [Value.printable, printableEntries, Bool.and_eq_true] using printable
    simp only [Value.text, length_cons, length_append, length_nil] at enough
    have head := member_text key item fuel (entriesText lib entries ++ '}' :: rest) first (follows_entries entries) (by omega)
    have tail := members_text entries fuel rest others (by omega)
    have text : (Value.dict ((key, item) :: entries)).text lib ++ rest =
        '{' :: (strText key ++ ':' :: ' ' :: item.text lib ++ (entriesText lib entries ++ '}' :: rest)) := by
      simp [Value.text]
    have quoted : skip (strText key ++ ':' :: ' ' :: item.text lib ++ (entriesText lib entries ++ '}' :: rest)) =
      strText key ++ ':' :: ' ' :: item.text lib ++ (entriesText lib entries ++ '}' :: rest) := rfl
    rw [text, value, if_neg (by decide), if_pos rfl, quoted]
    simp only [strText, cons_append] at head ⊢
    rw [if_neg (by decide), head, Option.bind_some, tail]
    rfl

theorem elements_text : ∀ (items : List (Value F)) (fuel : Nat) (rest : List Char), printableItems items = true →
    (itemsText lib items).length + 1 ≤ fuel →
    elements lib fuel (itemsText lib items ++ ']' :: rest) = some (readItems items, rest)
  | _, 0, _, _, enough => by cases enough
  | [], fuel + 1, rest, _, _ => rfl
  | item :: items, fuel + 1, rest, printable, enough => by
    obtain ⟨first, others⟩ : item.printable = true ∧ printableItems items = true := by
      simpa only [printableItems, Bool.and_eq_true] using printable
    simp only [itemsText, length_cons, length_append] at enough
    have head := value_text item fuel (itemsText lib items ++ ']' :: rest) first (follows_items items) (by omega)
    have tail := elements_text items fuel rest others (by omega)
    have text : itemsText lib (item :: items) ++ ']' :: rest =
        ',' :: ' ' :: (item.text lib ++ (itemsText lib items ++ ']' :: rest)) := by
      simp [itemsText]
    rw [text, elements, skip_cons rfl]
    dsimp only
    rw [if_neg (by decide), if_pos rfl, skip_space, skip_text, head, Option.bind_some, tail]
    rfl

theorem member_text : ∀ (key : Str) (item : Value F) (fuel : Nat) (rest : List Char), item.printable = true →
    Follows rest → (strText key).length + 2 + (item.text lib).length ≤ fuel →
    member lib fuel (strText key ++ ':' :: ' ' :: item.text lib ++ rest) = some ((joined key, item.read), rest)
  | key, item, 0, _, _, _, enough => by
    omega
  | key, item, fuel + 1, rest, printable, follows, enough => by
    have read := value_text item fuel rest printable follows (by omega)
    obtain ⟨behind, same, scanned⟩ := scan_strText key (':' :: ' ' :: (item.text lib ++ rest))
    have text : strText key ++ ':' :: ' ' :: item.text lib ++ rest = '"' :: behind := by
      rw [← same]
      simp
    rw [text, member, if_pos rfl, scanned, Option.bind_some]
    dsimp only
    rw [skip_cons rfl]
    dsimp only
    rw [if_pos rfl, skip_space, skip_text, read]
    rfl

theorem members_text : ∀ (entries : List (Str × Value F)) (fuel : Nat) (rest : List Char),
    printableEntries entries = true → (entriesText lib entries).length + 1 ≤ fuel →
    members lib fuel (entriesText lib entries ++ '}' :: rest) = some (readEntries entries, rest)
  | _, 0, _, _, enough => by cases enough
  | [], fuel + 1, rest, _, _ => rfl
  | (key, item) :: entries, fuel + 1, rest, printable, enough => by
    obtain ⟨first, others⟩ : item.printable = true ∧ printableEntries entries = true := by
      simpa only [printableEntries, Bool.and_eq_true] using printable
    simp only [entriesText, length_cons, length_append] at enough
    have head := member_text key item fuel (entriesText lib entries ++ '}' :: rest) first (follows_entries entries) (by omega)
    have tail := members_text entries fuel rest others (by omega)
    have text : entriesText lib ((key, item) :: entries) ++ '}' :: rest =
        ',' :: ' ' :: (strText key ++ ':' :: ' ' :: item.text lib ++ (entriesText lib entries ++ '}' :: rest)) := by
      simp [entriesText]
    have quoted : skip (strText key ++ ':' :: ' ' :: item.text lib ++ (entriesText lib entries ++ '}' :: rest)) =
      strText key ++ ':' :: ' ' :: item.text lib ++ (entriesText lib entries ++ '}' :: rest) := rfl
    rw [text, members, skip_cons rfl]
    dsimp only
    rw [if_neg (by decide), if_pos rfl, skip_space, quoted, head, Option.bind_some, tail]
    rfl
end

/-- `loads` reads what `dumps` wrote, with its strings joined. -/
theorem loads_dumps {v : Value F} {text : List Char} (dumped : dumps lib v = some text) : loads lib text = some v.read := by
  unfold dumps at dumped
  split at dumped
  · next printable =>
    cases dumped
    have read := value_text v ((v.text lib).length + 1) [] printable nofun (Nat.le_succ _)
    rw [append_nil] at read
    have stands := @skip_text F lib [] v
    rw [append_nil] at stands
    unfold loads
    rw [stands, read]
    rfl
  · cases dumped

end Values

end Json
