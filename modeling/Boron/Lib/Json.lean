import Mathlib.Data.List.Basic

namespace Json

/-- A code point of a Python `str`, which may be half of a surrogate pair. -/
abbrev CodePoint := Fin 0x110000

instance codePoints_neZero : @NeZero Nat Zero.ofOfNat0 0x110000 := ⟨by decide⟩

abbrev Str := List CodePoint

def codePoint (n : Nat) : CodePoint := Fin.ofNat 0x110000 n

def CodePoint.High (c : CodePoint) : Prop := 0xD800 ≤ c.val ∧ c.val ≤ 0xDBFF

def CodePoint.Low (c : CodePoint) : Prop := 0xDC00 ≤ c.val ∧ c.val ≤ 0xDFFF

instance (c : CodePoint) : Decidable c.High := inferInstanceAs (Decidable (_ ∧ _))

instance (c : CodePoint) : Decidable c.Low := inferInstanceAs (Decidable (_ ∧ _))

def ofText (text : List Char) : Str := text.map fun c => codePoint c.toNat

/-- A JSON value; `F` are the floats. -/
inductive Value (F : Type)
  | null
  | bool (truth : Bool)
  | int (number : Int)
  | float (number : F)
  | str (text : Str)
  | list (items : List (Value F))
  | dict (entries : List (Str × Value F))

def Digits (text : List Char) : Prop := text ≠ [] ∧ ∀ c ∈ text, c.isDigit

/-- The digits before the point, without a leading zero. -/
def Whole (text : List Char) : Prop := text = ['0'] ∨ Digits text ∧ text.head? ≠ some '0'

def Fraction (text : List Char) : Prop := text = [] ∨ ∃ digits, Digits digits ∧ text = '.' :: digits

def Exponent (text : List Char) : Prop :=
  text = [] ∨ ∃ mark sign digits, (mark = 'e' ∨ mark = 'E') ∧ (sign = [] ∨ sign = ['+'] ∨ sign = ['-']) ∧
    Digits digits ∧ text = mark :: (sign ++ digits)

def minus (negative : Bool) : List Char := if negative then ['-'] else []

/-- The finite floats of Python: `repr` writes a float with a point or an
exponent, and `float()` reads it back as it was. -/
structure Floats (F : Type) where
  text : F → List Char
  ofText : List Char → F
  written : ∀ number, ∃ negative whole fraction exponent, text number = minus negative ++ whole ++ fraction ++ exponent ∧
    Whole whole ∧ Fraction fraction ∧ Exponent exponent ∧ fraction ++ exponent ≠ []
  ofText_text : ∀ number, ofText (text number) = number

section Writing
variable {F : Type}

def hexDigit (n : Nat) : Char := Nat.digitChar (n % 16)

/-- `\uXXXX`. -/
def unit (n : Nat) : List Char :=
  ['\\', 'u', hexDigit (n / 4096), hexDigit (n / 256), hexDigit (n / 16), hexDigit n]

/-- `py_encode_basestring_ascii`, one code point. -/
def escape (c : CodePoint) : List Char := if c = 0x22 then ['\\', '"'] else if c = 0x5C then ['\\', '\\']
  else if c = 0x0A then ['\\', 'n']
  else if c = 0x0D then ['\\', 'r']
  else if c = 0x09 then ['\\', 't']
  else if c = 0x0C then ['\\', 'f']
  else if c = 0x08 then ['\\', 'b']
  else if 0x20 ≤ c.val ∧ c.val ≤ 0x7E then [Char.ofNat c.val]
  else if c.val < 0x10000 then unit c.val
  else unit (0xD800 + (c.val - 0x10000) / 1024) ++ unit (0xDC00 + (c.val - 0x10000) % 1024)

def strText (text : Str) : List Char := '"' :: (text.flatMap escape ++ ['"'])

def intText (n : Int) : List Char := minus (n < 0) ++ Nat.toDigits 10 n.natAbs

mutual
/-- What `dumps` writes. -/
def Value.text (lib : Floats F) : Value F → List Char
  | .null => ['n', 'u', 'l', 'l']
  | .bool true => ['t', 'r', 'u', 'e']
  | .bool false => ['f', 'a', 'l', 's', 'e']
  | .int number => intText number
  | .float number => lib.text number
  | .str text => strText text
  | .list [] => ['[', ']']
  | .list (item :: items) => '[' :: (item.text lib ++ itemsText lib items ++ [']'])
  | .dict [] => ['{', '}']
  | .dict ((key, value) :: entries) =>
    '{' :: (strText key ++ ':' :: ' ' :: value.text lib ++ entriesText lib entries ++ ['}'])

def itemsText (lib : Floats F) : List (Value F) → List Char
  | [] => []
  | item :: items => ',' :: ' ' :: item.text lib ++ itemsText lib items

def entriesText (lib : Floats F) : List (Str × Value F) → List Char
  | [] => []
  | (key, value) :: entries =>
    ',' :: ' ' :: strText key ++ ':' :: ' ' :: value.text lib ++ entriesText lib entries
end

/-- No number has more digits than `int` turns into text. -/
def digitsLimit : Nat := 4300

mutual
def Value.printable : Value F → Bool
  | .int number => (Nat.toDigits 10 number.natAbs).length ≤ digitsLimit
  | .list items => printableItems items
  | .dict entries => printableEntries entries
  | .null | .bool _ | .float _ | .str _ => true

def printableItems : List (Value F) → Bool
  | [] => true
  | item :: items => item.printable && printableItems items

def printableEntries : List (Str × Value F) → Bool
  | [] => true
  | (_, value) :: entries => value.printable && printableEntries entries
end

/-- `json.dumps`. -/
def dumps (lib : Floats F) (value : Value F) : Option (List Char) :=
  if value.printable then some (value.text lib) else none

end Writing

section Reading
variable {F : Type}

def hexValue (c : Char) : Option Nat :=
  if c.isDigit then some (c.toNat - 48)
  else if 'a' ≤ c ∧ c ≤ 'f' then some (c.toNat - 87)
  else if 'A' ≤ c ∧ c ≤ 'F' then some (c.toNat - 55)
  else none

/-- Where the reading of a string stands: behind a backslash, in the digits of a
`\uXXXX`, or behind a high surrogate, which a low one may complete. -/
inductive Mode
  | plain
  | escape
  | hex (digits : List Nat)
  | high (c : CodePoint)
  | highEscape (c : CodePoint)
  | highHex (c : CodePoint) (digits : List Nat)

inductive Step
  | fails
  | ends (out : Str)
  | goes (mode : Mode) (out : Str)

def joinPair (c d : CodePoint) : CodePoint := codePoint (0x10000 + (c.val - 0xD800) * 1024 + (d.val - 0xDC00))

/-- What the digits of a `\uXXXX` stand for, the last of them first. -/
def unitOf (digits : List Nat) : CodePoint := codePoint (digits.foldr (fun digit number => 16 * number + digit) 0)

/-- Behind the last digit of a `\uXXXX`. -/
def readUnit (digits : List Nat) (out : Str) : Step :=
  if (unitOf digits).High then .goes (.high (unitOf digits)) out else .goes .plain (out ++ [unitOf digits])

def stepPlain (c : Char) (out : Str) : Step := if c = '"' then .ends out else if c = '\\' then .goes .escape out
  else if c.toNat < 0x20 then .fails
  else .goes .plain (out ++ [codePoint c.toNat])

def stepEscape (c : Char) (out : Str) : Step :=
  if c = 'u' then .goes (.hex []) out
  else if c = '"' ∨ c = '\\' ∨ c = '/' then .goes .plain (out ++ [codePoint c.toNat])
  else if c = 'b' then .goes .plain (out ++ [0x08])
  else if c = 'f' then .goes .plain (out ++ [0x0C])
  else if c = 'n' then .goes .plain (out ++ [0x0A])
  else if c = 'r' then .goes .plain (out ++ [0x0D])
  else if c = 't' then .goes .plain (out ++ [0x09])
  else .fails

/-- `py_scanstring`, one character: the mode behind it and the code points that
are read. -/
def step : Mode → Char → Step
  | .plain, c => stepPlain c []
  | .escape, c => stepEscape c []
  | .hex digits, c =>
    match hexValue c with
    | none => .fails
    | some digit => if digits.length = 3 then readUnit (digit :: digits) [] else .goes (.hex (digit :: digits)) []
  | .high high, c => if c = '\\' then .goes (.highEscape high) [] else stepPlain c [high]
  | .highEscape high, c => if c = 'u' then .goes (.highHex high []) [] else stepEscape c [high]
  | .highHex high digits, c =>
    match hexValue c with
    | none => .fails
    | some digit =>
      if digits.length = 3 then
        if (unitOf (digit :: digits)).Low then .goes .plain [joinPair high (unitOf (digit :: digits))]
        else readUnit (digit :: digits) [high]
      else .goes (.highHex high (digit :: digits)) []

/-- A string from behind its opening quote, with the text behind its closing one. -/
def scan : Mode → List Char → Option (Str × List Char)
  | _, [] => none
  | mode, c :: rest =>
    match step mode c with
    | .fails => none
    | .ends out => some (out, rest)
    | .goes next out => (scan next rest).map fun (text, rest) => (out ++ text, rest)

def isSpace (c : Char) : Bool := c = ' ' || c = '\t' || c = '\n' || c = '\r'

def skip (text : List Char) : List Char := text.dropWhile isSpace

def wholeOf : List Char → Option (List Char × List Char)
  | [] => none
  | c :: rest =>
    if c = '0' then some (['0'], rest)
    else if c.isDigit then some (c :: rest.takeWhile Char.isDigit, rest.dropWhile Char.isDigit)
    else none

def fractionOf : List Char → List Char × List Char
  | [] => ([], [])
  | c :: rest =>
    if c = '.' ∧ rest.takeWhile Char.isDigit ≠ [] then (c :: rest.takeWhile Char.isDigit, rest.dropWhile Char.isDigit)
    else ([], c :: rest)

def signOf : List Char → List Char × List Char
  | [] => ([], [])
  | c :: rest => if c = '+' ∨ c = '-' then ([c], rest) else ([], c :: rest)

def exponentOf : List Char → List Char × List Char
  | [] => ([], [])
  | c :: rest =>
    let (sign, behind) := signOf rest
    if (c = 'e' ∨ c = 'E') ∧ behind.takeWhile Char.isDigit ≠ [] then
      (c :: (sign ++ behind.takeWhile Char.isDigit), behind.dropWhile Char.isDigit)
    else ([], c :: rest)

/-- `_match_number`, behind the sign. -/
def unsigned (lib : Floats F) (negative : Bool) (text : List Char) : Option (Value F × List Char) :=
  (wholeOf text).bind fun (whole, rest) =>
    let (fraction, rest) := fractionOf rest
    let (exponent, rest) := exponentOf rest
    if fraction ++ exponent ≠ [] then
      some (.float (lib.ofText (minus negative ++ whole ++ fraction ++ exponent)), rest)
    else if digitsLimit < whole.length then none
    else
      let number : Int := Nat.ofDigitChars 10 whole 0
      some (.int (if negative then -number else number), rest)

def number (lib : Floats F) : List Char → Option (Value F × List Char)
  | [] => none
  | c :: rest => if c = '-' then unsigned lib true rest else unsigned lib false (c :: rest)

/-- A key that is there already keeps its place and gets the later value. -/
def put (entries : List (Str × Value F)) (key : Str) (value : Value F) : List (Str × Value F) :=
  match entries with
  | [] => [(key, value)]
  | (other, held) :: rest => if other = key then (other, value) :: rest else (other, held) :: put rest key value

def dictOf (pairs : List (Str × Value F)) : List (Str × Value F) :=
  pairs.foldl (fun entries pair => put entries pair.1 pair.2) []

def word (word : List Char) (value : Value F) (text : List Char) : Option (Value F × List Char) :=
  if word.isPrefixOf text then some (value, text.drop word.length) else none

mutual
/-- `scan_once`. -/
def value (lib : Floats F) : Nat → List Char → Option (Value F × List Char)
  | 0, _ => none
  | _ + 1, [] => none
  | fuel + 1, c :: rest =>
    if c = '"' then (scan .plain rest).map fun (text, rest) => (.str text, rest)
    else if c = '{' then
      match skip rest with
      | [] => none
      | d :: behind =>
        if d = '}' then some (.dict [], behind)
        else
          (member lib fuel (d :: behind)).bind fun (pair, rest) =>
            (members lib fuel rest).map fun (pairs, rest) => (.dict (dictOf (pair :: pairs)), rest)
    else if c = '[' then
      match skip rest with
      | [] => none
      | d :: behind =>
        if d = ']' then some (.list [], behind)
        else
          (value lib fuel (d :: behind)).bind fun (item, rest) =>
            (elements lib fuel rest).map fun (items, rest) => (.list (item :: items), rest)
    else if c = 'n' then word ['n', 'u', 'l', 'l'] .null (c :: rest)
    else if c = 't' then word ['t', 'r', 'u', 'e'] (.bool true) (c :: rest)
    else if c = 'f' then word ['f', 'a', 'l', 's', 'e'] (.bool false) (c :: rest)
    else number lib (c :: rest)

/-- `JSONArray` behind an item. -/
def elements (lib : Floats F) : Nat → List Char → Option (List (Value F) × List Char)
  | 0, _ => none
  | fuel + 1, text =>
    match skip text with
    | [] => none
    | c :: behind =>
      if c = ']' then some ([], behind)
      else if c = ',' then
        (value lib fuel (skip behind)).bind fun (item, rest) =>
          (elements lib fuel rest).map fun (items, rest) => (item :: items, rest)
      else none

def member (lib : Floats F) : Nat → List Char → Option ((Str × Value F) × List Char)
  | 0, _ => none
  | _ + 1, [] => none
  | fuel + 1, quote :: text =>
    if quote = '"' then
      (scan .plain text).bind fun (key, rest) =>
        match skip rest with
        | [] => none
        | colon :: behind =>
          if colon = ':' then (value lib fuel (skip behind)).map fun (value, rest) => ((key, value), rest) else none
    else none

/-- `JSONObject` behind a value. -/
def members (lib : Floats F) : Nat → List Char → Option (List (Str × Value F) × List Char)
  | 0, _ => none
  | fuel + 1, text =>
    match skip text with
    | [] => none
    | c :: behind =>
      if c = '}' then some ([], behind)
      else if c = ',' then
        (member lib fuel (skip behind)).bind fun (pair, rest) =>
          (members lib fuel rest).map fun (pairs, rest) => (pair :: pairs, rest)
      else none
end

/-- `json.loads`. -/
def loads (lib : Floats F) (text : List Char) : Option (Value F) :=
  (value lib (text.length + 1) (skip text)).bind fun (value, rest) => if skip rest = [] then some value else none

end Reading

end Json
