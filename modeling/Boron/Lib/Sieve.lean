import Mathlib.Data.List.Basic

namespace Sieve
open List

inductive Token
  | identifier (name : List Char)
  | tag (name : List Char)
  | number (value : Nat)
  | string (value : List Char)
  | mark (c : Char)
  deriving DecidableEq

/-- What has been read of the current token. -/
inductive Mode
  | between
  | return
  | hash
  | hashReturn
  | slash
  | bracket
  | bracketReturn
  | star
  | word (name : List Char)
  | colon
  | tag (name : List Char)
  | number (value : Nat)
  | quoted (value : List Char)
  | escaped (value : List Char)
  | quotedReturn (value : List Char)
  | opening
  | openingHash
  | openingReturn
  | lineStart (value : List Char)
  | line (value : List Char)
  | lineReturn (value : List Char)
  | dot (value : List Char)
  | dotReturn (value : List Char)
  deriving DecidableEq

def isLetter (c : Char) : Bool := c.isAlpha || c = '_'

def marks : List Char := ['{', '}', '(', ')', '[', ']', ',', ';']

abbrev Turn := Option (Mode × List Token)

/-- The first character of a token or of white space. -/
def first (c : Char) : Turn :=
  if c = ' ' ∨ c = '\t' ∨ c = '\n' then some (.between, [])
  else if c = '\r' then some (.return, [])
  else if c = '#' then some (.hash, [])
  else if c = '/' then some (.slash, [])
  else if c = '"' then some (.quoted [], [])
  else if c = ':' then some (.colon, [])
  else if isLetter c then some (.word [c], [])
  else if c.isDigit then some (.number (c.toNat - '0'.toNat), [])
  else if c ∈ marks then some (.between, [.mark c])
  else none

def emits (earlier : List Token) (turn : Turn) : Turn := turn.map fun (mode, tokens) => (mode, earlier ++ tokens)

/-- The line feed that must come behind a carriage return. -/
def feed (mode : Mode) (c : Char) : Turn := if c = '\n' then some (mode, []) else none

def comment (c : Char) : Turn := if c = '*' then some (.star, []) else if c = '\r' then some (.bracketReturn, [])
  else if c = '\x00' then none
  else some (.bracket, [])

def content (value : List Char) (c : Char) : Turn :=
  if c = '\n' then some (.lineStart (value ++ ['\n']), [])
  else if c = '\r' then some (.lineReturn value, [])
  else if c = '\x00' then none
  else some (.line (value ++ [c]), [])

def step : Mode → Char → Turn
  | .between, c => first c
  | .return, c => feed .between c
  | .hash, c =>
    if c = '\n' then some (.between, [])
    else if c = '\r' then some (.hashReturn, [])
    else if c = '\x00' then none
    else some (.hash, [])
  | .hashReturn, c => feed .between c
  | .slash, c => if c = '*' then some (.bracket, []) else none
  | .bracket, c => comment c
  | .bracketReturn, c => feed .bracket c
  | .star, c => if c = '/' then some (.between, []) else comment c
  | .word name, c =>
    if isLetter c || c.isDigit then some (.word (name ++ [c]), [])
    else if c = ':' ∧ name.map Char.toLower = ['t', 'e', 'x', 't'] then some (.opening, [])
    else emits [.identifier name] (first c)
  | .colon, c => if isLetter c then some (.tag [c], []) else none
  | .tag name, c =>
    if isLetter c || c.isDigit then some (.tag (name ++ [c]), []) else emits [.tag name] (first c)
  | .number value, c =>
    if c.isDigit then some (.number (10 * value + (c.toNat - '0'.toNat)), [])
    else if c.toLower = 'k' then some (.between, [.number (1024 * value)])
    else if c.toLower = 'm' then some (.between, [.number (1048576 * value)])
    else if c.toLower = 'g' then some (.between, [.number (1073741824 * value)])
    else emits [.number value] (first c)
  | .quoted value, c =>
    if c = '"' then some (.between, [.string value])
    else if c = '\\' then some (.escaped value, [])
    else if c = '\r' then some (.quotedReturn value, [])
    else if c = '\x00' then none
    else some (.quoted (value ++ [c]), [])
  | .escaped value, c => if c = '\n' ∨ c = '\r' ∨ c = '\x00' then none else some (.quoted (value ++ [c]), [])
  | .quotedReturn value, c => feed (.quoted (value ++ ['\n'])) c
  | .opening, c =>
    if c = ' ' ∨ c = '\t' then some (.opening, [])
    else if c = '#' then some (.openingHash, [])
    else if c = '\r' then some (.openingReturn, [])
    else feed (.lineStart []) c
  | .openingHash, c =>
    if c = '\n' then some (.lineStart [], [])
    else if c = '\r' then some (.openingReturn, [])
    else if c = '\x00' then none
    else some (.openingHash, [])
  | .openingReturn, c => feed (.lineStart []) c
  | .lineStart value, c => if c = '.' then some (.dot value, []) else content value c
  | .line value, c => content value c
  | .lineReturn value, c => feed (.lineStart (value ++ ['\n'])) c
  -- A line that is only a dot ends the block, and of two leading dots the first is taken off.
  | .dot value, c =>
    if c = '\n' then some (.between, [.string value])
    else if c = '\r' then some (.dotReturn value, [])
    else if c = '.' then some (.line (value ++ ['.']), [])
    else content (value ++ ['.']) c
  | .dotReturn value, c => if c = '\n' then some (.between, [.string value]) else none

def run : Mode → List Char → Turn
  | mode, [] => some (mode, [])
  | mode, c :: rest =>
    (step mode c).bind fun (next, tokens) => emits tokens (run next rest)

def finish : Mode → Option (List Token)
  | .between => some []
  | .word name => some [.identifier name]
  | .tag name => some [.tag name]
  | .number value => some [.number value]
  | _ => none

def lex (text : List Char) : Option (List Token) :=
  (run .between text).bind fun (mode, tokens) => (finish mode).map fun more => tokens ++ more

inductive Argument
  | tag (name : List Char)
  | number (value : Nat)
  | strings (values : List (List Char))

inductive Test
  | mk (name : List Char) (arguments : List Argument) (tests : List Test)

inductive Command
  | mk (name : List Char) (arguments : List Argument) (tests : List Test) (block : Option (List Command))

/-- `string *("," string) "]"` -/
def strings : List Token → Option (List (List Char) × List Token)
  | .string value :: .mark c :: rest =>
    if c = ',' then (strings rest).map fun (values, rest) => (value :: values, rest)
    else if c = ']' then some ([value], rest)
    else none
  | _ => none

/-- `*argument`; the first number bounds the tokens read. -/
def arguments : Nat → List Token → Option (List Argument × List Token)
  | 0, _ => none
  | fuel + 1, .tag name :: rest =>
    (arguments fuel rest).map fun (more, rest) => (.tag name :: more, rest)
  | fuel + 1, .number value :: rest =>
    (arguments fuel rest).map fun (more, rest) => (.number value :: more, rest)
  | fuel + 1, .string value :: rest =>
    (arguments fuel rest).map fun (more, rest) => (.strings [value] :: more, rest)
  | fuel + 1, .mark c :: rest =>
    if c = '[' then
      (strings rest).bind fun (values, rest) => (arguments fuel rest).map fun (more, rest) => (.strings values :: more, rest)
    else some ([], .mark c :: rest)
  | _ + 1, rest => some ([], rest)

mutual
/-- `identifier arguments` with the tests among the arguments -/
def test : Nat → List Token → Option (Test × List Token)
  | fuel + 1, .identifier name :: rest =>
    (arguments fuel rest).bind fun (given, rest) =>
      (optionalTests fuel rest).map fun (tests, rest) => (.mk name given tests, rest)
  | _, _ => none

/-- `[ test / test-list ]` -/
def optionalTests : Nat → List Token → Option (List Test × List Token)
  | fuel + 1, .identifier name :: rest =>
    (test fuel (.identifier name :: rest)).map fun (one, rest) => ([one], rest)
  | fuel + 1, .mark c :: rest => if c = '(' then tests fuel rest else some ([], .mark c :: rest)
  | _, rest => some ([], rest)

/-- `test *("," test) ")"` -/
def tests : Nat → List Token → Option (List Test × List Token)
  | fuel + 1, tokens =>
    (test fuel tokens).bind fun (one, rest) =>
      match rest with
      | .mark c :: rest =>
        if c = ',' then (tests fuel rest).map fun (more, rest) => (one :: more, rest)
        else if c = ')' then some ([one], rest)
        else none
      | _ => none
  | 0, _ => none
end

mutual
/-- `identifier arguments (";" / block)` -/
def command : Nat → List Token → Option (Command × List Token)
  | fuel + 1, .identifier name :: rest =>
    (arguments fuel rest).bind fun (given, rest) =>
      (optionalTests fuel rest).bind fun (tests, rest) =>
        match rest with
        | .mark c :: rest =>
          if c = ';' then some (.mk name given tests none, rest)
          else if c = '{' then block fuel (fun inner => .mk name given tests (some inner)) rest
          else none
        | _ => none
  | _, _ => none

/-- `commands "}"` -/
def block : Nat → (List Command → Command) → List Token → Option (Command × List Token)
  | fuel + 1, whole, tokens =>
    (commands fuel tokens).bind fun (inner, rest) =>
      match rest with
      | .mark c :: rest => if c = '}' then some (whole inner, rest) else none
      | _ => none
  | 0, _, _ => none

/-- `*command` -/
def commands : Nat → List Token → Option (List Command × List Token)
  | fuel + 1, .identifier name :: rest =>
    (command fuel (.identifier name :: rest)).bind fun (one, rest) =>
      (commands fuel rest).map fun (more, rest) => (one :: more, rest)
  | _, rest => some ([], rest)
end

/-- Every reading of a token costs at most four of the bound. -/
def parseTokens (tokens : List Token) : Option (List Command) :=
  match commands (4 * tokens.length + 4) tokens with
  | some (list, []) => some list
  | _ => none

def parse (text : List Char) : Option (List Command) := (lex text).bind parseTokens

/-- A text with CRLF as a line end; there are no other carriage returns, and no NUL. -/
def lineEnds : List Char → Option (List Char)
  | [] => some []
  | '\r' :: '\n' :: rest => (lineEnds rest).map ('\n' :: ·)
  | '\r' :: _ => none
  | c :: rest => if c = '\x00' then none else (lineEnds rest).map (c :: ·)

section
variable {mode : Mode} {text rest value : List Char}

@[simp] theorem emits_nil (turn : Turn) : emits [] turn = turn := by
  cases turn <;> rfl

@[simp] theorem emits_emits (earlier later : List Token) (turn : Turn) :
    emits earlier (emits later turn) = emits (earlier ++ later) turn := by
  cases turn with
  | none => rfl
  | some turn => simp [emits]

theorem emits_bind {α : Type} (earlier : List Token) (found : Option α) (turn : α → Turn) :
    emits earlier (found.bind turn) = found.bind fun a => emits earlier (turn a) := by
  cases found <;> rfl

theorem run_cons (mode : Mode) (c : Char) (rest : List Char) : run mode (c :: rest) =
    (step mode c).bind fun (next, tokens) => emits tokens (run next rest) := rfl

theorem run_append (mode : Mode) (text rest : List Char) : run mode (text ++ rest) =
    (run mode text).bind fun (next, tokens) => emits tokens (run next rest) := by
  induction text generalizing mode with
  | nil => exact (emits_nil _).symm
  | cons c text ih =>
    rw [cons_append, run_cons, run_cons]
    cases step mode c with
    | none => rfl
    | some turn =>
      obtain ⟨next, tokens⟩ := turn
      simp only [Option.bind_some]
      rw [ih next, emits_bind]
      cases run next text with
      | none => rfl
      | some turn =>
        simp only [Option.bind_some, emits_emits]
        rfl

theorem run_piece {next : Mode} {tokens : List Token} (piece : run mode text = some (next, tokens)) (rest : List Char) :
    run mode (text ++ rest) = emits tokens (run next rest) := by
  rw [run_append, piece, Option.bind_some]

theorem run_silent (next : Mode) {c : Char} (silent : step mode c = some (next, [])) :
    run mode (c :: rest) = run next rest := by
  rw [run_cons, silent]
  exact emits_nil _

theorem run_stuck {c : Char} (stuck : step mode c = none) : run mode (c :: rest) = none := by
  rw [run_cons, stuck, Option.bind_none]

theorem lineEnds_cons (c : Char) (rest : List Char) : lineEnds (c :: rest) =
    if c = '\r' then if rest.head? = some '\n' then (lineEnds rest.tail).map ('\n' :: ·) else none
    else if c = '\x00' then none else (lineEnds rest).map (c :: ·) := by
  rw [lineEnds.eq_def]
  split
  · next same => cases same
  · next same =>
    cases same
    rfl
  · next stray same =>
    cases same
    have other : rest.head? ≠ some '\n' := by
      cases rest with
      | nil => exact nofun
      | cons d rest => exact fun found => stray rest (by rw [Option.some.inj found])
    rw [if_pos rfl, if_neg other]
  · next plain same =>
    cases same
    rw [if_neg (plain ·)]

theorem lineEnds_crlf (rest : List Char) : lineEnds ('\r' :: '\n' :: rest) = (lineEnds rest).map ('\n' :: ·) := by
  rfl

theorem lineEnds_stray (stray : rest.head? ≠ some '\n') : lineEnds ('\r' :: rest) = none := by
  rw [lineEnds_cons, if_pos rfl, if_neg stray]

theorem lineEnds_plain {c : Char} (plain : c ≠ '\r') (some_char : c ≠ '\x00') :
    lineEnds (c :: rest) = (lineEnds rest).map (c :: ·) := by
  rw [lineEnds_cons, if_neg plain, if_neg some_char]

theorem lineEnds_nul (rest : List Char) : lineEnds ('\x00' :: rest) = none := by
  rw [lineEnds_cons, if_neg (by decide), if_pos rfl]

theorem lineEnds_induction {motive : List Char → Prop} (nil : motive [])
    (crlf : ∀ text, motive text → motive ('\r' :: '\n' :: text))
    (stray : ∀ text, text.head? ≠ some '\n' → motive ('\r' :: text))
    (nul : ∀ text, motive ('\x00' :: text))
    (plain : ∀ c text, c ≠ '\r' → c ≠ '\x00' → motive text → motive (c :: text)) (text : List Char) : motive text := by
  have both : motive text ∧ ∀ c, motive (c :: text) := by
    induction text with
    | nil =>
      refine ⟨nil, fun c => ?_⟩
      by_cases carriage : c = '\r'
      · rw [carriage]
        exact stray [] nofun
      · by_cases none : c = '\x00'
        · rw [none]
          exact nul []
        · exact plain c [] carriage none nil
    | cons d text ih =>
      obtain ⟨shorter, one⟩ := ih
      refine ⟨one d, fun c => ?_⟩
      by_cases carriage : c = '\r'
      · rw [carriage]
        by_cases feed : d = '\n'
        · rw [feed]
          exact crlf text shorter
        · exact stray (d :: text) fun found => feed (Option.some.inj found)
      · by_cases none : c = '\x00'
        · rw [none]
          exact nul (d :: text)
        · exact plain c (d :: text) carriage none (one d)
  exact both.1

theorem lineEnds_append (text rest : List Char) : lineEnds (text ++ '\n' :: rest) =
    (lineEnds (text ++ ['\n'])).bind fun front => (lineEnds rest).map (front ++ ·) := by
  induction text using lineEnds_induction with
  | nil =>
    show lineEnds ('\n' :: rest) = (some ['\n']).bind fun front => (lineEnds rest).map (front ++ ·)
    rfl
  | crlf text ih =>
    simp only [cons_append, lineEnds_crlf, ih]
    cases lineEnds (text ++ ['\n']) with
    | none => rfl
    | some front => simp [Function.comp_def]
  | stray tail other =>
    cases tail with
    | nil =>
      simp only [cons_append, nil_append, lineEnds_crlf]
      cases lineEnds rest <;> rfl
    | cons c tail =>
      have kept : ((c :: tail) ++ '\n' :: rest).head? ≠ some '\n' := other
      have kept' : ((c :: tail) ++ ['\n']).head? ≠ some '\n' := other
      show lineEnds ('\r' :: (c :: tail ++ '\n' :: rest)) =
        (lineEnds ('\r' :: (c :: tail ++ ['\n']))).bind fun front => (lineEnds rest).map (front ++ ·)
      rw [lineEnds_stray kept, lineEnds_stray kept']
      rfl
  | nul text =>
    rfl
  | plain c text other some_char ih =>
    rw [cons_append, cons_append, lineEnds_plain other some_char, lineEnds_plain other some_char, ih]
    cases lineEnds (text ++ ['\n']) with
    | none => rfl
    | some front => simp [Function.comp_def]

/-- If a text is read as it is, then it has no carriage return. -/
theorem lineEnds_eq_self_iff {read : List Char} (reads : lineEnds text = some read) : read = text ↔ '\r' ∉ text := by
  have shorter : ∀ {text read : List Char}, lineEnds text = some read → read.length ≤ text.length := by
    intro text
    induction text using lineEnds_induction with
    | nil => rintro _ ⟨⟩; exact Nat.le_refl 0
    | crlf text ih =>
      intro read reads
      obtain ⟨tail, later, rfl⟩ := Option.map_eq_some_iff.mp reads
      have bound := ih later
      simp only [length_cons]
      omega
    | stray text other =>
      intro read reads
      rw [lineEnds_stray other] at reads
      cases reads
    | nul text =>
      intro read reads
      cases reads
    | plain c text other some_char ih =>
      intro read reads
      rw [lineEnds_plain other some_char] at reads
      obtain ⟨tail, later, rfl⟩ := Option.map_eq_some_iff.mp reads
      have bound := ih later
      simp only [length_cons]
      omega
  induction text using lineEnds_induction generalizing read with
  | nil =>
    cases reads
    simp
  | crlf text ih =>
    obtain ⟨tail, later, rfl⟩ := Option.map_eq_some_iff.mp reads
    have bound := shorter later
    constructor
    · intro same
      have lengths := congrArg length same
      simp only [length_cons] at lengths
      omega
    · intro clean
      simp at clean
  | stray text other =>
    rw [lineEnds_stray other] at reads
    cases reads
  | nul text =>
    cases reads
  | plain c text other some_char ih =>
    rw [lineEnds_plain other some_char] at reads
    obtain ⟨tail, later, rfl⟩ := Option.map_eq_some_iff.mp reads
    have same := ih later
    simp [same, other.symm]

def quote (text : List Char) : List Char := text.flatMap fun c => if c = '"' ∨ c = '\\' then ['\\', c] else [c]

/-- A quoted text is read as it was, whatever stands in it. -/
theorem run_quote (value text rest : List Char) : run (.quoted value) (quote text ++ '"' :: rest) =
    (lineEnds text).bind fun read => emits [.string (value ++ read)] (run .between rest) := by
  induction text using lineEnds_induction generalizing value with
  | nil =>
    show run (.quoted value) ('"' :: rest) = emits [.string (value ++ [])] (run .between rest)
    rw [append_nil]
    rfl
  | crlf text ih =>
    show run (.quoted value) ('\r' :: '\n' :: (quote text ++ '"' :: rest)) = _
    rw [run_silent (.quotedReturn value) rfl, run_silent (.quoted (value ++ ['\n'])) rfl, ih, lineEnds_crlf]
    cases lineEnds text with
    | none => rfl
    | some read => simp
  | stray tail kept =>
    have stuck : step (.quotedReturn value) ((quote tail ++ '"' :: rest).head (by simp)) = none := by
      refine if_neg ?_
      cases tail with
      | nil => exact (by decide : '"' ≠ '\n')
      | cons c tail =>
        by_cases special : c = '"' ∨ c = '\\'
        · simp [quote, special]
        · have other : c ≠ '\n' := fun same => kept (by rw [same]; rfl)
          simpa [quote, special] using other
    rw [lineEnds_stray kept]
    show run (.quoted value) ('\r' :: (quote tail ++ '"' :: rest)) = none
    rw [run_silent (.quotedReturn value) rfl]
    obtain ⟨c, behind, same⟩ := exists_cons_of_ne_nil (l := quote tail ++ '"' :: rest) (by simp)
    simp only [same, head_cons] at stuck
    rw [same]
    exact run_stuck stuck
  | nul text =>
    exact run_stuck rfl
  | plain c text other some_char ih =>
    have reads : run (.quoted value) (quote (c :: text) ++ '"' :: rest) =
        run (.quoted (value ++ [c])) (quote text ++ '"' :: rest) := by
      by_cases special : c = '"' ∨ c = '\\'
      · have split : quote (c :: text) = '\\' :: c :: quote text := by simp [quote, special]
        rw [split, cons_append, cons_append]
        rw [run_silent (.escaped value) rfl]
        refine run_silent _ ?_
        rcases special with rfl | rfl <;> rfl
      · have split : quote (c :: text) = c :: quote text := by simp [quote, special]
        rw [split, cons_append]
        refine run_silent _ ?_
        simp only [not_or] at special
        simp [step, special, other, some_char]
    rw [reads, ih, lineEnds_plain other some_char]
    cases lineEnds text with
    | none => rfl
    | some read => simp

theorem run_line (value : List Char) (one : '\n' ∉ text) : run (.line value) (text ++ '\n' :: rest) =
    (lineEnds (text ++ ['\n'])).bind fun read => run (.lineStart (value ++ read)) rest := by
  induction text generalizing value with
  | nil => exact run_silent _ rfl
  | cons c text ih =>
    obtain ⟨first, later⟩ : c ≠ '\n' ∧ '\n' ∉ text := by simpa [eq_comm] using one
    rw [cons_append]
    by_cases carriage : c = '\r'
    · subst carriage
      rw [run_silent (.lineReturn value) rfl]
      cases text with
      | nil => exact run_silent _ rfl
      | cons d text =>
        have other : d ≠ '\n' := fun same => later (by simp [same])
        have kept : (d :: text ++ ['\n']).head? ≠ some '\n' := fun found => other (Option.some.inj found)
        have stuck : step (.lineReturn value) d = none := if_neg other
        show run (.lineReturn value) (d :: (text ++ '\n' :: rest)) = _
        rw [run_stuck stuck]
        show none = (lineEnds ('\r' :: (d :: text ++ ['\n']))).bind _
        rw [lineEnds_stray kept, Option.bind_none]
    · by_cases nul : c = '\x00'
      · subst nul
        exact run_stuck rfl
      · have silent : step (.line value) c = some (.line (value ++ [c]), []) := by
          simp [step, content, first, carriage, nul]
        rw [run_silent _ silent, ih _ later, cons_append, lineEnds_plain carriage nul]
        cases lineEnds (text ++ ['\n']) with
        | none => rfl
        | some read => simp

/-- A line with one more dot in front of a leading one. -/
def stuff (line : List Char) : List Char := if line.head? = some '.' then '.' :: line else line

theorem run_stuff (value : List Char) (one : '\n' ∉ text) : run (.lineStart value) (stuff text ++ '\n' :: rest) =
    (lineEnds (text ++ ['\n'])).bind fun read => run (.lineStart (value ++ read)) rest := by
  cases text with
  | nil => exact run_silent _ rfl
  | cons c text =>
    by_cases dotted : c = '.'
    · subst dotted
      have later : '\n' ∉ text := fun member => one (mem_cons_of_mem _ member)
      show run (.lineStart value) ('.' :: '.' :: (text ++ '\n' :: rest)) = _
      rw [run_silent (.dot value) rfl, run_silent (.line (value ++ ['.'])) rfl, run_line _ later,
        cons_append, lineEnds_plain (by decide) (by decide)]
      cases lineEnds (text ++ ['\n']) with
      | none => rfl
      | some read => simp
    · have same : stuff (c :: text) = c :: text := if_neg fun found => dotted (Option.some.inj found)
      have turn : step (.lineStart value) c = step (.line value) c := if_neg dotted
      rw [same, ← run_line value one, cons_append, run_cons, run_cons, turn]

/-- The lines of a text block, with dots in front of the leading ones, are read as they were. -/
theorem run_stuffed (value : List Char) {lines : List (List Char)} (one : ∀ line ∈ lines, '\n' ∉ line) :
    run (.lineStart value) (lines.flatMap (stuff · ++ ['\n']) ++ rest) =
      (lineEnds (lines.flatMap (· ++ ['\n']))).bind fun read => run (.lineStart (value ++ read)) rest := by
  induction lines generalizing value with
  | nil =>
    have empty : lineEnds [] = some [] := rfl
    simp [empty]
  | cons line lines ih =>
    have first := one line mem_cons_self
    have later : ∀ line ∈ lines, '\n' ∉ line := fun other member => one other (mem_cons_of_mem line member)
    simp only [flatMap_cons, append_assoc, cons_append, nil_append]
    rw [run_stuff value first, lineEnds_append line (lines.flatMap (· ++ ['\n']))]
    cases lineEnds (line ++ ['\n']) with
    | none => rfl
    | some front =>
      simp only [Option.bind_some]
      rw [ih _ later]
      cases lineEnds (lines.flatMap (· ++ ['\n'])) with
      | none => rfl
      | some read => simp

def Plain (text : List Char) : Prop := ∀ c ∈ text, c ≠ '"' ∧ c ≠ '\\' ∧ c ≠ '\r' ∧ c ≠ '\x00'

theorem run_plain (plain : Plain text) (rest : List Char) :
    run (.quoted []) (text ++ '"' :: rest) = emits [.string text] (run .between rest) := by
  have both : quote text = text ∧ lineEnds text = some text := by
    induction text with
    | nil => exact ⟨rfl, rfl⟩
    | cons c text ih =>
      obtain ⟨mark, slash, carriage, nul⟩ := plain c mem_cons_self
      obtain ⟨kept, reads⟩ := ih fun d member => plain d (mem_cons_of_mem c member)
      refine ⟨?_, by rw [lineEnds_plain carriage nul, reads, Option.map_some]⟩
      unfold quote at kept ⊢
      rw [flatMap_cons, kept, if_neg (not_or.mpr ⟨mark, slash⟩), singleton_append]
  have whole := run_quote [] text rest
  rw [both.1, both.2] at whole
  exact whole

end

end Sieve
