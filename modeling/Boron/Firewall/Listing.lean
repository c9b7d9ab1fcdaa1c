import Boron.Firewall.Change
import Boron.Lib.IpAddress
import Boron.Lib.Lines

namespace Boron.Firewall
open List Text

/-- An address as `str` writes it. -/
def Address.text (a : Address) : List Char :=
  if a.network then IpAddress.write a.v6 a.base ++ '/' :: Nat.toDigits 10 a.prefixLen
  else IpAddress.write a.v6 a.base

/-- An address whose bits after the prefix are cleared. -/
def Address.ofNumbers (v6 : Bool) (n prefixLen : Nat) (network : Bool) : Option Address :=
  let unit := 2 ^ (width v6 - prefixLen)
  if bounds : n < 2 ^ width v6 ∧ prefixLen ≤ width v6 ∧ (network = false → prefixLen = width v6) then
    some { v6, base := n / unit * unit, prefixLen, network
           bounded := (Nat.div_mul_le_self n unit).trans_lt bounds.1
           short := bounds.2.1
           canonical := Nat.mul_mod_left _ _
           host := bounds.2.2 }
  else none

def readAddress (text : List Char) : Option Address :=
  if '/' ∈ text then (IpAddress.readNetwork text).bind fun (v6, n, length) => Address.ofNumbers v6 n length true
  else (IpAddress.read text).bind fun (v6, n) => Address.ofNumbers v6 n (width v6) false

def validateIpOrCidr (value : List Char) : Except String (List Char) :=
  let value := trim isSpace value
  if value = [] then .error "IP/CIDR entry must not be empty"
  else match readAddress value with
    | some address => .ok address.text
    | none => .error (String.ofList value ++ " is not a valid IP address or CIDR range")

/-- A rule of `_parse_added_rules`, with what an export takes of it. -/
structure Listed where
  action : List Char
  port : Nat
  protocol : List Char
  direction : List Char
  fromAddr : List Char
  toAddr : List Char
  comment : List Char

/-- An entry of `_parse_bypass_rules`. -/
structure ListedBypass where
  address : List Char
  label : List Char
  deriving DecidableEq

def literal : List Char → List Char → Option (List Char)
  | [], line => some line
  | _ :: _, [] => none
  | c :: text, d :: line => if c = d then literal text line else none

def word (text : String) (line : List Char) : Option (List Char) := literal text.toList line

/-- `\s+` -/
def blanks : List Char → Option (List Char)
  | [] => none
  | c :: line => if isSpace c then some (line.dropWhile isSpace) else none

/-- `\S+` -/
def readWord (line : List Char) : Option (List Char × List Char) :=
  let found := line.takeWhile (! isSpace ·)
  if found = [] then none else some (found, line.dropWhile (! isSpace ·))

/-- `ufw (?P<action>allow|deny) ` -/
def readAction (line : List Char) : Option (List Char × List Char) :=
  match word "ufw allow " line with
  | some rest => some ("allow".toList, rest)
  | none => (word "ufw deny " line).map fun rest => ("deny".toList, rest)

/-- `(?P<port>\d+)` -/
def readPort (line : List Char) : Option (Nat × List Char) :=
  let digits := line.takeWhile Char.isDigit
  if digits = [] then none else some (natOf digits, line.dropWhile Char.isDigit)

def readProtocol (line : List Char) : Option (List Char × List Char) :=
  match word "tcp" line with
  | some rest => some ("tcp".toList, rest)
  | none => (word "udp" line).map fun rest => ("udp".toList, rest)

/-- `(?:/(?P<proto>tcp|udp))?` -/
def readSlash (line : List Char) : List Char × List Char :=
  ((word "/" line).bind readProtocol).getD ("any".toList, line)

/-- `(?:\s+proto\s+(?P<proto>tcp|udp))?` -/
def readProto (line : List Char) : List Char × List Char :=
  ((((blanks line).bind (word "proto")).bind blanks).bind readProtocol).getD ("any".toList, line)

/-- `'(?P<comment>.*)'\Z` -/
def readQuoted : List Char → Option (List Char)
  | '\'' :: rest => if rest.getLast? = some '\'' then some rest.dropLast else none
  | _ => none

/-- `(?:\s+comment\s+'(?P<comment>.*)')?\Z` -/
def readComment (line : List Char) : Option (List Char) :=
  if line = [] then some []
  else (((blanks line).bind (word "comment")).bind blanks).bind readQuoted

/-- `_PLAIN_RULE_RE` -/
def readPlain (line : List Char) : Option Listed := do
  let (action, line) ← readAction line
  let (port, line) ← readPort line
  let (protocol, line) := readSlash line
  let comment ← readComment line
  return { action, port, protocol, direction := "in".toList, fromAddr := "any".toList, toAddr := "any".toList, comment }

/-- `_SCOPED_RULE_RE` -/
def readScoped (line : List Char) : Option Listed := do
  let (action, line) ← readAction line
  let line ← word "from " line
  let (fromAddr, line) ← readWord line
  let line ← word " to any port " line
  let (port, line) ← readPort line
  let (protocol, line) := readProto line
  let comment ← readComment line
  return { action, port, protocol, direction := "in".toList, fromAddr, toAddr := "any".toList, comment }

/-- `_OUTBOUND_RULE_RE` -/
def readOutbound (line : List Char) : Option Listed := do
  let (action, line) ← readAction line
  let line ← word "out to " line
  let (toAddr, line) ← readWord line
  let line ← word " port " line
  let (port, line) ← readPort line
  let (protocol, line) := readProto line
  let comment ← readComment line
  return { action, port, protocol, direction := "out".toList, fromAddr := "any".toList, toAddr, comment }

/-- `_BYPASS_RULE_RE`: the address and the comment. -/
def readSource (line : List Char) : Option (List Char × List Char) := do
  let line ← word "ufw allow from " line
  let (address, line) ← readWord line
  let comment ← readComment line
  return (address, comment)

def isHeader (line : List Char) : Bool :=
  decide (line = []) || "Added user rules".toList.isPrefixOf line || decide (line = "(None)".toList)

def readRule (line : List Char) : Option Listed :=
  if isHeader line then none
  else ((readOutbound line).or (readPlain line)).or (readScoped line)

def listedLines (text : List Char) : List (List Char) := (splitlines text).map (trim isSpace)

def parseAddedRules (text : List Char) : List Listed := (listedLines text).filterMap readRule

/-- An address that is trusted on every port, and its comment. -/
def readBypass (line : List Char) : Option (List Char × List Char) :=
  (readSource line).filter fun found => isBypassComment (String.ofList found.2)

def parseBypassRules (text : List Char) : Except String (List ListedBypass) :=
  ((listedLines text).filterMap readBypass).mapM fun (address, comment) => do
    let address ← validateIpOrCidr address
    return { address, label := (bypassLabel (String.ofList comment)).toList }

/-- How ufw writes an address, and which rules it lists without their address. -/
structure Style where
  shown : Address → List Char
  brief : Rule → Bool

def Action.text : Action → List Char
  | .allow => "allow".toList
  | .deny => "deny".toList

def Protocol.text : Protocol → List Char
  | .tcp => "tcp".toList
  | .udp => "udp".toList
  | .any => "any".toList

def Direction.text : Direction → List Char
  | .inbound => "in".toList
  | .outbound => "out".toList

def actionWords : Action → List Char
  | .allow => "ufw allow ".toList
  | .deny => "ufw deny ".toList

def slashPart : Protocol → List Char
  | .any => []
  | protocol => "/".toList ++ protocol.text

def protoPart : Protocol → List Char
  | .any => []
  | protocol => " proto ".toList ++ protocol.text

def commentPart (comment : String) : List Char :=
  if comment = "" then [] else " comment '".toList ++ comment.toList ++ "'".toList

/-- `PORT/PROTO` and the comment. -/
def portPart (rule : Rule) : List Char :=
  Nat.toDigits 10 rule.key.port ++ (slashPart rule.key.protocol ++ commentPart rule.comment)

/-- `port PORT proto PROTO` and the comment. -/
def longPart (rule : Rule) : List Char :=
  Nat.toDigits 10 rule.key.port ++ (protoPart rule.key.protocol ++ commentPart rule.comment)

namespace Style
variable (style : Style)

def shownOr : Option Address → List Char
  | none => "any".toList
  | some address => style.shown address

def ruleLine (rule : Rule) : List Char :=
  actionWords rule.key.action ++ match rule.key.direction, rule.key.fromAddr, style.brief rule with
    | .inbound, some address, false => "from ".toList ++ (style.shown address ++ (" to any port ".toList ++ longPart rule))
    | .inbound, _, _ => portPart rule
    | .outbound, _, false => "out to ".toList ++ (style.shownOr rule.key.toAddr ++ (" port ".toList ++ longPart rule))
    | .outbound, _, true => "out ".toList ++ portPart rule

def sourceLine (source : SourceRule) : List Char :=
  actionWords source.action ++ ("from ".toList ++ (style.shown source.address ++ commentPart source.comment))

/-- A listing of the firewall: a line for each rule and for each source, in any order, and what comes before them. -/
def Lists {Id : Type} (text : List Char) (w : World Id) : Prop :=
  ((listedLines text).filter (! isHeader ·)).Perm (w.rules.map style.ruleLine ++ w.sources.map style.sourceLine)

structure Readable : Prop where
  oneWord : ∀ address, ∀ c ∈ style.shown address, isSpace c = false
  reads : ∀ address, ∃ read, readAddress (style.shown address) = some read ∧
    read.v6 = address.v6 ∧ read.base = address.base ∧ read.prefixLen = address.prefixLen

def listed (rule : Rule) : Listed :=
  { action := rule.key.action.text, port := rule.key.port, protocol := rule.key.protocol.text
    direction := rule.key.direction.text
    fromAddr := if rule.key.direction = .inbound ∧ style.brief rule = false then style.shownOr rule.key.fromAddr
      else "any".toList
    toAddr := if rule.key.direction = .outbound then style.shownOr rule.key.toAddr else "any".toList
    comment := rule.comment.toList }

def isRead (rule : Rule) : Bool := decide (rule.key.direction = .inbound) || !style.brief rule

end Style

section
variable {a b : Address} {c : Char} {v6 network : Bool} {n length : Nat}

theorem ofNumbers_self (a : Address) : Address.ofNumbers a.v6 a.base a.prefixLen a.network = some a := by
  unfold Address.ofNumbers
  rw [dif_pos ⟨a.bounded, a.short, a.host⟩]
  have whole : a.base / 2 ^ (width a.v6 - a.prefixLen) * 2 ^ (width a.v6 - a.prefixLen) = a.base :=
    Nat.div_mul_cancel (Nat.dvd_of_mod_eq_zero a.canonical)
  cases a
  simpa using whole

theorem readAddress_text (a : Address) : readAddress a.text = some a := by
  have same := ofNumbers_self a
  unfold readAddress Address.text
  cases kind : a.network with
  | true =>
    rw [kind] at same
    have slash : '/' ∈ IpAddress.write a.v6 a.base ++ '/' :: Nat.toDigits 10 a.prefixLen :=
      mem_append_right _ mem_cons_self
    have read : IpAddress.readNetwork (IpAddress.write a.v6 a.base ++ '/' :: Nat.toDigits 10 a.prefixLen) =
        some (a.v6, a.base, a.prefixLen) := IpAddress.readNetwork_write a.bounded a.short
    rw [if_pos rfl, if_pos slash, read, Option.bind_some]
    exact same
  | false =>
    rw [kind, a.host kind] at same
    have slashless : '/' ∉ IpAddress.write a.v6 a.base := IpAddress.notMem_write (by decide) (by decide) (by decide)
    have read : IpAddress.read (IpAddress.write a.v6 a.base) = some (a.v6, a.base) := IpAddress.read_write a.bounded
    simp only [Bool.false_eq_true, if_false]
    rw [if_neg slashless, read, Option.bind_some]
    exact same

theorem mem_text (member : c ∈ a.text) : c = '.' ∨ c = ':' ∨ c = '/' ∨ ∃ digit < 16, c = Nat.digitChar digit := by
  have written (held : c ∈ IpAddress.write a.v6 a.base) : c = '.' ∨ c = ':' ∨ c = '/' ∨ ∃ digit < 16, c = Nat.digitChar digit := by
    rcases IpAddress.mem_write held with same | same | digit
    · exact .inl same
    · exact .inr (.inl same)
    · exact .inr (.inr (.inr digit))
  unfold Address.text at member
  split at member
  · rcases mem_append.mp member with held | held
    · exact written held
    · rcases mem_cons.mp held with same | held
      · exact .inr (.inr (.inl same))
      · obtain ⟨digit, small, same⟩ := IpAddress.mem_toDigits (by decide) held
        exact .inr (.inr (.inr ⟨digit, small.trans (by decide), same⟩))
  · exact written member

theorem text_oneWord : ∀ c ∈ a.text, isSpace c = false := by
  have digits : ∀ digit < 16, isSpace (Nat.digitChar digit) = false := by decide
  intro c member
  rcases mem_text member with rfl | rfl | rfl | ⟨digit, small, rfl⟩
  · decide
  · decide
  · decide
  · exact digits digit small

theorem trim_oneWord {text : List Char} (oneWord : ∀ c ∈ text, isSpace c = false) : trim isSpace text = text := by
  have kept {text : List Char} (oneWord : ∀ c ∈ text, isSpace c = false) : text.dropWhile isSpace = text := by
    cases text with
    | nil => rfl
    | cons c rest => rw [dropWhile_cons_of_neg (by rw [oneWord c mem_cons_self]; decide)]
  rw [trim, kept oneWord, kept fun c member => oneWord c (mem_reverse.mp member), reverse_reverse]

theorem validateIpOrCidr_reads {text : List Char} (oneWord : ∀ c ∈ text, isSpace c = false) (read : readAddress text = some b) :
    validateIpOrCidr text = .ok b.text := by
  have some_text : text ≠ [] := by
    rintro rfl
    cases read
  simp only [validateIpOrCidr, trim_oneWord oneWord, if_neg some_text, read]

theorem validateIpOrCidr_text (a : Address) : validateIpOrCidr a.text = .ok a.text :=
  validateIpOrCidr_reads text_oneWord (readAddress_text a)

end

section
variable {line rest found : List Char} {text : String} {rule : Rule} {style : Style} {c : Char}

theorem literal_append (text rest : List Char) : literal text (text ++ rest) = some rest := by
  induction text with
  | nil => rfl
  | cons c text ih => rw [cons_append, literal, if_pos rfl, ih]

theorem word_append (text : String) (rest : List Char) : word text (text.toList ++ rest) = some rest :=
  literal_append text.toList rest

theorem readAction_allow (rest : List Char) : readAction ("ufw allow ".toList ++ rest) = some ("allow".toList, rest) := by
  have read : word "ufw allow " ("ufw allow ".toList ++ rest) = some rest := word_append _ _
  rw [readAction]
  simp only [read]

theorem readAction_deny (rest : List Char) : readAction ("ufw deny ".toList ++ rest) = some ("deny".toList, rest) := by
  have other : word "ufw allow " ("ufw deny ".toList ++ rest) = none := rfl
  have read : word "ufw deny " ("ufw deny ".toList ++ rest) = some rest := word_append _ _
  rw [readAction]
  simp only [other, read, Option.map_some]

theorem readAction_words (action : Action) (rest : List Char) :
    readAction (actionWords action ++ rest) = some (action.text, rest) := by
  cases action with
  | allow => exact readAction_allow rest
  | deny => exact readAction_deny rest

theorem span_append {P : Char → Bool} (all : ∀ c ∈ found, P c = true) (ends : ∀ c ∈ rest.head?, P c = false) :
    (found ++ rest).takeWhile P = found ∧ (found ++ rest).dropWhile P = rest := by
  induction found with
  | nil =>
    cases rest with
    | nil => exact ⟨rfl, rfl⟩
    | cons c rest =>
      have other : ¬P c = true := by rw [ends c rfl]; decide
      exact ⟨takeWhile_cons_of_neg other, dropWhile_cons_of_neg other⟩
  | cons c found ih =>
    obtain ⟨taken, dropped⟩ := ih fun d member => all d (mem_cons_of_mem c member)
    have own := all c mem_cons_self
    exact ⟨by rw [cons_append, takeWhile_cons_of_pos own, taken],
      by rw [cons_append, dropWhile_cons_of_pos own, dropped]⟩

theorem readWord_append (oneWord : ∀ c ∈ found, isSpace c = false) (some_text : found ≠ [])
    (ends : ∀ c ∈ rest.head?, isSpace c = true) : readWord (found ++ rest) = some (found, rest) := by
  obtain ⟨taken, dropped⟩ := @span_append rest found (! isSpace ·) (fun c member => by rw [oneWord c member]; rfl)
    (fun c first => by rw [ends c first]; rfl)
  rw [readWord, taken, dropped, if_neg some_text]

theorem readPort_digits (port : Nat) (ends : ∀ c ∈ rest.head?, c.isDigit = false) :
    readPort (Nat.toDigits 10 port ++ rest) = some (port, rest) := by
  obtain ⟨taken, dropped⟩ := @span_append rest _ Char.isDigit
    (fun c member => Nat.isDigit_of_mem_toDigits (b := 10) (by decide) (by decide) member) ends
  have value : natOf (Nat.toDigits 10 port) = port := Nat.ofDigitChars_ten_toDigits
  rw [readPort, taken, dropped, if_neg Nat.toDigits_ne_nil, value]

theorem commentPart_head (comment : String) : ∀ c ∈ (commentPart comment).head?, c = ' ' := by
  unfold commentPart
  split
  · exact nofun
  · intro c first
    cases first
    rfl

theorem readComment_part (comment : String) : readComment (commentPart comment) = some comment.toList := by
  unfold commentPart
  split
  · next empty =>
    rw [empty]
    rfl
  · have quoted : readQuoted ('\'' :: (comment.toList ++ ['\''])) = some comment.toList := by
      simp only [readQuoted, getLast?_append, getLast?_singleton, Option.some_or, if_true, dropLast_concat]
    exact quoted

theorem readSlash_part (protocol : Protocol) (comment : String) :
    readSlash (slashPart protocol ++ commentPart comment) = (protocol.text, commentPart comment) := by
  cases protocol with
  | tcp => rfl
  | udp => rfl
  | any =>
    have none_read : word "/" (commentPart comment) = none := by
      unfold commentPart
      split <;> rfl
    rw [readSlash, slashPart, nil_append, none_read]
    rfl

theorem readProto_part (protocol : Protocol) (comment : String) :
    readProto (protoPart protocol ++ commentPart comment) = (protocol.text, commentPart comment) := by
  cases protocol with
  | tcp => rfl
  | udp => rfl
  | any =>
    have none_read : (blanks (commentPart comment)).bind (word "proto") = none := by
      unfold commentPart
      split <;> rfl
    rw [readProto, protoPart, nil_append, none_read]
    rfl

theorem slashPart_head (protocol : Protocol) (comment : String) :
    ∀ c ∈ (slashPart protocol ++ commentPart comment).head?, c.isDigit = false := by
  cases protocol with
  | any =>
    intro c first
    rw [commentPart_head comment c first]
    rfl
  | tcp | udp =>
    intro c first
    cases first
    rfl

theorem protoPart_head (protocol : Protocol) (comment : String) :
    ∀ c ∈ (protoPart protocol ++ commentPart comment).head?, c.isDigit = false := by
  cases protocol with
  | any =>
    intro c first
    rw [commentPart_head comment c first]
    rfl
  | tcp | udp =>
    intro c first
    cases first
    rfl

theorem word_digits {tail : List Char} (starts : text.toList = c :: tail) (letter : c.isDigit = false) (n : Nat)
    (rest : List Char) : word text (Nat.toDigits 10 n ++ rest) = none := by
  cases digits : Nat.toDigits 10 n with
  | nil => exact absurd digits Nat.toDigits_ne_nil
  | cons d more =>
    have digit : d.isDigit = true := Nat.isDigit_of_mem_toDigits (b := 10) (n := n) (by decide) (by decide)
      (by rw [digits]; exact mem_cons_self)
    have other : c ≠ d := by
      rintro rfl
      rw [letter] at digit
      cases digit
    rw [word, starts, cons_append, literal, if_neg other]

theorem isHeader_words (action : Action) (rest : List Char) : isHeader (actionWords action ++ rest) = false := by
  cases action with
  | allow => rfl
  | deny => rfl

theorem readRule_words (action : Action) (rest : List Char) : readRule (actionWords action ++ rest) =
    ((readOutbound (actionWords action ++ rest)).or (readPlain (actionWords action ++ rest))).or
      (readScoped (actionWords action ++ rest)) := by
  rw [readRule, isHeader_words, if_neg Bool.false_ne_true]

theorem readOutbound_words (action : Action) (other : word "out to " rest = none) :
    readOutbound (actionWords action ++ rest) = none := by
  simp only [readOutbound, readAction_words, other, Option.bind_eq_bind, Option.bind_some, Option.bind_none]

theorem readPlain_words (action : Action) (other : readPort rest = none) : readPlain (actionWords action ++ rest) = none := by
  simp only [readPlain, readAction_words, other, Option.bind_eq_bind, Option.bind_some, Option.bind_none]

theorem readScoped_words (action : Action) (other : word "from " rest = none) :
    readScoped (actionWords action ++ rest) = none := by
  simp only [readScoped, readAction_words, other, Option.bind_eq_bind, Option.bind_some, Option.bind_none]

theorem readSource_words (action : Action) (other : word "from " rest = none) :
    readSource (actionWords action ++ rest) = none := by
  have same : word "ufw allow from " (actionWords .allow ++ rest) = word "from " rest := rfl
  have deny : word "ufw allow from " (actionWords .deny ++ rest) = none := rfl
  cases action with
  | allow => simp only [readSource, same, other, Option.bind_eq_bind, Option.bind_none]
  | deny => simp only [readSource, deny, Option.bind_eq_bind, Option.bind_none]

theorem readPlain_portPart (rule : Rule) : readPlain (actionWords rule.key.action ++ portPart rule) =
    some { action := rule.key.action.text, port := rule.key.port, protocol := rule.key.protocol.text,
           direction := "in".toList, fromAddr := "any".toList, toAddr := "any".toList, comment := rule.comment.toList } := by
  have port := readPort_digits rule.key.port (slashPart_head rule.key.protocol rule.comment)
  simp only [readPlain, portPart, readAction_words, port, readSlash_part, readComment_part, Option.bind_eq_bind,
    Option.bind_some]
  rfl

end

section
variable {style : Style} {rule : Rule} {source : SourceRule}

section
variable (readable : style.Readable)
include readable

theorem shown_ne_nil (address : Address) : style.shown address ≠ [] := by
  obtain ⟨read, reads, -⟩ := readable.reads address
  intro empty
  rw [empty] at reads
  cases reads

theorem shownOr_oneWord (address : Option Address) :
    (∀ c ∈ style.shownOr address, isSpace c = false) ∧ style.shownOr address ≠ [] := by
  cases address with
  | none =>
    have word : "any".toList.all (fun c => !isSpace c) = true := by decide
    have some_text : "any".toList ≠ [] := by decide
    refine ⟨fun c member => ?_, some_text⟩
    have space := all_eq_true.1 word c member
    exact Bool.not_eq_true' _ ▸ space
  | some address => exact ⟨readable.oneWord address, shown_ne_nil readable address⟩

theorem readWord_shown (address : Option Address) {rest : List Char}
    (ends : ∀ c ∈ rest.head?, isSpace c = true) : readWord (style.shownOr address ++ rest) = some (style.shownOr address, rest) :=
  readWord_append (shownOr_oneWord readable address).1 (shownOr_oneWord readable address).2 ends

theorem readScoped_line (rule : Rule) (address : Address) : readScoped (actionWords rule.key.action ++
      ("from ".toList ++ (style.shown address ++ (" to any port ".toList ++ longPart rule)))) =
    some { action := rule.key.action.text, port := rule.key.port, protocol := rule.key.protocol.text,
           direction := "in".toList, fromAddr := style.shown address, toAddr := "any".toList,
           comment := rule.comment.toList } := by
  have port : readPort (longPart rule) = some (rule.key.port, _) :=
    readPort_digits rule.key.port (protoPart_head rule.key.protocol rule.comment)
  have ends : ∀ c ∈ (" to any port ".toList ++ longPart rule).head?, isSpace c = true := by
    intro c first
    cases first
    rfl
  have shown : readWord (style.shown address ++ (" to any port ".toList ++ longPart rule)) = some (style.shown address, _) :=
    readWord_shown readable (some address) ends
  simp only [readScoped, readAction_words, word_append, shown, port, readProto_part, readComment_part,
    Option.bind_eq_bind, Option.bind_some]
  rfl

theorem readOutbound_line (rule : Rule) (address : Option Address) : readOutbound (actionWords rule.key.action ++
      ("out to ".toList ++ (style.shownOr address ++ (" port ".toList ++ longPart rule)))) =
    some { action := rule.key.action.text, port := rule.key.port, protocol := rule.key.protocol.text,
           direction := "out".toList, fromAddr := "any".toList, toAddr := style.shownOr address,
           comment := rule.comment.toList } := by
  have port : readPort (longPart rule) = some (rule.key.port, _) :=
    readPort_digits rule.key.port (protoPart_head rule.key.protocol rule.comment)
  have ends : ∀ c ∈ (" port ".toList ++ longPart rule).head?, isSpace c = true := by
    intro c first
    cases first
    rfl
  have shown := readWord_shown readable address ends
  simp only [readOutbound, readAction_words, word_append, shown, port, readProto_part, readComment_part,
    Option.bind_eq_bind, Option.bind_some]
  rfl

theorem readRule_ruleLine (rule : Rule) :
    readRule (style.ruleLine rule) = if style.isRead rule then some (style.listed rule) else none := by
  have unread (rest : List Char) : word "out to " ("out ".toList ++ rest) = word "to " rest := rfl
  unfold Style.ruleLine
  rw [readRule_words]
  unfold Style.isRead Style.listed
  cases direction : rule.key.direction with
  | inbound =>
    have plain : ((readOutbound (actionWords rule.key.action ++ portPart rule)).or
        (readPlain (actionWords rule.key.action ++ portPart rule))).or
        (readScoped (actionWords rule.key.action ++ portPart rule)) =
        some { action := rule.key.action.text, port := rule.key.port, protocol := rule.key.protocol.text,
               direction := "in".toList, fromAddr := "any".toList, toAddr := "any".toList,
               comment := rule.comment.toList } := by
      have other : word "out to " (portPart rule) = none := word_digits rfl rfl _ _
      rw [readOutbound_words _ other, Option.none_or, readPlain_portPart, Option.some_or]
    cases from_ : rule.key.fromAddr with
    | none =>
      cases brief : style.brief rule with
      | true => exact plain
      | false => exact plain
    | some address =>
      cases brief : style.brief rule with
      | true => exact plain
      | false =>
        have first := @readOutbound_words ("from ".toList ++ (style.shown address ++ (" to any port ".toList ++ longPart rule)))
          rule.key.action rfl
        have second := @readPlain_words ("from ".toList ++ (style.shown address ++ (" to any port ".toList ++ longPart rule)))
          rule.key.action rfl
        rw [first, second, readScoped_line readable]
        rfl
  | outbound =>
    cases brief : style.brief rule with
    | true =>
      have first := @readOutbound_words ("out ".toList ++ portPart rule) rule.key.action
        ((unread _).trans (word_digits rfl rfl _ _))
      have second := @readPlain_words ("out ".toList ++ portPart rule) rule.key.action rfl
      have third := @readScoped_words ("out ".toList ++ portPart rule) rule.key.action rfl
      rw [first, second, third]
      rfl
    | false =>
      rw [readOutbound_line readable]
      rfl

theorem readRule_sourceLine (source : SourceRule) : readRule (style.sourceLine source) = none := by
  have first := @readOutbound_words ("from ".toList ++ (style.shown source.address ++ commentPart source.comment))
    source.action rfl
  have second := @readPlain_words ("from ".toList ++ (style.shown source.address ++ commentPart source.comment))
    source.action rfl
  have ends : ∀ c ∈ (commentPart source.comment).head?, isSpace c = true := by
    intro c first
    rw [commentPart_head _ c first]
    rfl
  have shown : readWord (style.shown source.address ++ commentPart source.comment) = some (style.shown source.address, _) :=
    readWord_shown readable (some source.address) ends
  have other : word " to any port " (commentPart source.comment) = none := by
    unfold commentPart
    split <;> rfl
  unfold Style.sourceLine
  rw [readRule_words, first, second]
  simp only [readScoped, readAction_words, word_append, shown, other, Option.bind_eq_bind, Option.bind_some,
    Option.bind_none, Option.or_none]

theorem readBypass_ruleLine (rule : Rule) : readBypass (style.ruleLine rule) = none := by
  have unread : readSource (style.ruleLine rule) = none := by
    have plain : readSource (actionWords rule.key.action ++ portPart rule) = none :=
      readSource_words _ (word_digits rfl rfl _ _)
    unfold Style.ruleLine
    split
    · next address _ _ _ =>
      have ends : ∀ c ∈ (" to any port ".toList ++ longPart rule).head?, isSpace c = true := by
        intro c first
        cases first
        rfl
      have shown : readWord (style.shown address ++ (" to any port ".toList ++ longPart rule)) = some (style.shown address, _) :=
        readWord_shown readable (some address) ends
      have other : readComment (" to any port ".toList ++ longPart rule) = none := rfl
      have allow : word "ufw allow from " (actionWords .allow ++ ("from ".toList ++
          (style.shown address ++ (" to any port ".toList ++ longPart rule)))) =
          some (style.shown address ++ (" to any port ".toList ++ longPart rule)) := rfl
      have deny : word "ufw allow from " (actionWords .deny ++ ("from ".toList ++
          (style.shown address ++ (" to any port ".toList ++ longPart rule)))) = none := rfl
      cases rule.key.action with
      | allow => simp only [readSource, allow, shown, other, Option.bind_eq_bind, Option.bind_some, Option.bind_none]
      | deny => simp only [readSource, deny, Option.bind_eq_bind, Option.bind_none]
    · exact plain
    · exact readSource_words _ rfl
    · exact readSource_words _ rfl
  rw [readBypass, unread]
  rfl

theorem readBypass_sourceLine (source : SourceRule) : readBypass (style.sourceLine source) =
    if source.isBypass then some (style.shown source.address, source.comment.toList) else none := by
  have ends : ∀ c ∈ (commentPart source.comment).head?, isSpace c = true := by
    intro c first
    rw [commentPart_head _ c first]
    rfl
  have shown : readWord (style.shown source.address ++ commentPart source.comment) = some (style.shown source.address, _) :=
    readWord_shown readable (some source.address) ends
  have allow : word "ufw allow from " (actionWords .allow ++ ("from ".toList ++
      (style.shown source.address ++ commentPart source.comment))) =
      some (style.shown source.address ++ commentPart source.comment) := rfl
  unfold readBypass Style.sourceLine SourceRule.isBypass
  cases source.action with
  | allow =>
    have read : readSource (actionWords .allow ++ ("from ".toList ++
        (style.shown source.address ++ commentPart source.comment))) =
        some (style.shown source.address, source.comment.toList) := by
      simp only [readSource, allow, shown, readComment_part, Option.bind_eq_bind, Option.bind_some]
      rfl
    rw [read, Option.filter_some, String.ofList_toList, decide_eq_true rfl, Bool.true_and]
  | deny =>
    rfl

end

end

end Boron.Firewall
