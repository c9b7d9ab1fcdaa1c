import Mathlib.Data.List.Perm.Basic
import Boron.Firewall.Listing
import Boron.Firewall.Reached

namespace Boron.Firewall
open List Text

structure Document where
  format : String
  version : Nat
  rules : List Listed
  bypass : List ListedBypass

def exportConfiguration (text : List Char) : Except String Document := do
  let rules := parseAddedRules text
  let bypass ← parseBypassRules text
  return { format := "boron-firewall", version := 1, rules, bypass }

def validateAction (action : List Char) : Except String (List Char) :=
  if action = "allow".toList ∨ action = "deny".toList then .ok action
  else .error "action must be one of ['allow', 'deny']"

def validatePort (port : Nat) : Except String Nat :=
  if 1 ≤ port ∧ port ≤ 65535 then .ok port else .error "port must be between 1 and 65535"

def validateProtocol (protocol : List Char) : Except String (List Char) :=
  if protocol = "any".toList ∨ protocol = "tcp".toList ∨ protocol = "udp".toList then .ok protocol
  else .error "protocol must be one of ['any', 'tcp', 'udp']"

def validateDirection (direction : List Char) : Except String (List Char) :=
  let direction := direction.map Char.toLower
  if direction = "in".toList ∨ direction = "out".toList then .ok direction
  else .error "direction must be one of ['in', 'out']"

/-- `_validate_from_addr` and `_validate_to_addr` -/
def validateAddr (address : List Char) : Except String (List Char) :=
  if address = [] ∨ (trim isSpace address).map Char.toLower = "any".toList then .ok "any".toList
  else validateIpOrCidr address

def validateComment (comment : List Char) : Except String (List Char) :=
  let comment := trim isSpace comment
  if validComment (String.ofList comment) then .ok comment
  else .error "comment may only contain letters, digits, spaces, '.', '_', '-'"

def orText (text fallback : List Char) : List Char := if text = [] then fallback else text

/-- `_normalize_config_rule` on the rules of a document. -/
def Listed.normalize (raw : Listed) : Except String Listed := do
  let action ← validateAction raw.action
  let port ← validatePort raw.port
  let protocol ← validateProtocol (orText raw.protocol "any".toList)
  let direction ← validateDirection (orText raw.direction "in".toList)
  let fromAddr ← validateAddr raw.fromAddr
  let toAddr ← validateAddr raw.toAddr
  let comment ← validateComment raw.comment
  return { action, port, protocol, direction, comment
           fromAddr := if direction = "in".toList then fromAddr else "any".toList
           toAddr := if direction = "in".toList then "any".toList else toAddr }

def ListedBypass.normalize (raw : ListedBypass) : Except String ListedBypass := do
  let address ← validateIpOrCidr raw.address
  if address = "0.0.0.0/0".toList ∨ address = "::/0".toList then .error "global bypass networks cannot be imported"
  else do
    let label ← validateComment raw.label
    return { address, label }

def Listed.idText (rule : Listed) : List Char :=
  let raw := rule.action ++ '|' :: Nat.toDigits 10 rule.port ++ '|' :: rule.protocol ++ '|' :: rule.fromAddr
  if rule.direction ≠ "in".toList ∨ rule.toAddr ≠ "any".toList then raw ++ '|' :: rule.direction ++ '|' :: rule.toAddr
  else raw

def firstOfEach {α β : Type} [DecidableEq β] (f : α → β) : List α → List β → List α
  | [], _ => []
  | a :: rest, seen => if f a ∈ seen then firstOfEach f rest seen else a :: firstOfEach f rest (f a :: seen)

/-- What `_configuration_plan` is about to do. -/
structure ListedPlan where
  addRules : List Listed
  deleteRules : List Listed
  addBypass : List ListedBypass
  deleteBypass : List ListedBypass

section
variable {Id : Type} [DecidableEq Id] (digest : List Char → Id)

def Listed.ruleId (rule : Listed) : Id := digest rule.idText

/-- `_normalize_firewall_config` -/
def Document.normalize (raw : Document) : Except String Document := do
  if raw.format ≠ "boron-firewall" ∨ raw.version ≠ 1 then
    .error "configuration must use boron-firewall format version 1"
  else if 500 < raw.rules.length ∨ 100 < raw.bypass.length then
    .error "configuration exceeds the supported rule limits"
  else do
    let rules ← raw.rules.mapM Listed.normalize
    let bypass ← raw.bypass.mapM ListedBypass.normalize
    return { format := "boron-firewall", version := 1
             rules := firstOfEach (Listed.ruleId digest) rules [], bypass := firstOfEach id bypass [] }

def Listed.allowsInbound (rule : Listed) : Bool :=
  decide (rule.action = "allow".toList) && decide (rule.direction = "in".toList)

/-- `_configuration_plan`, with the listing that `ufw show added` prints and the protected ports. -/
def configurationPlan (ports : List Nat) (text : List Char) (raw : Document) (replace : Bool) : Except String ListedPlan := do
  let config ← raw.normalize digest
  let currentRules := parseAddedRules text
  let currentBypass ← parseBypassRules text
  let addRules := config.rules.filter fun item => item.ruleId digest ∉ currentRules.map (Listed.ruleId digest)
  let final := if replace then config.rules else currentRules ++ addRules
  if ports.all fun port => final.any fun item => item.allowsInbound && decide (item.port = port) then
    return {
      addRules
      deleteRules := currentRules.filter fun item => replace ∧ item.ruleId digest ∉ config.rules.map (Listed.ruleId digest)
      addBypass := config.bypass.filter fun item => item.address ∉ currentBypass.map ListedBypass.address
      deleteBypass := currentBypass.filter fun item => replace ∧ item.address ∉ config.bypass.map ListedBypass.address }
  else .error "import would leave protected ports without inbound allow rules"

end

section
variable {Id : Type} {w : World Id} {style : Style} {text line : List Char} {rule : Rule} {a b : Address} {c : Char}

theorem readBypass_header (header : isHeader line = true) : readBypass line = none := by
  have unread (other : word "ufw allow from " line = none) : readBypass line = none := by
    rw [readBypass, readSource, other]
    rfl
  refine unread ?_
  unfold isHeader at header
  rw [Bool.or_eq_true, Bool.or_eq_true, decide_eq_true_eq, decide_eq_true_eq, isPrefixOf_iff_prefix] at header
  rcases header with (rfl | ⟨rest, rfl⟩) | rfl
  · rfl
  · rfl
  · rfl

theorem mem_listed (lists : style.Lists text w) : (line ∈ listedLines text ∧ isHeader line = false) ↔
    (∃ rule ∈ w.rules, style.ruleLine rule = line) ∨ ∃ source ∈ w.sources, style.sourceLine source = line := by
  have same := lists.mem_iff (a := line)
  rw [mem_filter, mem_append, mem_map, mem_map, Bool.not_eq_true'] at same
  exact same

theorem mem_parseAddedRules (readable : style.Readable) (lists : style.Lists text w) {found : Listed} :
    found ∈ parseAddedRules text ↔ ∃ rule ∈ w.rules, style.isRead rule = true ∧ style.listed rule = found := by
  rw [parseAddedRules, mem_filterMap]
  constructor
  · rintro ⟨line, listed, read⟩
    have plain : isHeader line = false := by
      cases header : isHeader line with
      | false => rfl
      | true =>
        rw [readRule, if_pos header] at read
        cases read
    rcases (mem_listed lists).mp ⟨listed, plain⟩ with ⟨rule, member, rfl⟩ | ⟨source, member, rfl⟩
    · rw [readRule_ruleLine readable] at read
      split at read
      · next shown => exact ⟨rule, member, shown, Option.some.inj read⟩
      · cases read
    · rw [readRule_sourceLine readable] at read
      cases read
  · rintro ⟨rule, member, shown, rfl⟩
    obtain ⟨listed, -⟩ := (mem_listed lists).mpr (.inl ⟨rule, member, rfl⟩)
    exact ⟨_, listed, by rw [readRule_ruleLine readable, if_pos shown]⟩

theorem mem_readBypass (readable : style.Readable) (lists : style.Lists text w) {found : List Char × List Char} :
    found ∈ (listedLines text).filterMap readBypass ↔
      ∃ source ∈ w.sources, source.isBypass = true ∧ (style.shown source.address, source.comment.toList) = found := by
  rw [mem_filterMap]
  constructor
  · rintro ⟨line, listed, read⟩
    have plain : isHeader line = false := by
      cases header : isHeader line with
      | false => rfl
      | true =>
        rw [readBypass_header header] at read
        cases read
    rcases (mem_listed lists).mp ⟨listed, plain⟩ with ⟨rule, member, rfl⟩ | ⟨source, member, rfl⟩
    · rw [readBypass_ruleLine readable] at read
      cases read
    · rw [readBypass_sourceLine readable] at read
      split at read
      · next bypass => exact ⟨source, member, bypass, Option.some.inj read⟩
      · cases read
  · rintro ⟨source, member, bypass, rfl⟩
    obtain ⟨listed, -⟩ := (mem_listed lists).mpr (.inr ⟨source, member, rfl⟩)
    exact ⟨_, listed, by rw [readBypass_sourceLine readable, if_pos bypass]⟩

theorem mapM_ok {α β : Type} {f : α → Except String β} {g : α → β} {items : List α}
    (each : ∀ item ∈ items, f item = .ok (g item)) : items.mapM f = .ok (items.map g) := by
  induction items with
  | nil => rfl
  | cons item items ih =>
    rw [mapM_cons, each item mem_cons_self, ih fun other member => each other (mem_cons_of_mem item member)]
    rfl

def readBack (text : List Char) : List Char := match validateAddr text with
  | .ok address => address
  | .error _ => []

def entryOf (found : List Char × List Char) : ListedBypass :=
  { address := ((readAddress found.1).map Address.text).getD [], label := (bypassLabel (String.ofList found.2)).toList }

theorem parseBypassRules_ok (readable : style.Readable) (lists : style.Lists text w) :
    parseBypassRules text = .ok (((listedLines text).filterMap readBypass).map entryOf) := by
  refine mapM_ok fun found member => ?_
  obtain ⟨source, -, -, rfl⟩ := (mem_readBypass readable lists).mp member
  obtain ⟨read, reads, -⟩ := readable.reads source.address
  have valid := validateIpOrCidr_reads (readable.oneWord source.address) reads
  dsimp only
  rw [valid, entryOf, reads]
  rfl

theorem notMem_text (dot : c ≠ '.') (colon : c ≠ ':') (slash : c ≠ '/') (other : 16 ≤ IpAddress.digitValue c) : c ∉ a.text := by
  intro member
  rcases mem_text member with same | same | same | ⟨digit, small, rfl⟩
  · exact dot same
  · exact colon same
  · exact slash same
  · rw [IpAddress.digitValue_digitChar small] at other
    omega

theorem validateAddr_shownOr (readable : style.Readable) (address : Option Address) :
    validateAddr (style.shownOr address) = .ok (readBack (style.shownOr address)) ∧
      '|' ∉ readBack (style.shownOr address) := by
  cases address with
  | none =>
    have any : validateAddr "any".toList = .ok "any".toList := rfl
    have back : readBack "any".toList = "any".toList := rfl
    change validateAddr "any".toList = .ok (readBack "any".toList) ∧ '|' ∉ readBack "any".toList
    rw [any, back]
    exact ⟨rfl, by decide⟩
  | some address =>
    obtain ⟨read, reads, -⟩ := readable.reads address
    have valid := validateIpOrCidr_reads (readable.oneWord address) reads
    change validateAddr (style.shown address) = .ok (readBack (style.shown address)) ∧ '|' ∉ readBack (style.shown address)
    unfold readBack validateAddr
    split
    · exact ⟨rfl, by decide⟩
    · rw [valid]
      exact ⟨rfl, notMem_text (by decide) (by decide) (by decide) (by decide)⟩

theorem readBack_text (a : Address) : readBack a.text = a.text := by
  have other : ¬(a.text = [] ∨ (trim isSpace a.text).map Char.toLower = "any".toList) := by
    rw [trim_oneWord text_oneWord]
    rintro (empty | any)
    · have read := readAddress_text a
      rw [empty] at read
      cases read
    · have letter : 'y' ∈ a.text.map Char.toLower := by
        rw [any]
        decide
      obtain ⟨c, member, lower⟩ := mem_map.mp letter
      have digits : ∀ digit < 16, (Nat.digitChar digit).toLower ≠ 'y' := by decide
      rcases mem_text member with rfl | rfl | rfl | ⟨digit, small, rfl⟩
      · exact absurd lower (by decide)
      · exact absurd lower (by decide)
      · exact absurd lower (by decide)
      · exact digits digit small lower
  unfold readBack validateAddr
  rw [if_neg other, validateIpOrCidr_text]

def Listed.readBack (rule : Listed) : Listed :=
  { rule with fromAddr := Firewall.readBack rule.fromAddr, toAddr := Firewall.readBack rule.toAddr }

theorem listed_addresses (style : Style) (rule : Rule) :
    (∃ address, (style.listed rule).fromAddr = style.shownOr address ∧ (address = none ∨ address = rule.key.fromAddr) ∧
      (rule.key.direction = .outbound → address = none)) ∧
    ∃ address, (style.listed rule).toAddr = style.shownOr address ∧ (address = none ∨ address = rule.key.toAddr) ∧
      (rule.key.direction = .inbound → address = none) := by
  constructor
  · by_cases narrow : rule.key.direction = .inbound ∧ style.brief rule = false
    · refine ⟨rule.key.fromAddr, if_pos narrow, .inr rfl, fun outbound => ?_⟩
      rw [narrow.1] at outbound
      cases outbound
    · exact ⟨none, if_neg narrow, .inl rfl, fun _ => rfl⟩
  · by_cases outbound : rule.key.direction = .outbound
    · refine ⟨rule.key.toAddr, if_pos outbound, .inr rfl, fun inbound => ?_⟩
      rw [outbound] at inbound
      cases inbound
    · exact ⟨none, if_neg outbound, .inl rfl, fun _ => rfl⟩

theorem validate_texts (key : RuleKey) : validateAction key.action.text = .ok key.action.text ∧
    validateProtocol (orText key.protocol.text "any".toList) = .ok key.protocol.text ∧
    validateDirection (orText key.direction.text "in".toList) = .ok key.direction.text := by
  refine ⟨?_, ?_, ?_⟩
  · cases key.action <;> rfl
  · cases key.protocol <;> rfl
  · cases key.direction <;> rfl

theorem validateComment_valid {comment : List Char} (valid : validComment (String.ofList (trim isSpace comment)) = true) :
    validateComment comment = .ok (trim isSpace comment) := by
  simp only [validateComment, valid, if_true]

theorem validateComment_clean (fits : rule.Clean) : validateComment rule.comment.toList = .ok rule.comment.toList := by
  have stripped : trim isSpace rule.comment.toList = rule.comment.toList := by
    have same := congrArg String.toList fits.stripped
    rwa [strip, String.toList_ofList] at same
  have valid : validComment (String.ofList (trim isSpace rule.comment.toList)) = true := by
    rw [stripped, String.ofList_toList]
    exact fits.comment
  rw [validateComment_valid valid, stripped]

theorem listed_normalize (readable : style.Readable) (fits : rule.Clean) :
    (style.listed rule).normalize = .ok (style.listed rule).readBack := by
  obtain ⟨⟨source, from_, -, none_out⟩, ⟨target, to_, -, none_in⟩⟩ := listed_addresses style rule
  obtain ⟨action, protocol, direction⟩ := validate_texts rule.key
  have port : validatePort rule.key.port = .ok rule.key.port := if_pos fits.port
  have fromValid := (validateAddr_shownOr readable source).1
  have toValid := (validateAddr_shownOr readable target).1
  have any : readBack "any".toList = "any".toList := rfl
  have shape : (style.listed rule).normalize = .ok { (style.listed rule) with
        fromAddr := if rule.key.direction.text = "in".toList then readBack (style.shownOr source) else "any".toList
        toAddr := if rule.key.direction.text = "in".toList then "any".toList else readBack (style.shownOr target) } := by
    unfold Listed.normalize
    rw [from_, to_, fromValid, toValid]
    unfold Style.listed
    rw [action, port, protocol, direction, validateComment_clean fits]
    rfl
  rw [shape, Listed.readBack, from_, to_]
  cases way : rule.key.direction with
  | inbound =>
    rw [none_in way]
    rfl
  | outbound =>
    rw [none_out way]
    rfl

end

section
variable {α β : Type} [DecidableEq β] {f : α → β} {a : α} {items : List α} {seen : List β}

theorem mem_firstOfEach (member : a ∈ firstOfEach f items seen) : a ∈ items := by
  induction items generalizing seen with
  | nil => exact member
  | cons item items ih =>
    rw [firstOfEach] at member
    split at member
    · exact mem_cons_of_mem item (ih member)
    · rcases mem_cons.mp member with rfl | member
      · exact mem_cons_self
      · exact mem_cons_of_mem item (ih member)

theorem exists_firstOfEach (member : a ∈ items) (fresh : f a ∉ seen) : ∃ b ∈ firstOfEach f items seen, f b = f a := by
  induction items generalizing seen with
  | nil => exact absurd member not_mem_nil
  | cons item items ih =>
    rw [firstOfEach]
    by_cases known : f item ∈ seen
    · rw [if_pos known]
      rcases mem_cons.mp member with rfl | member
      · exact absurd known fresh
      · exact ih member fresh
    · rw [if_neg known]
      by_cases same : f item = f a
      · exact ⟨item, mem_cons_self, same⟩
      · have later : a ∈ items := by
          rcases mem_cons.mp member with rfl | member
          · exact absurd rfl same
          · exact member
        obtain ⟨b, inside, equal⟩ := @ih (f item :: seen) later (by
          rw [mem_cons, not_or]
          exact ⟨Ne.symm same, fresh⟩)
        exact ⟨b, mem_cons_of_mem item inside, equal⟩

end

section
variable {Id : Type} [DecidableEq Id] {digest : List Char → Id} {w : World Id} {style : Style} {text : List Char}
  {rule : Rule} {left right : Listed} {port : Nat}

/-- The parts of the text that the digest of a rule is taken of. -/
def Listed.fields (rule : Listed) : List (List Char) :=
  [rule.action, Nat.toDigits 10 rule.port, rule.protocol, rule.fromAddr] ++
    if rule.direction ≠ "in".toList ∨ rule.toAddr ≠ "any".toList then [rule.direction, rule.toAddr] else []

theorem idText_eq (rule : Listed) : rule.idText = ['|'].intercalate rule.fields := by
  unfold Listed.idText Listed.fields
  split <;> simp [intercalate]

theorem fields_of_idText (leftPlain : ∀ part ∈ left.fields, '|' ∉ part) (rightPlain : ∀ part ∈ right.fields, '|' ∉ part)
    (same : left.idText = right.idText) : left.fields = right.fields := by
  have some (rule : Listed) : rule.fields ≠ [] := cons_ne_nil _ _
  have split := congrArg (splitOn '|') same
  rwa [idText_eq, idText_eq, splitOn_intercalate '|' leftPlain (some left),
    splitOn_intercalate '|' rightPlain (some right)] at split

theorem fields_tell (same : left.fields = right.fields) : left.port = right.port ∧ left.allowsInbound = right.allowsInbound := by
  unfold Listed.fields at same
  rw [cons_append, cons_append, cons_append, cons_append, cons_append, cons_append,
    cons_append, cons_append] at same
  obtain ⟨action, same⟩ := cons.inj same
  obtain ⟨port, same⟩ := cons.inj same
  obtain ⟨-, same⟩ := cons.inj same
  obtain ⟨-, same⟩ := cons.inj same
  rw [nil_append, nil_append] at same
  have ports : left.port = right.port := by
    have value := congrArg (fun digits => Nat.ofDigitChars 10 digits 0) port
    rwa [Nat.ofDigitChars_ten_toDigits, Nat.ofDigitChars_ten_toDigits] at value
  refine ⟨ports, ?_⟩
  unfold Listed.allowsInbound
  rw [action]
  have direction : left.direction = "in".toList ↔ right.direction = "in".toList := by
    split at same
    · split at same
      · rw [(cons.inj same).1]
      · cases same
    · next plain =>
      split at same
      · cases same
      · next other =>
        rw [not_or, not_not] at plain other
        exact iff_of_true plain.1 other.1
  rw [decide_eq_decide.mpr direction]

theorem readBack_plain (readable : style.Readable) (rule : Rule) : ∀ part ∈ (style.listed rule).readBack.fields, '|' ∉ part := by
  obtain ⟨⟨source, from_, -, -⟩, ⟨target, to_, -, -⟩⟩ := listed_addresses style rule
  have fromPlain := (validateAddr_shownOr readable source).2
  have toPlain := (validateAddr_shownOr readable target).2
  have action : '|' ∉ rule.key.action.text := by cases rule.key.action <;> decide
  have protocol : '|' ∉ rule.key.protocol.text := by cases rule.key.protocol <;> decide
  have direction : '|' ∉ rule.key.direction.text := by cases rule.key.direction <;> decide
  have digits : '|' ∉ Nat.toDigits 10 rule.key.port := IpAddress.not_mem_toDigits (by decide) (by decide) (by decide)
  intro part member
  unfold Listed.fields Listed.readBack at member
  rw [from_, to_, mem_append] at member
  rcases member with member | member
  · rcases mem_cons.mp member with rfl | member
    · exact action
    rcases mem_cons.mp member with rfl | member
    · exact digits
    rcases mem_cons.mp member with rfl | member
    · exact protocol
    · rwa [mem_singleton.mp member]
  · split at member
    · rcases mem_cons.mp member with rfl | member
      · exact direction
      · rwa [mem_singleton.mp member]
    · exact absurd member not_mem_nil

theorem listed_allowsInbound (style : Style) (rule : Rule) :
    (style.listed rule).readBack.allowsInbound = rule.allowsInbound ∧ (style.listed rule).readBack.port = rule.key.port := by
  refine ⟨?_, rfl⟩
  unfold Listed.allowsInbound Rule.allowsInbound Listed.readBack Style.listed
  cases rule.key.action <;> cases rule.key.direction <;> rfl

def Rule.addresses (rule : Rule) : List Address := rule.key.fromAddr.toList ++ rule.key.toAddr.toList

theorem readBack_listed (canonical : ∀ address ∈ rule.addresses, style.shown address = address.text) :
    (style.listed rule).readBack = style.listed rule := by
  have any : readBack "any".toList = "any".toList := rfl
  have kept (address : Option Address) (own : address = none ∨ address = rule.key.fromAddr ∨ address = rule.key.toAddr) :
      readBack (style.shownOr address) = style.shownOr address := by
    cases address with
    | none => exact any
    | some address =>
      have listed : address ∈ rule.addresses := by
        rcases own with none | from_ | to_
        · cases none
        · exact mem_append_left _ (by rw [← from_]; exact mem_cons_self)
        · exact mem_append_right _ (by rw [← to_]; exact mem_cons_self)
      change readBack (style.shown address) = style.shown address
      rw [canonical address listed, readBack_text]
  obtain ⟨⟨source, from_, own, -⟩, ⟨target, to_, other, -⟩⟩ := listed_addresses style rule
  have source_kept := kept source (own.imp id .inl)
  have target_kept := kept target (other.imp id .inr)
  unfold Listed.readBack
  rw [from_, to_, source_kept, target_kept, ← from_, ← to_]

end

section
variable {Id : Type} [DecidableEq Id] {digest : List Char → Id} {w : World Id} {style : Style} {text : List Char}
  {source : SourceRule} {b : Address}

theorem prefixLen_of_global (global : b.text = "0.0.0.0/0".toList ∨ b.text = "::/0".toList) : b.prefixLen = 0 := by
  have four : (readAddress "0.0.0.0/0".toList).map Address.prefixLen = some 0 := rfl
  have six : (readAddress "::/0".toList).map Address.prefixLen = some 0 := rfl
  have read := readAddress_text b
  rcases global with same | same
  · rw [same] at read
    rw [read] at four
    exact Option.some.inj four
  · rw [same] at read
    rw [read] at six
    exact Option.some.inj six

theorem trim_sublist (P : Char → Bool) (text : List Char) : (trim P text).Sublist text :=
  (List.rdropWhile_prefix P _).sublist.trans (dropWhile_sublist P)

def ListedBypass.stripped (entry : ListedBypass) : ListedBypass := { entry with label := trim isSpace entry.label }

theorem entryOf_normalize (readable : style.Readable) (fits : source.Clean) (bypass : source.isBypass = true) :
    (entryOf (style.shown source.address, source.comment.toList)).normalize =
      .ok (entryOf (style.shown source.address, source.comment.toList)).stripped := by
  obtain ⟨read, reads, -, -, length⟩ := readable.reads source.address
  have entry : entryOf (style.shown source.address, source.comment.toList) =
      { address := read.text, label := (bypassLabel source.comment).toList } := by
    unfold entryOf
    rw [reads, String.ofList_toList]
    rfl
  have narrow : ¬(read.text = "0.0.0.0/0".toList ∨ read.text = "::/0".toList) := by
    intro global
    have zero := prefixLen_of_global global
    rw [length] at zero
    have open_ : source.address.isGlobal = false := fits.narrow bypass
    unfold Address.isGlobal at open_
    rw [zero, decide_eq_true rfl, Bool.and_true] at open_
    have whole := source.address.host open_
    unfold width at whole
    split at whole <;> omega
  have label : validateComment (bypassLabel source.comment).toList = .ok (trim isSpace (bypassLabel source.comment).toList) := by
    have valid := fits.label bypass
    rw [← String.ofList_toList (s := bypassLabel source.comment)] at valid
    exact validateComment_valid (validComment_sublist (trim_sublist isSpace _) valid)
  rw [entry]
  unfold ListedBypass.normalize ListedBypass.stripped
  rw [validateIpOrCidr_text]
  change (if _ then _ else _) = _
  rw [if_neg narrow, label]
  rfl

end

section
variable {Id : Type} [DecidableEq Id] {digest : List Char → Id} {w : World Id} {style : Style} {text : List Char}

def exported (text : List Char) : Document :=
  { format := "boron-firewall", version := 1, rules := parseAddedRules text,
    bypass := ((listedLines text).filterMap readBypass).map entryOf }

omit [DecidableEq Id] in
theorem exportConfiguration_ok (readable : style.Readable) (lists : style.Lists text w) :
    exportConfiguration text = .ok (exported text) := by
  rw [exportConfiguration, parseBypassRules_ok readable lists]
  rfl

def reimported (digest : List Char → Id) (text : List Char) : Document :=
  { format := "boron-firewall", version := 1
    rules := firstOfEach (Listed.ruleId digest) ((parseAddedRules text).map Listed.readBack) []
    bypass := firstOfEach id ((((listedLines text).filterMap readBypass).map entryOf).map ListedBypass.stripped) [] }

/-- The document of a clean firewall is within the limits, or it is refused. -/
theorem exported_normalize (readable : style.Readable) (lists : style.Lists text w) (clean : Clean w) :
    (exported text).normalize digest =
      if 500 < (exported text).rules.length ∨ 100 < (exported text).bypass.length then
        .error "configuration exceeds the supported rule limits"
      else .ok (reimported digest text) := by
  have rules : (exported text).rules.mapM Listed.normalize = .ok ((parseAddedRules text).map Listed.readBack) := by
    refine mapM_ok fun found member => ?_
    obtain ⟨rule, inside, -, rfl⟩ := (mem_parseAddedRules readable lists).mp member
    exact listed_normalize readable (clean.rules rule inside)
  have bypass : (exported text).bypass.mapM ListedBypass.normalize =
      .ok ((((listedLines text).filterMap readBypass).map entryOf).map ListedBypass.stripped) := by
    refine mapM_ok fun entry member => ?_
    obtain ⟨found, listed, rfl⟩ := mem_map.mp member
    obtain ⟨source, inside, trusted, rfl⟩ := (mem_readBypass readable lists).mp listed
    exact entryOf_normalize readable (clean.sources source inside) trusted
  have known : ¬((exported text).format ≠ "boron-firewall" ∨ (exported text).version ≠ 1) := by
    rintro (other | other) <;> exact other rfl
  rw [Document.normalize, if_neg known, rules, bypass]
  rfl

/-- The bypass entries of the reimported document have the addresses of the listed ones. -/
theorem mem_reimported_bypass {address : List Char} :
    address ∈ (reimported digest text).bypass.map ListedBypass.address ↔
      address ∈ (exported text).bypass.map ListedBypass.address := by
  constructor
  · intro member
    obtain ⟨entry, inside, rfl⟩ := mem_map.mp member
    obtain ⟨listed, known, rfl⟩ := mem_map.mp (mem_firstOfEach inside)
    exact mem_map.mpr ⟨listed, known, rfl⟩
  · intro member
    obtain ⟨entry, inside, rfl⟩ := mem_map.mp member
    have stripped : entry.stripped ∈ (exported text).bypass.map ListedBypass.stripped := mem_map_of_mem inside
    obtain ⟨kept, listed, same⟩ := @exists_firstOfEach _ _ _ id _ _ [] stripped not_mem_nil
    obtain rfl : kept = entry.stripped := same
    exact mem_map.mpr ⟨entry.stripped, listed, rfl⟩

/-- Where every address is shown as it is written, the reimported rules have the digests of the listed ones. -/
theorem mem_reimported_rules (readable : style.Readable) (lists : style.Lists text w)
    (canonical : ∀ rule ∈ w.rules, ∀ address ∈ rule.addresses, style.shown address = address.text) {id : Id} :
    id ∈ (reimported digest text).rules.map (Listed.ruleId digest) ↔ id ∈ (parseAddedRules text).map (Listed.ruleId digest) := by
  have same : (parseAddedRules text).map Listed.readBack = parseAddedRules text := by
    refine (map_congr_left fun found member => ?_).trans (map_id _)
    obtain ⟨rule, inside, -, rfl⟩ := (mem_parseAddedRules readable lists).mp member
    exact readBack_listed (canonical rule inside)
  have whole : (reimported digest text).rules = firstOfEach (Listed.ruleId digest) (parseAddedRules text) [] := by
    rw [reimported, same]
  rw [whole]
  constructor
  · intro member
    obtain ⟨found, inside, rfl⟩ := mem_map.mp member
    exact mem_map_of_mem (mem_firstOfEach inside)
  · intro member
    obtain ⟨found, inside, rfl⟩ := mem_map.mp member
    obtain ⟨kept, listed, equal⟩ := exists_firstOfEach inside (@not_mem_nil _ (found.ruleId digest))
    exact mem_map.mpr ⟨kept, listed, equal⟩

/-- A port has an inbound allow rule in the reimported document where it has one in the firewall. -/
theorem reimported_covers (injective : Function.Injective digest) (readable : style.Readable) (lists : style.Lists text w)
    (port : Nat) : ((reimported digest text).rules.any fun item => item.allowsInbound && decide (item.port = port)) = true ↔
      ∃ rule ∈ w.rules, rule.allowsInbound = true ∧ rule.key.port = port := by
  rw [any_eq_true]
  constructor
  · rintro ⟨item, member, holds⟩
    obtain ⟨found, listed, rfl⟩ := mem_map.mp (mem_firstOfEach member)
    obtain ⟨rule, inside, -, rfl⟩ := (mem_parseAddedRules readable lists).mp listed
    obtain ⟨allows, at_⟩ := listed_allowsInbound style rule
    rw [Bool.and_eq_true, decide_eq_true_eq, allows, at_] at holds
    exact ⟨rule, inside, holds⟩
  · rintro ⟨rule, inside, inbound, rfl⟩
    have shown : style.isRead rule = true := by
      unfold Rule.allowsInbound at inbound
      rw [Bool.and_eq_true] at inbound
      rw [Style.isRead, inbound.2, Bool.true_or]
    have listed := (mem_parseAddedRules readable lists).mpr ⟨rule, inside, shown, rfl⟩
    have back : (style.listed rule).readBack ∈ (parseAddedRules text).map Listed.readBack := mem_map_of_mem listed
    obtain ⟨kept, member, same⟩ := exists_firstOfEach back (@not_mem_nil _ ((style.listed rule).readBack.ruleId digest))
    obtain ⟨origin, known, rfl⟩ := mem_map.mp (mem_firstOfEach member)
    obtain ⟨other, -, -, rfl⟩ := (mem_parseAddedRules readable lists).mp known
    -- The rule that is kept under the same digest has the same port and lets in as well.
    have fields := fields_of_idText (readBack_plain readable other) (readBack_plain readable rule) (injective same)
    obtain ⟨ports, allows⟩ := fields_tell fields
    obtain ⟨own, at_⟩ := listed_allowsInbound style rule
    refine ⟨_, member, ?_⟩
    rw [Bool.and_eq_true, decide_eq_true_eq, ports, allows, own, at_]
    exact ⟨inbound, rfl⟩

theorem configurationPlan_of {raw config : Document} {bypass : List ListedBypass} (ports : List Nat)
    (normalized : raw.normalize digest = .ok config) (parsed : parseBypassRules text = .ok bypass) :
    configurationPlan digest ports text raw true =
      if (ports.all fun port => config.rules.any fun item => item.allowsInbound && decide (item.port = port)) = true then
        .ok {
          addRules := config.rules.filter fun item => item.ruleId digest ∉ (parseAddedRules text).map (Listed.ruleId digest)
          deleteRules := (parseAddedRules text).filter fun item =>
            true = true ∧ item.ruleId digest ∉ config.rules.map (Listed.ruleId digest)
          addBypass := config.bypass.filter fun item => item.address ∉ bypass.map ListedBypass.address
          deleteBypass := bypass.filter fun item => true = true ∧ item.address ∉ config.bypass.map ListedBypass.address }
      else .error "import would leave protected ports without inbound allow rules" := by
  rw [configurationPlan, normalized, parsed]
  rfl

/-- The exported document is accepted exactly within the limits of an import and where every protected port has an
inbound allow rule. The plan then changes no bypass, and no rule where the addresses of the rules are listed as
`validate_ip_or_cidr` writes them. -/
theorem export_imports_unchanged (injective : Function.Injective digest) (readable : style.Readable) (reached : Reached w)
    (lists : style.Lists text w) (ports : List Nat) : ∃ document, exportConfiguration text = .ok document ∧
      ((∃ plan, configurationPlan digest ports text document true = .ok plan) ↔
        document.rules.length ≤ 500 ∧ document.bypass.length ≤ 100 ∧
          ∀ port ∈ ports, ∃ rule ∈ w.rules, rule.allowsInbound = true ∧ rule.key.port = port) ∧
      ∀ plan, configurationPlan digest ports text document true = .ok plan →
        plan.addBypass = [] ∧ plan.deleteBypass = [] ∧
        ((∀ rule ∈ w.rules, ∀ address ∈ rule.addresses, style.shown address = address.text) →
          plan.addRules = [] ∧ plan.deleteRules = []) := by
  have normalized := @exported_normalize Id _ digest w style text readable lists reached.clean
  have covered := fun port => @reimported_covers Id _ digest w style text injective readable lists port
  have parsed := parseBypassRules_ok readable lists
  refine ⟨exported text, exportConfiguration_ok readable lists, ?_⟩
  by_cases large : 500 < (exported text).rules.length ∨ 100 < (exported text).bypass.length
  · rw [if_pos large] at normalized
    have refused (plan : ListedPlan) : configurationPlan digest ports text (exported text) true ≠ .ok plan := by
      rw [configurationPlan, normalized]
      exact nofun
    refine ⟨iff_of_false (fun ⟨plan, accepted⟩ => refused plan accepted) ?_, fun plan accepted => absurd accepted (refused plan)⟩
    rintro ⟨rules, bypass, -⟩
    rcases large with large | large <;> omega
  · rw [if_neg large] at normalized
    have planned := configurationPlan_of ports normalized parsed
    have few : (exported text).rules.length ≤ 500 ∧ (exported text).bypass.length ≤ 100 := by omega
    have all_covered : (ports.all fun port => (reimported digest text).rules.any fun item =>
        item.allowsInbound && decide (item.port = port)) = true ↔
        ∀ port ∈ ports, ∃ rule ∈ w.rules, rule.allowsInbound = true ∧ rule.key.port = port := by
      rw [List.all_eq_true]
      exact forall₂_congr fun port _ => covered port
    rw [planned]
    by_cases complete : ∀ port ∈ ports, ∃ rule ∈ w.rules, rule.allowsInbound = true ∧ rule.key.port = port
    · rw [if_pos (all_covered.mpr complete)]
      refine ⟨iff_of_true ⟨_, rfl⟩ ⟨few.1, few.2, complete⟩, ?_⟩
      rintro plan ⟨⟩
      have addresses (address : List Char) := @mem_reimported_bypass Id _ digest text address
      refine ⟨List.filter_eq_nil_iff.mpr fun item member => ?_, List.filter_eq_nil_iff.mpr fun item member => ?_, fun canonical => ?_⟩
      · have known := (addresses item.address).mp (List.mem_map_of_mem member)
        rw [decide_eq_true_eq, not_not]
        exact known
      · have wanted := (addresses item.address).mpr (List.mem_map_of_mem member)
        rw [decide_eq_true_eq, not_and, not_not]
        exact fun _ => wanted
      · have rules (id : Id) := @mem_reimported_rules Id _ digest w style text readable lists canonical id
        refine ⟨List.filter_eq_nil_iff.mpr fun item member => ?_, List.filter_eq_nil_iff.mpr fun item member => ?_⟩
        · have known := (rules (item.ruleId digest)).mp (List.mem_map_of_mem member)
          rw [decide_eq_true_eq, not_not]
          exact known
        · have wanted := (rules (item.ruleId digest)).mpr (List.mem_map_of_mem member)
          rw [decide_eq_true_eq, not_and, not_not]
          exact fun _ => wanted
    · have bare := fun all => complete (all_covered.mp all)
      rw [if_neg bare]
      exact ⟨iff_of_false (by rintro ⟨_, ⟨⟩⟩) fun held => complete held.2.2, nofun⟩

end

/-- Every address as `validate_ip_or_cidr` writes it. -/
def plainStyle : Style := { shown := Address.text, brief := fun _ => false }

theorem plainStyle_readable : plainStyle.Readable :=
  ⟨fun _ => text_oneWord, fun address => ⟨address, readAddress_text address, rfl, rfl, rfl⟩⟩

/-- A host on which every command is done, with the texts themselves for their digests. -/
def textHost : Host (List Char) :=
  { outcome := fun _ => .done, now := fun _ => 0, protectedPorts := [22]
    ruleId := fun key => (plainStyle.listed { key, comment := "" }).idText
    bypassId := fun address => "bypass|".toList ++ address.text }

def noRules : World (List Char) := { rules := [], sources := [], bans := [], active := false, journal := none, tick := 0 }

def sshLetIn : World (List Char) :=
  ((PanelOperation.run textHost (.confirm true)).run
    ((PanelOperation.run textHost (.change (.addRule { key := sshKey, comment := "ssh " }))).run noRules).2).2

theorem sshLetIn_reached : Reached sshLetIn := by
  have ported : textHost.Ported := by
    intro port member
    rw [mem_singleton.mp member]
    exact ⟨by decide, by decide⟩
  have port : ValidPort sshKey.port := ⟨by decide, by decide⟩
  exact .step textHost (.confirm true) ported trivial (.step textHost (.change (.addRule _)) ported port (.fresh false 0))

def sshListing : List Char := "Added user rules (see 'ufw status' for running firewall):\nufw allow 22/tcp comment 'ssh'\n".toList

theorem sshListing_lists : plainStyle.Lists sshListing sshLetIn := by
  have lines : (listedLines sshListing).filter (! isHeader ·) =
      sshLetIn.rules.map plainStyle.ruleLine ++ sshLetIn.sources.map plainStyle.sourceLine := by
    decide +kernel
  exact .of_eq lines

theorem export_imports_unchanged_demo : ∃ document plan, exportConfiguration sshListing = .ok document ∧
    configurationPlan id [22] sshListing document true = .ok plan ∧ plan.addRules = [] ∧ plan.deleteRules = [] ∧
    plan.addBypass = [] ∧ plan.deleteBypass = [] := by
  obtain ⟨document, made, accepted, unchanged⟩ := @export_imports_unchanged _ _ id _ plainStyle _ Function.injective_id
    plainStyle_readable sshLetIn_reached sshListing_lists [22]
  have same := made.symm.trans (exportConfiguration_ok plainStyle_readable sshListing_lists)
  have small : document.rules.length ≤ 500 ∧ document.bypass.length ≤ 100 := by
    have chars : sshListing = _ := String.toList_ofList
    rw [Except.ok.inj same, chars]
    decide +kernel
  have covered : ∀ port ∈ [22], ∃ rule ∈ sshLetIn.rules, rule.allowsInbound = true ∧ rule.key.port = port := by
    decide
  obtain ⟨plan, planned⟩ := accepted.mpr ⟨small.1, small.2, covered⟩
  obtain ⟨added, deleted, rules⟩ := unchanged plan planned
  obtain ⟨addedRules, deletedRules⟩ := rules fun _ _ _ _ => rfl
  exact ⟨document, plan, made, planned, addedRules, deletedRules, added, deleted⟩

def emptyListing : List Char := "Added user rules (see 'ufw status' for running firewall):\n(None)\n".toList

/-- The export of a server without rules is refused: it would leave SSH without an allow rule. -/
theorem empty_export_refused : Reached noRules ∧ plainStyle.Lists emptyListing noRules ∧
    ∃ document, exportConfiguration emptyListing = .ok document ∧
      ∀ plan, configurationPlan id [22] emptyListing document true ≠ .ok plan := by
  have chars : emptyListing = _ := String.toList_ofList
  have lines : (listedLines emptyListing).filter (! isHeader ·) = [] := by
    rw [chars]
    rfl
  have lists : plainStyle.Lists emptyListing noRules := .of_eq lines
  refine ⟨.fresh false 0, lists, exported emptyListing, exportConfiguration_ok plainStyle_readable lists, fun plan accepted => ?_⟩
  have refused : (configurationPlan id [22] emptyListing (exported emptyListing) true).toBool = false := by
    rw [chars]
    rfl
  rw [accepted] at refused
  cases refused

end Boron.Firewall
