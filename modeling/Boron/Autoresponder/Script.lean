import Boron.Lib.Sieve
import Boron.Lib.Sys
import Boron.Lib.Text

namespace Boron.Autoresponder
open Checks

def newlines (text : List Char) : List Char := Text.replace "\r\n".toList "\n".toList 0 text

def escapeQuotedString (value : List Char) : List Char :=
  Text.replace "\"".toList "\\\"".toList 0 (Text.replace "\\".toList "\\\\".toList 0 value)

def textBlock (value : List Char) : List Char :=
  let lines := (newlines value).splitOn '\n'
  let stuffed := lines.map fun ln => if ".".toList.isPrefixOf ln then ".".toList ++ ln else ln
  "text:\n".toList ++ "\n".toList.intercalate stuffed ++ "\n.".toList

def condition (startDate endDate : Option (List Char)) : Option (List Char) :=
  match startDate, endDate with
  | some startDate, some endDate => some ("allof(currentdate :value \"ge\" \"date\" \"".toList ++ startDate ++
      "\", currentdate :value \"le\" \"date\" \"".toList ++ endDate ++ "\")".toList)
  | some startDate, none => some ("currentdate :value \"ge\" \"date\" \"".toList ++ startDate ++ "\"".toList)
  | none, some endDate => some ("currentdate :value \"le\" \"date\" \"".toList ++ endDate ++ "\"".toList)
  | none, none => none

def truthy (text : Option (List Char)) : Option (List Char) := text.filter (!·.isEmpty)

def renderSieveScript (subject body : List Char) (startDate endDate mailboxAddress : Option (List Char)) : List Char :=
  let addressesClause := match truthy mailboxAddress with
    | some mailboxAddress => " :addresses [\"".toList ++ mailboxAddress ++ "\"]".toList
    | none => []
  let vacationStmt := "vacation :subject \"".toList ++ escapeQuotedString subject ++ "\"".toList ++ addressesClause ++
    " :days 1 :mime ".toList ++ textBlock body ++ "\n;".toList
  let lines := ["require [\"vacation\", \"date\", \"relational\"];".toList, []] ++
    match condition (truthy startDate) (truthy endDate) with
    | some condition => ["if ".toList ++ condition ++ " \x7b".toList, vacationStmt, "\x7d".toList]
    | none => [vacationStmt]
  "\n".toList.intercalate lines ++ "\n".toList

/-- What the checks rest on: `str.lower`, the `idna` codec, `date.fromisoformat` and `sievec`, which fails with
its output. -/
structure Host where
  lower : List Char → List Char
  idna : List Char → Bool
  fromisoformat : List Char → Bool
  sievec : List Char → Except String Unit

def isLower (c : Char) : Bool := 'a'.toNat ≤ c.toNat && c.toNat ≤ 'z'.toNat

/-- A label of `DOMAIN_RE`. -/
def isLabel (label : List Char) : Bool :=
  decide (1 ≤ label.length ∧ label.length ≤ 63) && label.all (fun c => isLower c || c.isDigit || c = '-') &&
    decide (label.head? ≠ some '-' ∧ label.getLast? ≠ some '-')

def domainRe (candidate : List Char) : Bool :=
  let labels := candidate.splitOn '.'
  decide (candidate.length ≤ 253 ∧ 2 ≤ labels.length) && labels.all isLabel

def validateDomain (host : Host) (domain : List Char) : Except String (List Char) :=
  let candidate := ((host.lower (Text.trim Text.isSpace domain)).reverse.dropWhile (· = '.')).reverse
  if host.idna candidate = false then .error ("domain '" ++ String.ofList domain ++ "' is not valid IDNA")
  else if domainRe candidate then .ok candidate
  else .error ("domain '" ++ String.ofList domain ++ "' is not a syntactically valid hostname")

def localPartRe (localPart : List Char) : Bool :=
  match localPart with
  | first :: rest =>
    isLower first && decide (rest.length ≤ 63) &&
      rest.all fun c => isLower c || c.isDigit || c = '.' || c = '_' || c = '-'
  | [] => false

def validateMailboxLocalPart (localPart : List Char) : Except String (List Char) :=
  if localPartRe localPart then .ok localPart
  else .error ("mailbox local-part '" ++ String.ofList localPart ++ "' is invalid")

def dateRe (value : List Char) : Bool :=
  match value with
  | [a, b, c, d, '-', e, f, '-', g, h] => [a, b, c, d, e, f, g, h].all Char.isDigit
  | _ => false

def validateIsoDate (host : Host) (value : List Char) : Except String (List Char) :=
  if dateRe value = false then .error ("'" ++ String.ofList value ++ "' is not a valid YYYY-MM-DD date")
  else if host.fromisoformat value then .ok value
  else .error ("'" ++ String.ofList value ++ "' is not a valid calendar date")

structure Params where
  domain : List Char
  localPart : List Char
  subject : List Char
  body : List Char
  startDate : Option (List Char)
  endDate : Option (List Char)

/-- What `set_autoresponder` has checked. -/
structure Checked where
  domain : List Char
  localPart : List Char
  subject : List Char
  body : List Char
  startDate : Option (List Char)
  endDate : Option (List Char)
  deriving DecidableEq

def optionalDate (host : Host) (date : Option (List Char)) : Except String (Option (List Char)) :=
  match truthy date with
  | some date => (validateIsoDate host date).map some
  | none => .ok none

def earlier (date other : List Char) : Bool := List.lex date other fun c d => decide (c.toNat < d.toNat)

def check (host : Host) (params : Params) : Except String Checked := do
  let domain ← validateDomain host params.domain
  let localPart ← validateMailboxLocalPart params.localPart
  let subject := Text.trim Text.isSpace params.subject
  raiseIf (subject = [] ∨ 255 < subject.length) "subject must be 1-255 characters"
  raiseIf (params.body = [] ∨ 10000 < params.body.length) "body must be 1-10000 characters"
  let startDate ← optionalDate host params.startDate
  let endDate ← optionalDate host params.endDate
  raiseIf (startDate.any fun startDate => endDate.any fun endDate => earlier endDate startDate)
    "end_date must not be before start_date"
  return { domain, localPart, subject, body := params.body, startDate, endDate }

def Checked.script (checked : Checked) : List Char :=
  renderSieveScript checked.subject checked.body checked.startDate checked.endDate
    (some (checked.localPart ++ "@".toList ++ checked.domain))

/-- `set_autoresponder`, as far as the script that becomes active. -/
def setAutoresponder (host : Host) (params : Params) : Except String Checked := do
  let checked ← check host params
  match host.sievec checked.script with
  | .ok () => return checked
  | .error output => throw ("generated Sieve script failed validation: " ++ output)

end Boron.Autoresponder
