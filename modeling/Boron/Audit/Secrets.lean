import Mathlib.Data.List.Infix
import Boron.Lib.Text

namespace Boron.Audit

/-- A parameter: a text, a number, a boolean or null, a list or a dictionary. -/
inductive Value
  | text (text : List Char)
  | plain
  | list (items : List Value)
  | record (fields : List (String × Value))

variable (lower : String → String)

def sensitiveKeyParts : List String :=
  ["password", "secret", "token", "session_id", "code", "private_key", "api_key", "license", "recovery", "passphrase",
    "access_key", "credential"]

def privatePayloadKeys : List String :=
  ["env", "env_vars", "environment", "content", "contents", "body", "content_base64", "headers", "authorization",
    "credential", "credentials"]

def isSensitive (key : String) : Bool := sensitiveKeyParts.any fun part => decide (part.toList <:+: (lower key).toList)

def isPrivate (key : String) : Bool := privatePayloadKeys.contains (lower key) || isSensitive lower key

def stars : List Char := ['*', '*', '*']

mutual

/-- `visit` of `_redact_request_secrets` -/
def visit (key : String) (message : List Char) : Value → List Char
  | .text value => if isSensitive lower key && !value.isEmpty then Text.replace value stars 0 message else message
  | .plain => message
  | .list items => if isSensitive lower key then message else visitItems key message items
  | .record fields => if isSensitive lower key then message else visitFields message fields

def visitItems (key : String) (message : List Char) : List Value → List Char
  | [] => message
  | item :: rest => visitItems key (visit key message item) rest

def visitFields (message : List Char) : List (String × Value) → List Char
  | [] => message
  | (key, value) :: rest => visitFields (visit key message value) rest

end

def redactRequestSecrets (message : List Char) (params : List (String × Value)) : List Char :=
  (visitFields lower message params).take 1000

mutual

/-- `_collect_secret_values`; a key that is private stays the key of what is below it. -/
def collectSecretValues (key : String) : Value → List (List Char)
  | .text value => if isPrivate lower key && !value.isEmpty then [value] else []
  | .plain => []
  | .list items => collectItems key items
  | .record fields => collectFields (if isPrivate lower key then some key else none) fields

def collectItems (key : String) : List Value → List (List Char)
  | [] => []
  | item :: rest => collectSecretValues key item ++ collectItems key rest

def collectFields (above : Option String) : List (String × Value) → List (List Char)
  | [] => []
  | (key, value) :: rest => collectSecretValues (above.getD key) value ++ collectFields above rest

end

mutual

/-- `collect` of `secret_values` -/
def secretValues (key : String) (inherited : Bool) : Value → List (List Char)
  | .text value => if (inherited || isPrivate lower key) && !value.isEmpty then [value] else []
  | .plain => []
  | .list items => secretItems key (inherited || isPrivate lower key) items
  | .record fields => secretFields (inherited || isPrivate lower key) fields

def secretItems (key : String) (inherited : Bool) : List Value → List (List Char)
  | [] => []
  | item :: rest => secretValues key inherited item ++ secretItems key inherited rest

def secretFields (inherited : Bool) : List (String × Value) → List (List Char)
  | [] => []
  | (key, value) :: rest => secretValues key inherited value ++ secretFields inherited rest

end

def maxParamValueLen : Nat := 500

def holds (value : List Char) (mark : String) : Bool := decide (mark.toList <:+: value)

/-- What `sanitize` makes of a text under a key that is not private. -/
def sanitizeText (value : List Char) : List Char :=
  let lowered := (lower (String.ofList value)).toList
  if holds value "://" && ["@", "?", "#"].any (holds value) then stars
  else if ["license", "recovery", "passphrase", "access_key"].any (holds lowered) then
    "[REDACTED sensitive diagnostic]".toList
  else if maxParamValueLen < value.length then
    value.take maxParamValueLen ++ "... (".toList ++ (toString value.length).toList ++ " chars total)".toList
  else value

mutual

def sanitize (key : String) : Value → Value
  | .text value => .text (if isPrivate lower key then stars else sanitizeText lower value)
  | .plain => if isPrivate lower key then .text stars else .plain
  | .list items => if isPrivate lower key then .text stars else .list (sanitizeItems key items)
  | .record fields => if isPrivate lower key then .text stars else .record (sanitizeFields fields)

def sanitizeItems (key : String) : List Value → List Value
  | [] => []
  | item :: rest => sanitize key item :: sanitizeItems key rest

def sanitizeFields : List (String × Value) → List (String × Value)
  | [] => []
  | (key, value) :: rest => (key, sanitize key value) :: sanitizeFields rest

end

mutual

def Value.texts : Value → List (List Char)
  | .text value => if value.isEmpty then [] else [value]
  | .plain => []
  | .list items => textsOfItems items
  | .record fields => textsOfFields fields

def textsOfItems : List Value → List (List Char)
  | [] => []
  | item :: rest => item.texts ++ textsOfItems rest

def textsOfFields : List (String × Value) → List (List Char)
  | [] => []
  | (_, value) :: rest => value.texts ++ textsOfFields rest

end

mutual

def secrets (key : String) : Value → List (List Char)
  | .text value => if isSensitive lower key then (Value.text value).texts else []
  | .plain => []
  | .list items => if isSensitive lower key then (Value.list items).texts else secretsOfItems key items
  | .record fields => if isSensitive lower key then (Value.record fields).texts else secretsOfFields fields

def secretsOfItems (key : String) : List Value → List (List Char)
  | [] => []
  | item :: rest => secrets key item ++ secretsOfItems key rest

def secretsOfFields : List (String × Value) → List (List Char)
  | [] => []
  | (key, value) :: rest => secrets key value ++ secretsOfFields rest

end

mutual

def direct (key : String) : Value → List (List Char)
  | .text value => if isSensitive lower key then (Value.text value).texts else []
  | .plain => []
  | .list items => if isSensitive lower key then [] else directOfItems key items
  | .record fields => if isSensitive lower key then [] else directOfFields fields

def directOfItems (key : String) : List Value → List (List Char)
  | [] => []
  | item :: rest => direct key item ++ directOfItems key rest

def directOfFields : List (String × Value) → List (List Char)
  | [] => []
  | (key, value) :: rest => direct key value ++ directOfFields rest

end

end Boron.Audit
