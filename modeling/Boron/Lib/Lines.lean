import Boron.Lib.Text

namespace Text

/-- What `splitlines` ends a line at, besides `\r\n`. -/
def isBreak (c : Char) : Bool :=
  c = '\n' || c = '\r' || c = '\x0b' || c = '\x0c' || c = '\x1c' || c = '\x1d' || c = '\x1e' ||
    c = '\u0085' || c = '\u2028' || c = '\u2029'

/-- Python's `splitlines()`. -/
def splitlines : List Char → List (List Char)
  | [] => []
  | '\r' :: '\n' :: rest => [] :: splitlines rest
  | c :: rest =>
    if isBreak c then [] :: splitlines rest
    else match splitlines rest with
      | [] => [[c]]
      | line :: lines => (c :: line) :: lines

end Text
