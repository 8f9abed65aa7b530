/-
Writing a JSON value as text, without blanks between the tokens. In a string
only quotes, backslashes and control characters are escaped, these by a letter
where there is one.
-/
import SharedGateway.Double.Shortest
import SharedGateway.Json.Basic

namespace SharedGateway.Json

/-- A UTF-16 unit as an escape of four lowercase hexadecimal digits. -/
def unitEscape (unit : Nat) : List Char :=
  let digits := Nat.toDigits 16 unit
  '\\' :: 'u' :: (List.replicate (4 - digits.length) '0' ++ digits)

/-- One character of a written string. -/
def writtenChar (c : Char) : List Char :=
  match c with
  | '"' => ['\\', '"']
  | '\\' => ['\\', '\\']
  | '\n' => ['\\', 'n']
  | '\r' => ['\\', 'r']
  | '\t' => ['\\', 't']
  | '\x08' => ['\\', 'b']
  | '\x0c' => ['\\', 'f']
  | c => if c.toNat < 0x20 then unitEscape c.toNat else [c]

/-- A string in quotes. -/
def writtenString (s : String) : String :=
  String.ofList ('"' :: s.toList.flatMap writtenChar ++ ['"'])

mutual

/-- The value as text. -/
def toText : Json → String
  | .null => "null"
  | .bool true => "true"
  | .bool false => "false"
  | .int n => toString n
  | .real x => x.toText
  | .str s => writtenString s
  | .arr items => "[" ++ ",".intercalate (itemTexts items) ++ "]"
  | .obj fields => "\x7b" ++ ",".intercalate (fieldTexts fields) ++ "\x7d"
termination_by structural v => v

/-- The text of each item. -/
def itemTexts : List Json → List String
  | [] => []
  | x :: xs => toText x :: itemTexts xs
termination_by structural xs => xs

/-- The text of each field. -/
def fieldTexts : Fields → List String
  | [] => []
  | (name, x) :: xs => (writtenString name ++ ":" ++ toText x) :: fieldTexts xs
termination_by structural xs => xs

end

end SharedGateway.Json
