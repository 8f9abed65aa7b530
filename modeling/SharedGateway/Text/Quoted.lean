/-
Values quoted inside messages: a text between double quotes in which every
character that could be misread is escaped. A reader of the message sees where
the value ends and which invisible characters it holds.
-/
import SharedGateway.Text.Invisible

namespace SharedGateway.Text

/-- The number in lowercase hexadecimal, without padding. -/
def hexadecimal (n : Nat) : List Char :=
  Nat.toDigits 16 n

/-- One character of a quoted text. The six short escapes come first; any
other invisible character is given by its code point in braces. -/
def quoteChar (c : Char) : List Char :=
  match c with
  | '"' => ['\\', '"']
  | '\\' => ['\\', '\\']
  | '\n' => ['\\', 'n']
  | '\r' => ['\\', 'r']
  | '\t' => ['\\', 't']
  | '\x00' => ['\\', '0']
  | c => if isInvisible c then '\\' :: 'u' :: '{' :: hexadecimal c.toNat ++ ['}'] else [c]

/-- The text between double quotes, escaped. -/
def quoted (s : String) : String :=
  String.ofList ('"' :: s.toList.flatMap quoteChar ++ ['"'])

end SharedGateway.Text
