/-
The tokens of a JSON text. Reading goes over the characters once: the lexer's
state says what the next character continues, and the tokens read so far are
kept latest first. A text that ends inside a token, holds a bare control
character in a string, or escapes what has no escape has no tokens. Half of a
surrogate pair is no such mistake: the string is there, but it has no content.
-/
import SharedGateway.Json.Numeral

namespace SharedGateway.Json

-- =============================================================== tokens

/-- A token. -/
inductive Token where
  | objectOpen
  | objectClose
  | listOpen
  | listClose
  | comma
  | colon
  /-- A string, with its content if it has any. -/
  | string (content : Option String)
  /-- A bare word: a numeral, `null` or a truth value. -/
  | word (d : Document)
  deriving Inhabited

/-- The mark that a character is, if it is one. -/
def mark? : Char → Option Token
  | '\x7b' => some .objectOpen
  | '\x7d' => some .objectClose
  | '[' => some .listOpen
  | ']' => some .listClose
  | ',' => some .comma
  | ':' => some .colon
  | _ => none

/-- The four blanks that may stand between tokens. -/
def isGap (c : Char) : Bool :=
  c = ' ' || c = '\t' || c = '\n' || c = '\r'

/-- What a bare word says. -/
def word? (cs : List Char) : Option Document :=
  if cs = ['n', 'u', 'l', 'l'] then some .null
  else if cs = ['t', 'r', 'u', 'e'] then some (.bool true)
  else if cs = ['f', 'a', 'l', 's', 'e'] then some (.bool false)
  else (Numeral.ofChars? cs).map Numeral.document

-- ============================================================== strings

/-- Is this the first half of a surrogate pair? -/
def isHigh (unit : Nat) : Bool :=
  0xD800 ≤ unit && unit ≤ 0xDBFF

/-- Is this the second half of a surrogate pair? -/
def isLow (unit : Nat) : Bool :=
  0xDC00 ≤ unit && unit ≤ 0xDFFF

/-- The character of a surrogate pair. -/
def paired (high low : Nat) : Char :=
  Char.ofNat (0x10000 + (high - 0xD800) * 0x400 + (low - 0xDC00))

/-- The characters of the code points, latest first, in front of those that are
read already; `low` is a second half that waits for its first. -/
def joined? (done : List Char) : (low : Option Nat) → List Nat → Option (List Char)
  | none, [] => some done
  | none, n :: rest =>
    if isLow n then joined? done (some n) rest
    else if isHigh n then none
    else joined? (Char.ofNat n :: done) none rest
  | some low, n :: rest =>
    if isHigh n then joined? (paired n low :: done) none rest else none
  | some _, [] => none

/-- The content of a string of those code points, latest first. -/
def content? (points : List Nat) : Option String :=
  (joined? [] none points).map String.ofList

/-- The value of a hexadecimal digit. -/
def hexDigit? (c : Char) : Option Nat :=
  if c.isDigit then some (c.toNat - 48)
  else if 'a' ≤ c && c ≤ 'f' then some (c.toNat - 87)
  else if 'A' ≤ c && c ≤ 'F' then some (c.toNat - 55)
  else none

/-- The character that a one-letter escape stands for. -/
def escaped? : Char → Option Char
  | '"' => some '"'
  | '\\' => some '\\'
  | '/' => some '/'
  | 'b' => some '\x08'
  | 'f' => some '\x0c'
  | 'n' => some '\n'
  | 'r' => some '\r'
  | 't' => some '\t'
  | _ => none

-- ================================================================ lexer

/-- What the next character continues. The characters of a word and the code
points of a string are kept latest first. -/
inductive Lexing where
  | between
  | word (done : List Char)
  | string (points : List Nat)
  /-- After a backslash in a string. -/
  | escape (points : List Nat)
  /-- After `digits` of the four hexadecimal digits of an escape. -/
  | unit (points : List Nat) (digits : Nat) (value : Nat)

/-- The tokens read so far, latest first, and the state. -/
structure Lexer where
  tokens : List Token
  state : Lexing

namespace Lexer

/-- Ends the word, if one is being read. -/
def endWord (l : Lexer) : Option Lexer :=
  match l.state with
  | .word done => (word? done.reverse).map fun d => ⟨.word d :: l.tokens, .between⟩
  | _ => some l

/-- One character between tokens. -/
def startToken (l : Lexer) (c : Char) : Lexer :=
  match mark? c with
  | some token => ⟨token :: l.tokens, .between⟩
  | none =>
    if isGap c then ⟨l.tokens, .between⟩
    else if c = '"' then ⟨l.tokens, .string []⟩
    else ⟨l.tokens, .word [c]⟩

/-- Does the character end a word? -/
def endsWord (c : Char) : Bool :=
  (mark? c).isSome || isGap c || c = '"'

/-- One character. -/
def step (l : Lexer) (c : Char) : Option Lexer :=
  match l.state with
  | .between => some (l.startToken c)
  | .word done =>
    if endsWord c then l.endWord.map fun l => l.startToken c
    else some ⟨l.tokens, .word (c :: done)⟩
  | .string points =>
    if c = '"' then some ⟨.string (content? points) :: l.tokens, .between⟩
    else if c = '\\' then some ⟨l.tokens, .escape points⟩
    else if c.toNat < 0x20 then none
    else some ⟨l.tokens, .string (c.toNat :: points)⟩
  | .escape points =>
    if c = 'u' then some ⟨l.tokens, .unit points 0 0⟩
    else (escaped? c).map fun c => ⟨l.tokens, .string (c.toNat :: points)⟩
  | .unit points digits value =>
    (hexDigit? c).map fun digit =>
      let value := value * 16 + digit
      if digits = 3 then ⟨l.tokens, .string (value :: points)⟩
      else ⟨l.tokens, .unit points (digits + 1) value⟩

end Lexer

/-- The tokens of a text in order. -/
def tokens? (text : List Char) : Option (List Token) :=
  (text.foldlM Lexer.step ⟨[], .between⟩).bind fun l =>
    l.endWord.bind fun l =>
      match l.state with
      | .between => some l.tokens.reverse
      | _ => none

end SharedGateway.Json
