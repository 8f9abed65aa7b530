/-
Numerals of a JSON text. The grammar is decided first; the value comes after.
An integer that fits 64 bits is that integer. Any other numeral is a double,
reckoned from as many digits as 64 bits can hold, and a numeral beyond all
doubles has no value.
-/
import SharedGateway.Json.Document

namespace SharedGateway.Json

/-- A numeral taken apart. -/
structure Numeral where
  negative : Bool
  whole : List Char
  /-- The digits behind the point, if there is one. -/
  fraction : Option (List Char)
  exponent : Option Int
  deriving DecidableEq, Repr

namespace Numeral

-- ============================================================== grammar

/-- The digits at the start, of which there must be one, and what follows. -/
def digits? (cs : List Char) : Option (List Char × List Char) :=
  let digits := cs.takeWhile Char.isDigit
  if digits.isEmpty then none else some (digits, cs.dropWhile Char.isDigit)

/-- A sign before an exponent. -/
def exponentSign : List Char → Bool × List Char
  | '+' :: rest => (false, rest)
  | '-' :: rest => (true, rest)
  | rest => (false, rest)

/-- The fraction at the start, if there is one, and what follows. -/
def fraction? : List Char → Option (Option (List Char) × List Char)
  | '.' :: rest => (digits? rest).map fun (digits, rest) => (some digits, rest)
  | rest => some (none, rest)

/-- The exponent that the rest of a numeral is, if it is not empty. -/
def exponent? : List Char → Option (Option Int)
  | [] => some none
  | mark :: rest =>
    let (negative, digits) := exponentSign rest
    if (mark = 'e' || mark = 'E') && !digits.isEmpty && digits.all Char.isDigit then
      let size : Int := Nat.ofDigitChars 10 digits 0
      some (some (if negative then -size else size))
    else none

/-- Reads a numeral: an optional minus sign, an integer without superfluous
zeros, an optional fraction, an optional exponent. -/
def ofChars? (cs : List Char) : Option Numeral := do
  let negative := cs.head? = some '-'
  let (whole, rest) ← digits? (if negative then cs.drop 1 else cs)
  if whole.head? = some '0' && whole.length > 1 then none
  let (fraction, rest) ← fraction? rest
  let exponent ← exponent? rest
  some { negative, whole, fraction, exponent }

-- ================================================================ value

/-- The integer that the numeral writes, if it fits 64 bits. A fraction or an
exponent, even an idle one, makes it none; so does the sign of a negative
zero. -/
def integer? (n : Numeral) : Option Int :=
  let size := Nat.ofDigitChars 10 n.whole 0
  if n.fraction.isSome || n.exponent.isSome then none
  else if n.negative then
    if size = 0 || size > Nat.pow 2 63 then none else some (-(size : Int))
  else if size < UInt64.size then some size else none

/-- The number with the digits appended one by one as long as it fits 64 bits,
and the digits that are left. -/
def append (size : Nat) : List Char → Nat × List Char
  | [] => (size, [])
  | c :: rest =>
    let next := 10 * size + (c.toNat - 48)
    if next < UInt64.size then append next rest else (size, c :: rest)

/-- The decimal that the numeral is reckoned from. A whole digit that is left
over still counts as a place. -/
def decimal (n : Numeral) : Decimal :=
  let fraction := n.fraction.getD []
  let (whole, places) := append 0 n.whole
  let (digits, unread) := append whole fraction
  ⟨digits, places.length - (fraction.length - unread.length : Nat) + n.exponent.getD 0⟩

/-- The double that the numeral writes, if one is near. -/
def double? (n : Numeral) : Option Double :=
  (Magnitude.ofDecimal? n.decimal).map fun m => ⟨n.negative, m⟩

/-- The numeral as it stands. -/
def document (n : Numeral) : Document :=
  match n.integer? with
  | some i => .int i
  | none =>
    match n.double? with
    | some x => .real x
    | none => .valueless

end Numeral

end SharedGateway.Json
