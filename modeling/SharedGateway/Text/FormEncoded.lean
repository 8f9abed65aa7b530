/-
Form encoding of one query value, as `application/x-www-form-urlencoded` asks:
letters, digits and four marks stand for themselves, a space is a plus sign,
and every other byte of the UTF-8 form is a percent sign and two digits.
-/

namespace SharedGateway.Text

/-- A byte as two uppercase hexadecimal digits after a percent sign. -/
def percentByte (b : UInt8) : List Char :=
  let digits := (Nat.toDigits 16 b.toNat).map Char.toUpper
  '%' :: (if digits.length < 2 then '0' :: digits else digits)

/-- The marks that need no encoding. -/
def bareMarks : List Char := ['*', '-', '.', '_']

/-- One character of an encoded value. -/
def formChar (c : Char) : List Char :=
  if c.isAlphanum || bareMarks.contains c then [c]
  else if c = ' ' then ['+']
  else (String.singleton c).toUTF8.toList.flatMap percentByte

/-- The encoded form of a query value. -/
def formEncoded (s : String) : String :=
  String.ofList (s.toList.flatMap formChar)

end SharedGateway.Text
