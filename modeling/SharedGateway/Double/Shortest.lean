/-
The written form of a double: the fewest digits that read back as the same
number, the nearest of those, a tie to the even one. Numbers from 0.00001 up to
below ten to the sixteenth are written out; all others have an exponent.
-/
import SharedGateway.Double.Basic

namespace SharedGateway

-- =============================================================== digits

namespace Magnitude

/-- Is the decimal nearer to this magnitude than to its neighbours? A decimal
halfway between two counts for the one whose digits are even. The neighbour
below a power of two is half as far away as the one above it. -/
def readsBack (m : Magnitude) (d : Decimal) : Bool :=
  let quarters := 4 * m.digits
  let least := if m.digits = Nat.pow 2 52 && m.power ≠ -1074 then quarters - 1 else quarters - 2
  let most := quarters + 2
  let decimal := d.digits * Nat.pow 10 d.power.toNat * Nat.pow 2 (2 - m.power).toNat
  let unit := Nat.pow 2 (m.power - 2).toNat * Nat.pow 10 (-d.power).toNat
  if m.digits % 2 = 0 then least * unit ≤ decimal && decimal ≤ most * unit
  else least * unit < decimal && decimal < most * unit

/-- The decimal of that power nearest to the magnitude, if one reads back. -/
def decimalAt? (m : Magnitude) (power : Int) : Option Decimal :=
  let numerator := m.numerator * Nat.pow 10 (-power).toNat
  let denominator := m.denominator * Nat.pow 10 power.toNat
  let below := numerator / denominator
  match m.readsBack ⟨below, power⟩, m.readsBack ⟨below + 1, power⟩ with
  | false, false => none
  | true, false => some ⟨below, power⟩
  | false, true => some ⟨below + 1, power⟩
  | true, true => some ⟨roundedQuotient numerator denominator, power⟩

/-- The decimal of the greatest power, from `power` down, that reads back. -/
def decimalBelow (m : Magnitude) : Nat → Int → Decimal
  | 0, power => ⟨roundedQuotient (m.numerator * Nat.pow 10 (-power).toNat)
      (m.denominator * Nat.pow 10 power.toNat), power⟩
  | steps + 1, power =>
    match m.decimalAt? power with
    | some d => d
    | none => decimalBelow m steps (power - 1)

/-- A power of ten above the magnitude. -/
def powerAbove (m : Magnitude) : Int :=
  (((m.digits.log2 : Int) + 1 + m.power) * 30103).fdiv 100000 + 2

/-- The shortest decimal that reads back. Seventeen digits always do. -/
def shortest (m : Magnitude) : Decimal :=
  m.decimalBelow 21 m.powerAbove

end Magnitude

-- =============================================================== layout

namespace Decimal

/-- So many zeros. -/
def zeros (n : Nat) : List Char :=
  List.replicate n '0'

/-- The decimal written out, with at least one digit on each side of the
point. -/
def positional (digits : List Char) (power : Int) : List Char :=
  if 0 ≤ power then digits ++ zeros power.toNat ++ ['.', '0']
  else
    let places := power.natAbs
    if places < digits.length then
      digits.take (digits.length - places) ++ '.' :: digits.drop (digits.length - places)
    else '0' :: '.' :: zeros (places - digits.length) ++ digits

/-- The decimal as one digit, the rest behind a point, and a signed exponent. -/
def scientific (digits : List Char) (exponent : Int) : List Char :=
  let fraction := if digits.length ≤ 1 then [] else '.' :: digits.drop 1
  digits.take 1 ++ fraction ++ 'e' :: (if exponent < 0 then '-' else '+')
    :: Nat.toDigits 10 exponent.natAbs

/-- The written form. -/
def toChars (d : Decimal) : List Char :=
  let digits := Nat.toDigits 10 d.digits
  let exponent := d.power + digits.length - 1
  if -5 ≤ exponent ∧ exponent ≤ 15 then positional digits d.power
  else scientific digits exponent

end Decimal

namespace Double

/-- The written form. -/
def toText (x : Double) : String :=
  let size :=
    if x.magnitude.digits = 0 then ['0', '.', '0'] else x.magnitude.shortest.toChars
  String.ofList (if x.negative then '-' :: size else size)

end Double

end SharedGateway
