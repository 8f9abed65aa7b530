/-
Numbers in double precision: a sign, and a magnitude of 53 binary digits times
a power of two. A fraction is rounded to the nearest magnitude, a tie to the
even one. All of it is arithmetic of natural numbers, so a numeral has one
value here and on every machine.
-/

namespace SharedGateway

/-- A finite double without its sign: `digits * 2 ^ power`. The power is as
small as the format lets it be, so equal magnitudes are equal structures. -/
structure Magnitude where
  digits : Nat
  power : Int
  deriving DecidableEq, Repr

/-- A finite double. Zero has two signs. -/
structure Double where
  negative : Bool
  magnitude : Magnitude
  deriving DecidableEq, Repr

/-- A decimal: `digits * 10 ^ power`. -/
structure Decimal where
  digits : Nat
  power : Int
  deriving DecidableEq, Repr

-- ============================================================= rounding

/-- The quotient to the nearest natural number, a tie to the even one. -/
def roundedQuotient (numerator denominator : Nat) : Nat :=
  let below := numerator / denominator
  let rest := 2 * (numerator % denominator)
  if rest < denominator || (rest = denominator && below % 2 = 0) then below else below + 1

namespace Magnitude

/-- The magnitude of zero. -/
def zero : Magnitude := ⟨0, -1074⟩

/-- The part of the value that stands above the fraction bar. -/
def numerator (m : Magnitude) : Nat :=
  m.digits * Nat.pow 2 m.power.toNat

/-- The part of the value that stands below the fraction bar. -/
def denominator (m : Magnitude) : Nat :=
  Nat.pow 2 (-m.power).toNat

/-- The power of two at which the fraction has 53 binary digits before the
point, or the least one there is. -/
def powerOf (numerator denominator : Nat) : Int :=
  let guess : Int := (numerator.log2 : Int) - denominator.log2 - 52
  let fits := Nat.pow 2 52 * (denominator * Nat.pow 2 guess.toNat)
    ≤ numerator * Nat.pow 2 (-guess).toNat
  max (if fits then guess else guess - 1) (-1074)

/-- The magnitude nearest to a fraction; none is near one that is too great. -/
def nearest? (numerator denominator : Nat) : Option Magnitude :=
  let power := powerOf numerator denominator
  let digits := roundedQuotient (numerator * Nat.pow 2 (-power).toNat)
    (denominator * Nat.pow 2 power.toNat)
  if digits = 0 then some zero
  else
    let rounded : Magnitude :=
      if digits = Nat.pow 2 53 then ⟨Nat.pow 2 52, power + 1⟩ else ⟨digits, power⟩
    if rounded.power ≤ 971 then some rounded else none

/-- The product of two magnitudes, rounded. -/
def times? (a b : Magnitude) : Option Magnitude :=
  nearest? (a.numerator * b.numerator) (a.denominator * b.denominator)

/-- The quotient of two magnitudes, rounded. -/
def over? (a b : Magnitude) : Option Magnitude :=
  nearest? (a.numerator * b.denominator) (a.denominator * b.numerator)

-- ============================================================== scaling

/-- The greatest power of ten that is a magnitude. -/
def maxTens : Nat := 308

/-- A power of ten. -/
def tens? (n : Nat) : Option Magnitude :=
  nearest? (Nat.pow 10 n) 1

/-- The magnitude divided so many times by the greatest power of ten. -/
def farLeft? (m : Magnitude) : Nat → Option Magnitude
  | 0 => some m
  | steps + 1 =>
    if m.digits = 0 then some zero
    else ((tens? maxTens).bind m.over?).bind fun m => m.farLeft? steps

/-- The magnitude with the point moved to the left, at most `maxTens` places at
a time. -/
def pointLeft? (m : Magnitude) (places : Nat) : Option Magnitude :=
  let steps := (places - 1) / maxTens
  (m.farLeft? steps).bind fun m => (tens? (places - maxTens * steps)).bind m.over?

/-- The magnitude with the point moved to the right. -/
def pointRight? (m : Magnitude) (places : Nat) : Option Magnitude :=
  if m.digits = 0 then some zero
  else if places ≤ maxTens then (tens? places).bind m.times?
  else none

/-- The magnitude of a decimal. The digits, the power and the result are each
rounded, so the last binary digit may be off. -/
def ofDecimal? (d : Decimal) : Option Magnitude :=
  (nearest? d.digits 1).bind fun m =>
    if d.power < 0 then m.pointLeft? d.power.natAbs else m.pointRight? d.power.natAbs

end Magnitude

end SharedGateway
