/-
Unsigned decimal numerals as they stand in settings: one optional plus sign,
then ASCII digits and nothing else. Leading zeros are allowed, digits of other
scripts are not, and a numeral that does not fit its width is no numeral.
-/

namespace SharedGateway.Text

/-- The value of a run of ASCII digits; `none` for the empty run and for a run
that holds anything else. -/
def digitsValue? (cs : List Char) : Option Nat :=
  if cs.isEmpty || !cs.all Char.isDigit then none
  else some (Nat.ofDigitChars 10 cs 0)

/-- The value of a numeral, which may carry one plus sign. -/
def numeral? : List Char → Option Nat
  | '+' :: digits => digitsValue? digits
  | digits => digitsValue? digits

/-- The value of a numeral that lies below `bound`. -/
def numeralBelow? (bound : Nat) (cs : List Char) : Option Nat :=
  (numeral? cs).filter (· < bound)

end SharedGateway.Text
