/-
Blank characters, and text with the blanks cut off at both ends. The class is
the Unicode property `White_Space`, so the narrow no-break space is blank and
the zero-width space is not.
-/

namespace SharedGateway.Text

-- ============================================================ the class

/-- The code points with the property `White_Space`, as inclusive ranges in
ascending order. -/
def blankRanges : List (Nat × Nat) :=
  [(0x09, 0x0D), (0x20, 0x20), (0x85, 0x85), (0xA0, 0xA0), (0x1680, 0x1680),
   (0x2000, 0x200A), (0x2028, 0x2029), (0x202F, 0x202F), (0x205F, 0x205F),
   (0x3000, 0x3000)]

/-- Is the character blank? -/
def isBlank (c : Char) : Bool :=
  blankRanges.any fun range => range.1 ≤ c.toNat && c.toNat ≤ range.2

/-- The ASCII digits are not blank. -/
theorem isBlank_of_isDigit {c : Char} (digit : c.isDigit = true) : isBlank c = false := by
  simp only [Char.isDigit, Bool.and_eq_true, decide_eq_true_eq] at digit
  obtain ⟨least, most⟩ := digit
  have least : 48 ≤ c.toNat := least
  have most : c.toNat ≤ 57 := most
  rw [← Bool.not_eq_true]
  intro blank
  simp [isBlank, blankRanges] at blank
  omega

-- ============================================================= trimming

/-- The rest of the text after its leading blanks. -/
def dropBlanks (cs : List Char) : List Char :=
  cs.dropWhile isBlank

theorem dropBlanks_cons {c : Char} {rest : List Char} (visible : isBlank c = false) :
    dropBlanks (c :: rest) = c :: rest := by
  simp [dropBlanks, visible]

/-- The text without the blanks at its two ends. -/
def trim (cs : List Char) : List Char :=
  (dropBlanks (dropBlanks cs).reverse).reverse

/-- `trim` on strings. -/
def trimmed (s : String) : String :=
  String.ofList (trim s.toList)

end SharedGateway.Text
