/-
The order of texts is the order of their bytes. Texts are compared character by
character, and in UTF-8 a greater character has the greater bytes: a longer
encoding starts with a greater byte, and two equally long ones spell the digits of
their code points (`encoded_lt`). So a list of texts in ascending order is one in
ascending byte order (`bytes_lt_bytes`).
-/
import Mathlib.Tactic.SplitIfs
import SharedGateway.Table

namespace SharedGateway.Text

open String (utf8EncodeChar)

-- =============================================================== bytes

/-- The UTF-8 bytes of a text. -/
def bytes (s : String) : List UInt8 :=
  s.toUTF8.data.toList

/-- The bytes of a text are those of its characters, one after another. -/
theorem bytes_eq (s : String) : bytes s = s.toList.flatMap utf8EncodeChar := by
  have encoded : s.toUTF8 = s.toList.utf8Encode := by
    rw [String.toUTF8, ← String.toByteArray_ofList, String.ofList_toList]
  rw [bytes, encoded, List.utf8Encode, List.data_toByteArray]

-- =============================================================== order

/-- Of two characters the greater has the greater bytes, and neither encoding is the
start of the other, so what follows them does not matter. -/
theorem encoded_lt {c d : Char} (before : c < d) (s t : List UInt8) :
    utf8EncodeChar c ++ s < utf8EncodeChar d ++ t := by
  have less : c.val.toNat < d.val.toNat := before
  have bound : d.val.toNat < 0x110000 := by
    have valid : d.val.toNat < 0xD800 ∨ 0xDFFF < d.val.toNat ∧ d.val.toNat < 0x110000 := d.valid
    omega
  generalize lower : c.val.toNat = v at less
  generalize upper : d.val.toNat = u at less bound
  have digits (n : Nat) : n / 4096 = n / 64 / 64 ∧ n / 262144 = n / 64 / 64 / 64 := by
    omega
  unfold utf8EncodeChar
  simp only [lower, upper, (digits v).1, (digits v).2, (digits u).1, (digits u).2]
  -- One case for each pair of lengths; a shorter encoding of `d` contradicts `less`.
  split_ifs <;>
    simp only [List.cons_append, List.nil_append, List.cons_lt_cons_iff, UInt8.lt_iff_toNat_lt,
      ← UInt8.toNat_inj, UInt8.toNat_ofNat'] <;>
    omega

/-- What is less character by character is less byte by byte. -/
theorem flatMap_encoded_lt {l l' : List Char} (before : l < l') :
    l.flatMap utf8EncodeChar < l'.flatMap utf8EncodeChar := by
  induction List.lex_lt.2 before with
  | nil =>
    rename_i c rest
    rw [List.flatMap_nil, List.flatMap_cons]
    cases encoded : utf8EncodeChar c with
    | nil => exact absurd encoded String.utf8EncodeChar_ne_nil
    | cons byte others => exact List.nil_lt_cons _ _
  | rel first => exact encoded_lt first _ _
  | cons _ ih => exact List.append_left_lt (ih (List.lex_lt.1 ‹_›))

/-- Texts are in the order of their bytes. -/
theorem bytes_lt_bytes {a b : String} : bytes a < bytes b ↔ a < b := by
  have ascends : ∀ {a b : String}, a < b → bytes a < bytes b := fun {a b} before => by
    rw [bytes_eq, bytes_eq]
    exact flatMap_encoded_lt (String.lt_iff.1 before)
  refine ⟨fun less => ?_, ascends⟩
  rcases KeyOrder.connected a b with before | same | after
  · exact before
  · exact absurd (same ▸ less) (List.lt_irrefl _)
  · exact absurd (List.lt_trans less (ascends after)) (List.lt_irrefl _)

end SharedGateway.Text
