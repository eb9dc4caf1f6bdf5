import Mathlib.Data.String.Basic

/-!
# Texts and their bytes

Texts are compared character by character, and the files that they come from compare them
byte by byte. The two agree: of two characters the smaller one has the smaller bytes, since
the first byte tells how long a character is and the bytes behind it are the digits of its
number. Tables are therefore in the order of the bytes of their keys.
-/

namespace ChestMenu.Text

/-- The bytes that a text is stored with. -/
def bytes (text : String) : List UInt8 := text.toUTF8.data.toList

/-- The bytes of a text are those of its characters, one after the other. -/
theorem bytes_eq (text : String) : bytes text = text.toList.flatMap String.utf8EncodeChar := by
  have encoded : text.toUTF8 = text.toList.utf8Encode := by
    rw [String.toUTF8_eq_toByteArray, ← String.toByteArray_ofList, String.ofList_toList]
  rw [bytes, encoded, List.utf8Encode]
  simp

/-- Bytes are compared as the numbers that they are. -/
theorem byte_cons_lt_iff {m n : Nat} (small : m < 256) (small' : n < 256)
    {rest rest' : List UInt8} :
    UInt8.ofNat m :: rest < UInt8.ofNat n :: rest' ↔ m < n ∨ m = n ∧ rest < rest' := by
  have first : (UInt8.ofNat m).toNat = m := UInt8.toNat_ofNat_of_lt' small
  have second : (UInt8.ofNat n).toNat = n := UInt8.toNat_ofNat_of_lt' small'
  rw [List.cons_lt_cons_iff, UInt8.lt_iff_toNat_lt, ← UInt8.toNat_inj, first, second]

/-- The bytes of a smaller character are smaller, whatever follows. -/
theorem encoded_lt {c d : Char} (before : c < d) (rest rest' : List UInt8) :
    String.utf8EncodeChar c ++ rest < String.utf8EncodeChar d ++ rest' := by
  have smaller : c.val.toNat < d.val.toNat := before
  have bounded : d.val.toNat < 0x110000 := by
    have valid := d.valid
    simp only [UInt32.isValidChar, Nat.isValidChar] at valid
    omega
  -- the bytes are digits to the base 64, so every division is one by that base
  have twice (n : Nat) : n / 4096 = n / 64 / 64 := by omega
  have thrice (n : Nat) : n / 262144 = n / 64 / 64 / 64 := by omega
  simp only [String.utf8EncodeChar, twice, thrice]
  generalize c.val.toNat = m at *
  generalize d.val.toNat = n at *
  -- each of the two has one of four lengths
  repeat' split
  all_goals
    simp (disch := omega) only [List.cons_append, List.nil_append, byte_cons_lt_iff]
    omega

theorem encoded_all_lt {cs ds : List Char} (before : List.Lex (· < ·) cs ds) :
    List.Lex (· < ·) (cs.flatMap String.utf8EncodeChar) (ds.flatMap String.utf8EncodeChar) := by
  induction before with
  | @nil d rest =>
    rw [List.flatMap_nil, List.flatMap_cons]
    obtain ⟨first, others, encoded⟩ := List.exists_cons_of_ne_nil (@String.utf8EncodeChar_ne_nil d)
    rw [encoded]
    exact .nil
  | rel smaller => exact encoded_lt smaller _ _
  | cons later inductionHypothesis => exact List.Lex.append_left _ inductionHypothesis _

theorem bytes_lt_of_lt {first second : String} (before : first < second) :
    bytes first < bytes second := by
  rw [bytes_eq, bytes_eq]
  exact encoded_all_lt before

/-- Texts are in the order of their bytes. -/
theorem lt_iff_bytes_lt {first second : String} : first < second ↔ bytes first < bytes second := by
  refine ⟨bytes_lt_of_lt, fun before => ?_⟩
  rcases Std.lt_trichotomy first second with h | rfl | h
  · exact h
  · exact absurd before (List.lt_irrefl _)
  · exact absurd (bytes_lt_of_lt h) (List.lt_asymm before)

theorem le_iff_bytes_le {first second : String} : first ≤ second ↔ bytes first ≤ bytes second := by
  rw [← String.not_lt, ← List.not_lt, lt_iff_bytes_lt]

end ChestMenu.Text
