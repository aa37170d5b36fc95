/-
Module: VolumeAttach.Proofs.ByteOrder
Purpose: The order of texts by their characters is the order of their bytes.
Main exports: encode_eq_flatMap, utf8EncodeChar_append_lt, encode_lt_encode_iff
-/
import Mathlib.Data.List.Lex
import Mathlib.Data.String.Basic
import VolumeAttach.Text.Bytes

namespace VolumeAttach.Text

/-!
UTF-8 was made so that comparing bytes compares characters: a character of a higher number
starts with a higher byte, or with the same byte and goes on with a higher one.  What
follows the two characters therefore plays no part.
-/

/-- The bytes of a text are those of its characters in order. -/
theorem encode_eq_flatMap (s : String) : encode s = s.toList.flatMap String.utf8EncodeChar := by
  have bytes : s.toByteArray = (s.toList.flatMap String.utf8EncodeChar).toByteArray := by
    rw [← List.utf8Encode, ← String.toByteArray_ofList, String.ofList_toList]
  rw [encode, String.toUTF8, bytes, List.data_toByteArray]

/-- Lists of bytes are ordered by their first byte, and behind equal first bytes by the rest. -/
theorem cons_lt_cons_iff_toNat {a b : UInt8} {xs ys : Bytes} :
    a :: xs < b :: ys ↔ a.toNat < b.toNat ∨ (a.toNat = b.toNat ∧ xs < ys) := by
  rw [List.cons_lt_cons_iff, UInt8.lt_iff_toNat_lt, UInt8.toNat_inj]

/-- A byte that goes on a character carries a digit to the base 64. -/
theorem continuation_fits (n : Nat) : (n % 64 + 128) % 2 ^ 8 = n % 64 + 128 := by
  omega

/-- The byte that begins a character of four bytes carries its highest digit. -/
theorem leading_fits (n : Nat) : (n % 8 + 240) % 2 ^ 8 = n % 8 + 240 := by
  omega

/-- The lower of two numbers is lower in the digits before the last one, or it agrees there
and its last digit is lower. -/
theorem digits_lt {m n : Nat} (below : m < n) :
    m / 64 < n / 64 ∨ (m / 64 = n / 64 ∧ m % 64 < n % 64) := by
  omega

/-- A lower character is written as lower bytes, whatever follows. -/
theorem utf8EncodeChar_append_lt {c d : Char} (below : c < d) (xs ys : Bytes) :
    String.utf8EncodeChar c ++ xs < String.utf8EncodeChar d ++ ys := by
  have order : c.val.toNat < d.val.toNat := below
  have bound : d.val.toNat < 0x110000 := by
    have valid := d.valid
    simp only [UInt32.isValidChar, Nat.isValidChar] at valid
    omega
  have nested : ∀ k : Nat, k / 4096 = k / 64 / 64 ∧ k / 262144 = k / 64 / 64 / 64 := by omega
  simp only [String.utf8EncodeChar, nested]
  -- The length of a character's form is told by its number, and so is each of its bytes.
  split_ifs <;>
  · simp only [List.cons_append, List.nil_append, cons_lt_cons_iff_toNat, UInt8.toNat_ofNat',
      continuation_fits, leading_fits]
    rcases digits_lt order with high | ⟨high, low⟩
    · rcases digits_lt high with high | ⟨high, low⟩
      · rcases digits_lt high with high | ⟨high, low⟩
        · omega
        · omega
      · omega
    · omega

/-- A lower text has lower bytes. -/
theorem flatMap_utf8EncodeChar_lt {cs ds : List Char} (below : cs < ds) :
    cs.flatMap String.utf8EncodeChar < ds.flatMap String.utf8EncodeChar := by
  induction below with
  | @nil d rest =>
      have length := String.length_utf8EncodeChar d
      have positive := Char.utf8Size_pos d
      rw [List.flatMap_cons]
      cases written : String.utf8EncodeChar d with
      | nil =>
          rw [written, List.length_nil] at length
          omega
      | cons byte bytes => exact List.nil_lt_cons byte _
  | cons _ ih => exact List.Lex.append_left _ ih _
  | rel below => exact utf8EncodeChar_append_lt below _ _

/-- Texts stand in the order of their bytes. -/
theorem encode_lt_encode_iff {s t : String} : encode s < encode t ↔ s < t := by
  have forth : ∀ {a b : String}, a < b → encode a < encode b := by
    intro a b below
    rw [encode_eq_flatMap, encode_eq_flatMap]
    exact flatMap_utf8EncodeChar_lt (String.lt_iff_toList_lt.mp below)
  constructor
  · intro bytes
    by_contra notBelow
    rcases (String.not_lt.mp notBelow).lt_or_eq with above | same
    · exact List.lt_asymm bytes (forth above)
    · subst same
      exact List.lt_irrefl _ bytes
  · exact forth

end VolumeAttach.Text
