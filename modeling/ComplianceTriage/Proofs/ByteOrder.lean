import ComplianceTriage.DesiredState.Index
import Mathlib.Data.Prod.Lex
import Mathlib.Tactic.SplitIfs

/-!
# The order of bytes

Keys are ordered by the characters of their parts. The bytes of their parts in UTF-8 give the same
order (`Key.bytes_lt_bytes_iff`). The reason is that the number of a character is written in its
bytes with the highest digit in front, and that the first byte tells how many follow: of two
characters, the one of the smaller number is written in bytes that come first, whatever is written
behind them (`utf8EncodeChar_append_lt`).
-/

namespace ComplianceTriage

namespace Text

/-! ## Characters -/

/-- Bytes are in the order of their numbers. -/
theorem byte_lt_iff {m n : Nat} (hm : m < 256) (hn : n < 256) :
    UInt8.ofNat m < UInt8.ofNat n ↔ m < n := by
  rw [UInt8.lt_iff_toNat_lt, UInt8.toNat_ofNat_of_lt' hm, UInt8.toNat_ofNat_of_lt' hn]

/-- Bytes are equal if their numbers are. -/
theorem byte_eq_iff {m n : Nat} (hm : m < 256) (hn : n < 256) :
    UInt8.ofNat m = UInt8.ofNat n ↔ m = n := by
  rw [← UInt8.toNat_inj, UInt8.toNat_ofNat_of_lt' hm, UInt8.toNat_ofNat_of_lt' hn]

/-- Of two numbers the smaller has the smaller digit, by 64, where they first differ. -/
theorem digit_lt {m n : Nat} (h : m < n) :
    m / 262144 < n / 262144 ∨
      m / 262144 = n / 262144 ∧ (m / 4096 % 64 < n / 4096 % 64 ∨
        m / 4096 % 64 = n / 4096 % 64 ∧ (m / 64 % 64 < n / 64 % 64 ∨
          m / 64 % 64 = n / 64 % 64 ∧ m % 64 < n % 64)) := by
  omega

/-- Of two characters the one that comes first is written in bytes that come first, whatever is
written behind them. -/
theorem utf8EncodeChar_append_lt {c d : Char} (h : c < d) (behind behind' : List UInt8) :
    String.utf8EncodeChar c ++ behind < String.utf8EncodeChar d ++ behind' := by
  have hlt : c.val.toNat < d.val.toNat := h
  have hmax : d.val.toNat < 0x110000 := d.valid.elim (fun h => by omega) (fun h => by omega)
  unfold String.utf8EncodeChar
  generalize c.val.toNat = m at hlt
  generalize d.val.toNat = n at hlt hmax
  dsimp only
  have hdigit := digit_lt hlt
  -- No character has so large a number that its highest digit is cut.
  have hm : m / 262144 % 8 = m / 262144 := by omega
  have hn : n / 262144 % 8 = n / 262144 := by omega
  rw [hm, hn]
  -- Either the first bytes differ, as there are more of them for larger numbers, or all the bytes
  -- are digits of the same places.
  split_ifs <;>
    simp (disch := omega) only [List.cons_append, List.nil_append, List.cons_lt_cons_iff,
      byte_lt_iff, byte_eq_iff] <;>
    omega

/-! ## Texts -/

/-- The bytes of a text in UTF-8. -/
def bytes (s : String) : List UInt8 :=
  s.toUTF8.data.toList

/-- The bytes of a text are those of its characters, one after the other. -/
theorem bytes_eq_flatMap (s : String) : bytes s = s.toList.flatMap String.utf8EncodeChar := by
  rw [bytes, String.toUTF8_eq_toByteArray, ← String.utf8Encode_toList, List.utf8Encode,
    List.toList_data_toByteArray]

/-- Texts with the same bytes are equal. -/
theorem bytes_inj {a b : String} : bytes a = bytes b ↔ a = b := by
  unfold bytes
  rw [Array.toList_inj, String.toUTF8_eq_toByteArray, String.toUTF8_eq_toByteArray,
    ← ByteArray.ext_iff, String.toByteArray_inj]

/-- The bytes of a text that comes first come first. -/
theorem flatMap_utf8EncodeChar_lt {a b : List Char} (h : a < b) :
    a.flatMap String.utf8EncodeChar < b.flatMap String.utf8EncodeChar := by
  -- The first characters that differ decide, and no character is written in no bytes.
  induction a generalizing b with
  | nil =>
    cases b with
    | nil => exact absurd h (List.not_lt_nil [])
    | cons d b =>
      obtain ⟨byte, rest, hbytes⟩ :=
        List.exists_cons_of_ne_nil (String.utf8EncodeChar_ne_nil (c := d))
      rw [List.flatMap_nil, List.flatMap_cons, hbytes]
      exact List.nil_lt_cons byte _
  | cons c a ih =>
    cases b with
    | nil => exact absurd h (List.not_lt_nil _)
    | cons d b =>
      rw [List.flatMap_cons, List.flatMap_cons]
      rcases List.cons_lt_cons_iff.1 h with hfirst | ⟨rfl, hrest⟩
      · exact utf8EncodeChar_append_lt hfirst _ _
      · exact List.append_left_lt (ih hrest)

/-- Texts are in the order of their bytes. -/
theorem bytes_lt_bytes_iff {a b : String} : bytes a < bytes b ↔ a < b := by
  have hmono : ∀ {a b : String}, a < b → bytes a < bytes b := by
    intro a b h
    rw [bytes_eq_flatMap, bytes_eq_flatMap]
    exact flatMap_utf8EncodeChar_lt h
  refine ⟨fun h => Decidable.byContradiction fun hnot => ?_, hmono⟩
  -- Otherwise the texts are equal or in the opposite order, and so are their bytes.
  by_cases hgt : b < a
  · exact List.lt_asymm h (hmono hgt)
  · have hsame : a = b := String.le_antisymm (String.not_lt.1 hgt) (String.not_lt.1 hnot)
    rw [hsame] at h
    exact List.lt_irrefl _ h

end Text

namespace DesiredState.Key

/-- The bytes of template, kind and name. Of two keys these are compared in turn. -/
def bytes (key : Key) : List UInt8 ×ₗ List UInt8 ×ₗ List UInt8 :=
  toLex (Text.bytes key.template, toLex (Text.bytes key.kind, Text.bytes key.name))

/-- Keys are in the order of their bytes. -/
theorem bytes_lt_bytes_iff {a b : Key} : a.bytes < b.bytes ↔ a.Before b := by
  unfold bytes Before
  rw [Prod.Lex.toLex_lt_toLex, Prod.Lex.toLex_lt_toLex]
  simp only [Text.bytes_lt_bytes_iff, Text.bytes_inj]

end DesiredState.Key

end ComplianceTriage
