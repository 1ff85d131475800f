import ReviewAssignment.Text.Utf8
import Mathlib.Data.String.Basic

/-!
# The order of texts is the order of their bytes

Texts are ordered by their characters.  UTF-8 keeps this order (`Utf8.encode_lt_encode_iff`), so a list of
texts that is in order is also in the order of the bytes they are written as.
-/

namespace ReviewAssignment.Text.Utf8

theorem toUInt8_lt_iff {m n : Nat} (hM : m < 256) (hN : n < 256) : m.toUInt8 < n.toUInt8 ↔ m < n := by
  rw [UInt8.lt_iff_toNat_lt]
  simp only [Nat.toUInt8, UInt8.toNat_ofNat']
  omega

theorem toUInt8_inj {m n : Nat} (hM : m < 256) (hN : n < 256) : m.toUInt8 = n.toUInt8 ↔ m = n := by
  rw [← UInt8.toNat_inj]
  simp only [Nat.toUInt8, UInt8.toNat_ofNat']
  omega

theorem toNat_lt (c : Char) : c.toNat < 0x110000 := by
  rcases c.valid with hLow | ⟨-, hHigh⟩
  · exact Nat.lt_trans hLow (by decide)
  · exact hHigh

/-- The bytes of the smaller character come first, whatever follows. -/
theorem encodeChar_lt {c d : Char} (h : c < d) (early late : List UInt8) :
    encodeChar c ++ early < encodeChar d ++ late := by
  have hLt : c.toNat < d.toNat := h
  have hC := toNat_lt c
  have hD := toNat_lt d
  -- Of two different lengths the first bytes decide, of one length the first digits that differ.
  rw [encodeChar, encodeChar]
  simp only
  split_ifs <;>
    simp (disch := omega) only [List.cons_append, List.nil_append, List.cons_lt_cons_iff,
      toUInt8_lt_iff, toUInt8_inj] <;>
    omega

theorem exists_encodeChar (c : Char) : ∃ first rest, encodeChar c = first :: rest := by
  rw [encodeChar]
  simp only
  split_ifs <;> exact ⟨_, _, rfl⟩

theorem flatMap_encodeChar_lt {a b : List Char} (h : a < b) :
    a.flatMap encodeChar < b.flatMap encodeChar := by
  induction h with
  | nil =>
    rename_i c rest
    obtain ⟨first, others, hFirst⟩ := exists_encodeChar c
    rw [List.flatMap_cons, hFirst]
    exact List.nil_lt_cons _ _
  | rel h =>
    rw [List.flatMap_cons, List.flatMap_cons]
    exact encodeChar_lt h _ _
  | cons _ ih =>
    rw [List.flatMap_cons, List.flatMap_cons]
    exact List.append_left_lt ih

/-- **Texts are ordered as their bytes are.** -/
theorem encode_lt_encode_iff {a b : String} : encode a < encode b ↔ a < b := by
  have hKept : ∀ {a b : String}, a < b → encode a < encode b := fun h =>
    flatMap_encodeChar_lt (String.lt_iff_toList_lt.1 h)
  refine ⟨fun h => ?_, hKept⟩
  rcases lt_trichotomy a b with hLt | rfl | hGt
  · exact hLt
  · exact absurd h (List.lt_irrefl _)
  · exact absurd (hKept hGt) (List.lt_asymm h)

end ReviewAssignment.Text.Utf8
