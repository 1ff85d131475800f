import ReviewAssignment.Proofs.ByteOrder

/-!
# Encoded texts are read back

The bytes of a character take the reader from one point between sequences to the next, with the character
read (`Utf8.foldl_step_encodeChar`).  So the bytes of a text are read as its characters, and none of them is
ill-formed.
-/

namespace ReviewAssignment.Text.Utf8

variable {read : List Chunk} {sequence : Sequence} {n owed : Nat}

theorem toNat_toUInt8 (h : n < 256) : n.toUInt8.toNat = n := by
  simp only [Nat.toUInt8, UInt8.toNat_ofNat']
  omega

/-- A byte that opens a sequence. -/
theorem step_opening (hByte : n < 256) (hHigh : 0x80 ≤ n) (hOpened : opened? n = some sequence) :
    Progress.step ⟨read, none⟩ n.toUInt8 = ⟨read, some sequence⟩ := by
  simp only [Progress.step, toNat_toUInt8 hByte, begin]
  rw [if_neg (Nat.not_lt.2 hHigh), hOpened]

/-- The last byte of a sequence. -/
theorem step_last (hOwed : sequence.owed = 0) (hLow : sequence.low ≤ 0x80 + n % 0x40)
    (hHigh : 0x80 + n % 0x40 ≤ sequence.high) :
    Progress.step ⟨read, some sequence⟩ (0x80 + n % 0x40).toUInt8 =
      ⟨.char (Char.ofNat (0x40 * sequence.bits + n % 0x40)) :: read, none⟩ := by
  have hByte : 0x80 + n % 0x40 < 256 := by omega
  simp only [Progress.step, toNat_toUInt8 hByte]
  rw [if_pos ⟨hLow, hHigh⟩, hOwed, Nat.add_sub_cancel_left]

/-- A byte inside a sequence, with others to come. -/
theorem step_inner (hOwed : sequence.owed = owed + 1) (hLow : sequence.low ≤ 0x80 + n % 0x40)
    (hHigh : 0x80 + n % 0x40 ≤ sequence.high) :
    Progress.step ⟨read, some sequence⟩ (0x80 + n % 0x40).toUInt8 =
      ⟨read, some ⟨sequence.length + 1, 0x40 * sequence.bits + n % 0x40, owed, 0x80, 0xBF⟩⟩ := by
  have hByte : 0x80 + n % 0x40 < 256 := by omega
  simp only [Progress.step, toNat_toUInt8 hByte]
  rw [if_pos ⟨hLow, hHigh⟩, hOwed, Nat.add_sub_cancel_left]

/-! ### The opening bytes -/

theorem opened?_two (hLow : 0x80 ≤ n) (hHigh : n < 0x800) :
    opened? (0xC0 + n / 0x40) = some ⟨1, n / 0x40, 0, 0x80, 0xBF⟩ := by
  rw [opened?, if_pos (by omega), Nat.add_sub_cancel_left]

theorem opened?_three (hLow : 0x800 ≤ n) (hHigh : n < 0x10000) :
    opened? (0xE0 + n / 0x1000) = some ⟨1, n / 0x1000, 1,
      if n < 0x1000 then 0xA0 else 0x80, if n / 0x1000 = 0xD then 0x9F else 0xBF⟩ := by
  rw [opened?, if_neg (by omega), if_pos (by omega), Nat.add_sub_cancel_left]
  congr 2
  · exact if_congr (by omega) rfl rfl
  · exact if_congr (by omega) rfl rfl

theorem opened?_four (hLow : 0x10000 ≤ n) (hHigh : n < 0x110000) :
    opened? (0xF0 + n / 0x40000) = some ⟨1, n / 0x40000, 2,
      if n < 0x40000 then 0x90 else 0x80, if n / 0x40000 = 4 then 0x8F else 0xBF⟩ := by
  rw [opened?, if_neg (by omega), if_neg (by omega), if_pos (by omega), Nat.add_sub_cancel_left]
  congr 2
  · exact if_congr (by omega) rfl rfl
  · exact if_congr (by omega) rfl rfl

/-! ### Characters and texts -/

/-- **The bytes of a character** are read as the character. -/
theorem foldl_step_encodeChar (c : Char) (read : List Chunk) :
    (encodeChar c).foldl Progress.step ⟨read, none⟩ = ⟨.char c :: read, none⟩ := by
  have hEnd := toNat_lt c
  -- Where surrogates would be, the second byte has a bound of its own.
  have hNoSurrogate : c.toNat < 0xD800 ∨ 0xDFFF < c.toNat := by
    rcases c.valid with hLow | ⟨hHigh, -⟩
    · exact .inl hLow
    · exact .inr hHigh
  -- For each number of bytes, the digits that the bytes carry add up to the number of the character.
  rw [encodeChar]
  simp only
  split_ifs with hOne hTwo hThree <;> simp only [List.foldl_cons, List.foldl_nil]
  · rw [Progress.step]
    simp only [toNat_toUInt8 (show c.toNat < 256 by omega)]
    rw [begin, if_pos hOne, Char.ofNat_toNat]
  · rw [step_opening (by omega) (by omega) (opened?_two (by omega) hTwo),
      step_last rfl (by simp only; omega) (by simp only; omega)]
    simp only
    rw [show 0x40 * (c.toNat / 0x40) + c.toNat % 0x40 = c.toNat by omega, Char.ofNat_toNat]
  · rw [step_opening (by omega) (by omega) (opened?_three (by omega) hThree),
      step_inner rfl (by simp only; split_ifs <;> omega) (by simp only; split_ifs <;> omega),
      step_last rfl (by simp only; omega) (by simp only; omega)]
    simp only
    rw [show 0x40 * (0x40 * (c.toNat / 0x1000) + c.toNat / 0x40 % 0x40) + c.toNat % 0x40 = c.toNat by
      omega, Char.ofNat_toNat]
  · rw [step_opening (by omega) (by omega) (opened?_four (by omega) hEnd),
      step_inner rfl (by simp only; split_ifs <;> omega) (by simp only; split_ifs <;> omega),
      step_inner rfl (by simp only; omega) (by simp only; omega),
      step_last rfl (by simp only; omega) (by simp only; omega)]
    simp only
    rw [show 0x40 * (0x40 * (0x40 * (c.toNat / 0x40000) + c.toNat / 0x1000 % 0x40) +
      c.toNat / 0x40 % 0x40) + c.toNat % 0x40 = c.toNat by omega, Char.ofNat_toNat]

/-- The bytes of a text are read as its characters. -/
theorem decode_encode (text : String) : decode (encode text) = text.toList.map .char := by
  have hStep : ∀ (chars : List Char) (read : List Chunk),
      (chars.flatMap encodeChar).foldl Progress.step ⟨read, none⟩ =
        ⟨(chars.map .char).reverse ++ read, none⟩ := by
    intro chars
    induction chars with
    | nil => intro read; rfl
    | cons c chars ih =>
      intro read
      rw [List.flatMap_cons, List.foldl_append, foldl_step_encodeChar, ih, List.map_cons,
        List.reverse_cons, List.append_assoc, List.singleton_append]
  rw [decode, encode, hStep, Progress.finish, List.append_nil, List.reverse_reverse]

theorem decodeExact_encode (text : String) : decodeExact (encode text) = text.toList.map some := by
  rw [decodeExact, decode_encode, List.flatMap_map]
  exact List.flatMap_pure_eq_map some text.toList

theorem decodeLossy_encode (text : String) : decodeLossy (encode text) = text := by
  rw [decodeLossy, decode_encode, List.map_map]
  exact (congrArg String.ofList (List.map_id text.toList)).trans String.ofList_toList

end ReviewAssignment.Text.Utf8
