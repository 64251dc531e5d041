import TokenFilter.Text.Utf8

set_option autoImplicit false

namespace TokenFilter.Text

theorem byte_value (n : Nat) (small : n < 256) : (UInt8.ofNat n).toNat = n := by
  rw [UInt8.toNat_ofNat', Nat.mod_eq_of_lt small]

section Bytes

variable (rest : List UInt8)

theorem decode_alone (n : Nat) (ascii : n < 0x80) :
    decodeFrom none (UInt8.ofNat n :: rest) = Char.ofNat n :: decodeFrom none rest := by
  simp only [decodeFrom, byte_value n (by omega), startWith, if_pos ascii]
  rfl

theorem decode_begun (n : Nat) (sequence : Unfinished) (byte : n < 256) (high : ¬ n < 0x80)
    (begins : begin? n = some sequence) :
    decodeFrom none (UInt8.ofNat n :: rest) = decodeFrom (some sequence) rest := by
  simp only [decodeFrom, byte_value n byte, startWith, if_neg high, begins]
  rfl

theorem decode_last (bits low high n : Nat) (byte : n < 256) (within : low ≤ n ∧ n ≤ high) :
    decodeFrom (some ⟨bits, 1, low, high⟩) (UInt8.ofNat n :: rest) =
      Char.ofNat (bits * 64 + (n - 0x80)) :: decodeFrom none rest := by
  simp only [decodeFrom, byte_value n byte, goOnWith, if_pos within]
  rfl

theorem decode_within (bits missing low high n : Nat) (byte : n < 256) (within : low ≤ n ∧ n ≤ high)
    (more : 1 < missing) :
    decodeFrom (some ⟨bits, missing, low, high⟩) (UInt8.ofNat n :: rest) =
      decodeFrom (some ⟨bits * 64 + (n - 0x80), missing - 1, 0x80, 0xbf⟩) rest := by
  have notLast : ¬ missing ≤ 1 := by omega
  simp only [decodeFrom, byte_value n byte, goOnWith, if_pos within, if_neg notLast]
  rfl

end Bytes

section Sequences

variable (rest : List UInt8) (n : Nat)

theorem two_bytes (above : 0x7f < n) (below : n ≤ 0x7ff) :
    decodeFrom none (UInt8.ofNat (n / 64 % 32 + 192) :: UInt8.ofNat (n % 64 + 128) :: rest) =
      Char.ofNat n :: decodeFrom none rest := by
  have begins : begin? (n / 64 % 32 + 192) = some ⟨n / 64 % 32 + 192 - 0xc0, 1, 0x80, 0xbf⟩ := if_pos (by omega)
  have value : (n / 64 % 32 + 192 - 0xc0) * 64 + (n % 64 + 128 - 0x80) = n := by omega
  rw [decode_begun _ _ _ (by omega) (by omega) begins, decode_last _ _ _ _ _ (by omega) (by omega), value]

-- The limits of the second byte keep out what two bytes could say, and the surrogates.
theorem three_bytes (above : 0x7ff < n) (below : n ≤ 0xffff) (valid : n < 0xd800 ∨ 0xdfff < n) :
    decodeFrom none (UInt8.ofNat (n / 4096 % 16 + 224) :: UInt8.ofNat (n / 64 % 64 + 128) ::
      UInt8.ofNat (n % 64 + 128) :: rest) = Char.ofNat n :: decodeFrom none rest := by
  let low := if n / 4096 % 16 + 224 = 0xe0 then 0xa0 else 0x80
  let high := if n / 4096 % 16 + 224 = 0xed then 0x9f else 0xbf
  have begins : begin? (n / 4096 % 16 + 224) = some ⟨n / 4096 % 16 + 224 - 0xe0, 2, low, high⟩ := by
    rw [begin?, if_neg (by omega), if_pos (by omega)]
  have within : low ≤ n / 64 % 64 + 128 ∧ n / 64 % 64 + 128 ≤ high := by
    constructor
    · unfold low
      split <;> omega
    · unfold high
      split <;> omega
  have value : ((n / 4096 % 16 + 224 - 0xe0) * 64 + (n / 64 % 64 + 128 - 0x80)) * 64 + (n % 64 + 128 - 0x80) = n := by
    omega
  rw [decode_begun _ _ _ (by omega) (by omega) begins, decode_within _ _ _ _ _ _ (by omega) within (by decide),
    decode_last _ _ _ _ _ (by omega) (by omega), value]

theorem four_bytes (above : 0xffff < n) (below : n < 0x110000) :
    decodeFrom none (UInt8.ofNat (n / 262144 % 8 + 240) :: UInt8.ofNat (n / 4096 % 64 + 128) ::
      UInt8.ofNat (n / 64 % 64 + 128) :: UInt8.ofNat (n % 64 + 128) :: rest) =
      Char.ofNat n :: decodeFrom none rest := by
  let low := if n / 262144 % 8 + 240 = 0xf0 then 0x90 else 0x80
  let high := if n / 262144 % 8 + 240 = 0xf4 then 0x8f else 0xbf
  have begins : begin? (n / 262144 % 8 + 240) = some ⟨n / 262144 % 8 + 240 - 0xf0, 3, low, high⟩ := by
    rw [begin?, if_neg (by omega), if_neg (by omega), if_pos (by omega)]
  have within : low ≤ n / 4096 % 64 + 128 ∧ n / 4096 % 64 + 128 ≤ high := by
    constructor
    · unfold low
      split <;> omega
    · unfold high
      split <;> omega
  have value : (((n / 262144 % 8 + 240 - 0xf0) * 64 + (n / 4096 % 64 + 128 - 0x80)) * 64 +
      (n / 64 % 64 + 128 - 0x80)) * 64 + (n % 64 + 128 - 0x80) = n := by
    omega
  rw [decode_begun _ _ _ (by omega) (by omega) begins, decode_within _ _ _ _ _ _ (by omega) within (by decide),
    decode_within _ _ _ _ _ _ (by omega) (by omega) (by decide), decode_last _ _ _ _ _ (by omega) (by omega), value]

end Sequences

theorem decode_char (c : Char) (rest : List UInt8) :
    decodeFrom none (String.utf8EncodeChar c ++ rest) = c :: decodeFrom none rest := by
  have valid : c.toNat < 0xd800 ∨ 0xdfff < c.toNat ∧ c.toNat < 0x110000 := c.valid
  have own : Char.ofNat c.toNat = c := Char.ofNat_toNat c
  unfold String.utf8EncodeChar
  change decodeFrom none ((if c.toNat ≤ 127 then _ else if c.toNat ≤ 2047 then _ else if c.toNat ≤ 65535 then _ else _) ++
    rest) = _
  split
  · exact (decode_alone rest c.toNat (by omega)).trans (by rw [own])
  split
  · exact (two_bytes rest c.toNat (by omega) (by omega)).trans (by rw [own])
  split
  · exact (three_bytes rest c.toNat (by omega) (by omega) (by omega)).trans (by rw [own])
  · exact (four_bytes rest c.toNat (by omega) (by omega)).trans (by rw [own])

theorem decode_utf8 (cs : List Char) : decodeUtf8 (utf8 cs) = cs := by
  unfold decodeUtf8
  induction cs with
  | nil => rfl
  | cons c cs ih => rw [utf8, List.flatMap_cons, decode_char, ← utf8, ih]

end TokenFilter.Text
