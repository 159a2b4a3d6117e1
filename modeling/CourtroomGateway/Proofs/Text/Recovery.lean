import CourtroomGateway.Proofs.Text.Lenient

/-! How lenient decoding recovers. What was read of an unfinished character is the beginning of
every character that may still come of it, so that what is given out was read byte by byte: the
text encodes to the bytes without those that were left out. No byte that a character begins with
goes on with an unfinished one. So a text is read unharmed wherever it stands among other bytes,
and these as if it were not there. -/

namespace CourtroomGateway.Text.Utf8

/-- The last bytes of a character of this value. -/
def trail : Nat → Nat → List UInt8
  | 0, _ => []
  | count + 1, n => UInt8.ofNat (n / 64 ^ count % 64 + 128) :: trail count n

/-- The first byte of a character tells how many follow. -/
theorem encodeChar_eq (c : Char) :
    String.utf8EncodeChar c =
      if c.toNat < 0x80 then [UInt8.ofNat c.toNat]
      else if c.toNat < 0x800 then UInt8.ofNat (c.toNat / 64 + 0xC0) :: trail 1 c.toNat
      else if c.toNat < 0x10000 then UInt8.ofNat (c.toNat / 64 ^ 2 + 0xE0) :: trail 2 c.toNat
      else UInt8.ofNat (c.toNat / 64 ^ 3 + 0xF0) :: trail 3 c.toNat := by
  have scalar : c.toNat < 0xD800 ∨ 0xDFFF < c.toNat ∧ c.toNat < 0x110000 := c.valid
  have below (n : Nat) : c.toNat ≤ n ↔ c.toNat < n + 1 := Nat.lt_succ_iff.symm
  simp only [String.utf8EncodeChar, Char.toNat_val, trail, below, Nat.reduceAdd, Nat.reducePow,
    Nat.div_one]
  by_cases one : c.toNat < 0x80
  · simp only [if_pos one]
  by_cases two : c.toNat < 0x800
  · simp only [if_neg one, if_pos two, Nat.mod_eq_of_lt (show c.toNat / 64 < 32 by omega)]
  by_cases three : c.toNat < 0x10000
  · simp only [if_neg one, if_neg two, if_pos three,
      Nat.mod_eq_of_lt (show c.toNat / 4096 < 16 by omega)]
  · simp only [if_neg one, if_neg two, if_neg three,
      Nat.mod_eq_of_lt (show c.toNat / 262144 < 8 by omega)]

theorem exists_lead (c : Char) :
    ∃ lead later, String.utf8EncodeChar c = lead :: later ∧
      (lead.toNat < 0x80 ∨ 0xBF < lead.toNat) := by
  have scalar : c.toNat < 0xD800 ∨ 0xDFFF < c.toNat ∧ c.toNat < 0x110000 := c.valid
  rw [encodeChar_eq]
  split
  next one => exact ⟨_, _, rfl, .inl (by rwa [toNat_byte (by omega)])⟩
  split
  next two => exact ⟨_, _, rfl, .inr (by rw [toNat_byte (by omega)]; omega)⟩
  split
  next three => exact ⟨_, _, rfl, .inr (by rw [toNat_byte (by omega)]; omega)⟩
  next four => exact ⟨_, _, rfl, .inr (by rw [toNat_byte (by omega)]; omega)⟩

namespace Pending

/-- These bytes were read, and every character that may still come begins with them. -/
structure Begun (front : List UInt8) (p : Pending) : Prop extends p.Sound where
  trails : p.highest.toNat ≤ 0xBF
  opens (c : Char) (low : p.least ≤ c.toNat) (high : c.toNat < p.beyond) :
    String.utf8EncodeChar c = front ++ trail (p.further + 1) c.toNat

section Lead
variable {b : UInt8}

theorem begun_pair (low : 0xC2 ≤ b.toNat) (high : b.toNat < 0xE0) :
    Begun [b] ⟨b.toNat - 0xC0, 0, 0x80, 0xBF⟩ where
  toSound := sound_pair low high
  trails := by simp
  opens c above below := by
    simp only [least, beyond, Nat.pow_zero, UInt8.reduceToNat] at above below
    have lead : c.toNat / 64 + 0xC0 = b.toNat := by omega
    rw [encodeChar_eq, if_neg (by omega), if_pos (by omega), lead, UInt8.ofNat_toNat]
    rfl

theorem begun_triple (low : 0xE0 ≤ b.toNat) (high : b.toNat < 0xF0) :
    Begun [b] ⟨b.toNat - 0xE0, 1, if b.toNat = 0xE0 then 0xA0 else 0x80,
      if b.toNat = 0xED then 0x9F else 0xBF⟩ where
  toSound := sound_triple low high
  trails := by dsimp only; split <;> simp
  opens c above below := by
    simp only [least, beyond, Nat.pow_one] at above below
    have range : 0x800 ≤ c.toNat ∧ c.toNat / 64 ^ 2 + 0xE0 = b.toNat := by
      split at above <;> split at below <;> simp only [UInt8.reduceToNat] at above below <;> omega
    rw [encodeChar_eq, if_neg (by omega), if_neg (by omega), if_pos (by omega), range.2,
      UInt8.ofNat_toNat]
    rfl

theorem begun_quadruple (low : 0xF0 ≤ b.toNat) (high : b.toNat < 0xF5) :
    Begun [b] ⟨b.toNat - 0xF0, 2, if b.toNat = 0xF0 then 0x90 else 0x80,
      if b.toNat = 0xF4 then 0x8F else 0xBF⟩ where
  toSound := sound_quadruple low high
  trails := by dsimp only; split <;> simp
  opens c above below := by
    simp only [least, beyond, Nat.reducePow] at above below
    have range : 0x10000 ≤ c.toNat ∧ c.toNat / 64 ^ 3 + 0xF0 = b.toNat := by
      split at above <;> split at below <;> simp only [UInt8.reduceToNat] at above below <;> omega
    rw [encodeChar_eq, if_neg (by omega), if_neg (by omega), if_neg (by omega), range.2,
      UInt8.ofNat_toNat]
    rfl

end Lead

section Continued
variable {front : List UInt8} {value rest : Nat} {lowest highest b : UInt8} (low : lowest ≤ b)
  (high : b ≤ highest)
include low high

theorem Begun.continuation {count : Nat} (h : Begun front ⟨value, count, lowest, highest⟩) :
    0x80 ≤ b.toNat ∧ b.toNat ≤ 0xBF :=
  ⟨Nat.le_trans h.continues (UInt8.le_iff_toNat_le.1 low),
    Nat.le_trans (UInt8.le_iff_toNat_le.1 high) h.trails⟩

theorem Begun.further (h : Begun front ⟨value, rest + 1, lowest, highest⟩) :
    Begun (front ++ [b]) ⟨value * 64 + (b.toNat - 0x80), rest, 0x80, 0xBF⟩ where
  toSound := h.toSound.further low high
  trails := by simp
  opens c above below := by
    have opened := h.opens c (Nat.le_trans (least_le_further low) above)
      (Nat.lt_of_lt_of_le below (further_le_beyond high))
    -- The byte has settled all digits of the value to the base of 64 but the last ones.
    have cut : c.toNat / 64 ^ (rest + 1) = value * 64 + (b.toNat - 0x80) := by
      simp only [least, beyond, UInt8.reduceToNat, Nat.reduceSub, Nat.add_zero, Nat.add_assoc,
        Nat.reduceAdd, ← Nat.succ_mul, Nat.mul_assoc, ← Nat.pow_succ'] at above below
      exact Nat.div_eq_of_lt_le above below
    obtain ⟨from128, to191⟩ := h.continuation low high
    have byte : c.toNat / 64 ^ (rest + 1) % 64 + 128 = b.toNat := by omega
    rw [opened, trail, byte, UInt8.ofNat_toNat, List.append_assoc]
    rfl

theorem Begun.last (h : Begun front ⟨value, 0, lowest, highest⟩) :
    String.utf8EncodeChar (Char.ofNat (value * 64 + (b.toNat - 0x80))) = front ++ [b] := by
  obtain ⟨from128, to191⟩ := h.continuation low high
  have result := h.toSound.toNat_ofNat low high
  rw [UInt8.le_iff_toNat_le] at low high
  rw [h.opens _ (by simp only [result, least]; omega) (by simp only [result, beyond]; omega),
    result]
  have byte : (value * 64 + (b.toNat - 0x80)) / 64 ^ 0 % 64 + 128 = b.toNat := by omega
  rw [trail, byte, UInt8.ofNat_toNat]
  rfl

end Continued
end Pending

/-- These bytes are held back: those read of the unfinished character, if there is one. -/
def Holds (front : List UInt8) : Option Pending → Prop
  | none => front = []
  | some p => p.Begun front

theorem holds_none : Holds [] none := rfl

/-- A byte that cannot go on is given out as a character, held back or left out. -/
theorem exists_holds_start (b : UInt8) :
    ∃ front, Holds front (start b).2 ∧
      (encodeChars (start b).1.toList ++ front).Sublist [b] := by
  unfold start
  dsimp only
  split
  next one =>
    have same := toNat_charOfNat (n := b.toNat) (.inl (by omega))
    have bytes : encodeChars [Char.ofNat b.toNat] = [b] := by
      rw [encodeChars_cons, encodeChar_eq, same, if_pos one, UInt8.ofNat_toNat]
      rfl
    exact ⟨[], rfl, by simp [bytes]⟩
  split
  next => exact ⟨[], rfl, by simp [encodeChars]⟩
  split
  next two => exact ⟨[b], Pending.begun_pair (by omega) two, by simp [encodeChars]⟩
  split
  next three => exact ⟨[b], Pending.begun_triple (by omega) three, by simp [encodeChars]⟩
  split
  next four => exact ⟨[b], Pending.begun_quadruple (by omega) four, by simp [encodeChars]⟩
  next => exact ⟨[], rfl, by simp [encodeChars]⟩

section Held
variable {front : List UInt8} {pending : Option Pending} (h : Holds front pending)
include h

/-- What a byte lets out and what is held back after it was held back before it or is this byte. -/
theorem exists_holds_step (b : UInt8) :
    ∃ later, Holds later (step pending b).2 ∧
      (encodeChars (step pending b).1.toList ++ later).Sublist (front ++ [b]) := by
  cases pending with
  | none =>
    obtain rfl : front = [] := h
    exact exists_holds_start b
  | some p =>
    obtain ⟨value, further, lowest, highest⟩ := p
    have begun : Pending.Begun front ⟨value, further, lowest, highest⟩ := h
    simp only [step]
    split
    next inside =>
      cases further with
      | zero =>
        have bytes := begun.last inside.1 inside.2
        exact ⟨[], rfl, by simp [encodeChars, bytes]⟩
      | succ rest => exact ⟨front ++ [b], begun.further inside.1 inside.2, by simp [encodeChars]⟩
    next =>
      obtain ⟨later, held, kept⟩ := exists_holds_start b
      exact ⟨later, held, kept.trans (List.sublist_append_right front [b])⟩

/-- The text encodes to what was held back and the bytes, less those that are left out. -/
theorem encodeChars_decodeFrom_sublist (bytes : List UInt8) :
    (encodeChars (decodeFrom pending bytes)).Sublist (front ++ bytes) := by
  induction bytes generalizing front pending with
  | nil => exact List.nil_sublist _
  | cons b bytes ih =>
    obtain ⟨later, held, kept⟩ := exists_holds_step h b
    have rest := (ih held).append_left (encodeChars (step pending b).1.toList)
    rw [decodeFrom_cons, encodeChars_append]
    refine rest.trans ?_
    rw [← List.append_assoc, List.append_cons]
    exact kept.append_right bytes

theorem step_lead {b : UInt8} (lead : b.toNat < 0x80 ∨ 0xBF < b.toNat) :
    step pending b = start b := by
  cases pending with
  | none => rfl
  | some p =>
    have begun : p.Begun front := h
    have outside : ¬ (p.lowest ≤ b ∧ b ≤ p.highest) := by
      have low := begun.continues
      have high := begun.trails
      simp only [UInt8.le_iff_toNat_le]
      omega
    simp only [step, if_neg outside]

theorem decodeFrom_encodeChars_of_holds (cs : List Char) :
    decodeFrom pending (encodeChars cs) = cs := by
  cases cs with
  | nil => rfl
  | cons c cs =>
    have fresh := decodeFrom_encodeChars (c :: cs) []
    obtain ⟨lead, later, bytes, leads⟩ := exists_lead c
    rw [List.append_nil, decodeFrom, List.append_nil, encodeChars_cons, bytes, List.cons_append,
      decodeFrom_cons] at fresh
    rw [encodeChars_cons, bytes, List.cons_append, decodeFrom_cons, step_lead h leads]
    exact fresh

/-- The bytes of a text are read as this text whatever stands before them. -/
theorem decodeFrom_append_encodeChars (bytes : List UInt8) (cs : List Char) :
    decodeFrom pending (bytes ++ encodeChars cs) = decodeFrom pending bytes ++ cs := by
  induction bytes generalizing front pending with
  | nil => exact decodeFrom_encodeChars_of_holds h cs
  | cons b bytes ih =>
    obtain ⟨later, held, -⟩ := exists_holds_step h b
    rw [List.cons_append, decodeFrom_cons, decodeFrom_cons, ih held, List.append_assoc]

end Held

theorem decode_between (x y : String) (bytes : List UInt8) :
    decode (encode x ++ bytes ++ encode y) = x ++ decode bytes ++ y := by
  rw [← String.toList_inj, List.append_assoc]
  simp only [decode, decodeChars, encode, String.toList_append, String.toList_ofList,
    decodeFrom_encodeChars, List.append_assoc]
  rw [decodeFrom_append_encodeChars holds_none]

theorem encode_decode_sublist (bytes : List UInt8) : (encode (decode bytes)).Sublist bytes := by
  rw [encode, decode, String.toList_ofList]
  exact encodeChars_decodeFrom_sublist holds_none bytes

end CourtroomGateway.Text.Utf8
