import CourtroomGateway.Text.Utf8
import Mathlib.Data.List.Basic

/-! Decoding what was encoded. A character is read back from its bytes whatever comes after them,
and so is a text. The bytes of a text below 128 are its characters below 128, so that such a
character can be looked for among the bytes. -/

namespace CourtroomGateway.Text.Utf8

theorem toNat_byte {n : Nat} (h : n < 256) : (UInt8.ofNat n).toNat = n := by
  rw [UInt8.toNat_ofNat', Nat.mod_eq_of_lt h]

theorem le_byte {b : UInt8} {n : Nat} (h : n < 256) : b ≤ UInt8.ofNat n ↔ b.toNat ≤ n := by
  rw [UInt8.le_iff_toNat_le, toNat_byte h]

theorem byte_le {b : UInt8} {n : Nat} (h : n < 256) : UInt8.ofNat n ≤ b ↔ n ≤ b.toNat := by
  rw [UInt8.le_iff_toNat_le, toNat_byte h]

theorem toNat_charOfNat {n : Nat} (valid : n.isValidChar) : (Char.ofNat n).toNat = n := by
  rw [Char.ofNat, dif_pos valid]
  rfl

section Continuing
variable {value n : Nat} {lowest highest : UInt8} (small : n < 64)
  (low : lowest.toNat ≤ n + 128) (high : n + 128 ≤ highest.toNat) (rest : List UInt8)
include small low high

theorem step_last :
    step (some ⟨value, 0, lowest, highest⟩) (UInt8.ofNat (n + 128)) =
      (some (Char.ofNat (value * 64 + n)), none) := by
  have inside := And.intro ((le_byte (by omega)).2 low) ((byte_le (by omega)).2 high)
  simp only [step, if_pos inside, toNat_byte (show n + 128 < 256 by omega), Nat.add_sub_cancel]

theorem step_further (further : Nat) :
    step (some ⟨value, further + 1, lowest, highest⟩) (UInt8.ofNat (n + 128)) =
      (none, some ⟨value * 64 + n, further, 0x80, 0xBF⟩) := by
  have inside := And.intro ((le_byte (by omega)).2 low) ((byte_le (by omega)).2 high)
  simp only [step, if_pos inside, toNat_byte (show n + 128 < 256 by omega), Nat.add_sub_cancel]

theorem decodeFrom_last :
    decodeFrom (some ⟨value, 0, lowest, highest⟩) (UInt8.ofNat (n + 128) :: rest) =
      Char.ofNat (value * 64 + n) :: decodeFrom none rest := by
  rw [decodeFrom, step_last small low high]

theorem decodeFrom_further (further : Nat) :
    decodeFrom (some ⟨value, further + 1, lowest, highest⟩) (UInt8.ofNat (n + 128) :: rest) =
      decodeFrom (some ⟨value * 64 + n, further, 0x80, 0xBF⟩) rest := by
  rw [decodeFrom, step_further small low high]

end Continuing

theorem decodeFrom_single {n : Nat} (small : n < 128) (rest : List UInt8) :
    decodeFrom none (UInt8.ofNat n :: rest) = Char.ofNat n :: decodeFrom none rest := by
  simp only [decodeFrom, step, start, toNat_byte (show n < 256 by omega), if_pos small]

theorem decodeFrom_pair {n : Nat} (low : 2 ≤ n) (high : n < 32) (rest : List UInt8) :
    decodeFrom none (UInt8.ofNat (n + 192) :: rest) =
      decodeFrom (some ⟨n, 0, 0x80, 0xBF⟩) rest := by
  simp only [decodeFrom, step, start, toNat_byte (show n + 192 < 256 by omega)]
  rw [if_neg (by omega), if_neg (by omega), if_pos (by omega), Nat.add_sub_cancel]

theorem decodeFrom_triple {n : Nat} (high : n < 16) (rest : List UInt8) :
    decodeFrom none (UInt8.ofNat (n + 224) :: rest) =
      decodeFrom (some ⟨n, 1, if n = 0 then 0xA0 else 0x80, if n = 13 then 0x9F else 0xBF⟩)
        rest := by
  simp only [decodeFrom, step, start, toNat_byte (show n + 224 < 256 by omega)]
  rw [if_neg (by omega), if_neg (by omega), if_neg (by omega), if_pos (by omega),
    Nat.add_sub_cancel]
  simp only [Nat.add_eq_right, Nat.reduceEqDiff]

theorem decodeFrom_quadruple {n : Nat} (high : n < 5) (rest : List UInt8) :
    decodeFrom none (UInt8.ofNat (n + 240) :: rest) =
      decodeFrom (some ⟨n, 2, if n = 0 then 0x90 else 0x80, if n = 4 then 0x8F else 0xBF⟩)
        rest := by
  simp only [decodeFrom, step, start, toNat_byte (show n + 240 < 256 by omega)]
  rw [if_neg (by omega), if_neg (by omega), if_neg (by omega), if_neg (by omega),
    if_pos (by omega), Nat.add_sub_cancel]
  simp only [Nat.add_eq_right, Nat.reduceEqDiff]

/-- A character is read back from its bytes. -/
theorem decodeFrom_encodeChar (c : Char) (rest : List UInt8) :
    decodeFrom none (String.utf8EncodeChar c ++ rest) = c :: decodeFrom none rest := by
  have scalar : c.toNat < 0xD800 ∨ 0xDFFF < c.toNat ∧ c.toNat < 0x110000 := c.valid
  have back (n : Nat) (same : n = c.toNat) : Char.ofNat n = c := by rw [same, Char.ofNat_toNat]
  unfold String.utf8EncodeChar
  simp only [Char.toNat_val]
  split
  next one =>
    rw [List.singleton_append, decodeFrom_single (by omega), Char.ofNat_toNat]
  split
  next two =>
    simp only [List.cons_append, List.nil_append]
    rw [decodeFrom_pair (by omega) (by omega),
      decodeFrom_last (by omega) (by simp) (by simp; omega), back _ (by omega)]
  split
  next three =>
    simp only [List.cons_append, List.nil_append]
    rw [decodeFrom_triple (by omega),
      decodeFrom_further (by omega) (by split <;> simp; omega) (by split <;> simp <;> omega),
      decodeFrom_last (by omega) (by simp) (by simp; omega), back _ (by omega)]
  next four =>
    simp only [List.cons_append, List.nil_append]
    rw [decodeFrom_quadruple (by omega),
      decodeFrom_further (by omega) (by split <;> simp; omega) (by split <;> simp <;> omega),
      decodeFrom_further (by omega) (by simp) (by simp; omega),
      decodeFrom_last (by omega) (by simp) (by simp; omega), back _ (by omega)]

theorem encodeChars_cons (c : Char) (cs : List Char) :
    encodeChars (c :: cs) = String.utf8EncodeChar c ++ encodeChars cs := List.flatMap_cons

theorem encodeChars_append (a b : List Char) :
    encodeChars (a ++ b) = encodeChars a ++ encodeChars b := List.flatMap_append

/-- A text is read back from its bytes, and what follows is read as if nothing were before it. -/
theorem decodeFrom_encodeChars (cs : List Char) (rest : List UInt8) :
    decodeFrom none (encodeChars cs ++ rest) = cs ++ decodeFrom none rest := by
  induction cs with
  | nil => rfl
  | cons c cs ih =>
    rw [encodeChars_cons, List.append_assoc, decodeFrom_encodeChar, ih, List.cons_append]

theorem decodeChars_encodeChars (cs : List Char) : decodeChars (encodeChars cs) = cs := by
  have whole := decodeFrom_encodeChars cs []
  rwa [List.append_nil, decodeFrom, List.append_nil] at whole

theorem decode_encodeChars (cs : List Char) : decode (encodeChars cs) = String.ofList cs := by
  rw [decode, decodeChars_encodeChars]

/-- Below 128 a character is its own byte, and from there on it has bytes from there on. -/
theorem encodeChar_cases (c : Char) :
    c.toNat < 128 ∧ String.utf8EncodeChar c = [UInt8.ofNat c.toNat] ∨
      128 ≤ c.toNat ∧ String.utf8EncodeChar c ≠ [] ∧
        ∀ b ∈ String.utf8EncodeChar c, 128 ≤ b.toNat := by
  have above {n : Nat} (low : 128 ≤ n) (high : n < 256) : 128 ≤ (UInt8.ofNat n).toNat := by
    rwa [toNat_byte high]
  unfold String.utf8EncodeChar
  simp only [Char.toNat_val]
  split
  next one => exact .inl ⟨by omega, rfl⟩
  next more =>
    refine .inr ⟨by omega, ?_⟩
    split
    next two =>
      simp only [ne_eq, reduceCtorEq, not_false_eq_true, true_and, List.forall_mem_cons]
      exact ⟨above (by omega) (by omega), above (by omega) (by omega), nofun⟩
    split
    next three =>
      simp only [ne_eq, reduceCtorEq, not_false_eq_true, true_and, List.forall_mem_cons]
      exact ⟨above (by omega) (by omega), above (by omega) (by omega),
        above (by omega) (by omega), nofun⟩
    next four =>
      simp only [ne_eq, reduceCtorEq, not_false_eq_true, true_and, List.forall_mem_cons]
      exact ⟨above (by omega) (by omega), above (by omega) (by omega),
        above (by omega) (by omega), above (by omega) (by omega), nofun⟩

section Ascii
variable {c : Char} (ascii : c.toNat < 128)
include ascii

theorem byte_inj {d : Char} (small : d.toNat < 128) :
    UInt8.ofNat c.toNat = UInt8.ofNat d.toNat ↔ c = d := by
  refine ⟨fun same => ?_, fun same => same ▸ rfl⟩
  have same := congrArg UInt8.toNat same
  rwa [toNat_byte (by omega), toNat_byte (by omega), Char.toNat_inj] at same

theorem byte_mem_encodeChar_iff (d : Char) :
    UInt8.ofNat c.toNat ∈ String.utf8EncodeChar d ↔ c = d := by
  rcases encodeChar_cases d with ⟨small, bytes⟩ | ⟨large, -, above⟩
  · rw [bytes, List.mem_singleton, byte_inj ascii small]
  · refine iff_of_false (fun mem => ?_) (by rintro rfl; omega)
    have high := above _ mem
    rw [toNat_byte (by omega)] at high
    omega

theorem byte_mem_encodeChars_iff (cs : List Char) :
    UInt8.ofNat c.toNat ∈ encodeChars cs ↔ c ∈ cs := by
  simp only [encodeChars, List.mem_flatMap, byte_mem_encodeChar_iff ascii, exists_eq_right']

theorem head?_of_head?_encodeChars {cs : List Char}
    (first : (encodeChars cs).head? = some (UInt8.ofNat c.toNat)) : cs.head? = some c := by
  cases cs with
  | nil => cases first
  | cons d cs =>
    have filled : String.utf8EncodeChar d ≠ [] := by
      rcases encodeChar_cases d with ⟨-, bytes⟩ | ⟨-, filled, -⟩
      · simp [bytes]
      · exact filled
    rw [encodeChars_cons, List.head?_append_of_ne_nil _ filled] at first
    rw [(byte_mem_encodeChar_iff ascii d).1 (List.mem_of_mem_head? first), List.head?_cons]

end Ascii

end CourtroomGateway.Text.Utf8
