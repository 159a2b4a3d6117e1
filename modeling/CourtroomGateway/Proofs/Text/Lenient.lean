import CourtroomGateway.Proofs.Text.Utf8
import Mathlib.Algebra.Group.Nat.Defs

/-! What lenient decoding makes of characters below 128. Such a character is one byte, it ends
whatever was unfinished before it, and a byte from 128 on never yields one. So the text is cut at
such a character where the bytes are cut at its byte, whatever stands around it. -/

namespace CourtroomGateway.Text.Utf8

namespace Pending

/-- The least value that the character may still get. -/
def least (p : Pending) : Nat := (p.value * 64 + (p.lowest.toNat - 0x80)) * 64 ^ p.further

/-- The first value that is too large for the character. -/
def beyond (p : Pending) : Nat := (p.value * 64 + (p.highest.toNat - 0x80) + 1) * 64 ^ p.further

/-- The next byte is from 128 on, and the character will have a scalar value from 128 on. -/
structure Sound (p : Pending) : Prop where
  continues : 0x80 ≤ p.lowest.toNat
  multibyte : 0x80 ≤ p.least
  scalar : p.beyond ≤ 0xD800 ∨ 0xE000 ≤ p.least ∧ p.beyond ≤ 0x110000

theorem sound_pair {n : Nat} (low : 0xC2 ≤ n) (high : n < 0xE0) :
    Sound ⟨n - 0xC0, 0, 0x80, 0xBF⟩ := by
  refine ⟨by simp, ?_, ?_⟩
  · simp only [least, Nat.pow_zero, UInt8.reduceToNat]
    omega
  · simp only [least, beyond, Nat.pow_zero, UInt8.reduceToNat]
    omega

theorem sound_triple {n : Nat} (low : 0xE0 ≤ n) (high : n < 0xF0) :
    Sound ⟨n - 0xE0, 1, if n = 0xE0 then 0xA0 else 0x80, if n = 0xED then 0x9F else 0xBF⟩ := by
  refine ⟨by split <;> simp, ?_, ?_⟩
  · simp only [least, Nat.pow_one]
    split <;> simp only [UInt8.reduceToNat] <;> omega
  · simp only [least, beyond, Nat.pow_one]
    split <;> split <;> simp only [UInt8.reduceToNat] <;> omega

theorem sound_quadruple {n : Nat} (low : 0xF0 ≤ n) (high : n < 0xF5) :
    Sound ⟨n - 0xF0, 2, if n = 0xF0 then 0x90 else 0x80, if n = 0xF4 then 0x8F else 0xBF⟩ := by
  refine ⟨by split <;> simp, ?_, ?_⟩
  · simp only [least, Nat.reducePow]
    split <;> simp only [UInt8.reduceToNat] <;> omega
  · simp only [least, beyond, Nat.reducePow]
    split <;> split <;> simp only [UInt8.reduceToNat] <;> omega

section Continued
variable {value rest : Nat} {lowest highest b : UInt8} (low : lowest ≤ b) (high : b ≤ highest)

include low in
theorem least_le_further :
    least ⟨value, rest + 1, lowest, highest⟩ ≤
      least ⟨value * 64 + (b.toNat - 0x80), rest, 0x80, 0xBF⟩ := by
  rw [UInt8.le_iff_toNat_le] at low
  simp only [least, Nat.pow_succ', ← Nat.mul_assoc, UInt8.reduceToNat]
  exact Nat.mul_le_mul_right _ (by omega)

include high in
theorem further_le_beyond :
    beyond ⟨value * 64 + (b.toNat - 0x80), rest, 0x80, 0xBF⟩ ≤
      beyond ⟨value, rest + 1, lowest, highest⟩ := by
  rw [UInt8.le_iff_toNat_le] at high
  simp only [beyond, Nat.pow_succ', ← Nat.mul_assoc, UInt8.reduceToNat]
  exact Nat.mul_le_mul_right _ (by omega)

include low high

/-- A further byte narrows what the character may become. -/
theorem Sound.further (h : Sound ⟨value, rest + 1, lowest, highest⟩) :
    Sound ⟨value * 64 + (b.toNat - 0x80), rest, 0x80, 0xBF⟩ := by
  refine ⟨by simp, Nat.le_trans h.multibyte (least_le_further low), ?_⟩
  rcases h.scalar with below | ⟨above, within⟩
  · exact .inl (Nat.le_trans (further_le_beyond high) below)
  · exact .inr ⟨Nat.le_trans above (least_le_further low),
      Nat.le_trans (further_le_beyond high) within⟩

theorem Sound.toNat_ofNat (h : Sound ⟨value, 0, lowest, highest⟩) :
    (Char.ofNat (value * 64 + (b.toNat - 0x80))).toNat = value * 64 + (b.toNat - 0x80) := by
  rw [UInt8.le_iff_toNat_le] at low high
  have scalar := h.scalar
  simp only [least, beyond, Nat.pow_zero, Nat.mul_one] at scalar
  refine toNat_charOfNat ?_
  unfold Nat.isValidChar
  omega

theorem Sound.toNat_last (h : Sound ⟨value, 0, lowest, highest⟩) :
    128 ≤ (Char.ofNat (value * 64 + (b.toNat - 0x80))).toNat := by
  rw [h.toNat_ofNat low high]
  rw [UInt8.le_iff_toNat_le] at low
  have multibyte := h.multibyte
  simp only [least, Nat.pow_zero, Nat.mul_one] at multibyte
  omega

end Continued

end Pending

/-- What is unfinished, if anything is, is sound. -/
def Underway (pending : Option Pending) : Prop := ∀ p, pending = some p → p.Sound

theorem underway_none : Underway none := nofun

theorem underway_some {p : Pending} (sound : p.Sound) : Underway (some p) :=
  fun _ same => Option.some.inj same ▸ sound

/-- What a byte may do: it is a character below 128, or belongs to one from 128 on or to none. -/
inductive Steps (b : UInt8) : Option Char × Option Pending → Prop
  | ascii (small : b.toNat < 128) : Steps b (some (Char.ofNat b.toNat), none)
  | silent {next : Option Pending} (large : 128 ≤ b.toNat) (underway : Underway next) :
      Steps b (none, next)
  | last {c : Char} (large : 128 ≤ b.toNat) (above : 128 ≤ c.toNat) : Steps b (some c, none)

theorem steps_start (b : UInt8) : Steps b (start b) := by
  unfold start
  dsimp only
  split
  next one => exact .ascii one
  split
  next => exact .silent (by omega) underway_none
  split
  next two => exact .silent (by omega) (underway_some (Pending.sound_pair (by omega) two))
  split
  next three => exact .silent (by omega) (underway_some (Pending.sound_triple (by omega) three))
  split
  next four => exact .silent (by omega) (underway_some (Pending.sound_quadruple (by omega) four))
  next => exact .silent (by omega) underway_none

theorem steps_step {pending : Option Pending} (underway : Underway pending) (b : UInt8) :
    Steps b (step pending b) := by
  cases pending with
  | none => exact steps_start b
  | some p =>
    obtain ⟨value, further, lowest, highest⟩ := p
    have sound := underway _ rfl
    simp only [step]
    split
    next inside =>
      obtain ⟨low, high⟩ := inside
      have large : 128 ≤ b.toNat := Nat.le_trans sound.continues (UInt8.le_iff_toNat_le.1 low)
      cases further with
      | zero => exact .last large (sound.toNat_last low high)
      | succ rest => exact .silent large (underway_some (sound.further low high))
    next => exact steps_start b

theorem Steps.underway {b : UInt8} {result : Option Char × Option Pending} (h : Steps b result) :
    Underway result.2 := by
  cases h with
  | ascii => exact underway_none
  | silent large underway => exact underway
  | last => exact underway_none

theorem Steps.of_ascii {b : UInt8} {c : Char} {next : Option Pending} (h : Steps b (some c, next))
    (ascii : c.toNat < 128) : b = UInt8.ofNat c.toNat ∧ next = none := by
  cases h with
  | ascii small =>
    have same := toNat_charOfNat (n := b.toNat) (.inl (by omega))
    exact ⟨by rw [same, UInt8.ofNat_toNat], rfl⟩
  | last large above => omega

theorem decodeFrom_cons (pending : Option Pending) (b : UInt8) (bytes : List UInt8) :
    decodeFrom pending (b :: bytes) =
      (step pending b).1.toList ++ decodeFrom (step pending b).2 bytes := by
  rw [decodeFrom]
  cases step pending b with
  | mk emitted next => cases emitted <;> rfl

section Ascii
variable {c : Char} (ascii : c.toNat < 128) {pending : Option Pending} (underway : Underway pending)
include ascii underway

theorem step_ascii : step pending (UInt8.ofNat c.toNat) = (some c, none) := by
  have byte := toNat_byte (show c.toNat < 256 by omega)
  have steps := steps_step underway (UInt8.ofNat c.toNat)
  generalize step pending (UInt8.ofNat c.toNat) = result at steps
  cases steps with
  | ascii small => rw [byte, Char.ofNat_toNat]
  | silent large => omega
  | last large => omega

/-- A character below 128 stands for itself, and cuts off what comes after it. -/
theorem decodeFrom_append_cons (front back : List UInt8) :
    decodeFrom pending (front ++ UInt8.ofNat c.toNat :: back) =
      decodeFrom pending front ++ c :: decodeFrom none back := by
  induction front generalizing pending with
  | nil =>
    rw [List.nil_append, decodeFrom_cons, step_ascii ascii underway]
    rfl
  | cons b front ih =>
    have next := (steps_step underway b).underway
    rw [List.cons_append, decodeFrom_cons, decodeFrom_cons, ih next, List.append_assoc]

/-- Where the text has a character below 128 the bytes have it, and are cut there. -/
theorem exists_of_decodeFrom_eq {bytes : List UInt8} {before after : List Char}
    (read : decodeFrom pending bytes = before ++ c :: after) :
    ∃ front back, bytes = front ++ UInt8.ofNat c.toNat :: back ∧
      decodeFrom pending front = before ∧ decodeFrom none back = after := by
  induction bytes generalizing pending before with
  | nil => simp [decodeFrom] at read
  | cons b bytes ih =>
    have steps := steps_step underway b
    have later (rest : List Char) (split : before = (step pending b).1.toList ++ rest)
        (read : decodeFrom (step pending b).2 bytes = rest ++ c :: after) :
        ∃ front back, b :: bytes = front ++ UInt8.ofNat c.toNat :: back ∧
          decodeFrom pending front = before ∧ decodeFrom none back = after := by
      obtain ⟨front, back, rfl, first, second⟩ := ih steps.underway read
      exact ⟨b :: front, back, rfl, by rw [decodeFrom_cons, first, split], second⟩
    rw [decodeFrom_cons, List.append_eq_append_iff] at read
    rcases read with ⟨rest, split, read⟩ | ⟨rest, split, read⟩
    · exact later rest split read
    · cases rest with
      | nil => exact later [] (by rw [split, List.append_nil, List.append_nil]) read.symm
      | cons d rest =>
        obtain ⟨rfl, rfl⟩ := List.cons.inj read
        -- The byte has completed the character, which is all that it can complete.
        cases stepped : step pending b with
        | mk emitted next =>
          rw [stepped] at split steps
          obtain ⟨e, rfl⟩ : ∃ e, emitted = some e := by cases emitted <;> simp at split ⊢
          obtain ⟨rfl, same⟩ := List.append_eq_singleton_iff.1 split.symm |>.resolve_right (by simp)
          obtain ⟨rfl, rfl⟩ := List.cons.inj same
          obtain ⟨rfl, rfl⟩ := steps.of_ascii ascii
          exact ⟨[], bytes, rfl, rfl, rfl⟩

theorem byte_mem_of_mem_decodeFrom {bytes : List UInt8} (mem : c ∈ decodeFrom pending bytes) :
    UInt8.ofNat c.toNat ∈ bytes := by
  obtain ⟨before, after, read⟩ := List.append_of_mem mem
  obtain ⟨front, back, rfl, -, -⟩ := exists_of_decodeFrom_eq ascii underway read
  exact List.mem_append_right front List.mem_cons_self

end Ascii
end CourtroomGateway.Text.Utf8
