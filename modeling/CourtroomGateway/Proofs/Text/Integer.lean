import CourtroomGateway.Text.Integer
import Mathlib.Data.List.Basic

/-! What text an integer may have: blanks, at most one sign, one or more decimal digits, blanks.
`Spells` says so without reading anything, and reading accepts exactly the text that spells an
integer of the 64-bit range. What is written spells the integer that it was written for. -/

namespace CourtroomGateway.Text

/-- One or more digits, with at most one sign before them. -/
def Numeral (cs : List Char) (n : Int) : Prop :=
  ∃ digits : List Char, digits ≠ [] ∧ (∀ c ∈ digits, c.isDigit) ∧
    ((cs = digits ∨ cs = '+' :: digits) ∧ n = Nat.ofDigitChars 10 digits 0 ∨
      cs = '-' :: digits ∧ n = -(Nat.ofDigitChars 10 digits 0 : Int))

/-- Blanks, a numeral and blanks. -/
def Spells (s : String) (n : Int) : Prop :=
  ∃ before core after, s.toList = before ++ core ++ after ∧
    (∀ c ∈ before, isBlank c) ∧ (∀ c ∈ after, isBlank c) ∧ Numeral core n

/-- The text spells an integer that a signed word of 64 bits can hold. -/
def IsInteger (s : String) : Prop :=
  ∃ n, Spells s n ∧ Int64.minValue.toInt ≤ n ∧ n ≤ Int64.maxValue.toInt

theorem dropWhile_eq_of_not_blank {cs : List Char} (h : ∀ c ∈ cs, isBlank c = false) :
    cs.dropWhile isBlank = cs := by
  cases cs with
  | nil => rfl
  | cons c cs => rw [List.dropWhile_cons_of_neg (by simp [h c List.mem_cons_self])]

theorem trimChars_of_blanks {before core after : List Char} (front : ∀ c ∈ before, isBlank c)
    (back : ∀ c ∈ after, isBlank c) (inner : ∀ c ∈ core, isBlank c = false) :
    trimChars (before ++ core ++ after) = core := by
  cases core with
  | nil =>
    rw [trimChars_eq_nil_iff, List.append_nil]
    intro c hc
    rcases List.mem_append.1 hc with hc | hc
    · exact front c hc
    · exact back c hc
  | cons c core =>
    have first : (before ++ c :: core ++ after).dropWhile isBlank = c :: core ++ after := by
      rw [List.append_assoc, List.dropWhile_append_of_pos front, List.cons_append,
        List.dropWhile_cons_of_neg (by simp [inner c List.mem_cons_self])]
    have last : ((c :: core ++ after).reverse).dropWhile isBlank = (c :: core).reverse := by
      rw [List.reverse_append, List.dropWhile_append_of_pos (by simpa using back)]
      exact dropWhile_eq_of_not_blank fun d hd => inner d (List.mem_reverse.1 hd)
    rw [trimChars, first, last, List.reverse_reverse]

/-- Trimming takes away blanks only. -/
theorem exists_blanks_around_trimChars (cs : List Char) :
    ∃ before after, cs = before ++ trimChars cs ++ after ∧
      (∀ c ∈ before, isBlank c) ∧ ∀ c ∈ after, isBlank c := by
  refine ⟨cs.takeWhile isBlank,
    ((cs.dropWhile isBlank).reverse.takeWhile isBlank).reverse, ?_, ?_, ?_⟩
  · rw [trimChars, List.append_assoc, ← List.reverse_append, List.takeWhile_append_dropWhile,
      List.reverse_reverse, List.takeWhile_append_dropWhile]
  · exact List.all_eq_true.1 List.all_takeWhile
  · intro c hc
    exact List.all_eq_true.1 List.all_takeWhile c (List.mem_reverse.1 hc)

theorem isBlank_of_isDigit {c : Char} (h : c.isDigit) : isBlank c = false := by
  have digit := Char.isDigit_iff_toNat.1 h
  simp only [Char.reduceToNat] at digit
  simp [isBlank]
  omega

theorem Numeral.isBlank_eq_false {cs : List Char} {n : Int} (h : Numeral cs n) :
    ∀ c ∈ cs, isBlank c = false := by
  obtain ⟨digits, -, all, shape⟩ := h
  have inner : ∀ c ∈ digits, isBlank c = false := fun c hc => isBlank_of_isDigit (all c hc)
  have sign : isBlank '+' = false ∧ isBlank '-' = false := by decide
  rcases shape with ⟨rfl | rfl, -⟩ | ⟨rfl, -⟩
  · exact inner
  · simpa [sign] using inner
  · simpa [sign] using inner

theorem numeral_minus {cs : List Char} {n : Int} :
    Numeral ('-' :: cs) n ↔
      cs ≠ [] ∧ (∀ c ∈ cs, c.isDigit) ∧ n = -(Nat.ofDigitChars 10 cs 0 : Int) := by
  constructor
  · rintro ⟨digits, nonempty, all, ⟨rfl | other, -⟩ | ⟨same, value⟩⟩
    · exact absurd (all '-' List.mem_cons_self) (by decide)
    · cases other
    · cases same
      exact ⟨nonempty, all, value⟩
  · rintro ⟨nonempty, all, value⟩
    exact ⟨cs, nonempty, all, .inr ⟨rfl, value⟩⟩

theorem numeral_plus {cs : List Char} {n : Int} :
    Numeral ('+' :: cs) n ↔
      cs ≠ [] ∧ (∀ c ∈ cs, c.isDigit) ∧ n = Nat.ofDigitChars 10 cs 0 := by
  constructor
  · rintro ⟨digits, nonempty, all, ⟨rfl | same, value⟩ | ⟨other, -⟩⟩
    · exact absurd (all '+' List.mem_cons_self) (by decide)
    · cases same
      exact ⟨nonempty, all, value⟩
    · cases other
  · rintro ⟨nonempty, all, value⟩
    exact ⟨cs, nonempty, all, .inl ⟨.inr rfl, value⟩⟩

theorem numeral_unsigned {cs : List Char} {n : Int} (plus : ∀ ds, cs ≠ '+' :: ds)
    (minus : ∀ ds, cs ≠ '-' :: ds) :
    Numeral cs n ↔ cs ≠ [] ∧ (∀ c ∈ cs, c.isDigit) ∧ n = Nat.ofDigitChars 10 cs 0 := by
  constructor
  · rintro ⟨digits, nonempty, all, ⟨rfl | signed, value⟩ | ⟨signed, -⟩⟩
    · exact ⟨nonempty, all, value⟩
    · exact absurd signed (plus _)
    · exact absurd signed (minus _)
  · rintro ⟨nonempty, all, value⟩
    exact ⟨cs, nonempty, all, .inl ⟨.inl rfl, value⟩⟩

theorem signed?_eq_some_iff {cs : List Char} {n : Int} :
    signed? cs = some n ↔ Numeral cs n ∧ Int64.minValue.toInt ≤ n ∧ n ≤ Int64.maxValue.toInt := by
  have low : Int64.minValue.toInt = -9223372036854775808 := by decide
  have high : Int64.maxValue.toInt = 9223372036854775807 := by decide
  unfold signed?
  split
  next cs =>
    simp only [Option.map_eq_some_iff, digitsIn?_ten_eq_some_iff, numeral_minus, List.all_eq_true]
    constructor
    · rintro ⟨m, ⟨nonempty, all, rfl, fits⟩, rfl⟩
      exact ⟨⟨nonempty, all, rfl⟩, by omega, by omega⟩
    · rintro ⟨⟨nonempty, all, rfl⟩, fits, -⟩
      exact ⟨_, ⟨nonempty, all, rfl, by omega⟩, rfl⟩
  next cs =>
    simp only [Option.map_eq_some_iff, digitsIn?_ten_eq_some_iff, numeral_plus,
      List.all_eq_true, Int.ofNat_eq_natCast]
    constructor
    · rintro ⟨m, ⟨nonempty, all, rfl, fits⟩, rfl⟩
      exact ⟨⟨nonempty, all, rfl⟩, by omega, by omega⟩
    · rintro ⟨⟨nonempty, all, rfl⟩, -, fits⟩
      exact ⟨_, ⟨nonempty, all, rfl, by omega⟩, rfl⟩
  next minus plus =>
    simp only [Option.map_eq_some_iff, digitsIn?_ten_eq_some_iff,
      numeral_unsigned plus minus, List.all_eq_true, Int.ofNat_eq_natCast]
    constructor
    · rintro ⟨m, ⟨nonempty, all, rfl, fits⟩, rfl⟩
      exact ⟨⟨nonempty, all, rfl⟩, by omega, by omega⟩
    · rintro ⟨⟨nonempty, all, rfl⟩, -, fits⟩
      exact ⟨_, ⟨nonempty, all, rfl, by omega⟩, rfl⟩

theorem signed?_trimChars_eq_some_iff {s : String} {n : Int} :
    signed? (trimChars s.toList) = some n ↔
      Spells s n ∧ Int64.minValue.toInt ≤ n ∧ n ≤ Int64.maxValue.toInt := by
  rw [signed?_eq_some_iff, and_congr_left_iff]
  intro _
  constructor
  · intro numeral
    obtain ⟨before, after, split, front, back⟩ := exists_blanks_around_trimChars s.toList
    exact ⟨before, _, after, split, front, back, numeral⟩
  · rintro ⟨before, core, after, split, front, back, numeral⟩
    rwa [split, trimChars_of_blanks front back numeral.isBlank_eq_false]

theorem integer?_eq_some_iff {s : String} {n : Int64} :
    integer? s = some n ↔ Spells s n.toInt := by
  simp only [integer?, Option.map_eq_some_iff, signed?_trimChars_eq_some_iff]
  constructor
  · rintro ⟨m, ⟨spelled, low, high⟩, rfl⟩
    have same : (Int64.ofInt m).toInt = m :=
      Int64.toInt_ofInt_of_le (by rwa [Int64.toInt_minValue] at low)
        (Int.lt_of_le_of_lt high (by decide))
    rwa [same]
  · intro spelled
    exact ⟨n.toInt, ⟨spelled, n.minValue_le_toInt, n.toInt_le⟩, Int64.ofInt_toInt n⟩

theorem isSome_integer?_iff (s : String) : (integer? s).isSome ↔ IsInteger s := by
  simp only [integer?, Option.isSome_map, Option.isSome_iff_exists,
    signed?_trimChars_eq_some_iff, IsInteger]

theorem toList_decimalNat (n : Nat) : (decimalNat n).toList = Nat.toDigits 10 n :=
  String.toList_ofList

theorem not_mem_decimalNat {c : Char} (nondigit : ¬ c.isDigit) (n : Nat) :
    c ∉ (decimalNat n).toList := by
  rw [toList_decimalNat]
  exact fun mem => nondigit (Nat.isDigit_of_mem_toDigits (by decide) (by decide) mem)

theorem not_mem_decimal {c : Char} (nondigit : ¬ c.isDigit) (sign : c ≠ '-') (n : Int64) :
    c ∉ (decimal n).toList := by
  unfold decimal
  split
  · rw [String.toList_append, List.mem_append, not_or]
    exact ⟨by simpa using sign, not_mem_decimalNat nondigit _⟩
  · exact not_mem_decimalNat nondigit _

theorem decimal_ne_empty (n : Int64) : decimal n ≠ "" := by
  unfold decimal
  rw [← String.toList_inj.ne]
  split
  · simp
  · rw [toList_decimalNat]
    exact Nat.toDigits_ne_nil

theorem numeral_decimal (n : Int64) : Numeral (decimal n).toList n.toInt := by
  have digits (m : Nat) : ∀ c ∈ Nat.toDigits 10 m, c.isDigit := fun c mem =>
    Nat.isDigit_of_mem_toDigits (by decide) (by decide) mem
  have sign : n < 0 ↔ n.toInt < 0 := Int64.lt_iff_toInt_lt
  refine ⟨Nat.toDigits 10 n.toInt.natAbs, Nat.toDigits_ne_nil, digits _, ?_⟩
  rw [Nat.ofDigitChars_ten_toDigits]
  unfold decimal
  split
  next negative =>
    rw [sign] at negative
    refine .inr ⟨?_, by omega⟩
    rw [String.toList_append, toList_decimalNat]
    rfl
  next nonnegative =>
    rw [sign] at nonnegative
    have same : n.toInt.toNat = n.toInt.natAbs := by omega
    exact .inl ⟨.inl (by rw [toList_decimalNat, same]), by omega⟩

/-- A written integer is read back. -/
theorem integer?_decimal (n : Int64) : integer? (decimal n) = some n := by
  rw [integer?_eq_some_iff]
  exact ⟨[], (decimal n).toList, [], by simp, nofun, nofun, numeral_decimal n⟩

theorem isInteger_decimal (n : Int64) : IsInteger (decimal n) := by
  rw [← isSome_integer?_iff, integer?_decimal]
  rfl

end CourtroomGateway.Text
