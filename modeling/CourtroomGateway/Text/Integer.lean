import CourtroomGateway.Text.Blank

/-! Integers as text. Digits are read up to a highest value, and reading stops as soon as the value
is above it: for decimal digits that is the same as reading them all and looking at the value
then. A signed 64-bit integer may have blanks around it and one sign; writing gives the shortest
decimal form. -/

namespace CourtroomGateway.Text

/-- The value of a digit or letter as a digit of a radix up to 36, in either case. -/
def digitIn? (radix : Nat) (c : Char) : Option Nat :=
  let value :=
    if c.isDigit then c.toNat - '0'.toNat
    else if 'a' ≤ c ∧ c ≤ 'z' then c.toNat - 'a'.toNat + 10
    else if 'A' ≤ c ∧ c ≤ 'Z' then c.toNat - 'A'.toNat + 10
    else radix
  if value < radix then some value else none

/-- Reads digits that go on after digits of some value. -/
def digitsFrom? (radix highest value : Nat) : List Char → Option Nat
  | [] => some value
  | c :: cs =>
    match digitIn? radix c with
    | none => none
    | some digit =>
      if radix * value + digit ≤ highest then
        digitsFrom? radix highest (radix * value + digit) cs
      else none

/-- The value of one or more digits, if it is not above the highest. -/
def digitsIn? (radix highest : Nat) (cs : List Char) : Option Nat :=
  if cs.isEmpty then none else digitsFrom? radix highest 0 cs

theorem digitIn?_ten (c : Char) :
    digitIn? 10 c = if c.isDigit then some (c.toNat - '0'.toNat) else none := by
  unfold digitIn?
  by_cases h : c.isDigit
  · have hc : c.toNat ≤ 57 := (Char.isDigit_iff_toNat.1 h).2
    simp only [h, if_true, Char.reduceToNat]
    exact if_pos (by omega)
  · simp only [h, Bool.false_eq_true, if_false]
    split
    · exact if_neg (by omega)
    · split
      · exact if_neg (by omega)
      · exact if_neg (by omega)

theorem le_ofDigitChars (cs : List Char) (value : Nat) :
    value ≤ Nat.ofDigitChars 10 cs value := by
  induction cs generalizing value with
  | nil => simp
  | cons c cs ih =>
    rw [Nat.ofDigitChars_cons]
    exact Nat.le_trans (by omega) (ih _)

theorem digitsFrom?_ten {highest value : Nat} (cs : List Char) (fits : value ≤ highest) :
    digitsFrom? 10 highest value cs =
      if cs.all Char.isDigit ∧ Nat.ofDigitChars 10 cs value ≤ highest then
        some (Nat.ofDigitChars 10 cs value)
      else none := by
  induction cs generalizing value with
  | nil => simp [digitsFrom?, fits]
  | cons c cs ih =>
    rw [digitsFrom?, digitIn?_ten, Nat.ofDigitChars_cons]
    by_cases digit : c.isDigit
    · by_cases next : 10 * value + (c.toNat - '0'.toNat) ≤ highest
      · simp only [digit, if_true, next, ih next, List.all_cons, Bool.true_and]
      · have above := le_ofDigitChars cs (10 * value + (c.toNat - '0'.toNat))
        simp only [digit, if_true, next, if_false]
        rw [if_neg fun h => next (Nat.le_trans above h.2)]
    · simp [digit]

theorem digitsIn?_ten_eq_some_iff {highest n : Nat} {cs : List Char} :
    digitsIn? 10 highest cs = some n ↔
      cs ≠ [] ∧ cs.all Char.isDigit ∧ Nat.ofDigitChars 10 cs 0 = n ∧ n ≤ highest := by
  unfold digitsIn?
  cases cs with
  | nil => simp
  | cons c cs =>
    rw [if_neg (by simp), digitsFrom?_ten _ (Nat.zero_le _)]
    split
    · next h => grind
    · next h => grind

/-- A number with at most one sign, in the 64-bit range. -/
def signed? : List Char → Option Int
  | '-' :: cs => (digitsIn? 10 Int64.minValue.toInt.natAbs cs).map fun n : Nat => -(n : Int)
  | '+' :: cs => (digitsIn? 10 Int64.maxValue.toInt.toNat cs).map Int.ofNat
  | cs => (digitsIn? 10 Int64.maxValue.toInt.toNat cs).map Int.ofNat

def integer? (s : String) : Option Int64 := (signed? (trimChars s.toList)).map Int64.ofInt

def decimalNat (n : Nat) : String := String.ofList (Nat.toDigits 10 n)

def decimal (n : Int64) : String :=
  if n < 0 then "-" ++ decimalNat n.toInt.natAbs else decimalNat n.toInt.toNat

end CourtroomGateway.Text
