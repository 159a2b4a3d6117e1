/-! Blank characters and trimming. The blank characters are the twenty-five with the white-space
property, told by code point. `trim` removes the longest blank run at each end and nothing
else. -/

namespace CourtroomGateway.Text

def isBlank (c : Char) : Bool :=
  let n := c.toNat
  (0x09 ≤ n && n ≤ 0x0D) || n == 0x20 || n == 0x85 || n == 0xA0 || n == 0x1680 ||
    (0x2000 ≤ n && n ≤ 0x200A) || n == 0x2028 || n == 0x2029 || n == 0x202F ||
    n == 0x205F || n == 0x3000

def trimChars (cs : List Char) : List Char :=
  ((cs.dropWhile isBlank).reverse.dropWhile isBlank).reverse

def trim (s : String) : String := String.ofList (trimChars s.toList)

/-- Nothing is left after trimming. -/
def isBlankText (s : String) : Bool := s.toList.all isBlank

theorem toList_trim (s : String) : (trim s).toList = trimChars s.toList := String.toList_ofList

theorem trimChars_eq_nil_iff (cs : List Char) : trimChars cs = [] ↔ ∀ c ∈ cs, isBlank c := by
  have edge : ∀ l : List Char, l.dropWhile isBlank = [] ↔ ∀ c ∈ l, isBlank c := by
    intro l
    induction l with
    | nil => simp
    | cons c l ih => by_cases h : isBlank c <;> simp [h, ih]
  simp only [trimChars, List.reverse_eq_nil_iff, edge, List.mem_reverse]
  constructor
  · intro h c hc
    rw [← List.takeWhile_append_dropWhile (p := isBlank) (l := cs), List.mem_append] at hc
    rcases hc with hc | hc
    · exact List.all_eq_true.1 List.all_takeWhile c hc
    · exact h c hc
  · intro h c hc
    exact h c ((List.dropWhile_sublist isBlank).subset hc)

theorem isBlankText_iff (s : String) : isBlankText s = true ↔ trim s = "" := by
  rw [← String.toList_inj, toList_trim]
  simp [isBlankText, trimChars_eq_nil_iff]

end CourtroomGateway.Text
