import CourtroomGateway.Proofs.Text.Integer
import CourtroomGateway.Proofs.Text.Split
import CourtroomGateway.Wire.Packet

/-! Terminators inside a wire. Where the number sign only separates, a packet's wire has one
terminator for its end and one for every argument that begins with a percent sign; escaped text,
numbers and tuples never begin with one. -/

namespace CourtroomGateway

namespace Wire

/-- How many times the terminator stands in a text. -/
def terminators : List Char → Nat
  | [] => 0
  | c :: cs => (if c = '#' ∧ cs.head? = some '%' then 1 else 0) + terminators cs

/-- The terminator stands at the end of the wire and nowhere else. -/
def ClosedOnce (wire : String) : Prop :=
  ['#', '%'] <:+ wire.toList ∧ terminators wire.toList = 1

instance (wire : String) : Decidable (ClosedOnce wire) := inferInstanceAs (Decidable (_ ∧ _))

theorem terminators_append {a : List Char} (plain : '#' ∉ a) (b : List Char) :
    terminators (a ++ b) = terminators b := by
  induction a with
  | nil => rfl
  | cons c a ih =>
    rw [List.mem_cons, not_or] at plain
    rw [List.cons_append, terminators, ih plain.2, if_neg fun h => plain.1 h.1.symm, Nat.zero_add]

/-- The text begins with a percent sign, which completes a terminator where a separator is
before it. -/
def Completes (text : String) : Prop := text.toList.head? = some '%'

instance (text : String) : Decidable (Completes text) :=
  inferInstanceAs (Decidable (text.toList.head? = some '%'))

theorem terminators_separated {args : List String} (plain : ∀ a ∈ args, '#' ∉ a.toList) :
    terminators (args.flatMap (fun a => '#' :: a.toList) ++ ['#', '%']) =
      args.countP (fun a => Completes a) + 1 := by
  induction args with
  | nil => rfl
  | cons a args ih =>
    have rest := ih fun b mem => plain b (List.mem_cons_of_mem a mem)
    have begins : ∀ more : List Char, more.head? = some '#' →
        ((a.toList ++ more).head? = some '%' ↔ Completes a) := by
      intro more separator
      cases shape : a.toList with
      | nil => simp [Completes, shape, separator]
      | cons c cs => simp [Completes, shape]
    have separator :
        (args.flatMap (fun a => '#' :: a.toList) ++ ['#', '%']).head? = some '#' := by
      cases args <;> rfl
    rw [List.flatMap_cons, List.append_assoc, List.cons_append, terminators,
      terminators_append (plain a List.mem_cons_self), rest, List.countP_cons]
    simp only [true_and, begins _ separator, decide_eq_true_eq]
    omega

namespace Packet

/-- The number sign stands in the wire only where it separates. -/
structure Separated (p : Packet) : Prop where
  command : '#' ∉ p.command.toList
  args : ∀ a ∈ p.args, '#' ∉ a.toList

/-- An argument that is not there counts as empty. -/
theorem Separated.getD {p : Packet} (h : p.Separated) (i : Nat) :
    '#' ∉ (p.args[i]?.getD "").toList := by
  cases found : p.args[i]? with
  | none => simp
  | some a => exact h.args a (List.mem_of_getElem? found)

theorem Separated.closedOnce_iff {p : Packet} (h : p.Separated) :
    ClosedOnce p.toWire ↔ ∀ a ∈ p.args, ¬ Completes a := by
  have count : terminators p.wireChars = p.args.countP (fun a => Completes a) + 1 := by
    rw [wireChars, List.append_assoc, terminators_append h.command, terminators_separated h.args]
  have close : ['#', '%'] <:+ p.wireChars := List.suffix_append _ _
  rw [ClosedOnce, toList_toWire, count, Nat.add_eq_right, List.countP_eq_zero]
  simp only [close, true_and, decide_eq_true_eq]

theorem separated_of_segments {segments : List (List Char)}
    (plain : ∀ piece ∈ segments, '#' ∉ piece) {p : Packet} (read : ofSegments? segments = some p) :
    p.Separated := by
  cases segments with
  | nil => cases read
  | cons head rest =>
    simp only [ofSegments?] at read
    split at read
    · cases read
    cases read
    constructor
    · rw [String.toList_ofList]
      exact fun inside => plain head List.mem_cons_self (Text.mem_of_mem_trimChars inside)
    · intro a mem
      obtain ⟨piece, listed, rfl⟩ := List.mem_map.1 mem
      rw [String.toList_ofList]
      exact plain piece (List.mem_cons_of_mem head listed)

theorem separated_of_parse {message : String} {p : Packet} (parsed : parse? message = some p) :
    p.Separated := by
  have plain : ∀ piece ∈ message.toList.splitOn '#', '#' ∉ piece := fun _ mem =>
    Text.not_mem_of_mem_splitOn mem
  unfold parse? at parsed
  split at parsed
  next rest cuts =>
    rw [cuts] at plain
    exact separated_of_segments (fun piece mem => plain piece (List.mem_cons_of_mem [] mem)) parsed
  next => exact separated_of_segments plain parsed

/-- A packet that is one message to whoever receives it. -/
structure Tidy (p : Packet) : Prop extends p.Separated where
  begins : ∀ a ∈ p.args, ¬ Completes a

theorem Tidy.closedOnce {p : Packet} (h : p.Tidy) : ClosedOnce p.toWire :=
  h.toSeparated.closedOnce_iff.2 h.begins

end Packet

/-- A text without number signs that does not begin with a percent sign. -/
structure Safe (text : String) : Prop where
  plain : '#' ∉ text.toList
  begins : ¬ Completes text

theorem safe_of_not_mem {text : String} (number : '#' ∉ text.toList) (percent : '%' ∉ text.toList) :
    Safe text where
  plain := number
  begins h := percent (List.mem_of_mem_head? h)

theorem not_mem_escapeChars {c : Char} (special : c ∈ reserved.map (·.raw)) (cs : List Char) :
    c ∉ escapeChars cs := by
  rw [escapeChars, List.mem_flatMap]
  rintro ⟨d, -, inside⟩
  unfold escapeChar at inside
  cases found : reserved.find? (fun r => r.raw = d) with
  | none =>
    rw [found, List.mem_singleton] at inside
    subst inside
    obtain ⟨r, mem, same⟩ := List.mem_map.1 special
    exact List.find?_eq_none.1 found r mem (by simpa using same)
  | some r =>
    rw [found] at inside
    have tokens : ∀ r ∈ reserved, ∀ s ∈ reserved, s.raw ∉ r.token := by decide
    obtain ⟨s, mem, rfl⟩ := List.mem_map.1 special
    exact tokens r (List.mem_of_find?_eq_some found) s mem inside

theorem not_mem_escape (text : String) : ∀ r ∈ reserved, r.raw ∉ (escape text).toList := by
  intro r mem
  rw [toList_escape]
  exact not_mem_escapeChars (List.mem_map_of_mem mem) text.toList

theorem safe_escape (text : String) : Safe (escape text) :=
  safe_of_not_mem (not_mem_escape text ⟨'#', "<num>".toList⟩ (by decide))
    (not_mem_escape text ⟨'%', "<percent>".toList⟩ (by decide))

theorem safe_decimalNat (n : Nat) : Safe (Text.decimalNat n) :=
  safe_of_not_mem (Text.not_mem_decimalNat (by decide) n) (Text.not_mem_decimalNat (by decide) n)

theorem safe_decimal (n : Int64) : Safe (Text.decimal n) :=
  safe_of_not_mem (Text.not_mem_decimal (by decide) (by decide) n)
    (Text.not_mem_decimal (by decide) (by decide) n)

theorem not_mem_intercalate {c : Char} {separator : String} (apart : c ∉ separator.toList)
    {texts : List String} (h : ∀ t ∈ texts, c ∉ t.toList) :
    c ∉ (separator.intercalate texts).toList := by
  induction texts with
  | nil => simp
  | cons t texts ih =>
    have first := h t List.mem_cons_self
    have rest := ih fun u mem => h u (List.mem_cons_of_mem t mem)
    by_cases last : texts = []
    · rw [last, String.intercalate_singleton]
      exact first
    · rw [String.intercalate_cons_of_ne_nil last]
      simp only [String.toList_append, List.mem_append, not_or]
      exact ⟨⟨first, apart⟩, rest⟩

theorem safe_tuple (members : List String) : Safe ("&".intercalate (members.map escape)) := by
  have avoids (c : Char) (apart : c ∉ "&".toList) (special : c ∈ reserved.map (·.raw)) :
      c ∉ ("&".intercalate (members.map escape)).toList := by
    refine not_mem_intercalate apart fun t mem => ?_
    obtain ⟨member, -, rfl⟩ := List.mem_map.1 mem
    rw [toList_escape]
    exact not_mem_escapeChars special _
  exact safe_of_not_mem (avoids '#' (by decide) (by decide)) (avoids '%' (by decide) (by decide))

namespace Packet

theorem tidy_of_safe {p : Packet} (command : '#' ∉ p.command.toList) (args : ∀ a ∈ p.args, Safe a) :
    p.Tidy where
  command := command
  args a mem := (args a mem).plain
  begins a mem := (args a mem).begins

theorem tidy_named {command : String} (plain : '#' ∉ command.toList) : (named command).Tidy :=
  tidy_of_safe plain nofun

theorem Tidy.append {p : Packet} (h : p.Tidy) {values : List String} (safe : ∀ v ∈ values, Safe v) :
    Tidy { p with args := p.args ++ values } where
  command := h.command
  args a mem := (List.mem_append.1 mem).elim (h.args a) fun mem => (safe a mem).plain
  begins a mem := (List.mem_append.1 mem).elim (h.begins a) fun mem => (safe a mem).begins

theorem Tidy.arg {p : Packet} (h : p.Tidy) {value : String} (safe : Safe value) :
    (p.arg value).Tidy :=
  h.append fun _ mem => List.mem_singleton.1 mem ▸ safe

theorem Tidy.int {p : Packet} (h : p.Tidy) (value : Int64) : (p.int value).Tidy :=
  h.arg (safe_decimal value)

theorem Tidy.nat {p : Packet} (h : p.Tidy) (value : Nat) : (p.nat value).Tidy :=
  h.arg (safe_decimalNat value)

theorem Tidy.text {p : Packet} (h : p.Tidy) (value : String) : (p.text value).Tidy :=
  h.arg (safe_escape value)

theorem Tidy.tuple {p : Packet} (h : p.Tidy) (members : List String) : (p.tuple members).Tidy :=
  h.arg (safe_tuple members)

theorem Tidy.texts {p : Packet} (h : p.Tidy) (values : List String) : (p.texts values).Tidy := by
  refine h.append fun v mem => ?_
  obtain ⟨value, -, rfl⟩ := List.mem_map.1 mem
  exact safe_escape value

end Packet
end Wire
end CourtroomGateway
