import CourtroomGateway.Proofs.Speech.Values

/-! Reading undoes rendering. The messages that arguments can be read as are those that a client
of their dialect can send: the dialect's own fields are in its form, and what it has no field for
is at its default. Each of them is read back from its rendering, whatever its numbers are. -/

namespace CourtroomGateway.Speech

theorem not_mem_decimal_caret (n : Int64) : '^' ∉ (Text.decimal n).toList :=
  Text.not_mem_decimal (by decide) (by decide) n

theorem splitPair_decimal (n : Int64) : splitPair (Text.decimal n) = (Text.decimal n, none) := by
  rw [splitPair, List.splitOn_eq_singleton (not_mem_decimal_caret n)]
  simp only [String.ofList_toList]

theorem splitPair_ordered (n : Int64) {order : String} (filled : order ≠ "")
    (plain : '^' ∉ order.toList) :
    splitPair (Text.decimal n ++ "^" ++ order) = (Text.decimal n, some order) := by
  have shape : (Text.decimal n ++ "^" ++ order).toList =
      (Text.decimal n).toList ++ '^' :: order.toList := by simp
  have filled : order.toList ≠ [] := by simpa using filled
  rw [splitPair, shape, List.splitOn_append_cons_self_of_not_mem (not_mem_decimal_caret n),
    List.splitOn_eq_singleton plain]
  simp [filled]

namespace Dialect

/-- Where an argument has to be a number, its field holds one, but for two fields of one
dialect. -/
theorem isNumber_of_slot {d : Dialect} {slot : Field × Kind} (mem : slot ∈ d.layout)
    (number : slot.2.isNumber) :
    ((Message.empty d).value slot.1).isNumber ∨
      d = .v26 ∧ (slot.1 = .charidPair ∨ slot.1 = .offsetPair) := by
  revert slot
  cases d <;> decide

theorem isNumber_of_offset {d : Dialect} {slot : Field × Kind} (mem : slot ∈ d.layout)
    (offset : slot.1 = .offsetPair) : slot.2.isNumber ↔ d = .v26 := by
  revert slot
  cases d <;> decide

theorem ding_mem_fields (d : Dialect) : .ding ∈ d.fields := by
  cases d <;> decide

theorem not_ordersPair_v26 : ¬ v26.ordersPair := by decide

end Dialect

namespace Message

/-- A client of the message's dialect can send it. -/
structure Sendable (m : Message) : Prop where
  absent : ∀ f, f ∉ m.dialect.fields → m.value f = (empty m.dialect).value f
  unordered : ¬ m.dialect.ordersPair → m.pairOrder = none
  filled : ∀ f content, (f, .filled) ∈ m.dialect.layout → m.value f = .text content → content ≠ ""
  order : ∀ order, m.pairOrder = some order → order ≠ "" ∧ '^' ∉ order.toList
  offset : m.dialect = .v26 → ∃ n, m.offsetPair = Text.decimal n
  ding : m.dialect = .dro → m.ding = 0 ∨ m.ding = 1

theorem readInt_decimal (n fallback : Int64) : readInt (Text.decimal n) fallback = n := by
  rw [readInt, Text.integer?_decimal, Option.getD_some]

theorem Sendable.splitPair_declaredPair {m : Message} (h : m.Sendable) :
    splitPair m.declaredPair = (Text.decimal m.charidPair, m.pairOrder) := by
  unfold declaredPair
  cases sent : m.pairOrder with
  | none => exact splitPair_decimal _
  | some order =>
    obtain ⟨filled, plain⟩ := h.order order sent
    exact splitPair_ordered _ filled plain

/-- What is rendered for a field says what the field holds. -/
theorem Sendable.value_read_wireValue {m : Message} (h : m.Sendable) {slot : Field × Kind}
    (mem : slot ∈ m.dialect.layout) :
    ((empty m.dialect).read slot (m.wireValue slot.1)).value slot.1 = m.value slot.1 := by
  obtain ⟨f, k⟩ := slot
  cases f
  case charidPair =>
    by_cases orders : m.dialect.ordersPair
    · simp [read, value, wireValue, empty, orders, h.splitPair_declaredPair, readInt_decimal]
    · simp [read, value, wireValue, empty, orders, readInt_decimal, h.unordered orders]
  case offsetPair =>
    by_cases number : k.isNumber
    · obtain ⟨n, canonical⟩ := h.offset ((Dialect.isNumber_of_offset mem rfl).1 number)
      simp [read, value, wireValue, number, canonical, Text.integer?_decimal]
    · simp [read, value, wireValue, number]
  all_goals simp [read, value, wireValue, readInt_decimal]

theorem wireValue_charidPair_ne_empty (m : Message) : m.wireValue .charidPair ≠ "" := by
  have filled := Text.decimal_ne_empty m.charidPair
  simp only [wireValue, declaredPair]
  split
  · split
    · exact filled
    · simp [String.append_eq_empty_iff, filled]
  · exact filled

theorem Sendable.admits_wireValue {m : Message} (h : m.Sendable) {slot : Field × Kind}
    (mem : slot ∈ m.dialect.layout) : slot.2.Admits (m.wireValue slot.1) := by
  obtain ⟨f, k⟩ := slot
  have numbers (number : k.isNumber) : Text.IsInteger (m.wireValue f) := by
    rcases Dialect.isNumber_of_slot mem number with holds | ⟨dialect, rfl | rfl⟩
    · rw [isNumber_value _ m] at holds
      cases value : m.value f with
      | number n =>
        rw [wireValue_of_number value]
        exact Text.isInteger_decimal n
      | text content => simp [value, Value.isNumber] at holds
      | partner id order => simp [value, Value.isNumber] at holds
    · simp only [wireValue, dialect, Dialect.not_ordersPair_v26]
      exact Text.isInteger_decimal _
    · obtain ⟨n, canonical⟩ := h.offset dialect
      simp only [wireValue, canonical]
      exact Text.isInteger_decimal n
  cases k with
  | free => trivial
  | number => exact numbers rfl
  | button => exact numbers rfl
  | filled =>
    change m.wireValue f ≠ ""
    cases value : m.value f with
    | text content =>
      rw [wireValue_of_text value]
      exact h.filled f content mem value
    | number n =>
      rw [wireValue_of_number value]
      exact Text.decimal_ne_empty n
    | partner id order =>
      have partner : f = .charidPair := by cases f <;> cases value; rfl
      rw [partner]
      exact wireValue_charidPair_ne_empty m

theorem zip_render (m : Message) :
    m.dialect.layout.zip m.render = m.dialect.layout.map fun slot => (slot, m.wireValue slot.1) :=
  List.map_prod_left_eq_zip.symm

theorem Sendable.fits_render {m : Message} (h : m.Sendable) : m.dialect.Fits m.render := by
  rw [Dialect.Fits, render, List.forall₂_map_right_iff, List.forall₂_same]
  exact fun slot mem => h.admits_wireValue mem

theorem Sendable.reads_render {m : Message} (h : m.Sendable) : m.dialect.Reads m.render := by
  refine ⟨h.fits_render, fun orders => ?_⟩
  obtain ⟨raw, i, k, slot, arg⟩ := h.fits_render.exists_pair orders
  refine ⟨raw, ⟨i, k, slot, arg⟩, ?_⟩
  have sent : raw = m.declaredPair := by
    simp only [render, List.getElem?_map, slot, Option.map_some, wireValue, orders, if_true,
      Option.some.injEq] at arg
    exact arg.symm
  rw [sent, ← splitPair_fst, h.splitPair_declaredPair]
  exact Text.isInteger_decimal _

theorem Sendable.clampDing_eq {m : Message} (h : m.Sendable) : m.clampDing = m := by
  unfold clampDing
  split
  next clamps =>
    have dro : m.dialect = .dro := by
      revert clamps
      cases m.dialect <;> decide
    have same : (if m.ding = 1 then 1 else 0) = m.ding := by
      rcases h.ding dro with off | on
      · rw [off]
        rfl
      · rw [on]
        rfl
    rw [same]
  next => rfl

theorem Sendable.readAll_render {m : Message} (h : m.Sendable) :
    readAll m.dialect m.render = m := by
  refine ext_value (dialect_foldl_read _ _) fun f => ?_
  by_cases mem : f ∈ m.dialect.fields
  · obtain ⟨slot, listed, rfl⟩ := List.mem_map.1 mem
    have sent : (slot, m.wireValue slot.1) ∈ m.dialect.layout.zip m.render := by
      rw [zip_render]
      exact List.mem_map.2 ⟨slot, listed, rfl⟩
    rw [Dialect.value_readAll h.fits_render sent]
    exact h.value_read_wireValue listed
  · rw [Dialect.value_readAll_of_absent h.fits_render mem, h.absent f mem]

/-- A text that must not be empty is passed on as it came. -/
theorem content_read {m : Message} {f : Field} {raw content : String}
    (holds : (m.read (f, .filled) raw).value f = .text content) : content = raw := by
  cases f <;> cases holds <;> rfl

section Decoded
variable {args : List String} {m : Message} (decoded : decode args = .ok m)
include decoded

/-- A field of a message that was read holds what its argument says, the clamped one apart. -/
theorem value_of_decode {slot : Field × Kind} {raw : String}
    (mem : (slot, raw) ∈ m.dialect.layout.zip args) (plain : slot.1 ≠ .ding) :
    m.value slot.1 = ((empty m.dialect).read slot raw).value slot.1 := by
  obtain ⟨⟨fit, -⟩, same⟩ := (decode_ok_iff args m).1 decoded
  have clamped := value_clampDing plain (readAll m.dialect args)
  rw [same] at clamped
  rw [clamped, Dialect.value_readAll fit mem]

theorem value_of_decode_of_absent {f : Field} (absent : f ∉ m.dialect.fields) :
    m.value f = (empty m.dialect).value f := by
  obtain ⟨⟨fit, -⟩, same⟩ := (decode_ok_iff args m).1 decoded
  have plain : f ≠ .ding := by
    rintro rfl
    exact absent m.dialect.ding_mem_fields
  have clamped := value_clampDing plain (readAll m.dialect args)
  rw [same] at clamped
  rw [clamped, Dialect.value_readAll_of_absent fit absent]

theorem pairOrder_of_decode :
    m.pairOrder = none ∨ m.dialect.ordersPair ∧ ∃ raw, m.pairOrder = (splitPair raw).2 := by
  obtain ⟨⟨fit, -⟩, -⟩ := (decode_ok_iff args m).1 decoded
  by_cases mem : .charidPair ∈ m.dialect.fields
  · obtain ⟨⟨f, k⟩, listed, rfl⟩ := List.mem_map.1 mem
    obtain ⟨raw, sent, -⟩ := fit.exists_argument listed
    have told := value_of_decode decoded sent nofun
    by_cases orders : m.dialect.ordersPair
    · simp only [read, value, empty, orders, if_true, Value.partner.injEq] at told
      exact .inr ⟨orders, raw, told.2⟩
    · simp only [read, value, empty, orders, Value.partner.injEq] at told
      exact .inl told.2
  · have default := value_of_decode_of_absent decoded mem
    simp only [value, empty, Value.partner.injEq] at default
    exact .inl default.2

theorem sendable_of_decode : m.Sendable := by
  obtain ⟨⟨fit, -⟩, same⟩ := (decode_ok_iff args m).1 decoded
  have ordered := pairOrder_of_decode decoded
  constructor
  case absent => exact fun f => value_of_decode_of_absent decoded
  case unordered =>
    intro plain
    rcases ordered with none_ | ⟨orders, -⟩
    · exact none_
    · exact absurd orders plain
  case filled =>
    intro f content mem holds
    obtain ⟨raw, sent, nonempty⟩ := fit.exists_argument mem
    have plain : f ≠ .ding := by
      rintro rfl
      cases holds
    rw [value_of_decode decoded sent plain] at holds
    rw [content_read holds]
    exact nonempty
  case order =>
    intro order sent
    rcases ordered with none_ | ⟨-, raw, split⟩
    · rw [none_] at sent
      cases sent
    · obtain ⟨piece, nonempty⟩ := mem_splitOn_of_splitPair (split.symm.trans sent)
      exact ⟨nonempty, Text.not_mem_of_mem_splitOn piece⟩
  case offset =>
    intro dialect
    have mem : (Field.offsetPair, Kind.number) ∈ m.dialect.layout := by
      rw [dialect]
      decide
    obtain ⟨raw, sent, integer⟩ := fit.exists_argument mem
    obtain ⟨n, spelled⟩ := Option.isSome_iff_exists.1 ((Text.isSome_integer?_iff raw).2 integer)
    have told := value_of_decode decoded sent nofun
    simp only [read, value, Kind.isNumber, if_true, spelled, Option.map_some, Option.getD_some,
      Value.text.injEq] at told
    exact ⟨n, told⟩
  case ding =>
    intro dialect
    have clamps : (readAll m.dialect args).dialect.clampsDing := by
      rw [readAll, dialect_foldl_read, empty, dialect]
      rfl
    rw [← same, clampDing, if_pos clamps]
    dsimp only
    split
    · exact .inr rfl
    · exact .inl rfl

end Decoded

/-- The messages that some arguments are read as are the ones that can be sent, and they are the
ones that are read back from their own rendering. -/
theorem decode_render_iff (m : Message) :
    (decode m.render = .ok m ↔ m.Sendable) ∧ ((∃ args, decode args = .ok m) ↔ m.Sendable) := by
  have back : m.Sendable → decode m.render = .ok m := fun sendable => by
    rw [decode_ok_iff]
    refine ⟨sendable.reads_render, ?_⟩
    rw [sendable.readAll_render, sendable.clampDing_eq]
  refine ⟨⟨sendable_of_decode, back⟩, ?_, fun sendable => ⟨m.render, back sendable⟩⟩
  rintro ⟨args, decoded⟩
  exact sendable_of_decode decoded

/-- A partner with an order, and the least and the greatest number. -/
example :
    let m : Message :=
      { empty .kfo with
        msgType := "1", folder := "Edgeworth", anim := "smirk", pos := "pro", sfx := "0"
        cid := Int64.minValue, charidPair := 3, pairOrder := some "1"
        thirdCharid := Int64.maxValue }
    decode m.render = .ok m := by decide +kernel

end Message
end CourtroomGateway.Speech
