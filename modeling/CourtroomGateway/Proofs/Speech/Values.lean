import CourtroomGateway.Proofs.Speech.Decoding

/-! What a message holds in each field. A message is told by its dialect and its values, and
reading arguments gives every field of the layout what its own argument says, whatever the other
arguments are; a field without an argument keeps its default. -/

namespace CourtroomGateway.Speech

/-- What a field holds. The order belongs to the partner field. -/
inductive Value
  | text (content : String)
  | number (n : Int64)
  | partner (id : Int64) (order : Option String)
deriving DecidableEq

def Value.isNumber : Value → Bool
  | number _ => true
  | _ => false

namespace Message

def value (m : Message) : Field → Value
  | .msgType => .text m.msgType
  | .pre => .text m.pre
  | .folder => .text m.folder
  | .anim => .text m.anim
  | .text => .text m.text
  | .pos => .text m.pos
  | .sfx => .text m.sfx
  | .emoteMod => .number m.emoteMod
  | .cid => .number m.cid
  | .sfxDelay => .number m.sfxDelay
  | .button => .number m.button
  | .evidence => .number m.evidence
  | .flip => .number m.flip
  | .ding => .number m.ding
  | .color => .number m.color
  | .showname => .text m.showname
  | .charidPair => .partner m.charidPair m.pairOrder
  | .offsetPair => .text m.offsetPair
  | .nonintPre => .number m.nonintPre
  | .sfxLooping => .text m.sfxLooping
  | .screenshake => .number m.screenshake
  | .framesShake => .text m.framesShake
  | .framesRealization => .text m.framesRealization
  | .framesSfx => .text m.framesSfx
  | .additive => .number m.additive
  | .effect => .text m.effect
  | .thirdCharid => .number m.thirdCharid
  | .video => .text m.video
  | .hideCharacter => .number m.hideCharacter

theorem ext_value {m n : Message} (dialect : m.dialect = n.dialect)
    (values : ∀ f, m.value f = n.value f) : m = n := by
  have each : ∀ f ∈ Field.all, m.value f = n.value f := fun f _ => values f
  simp only [Field.all, List.forall_mem_cons, value, Value.text.injEq, Value.number.injEq,
    Value.partner.injEq] at each
  cases m
  cases n
  simp_all

/-- Which fields hold numbers does not depend on the message. -/
theorem isNumber_value (m n : Message) (f : Field) :
    (m.value f).isNumber = (n.value f).isNumber := by
  cases f <;> rfl

theorem wireValue_of_text {m : Message} {f : Field} {content : String}
    (holds : m.value f = .text content) : m.wireValue f = content := by
  cases f <;> cases holds <;> rfl

theorem wireValue_of_number {m : Message} {f : Field} {n : Int64}
    (holds : m.value f = .number n) : m.wireValue f = Text.decimal n := by
  cases f <;> cases holds <;> rfl

theorem value_read_of_ne (m : Message) {slot : Field × Kind} (raw : String) {f : Field}
    (other : f ≠ slot.1) : (m.read slot raw).value f = m.value f := by
  obtain ⟨g, k⟩ := slot
  unfold read value
  -- One case for each pair of fields: they are the same, or the reading leaves the first alone.
  cases f <;> cases g <;> first | exact absurd rfl other | rfl | (dsimp only; split <;> rfl)

/-- What an argument gives its field depends on that field alone. -/
theorem value_read_congr {m n : Message} (dialect : m.dialect = n.dialect)
    {slot : Field × Kind} (same : m.value slot.1 = n.value slot.1) (raw : String) :
    (m.read slot raw).value slot.1 = (n.read slot raw).value slot.1 := by
  obtain ⟨f, k⟩ := slot
  cases f
  case charidPair =>
    simp only [value, Value.partner.injEq] at same
    simp only [read, dialect, same]
    split <;> rfl
  case offsetPair =>
    simp only [value, Value.text.injEq] at same
    simp only [read, same]
    split <;> rfl
  all_goals simp_all [read, value]

theorem value_foldl_read_of_absent {f : Field} (entries : List ((Field × Kind) × String))
    (absent : f ∉ entries.map (·.1.1)) (m : Message) :
    (entries.foldl (fun m e => m.read e.1 e.2) m).value f = m.value f := by
  induction entries generalizing m with
  | nil => rfl
  | cons e entries ih =>
    simp only [List.map_cons, List.mem_cons, not_or] at absent
    rw [List.foldl_cons, ih absent.2, value_read_of_ne m e.2 absent.1]

theorem value_foldl_read {slot : Field × Kind} {raw : String}
    {entries : List ((Field × Kind) × String)} (once : (entries.map (·.1.1)).Nodup)
    (mem : (slot, raw) ∈ entries) (m : Message) :
    (entries.foldl (fun m e => m.read e.1 e.2) m).value slot.1 =
      (m.read slot raw).value slot.1 := by
  induction entries generalizing m with
  | nil => cases mem
  | cons e entries ih =>
    rw [List.map_cons, List.nodup_cons] at once
    rw [List.foldl_cons]
    rcases List.mem_cons.1 mem with rfl | later
    · exact value_foldl_read_of_absent entries once.1 _
    · have other : slot.1 ≠ e.1.1 := by
        intro same
        exact once.1 (List.mem_map.2 ⟨(slot, raw), later, same⟩)
      rw [ih once.2 later]
      exact value_read_congr (dialect_read m e.1 e.2) (value_read_of_ne m e.2 other) raw

theorem value_clampDing {f : Field} (other : f ≠ .ding) (m : Message) :
    m.clampDing.value f = m.value f := by
  unfold clampDing
  split
  · cases f <;> first | rfl | exact absurd rfl other
  · rfl

end Message

namespace Dialect

/-- The fields that messages of the dialect have. -/
def fields (d : Dialect) : List Field := d.layout.map (·.1)

theorem Fits.fields_eq {d : Dialect} {args : List String} (h : d.Fits args) :
    (d.layout.zip args).map (·.1.1) = d.fields := by
  have slots := List.map_fst_zip (Nat.le_of_eq h.length_eq)
  calc (d.layout.zip args).map (·.1.1)
      = ((d.layout.zip args).map (·.1)).map (·.1) := by rw [List.map_map]; rfl
    _ = d.fields := by rw [slots, fields]

/-- Each slot of a layout that fits has an argument in its place, and it is of the slot's kind. -/
theorem Fits.exists_getElem? {d : Dialect} {args : List String} (h : d.Fits args) {i : Nat}
    {slot : Field × Kind} (place : d.layout[i]? = some slot) :
    ∃ raw, args[i]? = some raw ∧ slot.2.Admits raw := by
  obtain ⟨length, admits⟩ := List.forall₂_iff_zip.1 h
  have long : i < args.length := by
    rw [← length]
    exact (List.getElem?_eq_some_iff.1 place).1
  have arg : args[i]? = some args[i] := List.getElem?_eq_getElem long
  exact ⟨args[i], arg, admits (mem_zip_of_getElem? place arg)⟩

theorem Fits.exists_argument {d : Dialect} {args : List String} (h : d.Fits args)
    {slot : Field × Kind} (mem : slot ∈ d.layout) :
    ∃ raw, (slot, raw) ∈ d.layout.zip args ∧ slot.2.Admits raw := by
  obtain ⟨i, place⟩ := List.mem_iff_getElem?.1 mem
  obtain ⟨raw, arg, admits⟩ := h.exists_getElem? place
  exact ⟨raw, mem_zip_of_getElem? place arg, admits⟩

section Reading
variable {d : Dialect} {args : List String} (fit : d.Fits args)
include fit

/-- A field of the layout gets what its own argument says. -/
theorem value_readAll {slot : Field × Kind} {raw : String}
    (mem : (slot, raw) ∈ d.layout.zip args) :
    (Message.readAll d args).value slot.1 = ((Message.empty d).read slot raw).value slot.1 := by
  have once : ((d.layout.zip args).map (·.1.1)).Nodup := fit.fields_eq ▸ d.nodup_fields
  exact Message.value_foldl_read once mem (Message.empty d)

theorem value_readAll_of_absent {f : Field} (absent : f ∉ d.fields) :
    (Message.readAll d args).value f = (Message.empty d).value f :=
  Message.value_foldl_read_of_absent _ (by rwa [fit.fields_eq]) _

end Reading
end Dialect
end CourtroomGateway.Speech
