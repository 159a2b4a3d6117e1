import CourtroomGateway.Proofs.Speech.Rendering
import CourtroomGateway.Speech.Broadcast

/-! From the arguments of a message to the arguments of its broadcast. Every column of the
broadcast has one source: an argument of the message, as it came or as the number that it spells,
a constant, or the resolved pairing. The sources are listed by dialect and column, as a reader of
the wire would list them; that a message goes through its fields on the way does not show. -/

namespace CourtroomGateway.Speech

/-- What the text of a column is taken from. -/
inductive Source
  /-- An argument as it came. -/
  | sent (i : Nat)
  /-- The shortest decimal form of the number that an argument spells. -/
  | number (i : Nat)
  /-- `1` where an argument spells one, `0` where it spells another number. -/
  | flag (i : Nat)
  | constant (text : String)
  | paired (text : Pairing → String)

def Source.Gives (args : List String) (p : Pairing) : Source → String → Prop
  | sent i, out => args[i]? = some out
  | number i, out =>
    ∃ (raw : String) (n : Int64), args[i]? = some raw ∧ Text.Spells raw n.toInt ∧
      out = Text.decimal n
  | flag i, out =>
    ∃ (raw : String) (n : Int64), args[i]? = some raw ∧ Text.Spells raw n.toInt ∧
      out = if n = 1 then "1" else "0"
  | constant text, out => out = text
  | paired text, out => out = text p

/-- What the broadcast shows of a companion, or a default where none is confirmed. -/
def companionText (slot : Pairing → Option Companion) (text : Companion → String)
    (absent : String) (p : Pairing) : String :=
  ((slot p).map text).getD absent

/-- The sources of the columns that not every dialect fills. -/
structure Extras where
  showname : Source := .constant ""
  offsetPair : Source := .constant "0"
  nonintPre : Source := .constant "0"
  sfxLooping : Source := .constant "0"
  screenshake : Source := .constant "0"
  framesShake : Source := .constant ""
  framesRealization : Source := .constant ""
  framesSfx : Source := .constant ""
  additive : Source := .constant "0"
  effect : Source := .constant ""
  video : Source := .constant ""

/-- The 2.8 generation fills every one of them but the video. -/
def Extras.effects : Extras where
  showname := .sent 15
  offsetPair := .sent 17
  nonintPre := .number 18
  sfxLooping := .sent 19
  screenshake := .number 20
  framesShake := .sent 21
  framesRealization := .sent 22
  framesSfx := .sent 23
  additive := .number 24
  effect := .sent 25

def Dialect.extras : Dialect → Extras
  | kfo => { Extras.effects with video := .sent 27 }
  | aoGolden | v28 => .effects
  | v26 => { showname := .sent 15, offsetPair := .number 17, nonintPre := .number 18 }
  | dro => { showname := .sent 15, video := .sent 16 }
  | pre26 => {}

/-- The sources of the columns of the broadcast, from the first to the last. -/
def Dialect.columns (d : Dialect) : List Source :=
  [.sent 0, .sent 1, .sent 2, .sent 3, .sent 4, .sent 5, .sent 6,
    .number 7, .number 8, .number 9, .number 10, .number 11, .number 12,
    if d = dro then .flag 13 else .number 13,
    .number 14,
    d.extras.showname,
    .paired (·.charidPair),
    .paired (companionText (·.primary) (·.folder) ""),
    .paired (companionText (·.primary) (·.anim) ""),
    d.extras.offsetPair,
    .paired (companionText (·.primary) (·.offset) "0"),
    .paired (companionText (·.primary) (Text.decimal ·.flip) "0"),
    d.extras.nonintPre,
    d.extras.sfxLooping,
    d.extras.screenshake,
    d.extras.framesShake,
    d.extras.framesRealization,
    d.extras.framesSfx,
    d.extras.additive,
    d.extras.effect,
    .paired (Text.decimal ·.thirdCharid),
    .paired (companionText (·.third) (·.folder) ""),
    .paired (companionText (·.third) (·.anim) ""),
    .paired (companionText (·.third) (·.offset) "0"),
    .paired (companionText (·.third) (Text.decimal ·.flip) "0"),
    d.extras.video]

/-- A column shows a field of the message or a part of the pairing. -/
inductive Column
  | field (f : Field)
  | paired (text : Pairing → String)

namespace Column

def text (m : Message) (p : Pairing) : Column → String
  | field f => m.wireValue f
  | paired text => text p

/-- The columns of the broadcast, the same for every dialect. -/
def all : List Column :=
  [.field .msgType, .field .pre, .field .folder, .field .anim, .field .text, .field .pos,
    .field .sfx, .field .emoteMod, .field .cid, .field .sfxDelay, .field .button,
    .field .evidence, .field .flip, .field .ding, .field .color, .field .showname,
    .paired (·.charidPair),
    .paired (companionText (·.primary) (·.folder) ""),
    .paired (companionText (·.primary) (·.anim) ""),
    .field .offsetPair,
    .paired (companionText (·.primary) (·.offset) "0"),
    .paired (companionText (·.primary) (Text.decimal ·.flip) "0"),
    .field .nonintPre, .field .sfxLooping, .field .screenshake, .field .framesShake,
    .field .framesRealization, .field .framesSfx, .field .additive, .field .effect,
    .paired (Text.decimal ·.thirdCharid),
    .paired (companionText (·.third) (·.folder) ""),
    .paired (companionText (·.third) (·.anim) ""),
    .paired (companionText (·.third) (·.offset) "0"),
    .paired (companionText (·.third) (Text.decimal ·.flip) "0"),
    .field .video]

theorem map_text_all (m : Message) (p : Pairing) :
    all.map (text m p) = m.broadcastArgs p := by
  obtain ⟨primary, third, charidPair, thirdCharid⟩ := p
  cases primary <;> cases third <;> rfl

end Column

namespace Dialect

/-- Where the text of a field comes from: its own argument, read by its kind, or its default. -/
def source (d : Dialect) (f : Field) : Source :=
  match d.layout.zipIdx.find? fun e => e.1.1 = f with
  | none => .constant ((Message.empty d).wireValue f)
  | some ((_, k), i) =>
    if f = .ding ∧ d.clampsDing then .flag i
    else if k.isNumber then .number i
    else .sent i

end Dialect

def Column.source (d : Dialect) : Column → Source
  | field f => d.source f
  | paired text => .paired text

namespace Dialect

theorem columns_eq (d : Dialect) : d.columns = Column.all.map (Column.source d) := by
  cases d <;> rfl

theorem source_of_absent {d : Dialect} {f : Field} (absent : f ∉ d.fields) :
    d.source f = .constant ((Message.empty d).wireValue f) := by
  have nowhere : d.layout.zipIdx.find? (fun e => e.1.1 = f) = none := by
    rw [List.find?_eq_none]
    rintro ⟨slot, i⟩ listed
    have mem : slot ∈ d.layout := List.fst_mem_of_mem_zipIdx listed
    simp only [decide_eq_true_eq]
    rintro rfl
    exact absent (List.mem_map_of_mem mem)
  rw [source, nowhere]

theorem exists_source {d : Dialect} {f : Field} (mem : f ∈ d.fields) :
    ∃ i k, d.layout[i]? = some (f, k) ∧
      d.source f =
        if f = .ding ∧ d.clampsDing then .flag i
        else if k.isNumber then .number i
        else .sent i := by
  unfold source
  split
  next nowhere =>
    obtain ⟨slot, listed, rfl⟩ := List.mem_map.1 mem
    obtain ⟨i, place⟩ := List.mem_iff_getElem?.1 listed
    have there : (slot, i) ∈ d.layout.zipIdx := List.mem_zipIdx_iff_getElem?.2 place
    exact absurd (List.find?_eq_none.1 nowhere _ there) (by simp)
  next g k i found =>
    have place := List.mem_zipIdx_iff_getElem?.1 (List.mem_of_find?_eq_some found)
    have same : g = f := by simpa using List.find?_some found
    subst same
    exact ⟨i, k, place, rfl⟩

theorem isNumber_of_ding {d : Dialect} {slot : Field × Kind} (mem : slot ∈ d.layout)
    (ding : slot.1 = .ding) : slot.2.isNumber := by
  revert slot
  cases d <;> decide

/-- Where an argument may be any text, its field holds a text, the partner field apart. -/
theorem not_isNumber_of_slot {d : Dialect} {slot : Field × Kind} (mem : slot ∈ d.layout)
    (text : ¬ slot.2.isNumber) :
    slot.1 = .charidPair ∨ ¬ ((Message.empty d).value slot.1).isNumber := by
  revert slot
  cases d <;> decide

end Dialect

namespace Message

theorem wireValue_congr {m n : Message} {f : Field} (same : m.value f = n.value f)
    (plain : f ≠ .charidPair) : m.wireValue f = n.wireValue f := by
  cases f <;> simp_all [value, wireValue]

/-- An argument that may be any text is shown as it came. -/
theorem wireValue_read_of_text {d : Dialect} {f : Field} {k : Kind} (mem : (f, k) ∈ d.layout)
    (text : ¬ k.isNumber) (plain : f ≠ .charidPair) (raw : String) :
    ((empty d).read (f, k) raw).wireValue f = raw := by
  have holds := (Dialect.not_isNumber_of_slot mem text).resolve_left plain
  cases f <;> first | exact absurd rfl holds | exact absurd rfl plain | simp [read, wireValue, text]

/-- An argument that has to be a number is shown as the number that it spells. -/
theorem wireValue_read_of_number {d : Dialect} {f : Field} {k : Kind} (mem : (f, k) ∈ d.layout)
    (number : k.isNumber) (plain : f ≠ .charidPair) {raw : String} {n : Int64}
    (spelled : Text.integer? raw = some n) :
    ((empty d).read (f, k) raw).wireValue f = Text.decimal n := by
  have holds := Dialect.isNumber_of_slot mem number
  cases f <;> simp_all [read, wireValue, readInt, value, empty, Value.isNumber]

section Decoded
variable {args : List String} {m : Message} (decoded : decode args = .ok m)
include decoded

theorem ding_of_decode {k : Kind} {raw : String} {n : Int64}
    (mem : ((.ding, k), raw) ∈ m.dialect.layout.zip args) (spelled : Text.integer? raw = some n) :
    m.ding = if m.dialect.clampsDing then if n = 1 then 1 else 0 else n := by
  obtain ⟨⟨fit, -⟩, same⟩ := (decode_ok_iff args m).1 decoded
  have told := Dialect.value_readAll fit mem
  simp only [value, read, readInt, spelled, Option.getD_some, Value.number.injEq] at told
  have kept : (readAll m.dialect args).dialect = m.dialect := dialect_foldl_read _ _
  have clamped := congrArg Message.ding same
  rw [clampDing, kept] at clamped
  rw [← clamped]
  split
  · rw [← told]
  · exact told

section Slot
variable {i : Nat} {f : Field} {k : Kind} {raw : String}
  (slot : m.dialect.layout[i]? = some (f, k)) (arg : args[i]? = some raw) (plain : f ≠ .charidPair)
include slot arg plain

theorem wireValue_of_text_slot (text : ¬ k.isNumber) : m.wireValue f = raw := by
  have listed : (f, k) ∈ m.dialect.layout := List.mem_of_getElem? slot
  have sent := Dialect.mem_zip_of_getElem? slot arg
  have ding : f ≠ .ding := fun ding => text (Dialect.isNumber_of_ding listed ding)
  rw [wireValue_congr (value_of_decode decoded sent ding) plain]
  exact wireValue_read_of_text listed text plain raw

theorem wireValue_of_number_slot (number : k.isNumber) {n : Int64}
    (read : Text.integer? raw = some n) :
    m.wireValue f =
      if f = .ding ∧ m.dialect.clampsDing then if n = 1 then "1" else "0"
      else Text.decimal n := by
  have listed : (f, k) ∈ m.dialect.layout := List.mem_of_getElem? slot
  have sent := Dialect.mem_zip_of_getElem? slot arg
  by_cases ding : f = .ding
  · subst ding
    rw [wireValue, ding_of_decode decoded sent read]
    by_cases clamps : m.dialect.clampsDing
    · have clamped : Field.ding = .ding ∧ m.dialect.clampsDing := ⟨rfl, clamps⟩
      rw [if_pos clamps, if_pos clamped]
      split <;> rfl
    · rw [if_neg clamps, if_neg fun clamped => clamps clamped.2]
  · rw [if_neg fun h => ding h.1, wireValue_congr (value_of_decode decoded sent ding) plain]
    exact wireValue_read_of_number listed number plain read

end Slot

/-- Every field but the partner's is shown as its source tells. -/
theorem gives_wireValue (p : Pairing) {f : Field} (plain : f ≠ .charidPair) :
    (m.dialect.source f).Gives args p (m.wireValue f) := by
  obtain ⟨⟨fit, -⟩, -⟩ := (decode_ok_iff args m).1 decoded
  by_cases mem : f ∈ m.dialect.fields
  · obtain ⟨i, k, slot, source⟩ := Dialect.exists_source mem
    obtain ⟨raw, arg, admitted⟩ := fit.exists_getElem? slot
    rw [source]
    by_cases number : k.isNumber
    · have integer : Text.IsInteger raw := by
        cases k <;> first | exact admitted | cases number
      obtain ⟨n, read⟩ := Option.isSome_iff_exists.1 ((Text.isSome_integer?_iff raw).2 integer)
      have spelled := Text.integer?_eq_some_iff.1 read
      have shown := wireValue_of_number_slot decoded slot arg plain number read
      split
      next clamped => exact ⟨raw, n, arg, spelled, by rw [shown, if_pos clamped]⟩
      next kept => exact ⟨raw, n, arg, spelled, by rw [shown, if_neg kept]⟩
    · have ding : f ≠ .ding := fun ding =>
        number (Dialect.isNumber_of_ding (List.mem_of_getElem? slot) ding)
      rw [if_neg fun h => ding h.1, if_neg number]
      exact arg.trans (congrArg some (wireValue_of_text_slot decoded slot arg plain number).symm)
  · rw [Dialect.source_of_absent mem]
    exact wireValue_congr (value_of_decode_of_absent decoded mem) plain

/-- A broadcast has one argument for each column, and each is what its source gives. -/
theorem broadcast_columns (p : Pairing) :
    (m.broadcast p).args.length = 36 ∧
      List.Forall₂ (fun source out => source.Gives args p out) m.dialect.columns
        (m.broadcast p).args := by
  refine ⟨length_broadcastArgs m p, ?_⟩
  rw [broadcast, ← Column.map_text_all, Dialect.columns_eq, List.forall₂_map_left_iff,
    List.forall₂_map_right_iff, List.forall₂_same]
  intro column listed
  cases column with
  | paired text => rfl
  | field f =>
    have plain : f ≠ .charidPair := by
      rintro rfl
      simp [Column.all] at listed
    exact gives_wireValue decoded p plain

end Decoded

/-- A message with a clamped number and a number in a long form, beside a confirmed companion. -/
theorem broadcast_columns_clamped :
    let args := ["chat", "-", "Phoenix", "normal", "Hold it!", "def", "0", "0", " +07 ", "0",
      "1", "0", "0", " 2", "-0", "Nick", "rain.mp4", "1"]
    let p : Pairing :=
      { primary := some ⟨4, 3, "Maya", "smile", "10", 1⟩, third := none
        charidPair := "3", thirdCharid := -1 }
    ∃ m, decode args = .ok m ∧ m.dialect = .dro ∧
      (m.broadcast p).args =
        ["chat", "-", "Phoenix", "normal", "Hold it!", "def", "0", "0", "7", "0", "1", "0", "0",
          "0", "0", "Nick", "3", "Maya", "smile", "0", "10", "1", "0", "0", "0", "", "", "",
          "0", "", "-1", "", "", "0", "0", "rain.mp4"] ∧
      List.Forall₂ (fun source out => source.Gives args p out) m.dialect.columns
        (m.broadcast p).args := by
  intro args p
  have decoded : decode args = .ok (readAll .dro args).clampDing := by decide +kernel
  exact ⟨_, decoded, by decide +kernel, by decide +kernel, (broadcast_columns decoded p).2⟩

end Message
end CourtroomGateway.Speech
