import CourtroomGateway.Proofs.Text.Utf8
import CourtroomGateway.Proofs.Wire.Framing
import CourtroomGateway.Proofs.Wire.Terminator

/-! Packets across a stream. The wire of a packet is its body and the terminator, and where no
argument begins with a percent sign the first terminator in the wire is its end. So a framer cuts
the bytes of many wires into their bodies, whatever the chunks, and each body is read as the packet
it was written for. Free text never gets in the way, since it is escaped. -/

namespace CourtroomGateway.Wire

theorem unterminated_cons {b : UInt8} {bytes : List UInt8} (rest : Unterminated bytes)
    (apart : ¬ (b = hash ∧ bytes.head? = some percent)) : Unterminated (b :: bytes) := by
  cases bytes with
  | nil => simp [Unterminated, List.infix_cons_iff]
  | cons c bytes =>
    rw [List.head?_cons, Option.some.injEq] at apart
    exact unterminated_cons_cons.2 ⟨apart, rest⟩

theorem unterminated_append {a b : List UInt8} (plain : hash ∉ a) (rest : Unterminated b) :
    Unterminated (a ++ b) := by
  induction a with
  | nil => exact rest
  | cons x a ih =>
    rw [List.mem_cons, not_or] at plain
    exact unterminated_cons (ih plain.2) fun here => plain.1 here.1.symm

theorem hash_mem_encodeChars_iff (cs : List Char) :
    hash ∈ Text.Utf8.encodeChars cs ↔ '#' ∈ cs :=
  Text.Utf8.byte_mem_encodeChars_iff (c := '#') (by decide) cs

theorem zero_mem_encodeChars_iff (cs : List Char) :
    0 ∈ Text.Utf8.encodeChars cs ↔ '\x00' ∈ cs :=
  Text.Utf8.byte_mem_encodeChars_iff (c := '\x00') (by decide) cs

theorem withoutZeros_encodeChars {cs : List Char} (zeroless : '\x00' ∉ cs) :
    withoutZeros (Text.Utf8.encodeChars cs) = Text.Utf8.encodeChars cs := by
  have absent := mt (zero_mem_encodeChars_iff cs).1 zeroless
  refine List.filter_eq_self.2 fun b mem => ?_
  simpa using ne_of_mem_of_not_mem mem absent

/-- A text that may be an argument: nothing in it is taken for the end of an argument or of a
packet, and no character of it is dropped. -/
structure Carried (text : String) : Prop extends Safe text where
  zeroless : '\x00' ∉ text.toList

instance (text : String) : Decidable (Carried text) :=
  decidable_of_iff (('#' ∉ text.toList ∧ ¬ Completes text) ∧ '\x00' ∉ text.toList)
    ⟨fun ⟨⟨plain, begins⟩, zeroless⟩ => ⟨⟨plain, begins⟩, zeroless⟩,
      fun ⟨⟨plain, begins⟩, zeroless⟩ => ⟨⟨plain, begins⟩, zeroless⟩⟩

theorem carried_decimal (n : Int64) : Carried (Text.decimal n) :=
  ⟨safe_decimal n, Text.not_mem_decimal (by decide) (by decide) n⟩

theorem Carried.append {a b : String} (h : Carried a) (filled : a ≠ "") (plain : '#' ∉ b.toList)
    (zeroless : '\x00' ∉ b.toList) : Carried (a ++ b) where
  plain := by simpa using ⟨h.plain, plain⟩
  begins := by
    have filled : a.toList ≠ [] := by simpa using filled
    rw [Completes, String.toList_append, List.head?_append_of_ne_nil _ filled]
    exact h.begins
  zeroless := by simpa using ⟨h.zeroless, zeroless⟩

theorem not_mem_escapeChars_of_not_mem {c : Char} (foreign : ∀ r ∈ reserved, c ∉ r.token)
    {cs : List Char} (absent : c ∉ cs) : c ∉ escapeChars cs := by
  rw [escapeChars, List.mem_flatMap]
  rintro ⟨d, mem, inside⟩
  unfold escapeChar at inside
  split at inside
  next r found => exact foreign r (List.mem_of_find?_eq_some found) inside
  next => exact absent (List.mem_singleton.1 inside ▸ mem)

theorem zeroless_escape {text : String} (zeroless : '\x00' ∉ text.toList) :
    '\x00' ∉ (escape text).toList := by
  rw [toList_escape]
  exact not_mem_escapeChars_of_not_mem (by decide) zeroless

theorem carried_escape {text : String} (zeroless : '\x00' ∉ text.toList) :
    Carried (escape text) :=
  ⟨safe_escape text, zeroless_escape zeroless⟩

theorem carried_tuple {members : List String} (zeroless : ∀ m ∈ members, '\x00' ∉ m.toList) :
    Carried ("&".intercalate (members.map escape)) := by
  refine ⟨safe_tuple members, not_mem_intercalate (by decide) fun t mem => ?_⟩
  obtain ⟨member, listed, rfl⟩ := List.mem_map.1 mem
  exact zeroless_escape (zeroless member listed)

namespace Packet

/-- The wire without its terminator. -/
def bodyChars (p : Packet) : List Char :=
  p.command.toList ++ p.args.flatMap fun a => '#' :: a.toList

def body (p : Packet) : String := String.ofList p.bodyChars

theorem wireChars_eq (p : Packet) : p.wireChars = p.bodyChars ++ ['#', '%'] := rfl

theorem toWire_eq_body (p : Packet) : p.toWire = p.body ++ "#%" := by
  rw [← String.toList_inj, toList_toWire, String.toList_append, body, String.toList_ofList]
  rfl

theorem Separated.splitOn_bodyChars {p : Packet} (h : p.Separated) :
    p.bodyChars.splitOn '#' = p.command.toList :: p.args.map (·.toList) := by
  have others : ∀ piece ∈ p.args.map (·.toList), '#' ∉ piece := by
    simpa using h.args
  have pieces := Text.splitOn_separated h.command others
  rwa [List.flatMap_map] at pieces

/-- A command that is read back as it was written. -/
structure IsCommand (command : String) : Prop where
  filled : command ≠ ""
  trimmed : Text.trim command = command

theorem parse?_body {p : Packet} (plain : p.Separated) (command : IsCommand p.command) :
    parse? p.body = some p := by
  have filled : p.command.toList ≠ [] := by simpa using command.filled
  have trimmed : Text.trimChars p.command.toList = p.command.toList := by
    rw [← Text.toList_trim, command.trimmed]
  have pieces := plain.splitOn_bodyChars
  rw [parse?, body, String.toList_ofList, pieces]
  split
  next rest shape =>
    exact absurd (List.cons.inj shape).1 filled
  next =>
    rw [ofSegments?, trimmed]
    simp [filled, Function.comp_def]

theorem isCommand_of_parse {message : String} {p : Packet} (parsed : parse? message = some p) :
    IsCommand p.command := by
  have read {segments : List (List Char)} (segmented : ofSegments? segments = some p) :
      IsCommand p.command := by
    cases segments with
    | nil => cases segmented
    | cons head rest =>
      simp only [ofSegments?] at segmented
      split at segmented
      · cases segmented
      next filled =>
        cases segmented
        refine ⟨by simpa using filled, ?_⟩
        rw [Text.trim, String.toList_ofList, Text.trimChars_trimChars]
  unfold parse? at parsed
  split at parsed
  · exact read parsed
  · exact read parsed

/-- A packet that a stream carries. -/
structure Transmissible (p : Packet) : Prop where
  command : IsCommand p.command
  plain : '#' ∉ p.command.toList
  zeroless : '\x00' ∉ p.command.toList
  args : ∀ a ∈ p.args, Carried a

namespace Transmissible
variable {p : Packet} (h : p.Transmissible)
include h

theorem tidy : p.Tidy := tidy_of_safe h.plain fun a mem => (h.args a mem).toSafe

theorem parse?_body : parse? p.body = some p := Packet.parse?_body h.tidy.toSeparated h.command

theorem not_mem_wireChars : '\x00' ∉ p.wireChars := by
  have zero : '\x00' ≠ '#' := by decide
  have args : ∀ a ∈ p.args, '\x00' ∉ a.toList := fun a mem => (h.args a mem).zeroless
  simp only [wireChars, List.mem_append, List.mem_flatMap, List.mem_cons, not_or]
  refine ⟨⟨h.zeroless, ?_⟩, zero, by decide, List.not_mem_nil⟩
  rintro ⟨a, mem, same | inside⟩
  · exact zero same
  · exact args a mem inside

end Transmissible

/-- A percent sign follows a separator nowhere but in the terminator. -/
theorem Tidy.unterminated_body {p : Packet} (h : p.Tidy) :
    Unterminated (Text.Utf8.encodeChars p.bodyChars ++ [hash]) := by
  have later (args : List String) (safe : ∀ a ∈ args, Safe a) :
      Unterminated
        (Text.Utf8.encodeChars (args.flatMap fun a => '#' :: a.toList) ++ [hash]) := by
    induction args with
    | nil => exact unterminated_cons unterminated_nil (by simp)
    | cons a args ih =>
      obtain ⟨here, others⟩ := List.forall_mem_cons.1 safe
      have plain := mt (hash_mem_encodeChars_iff a.toList).1 here.plain
      have split : Text.Utf8.encodeChars ((a :: args).flatMap fun a => '#' :: a.toList) ++ [hash] =
          hash :: (Text.Utf8.encodeChars a.toList ++
            (Text.Utf8.encodeChars (args.flatMap fun a => '#' :: a.toList) ++ [hash])) := by
        rw [List.flatMap_cons, Text.Utf8.encodeChars_append, Text.Utf8.encodeChars_cons,
          List.append_assoc, List.append_assoc]
        rfl
      rw [split]
      refine unterminated_cons (unterminated_append plain (ih others)) ?_
      rintro ⟨-, first⟩
      cases bytes : Text.Utf8.encodeChars a.toList with
      | nil =>
        rw [bytes] at first
        cases args <;> cases first
      | cons b bs =>
        rw [bytes, List.cons_append, List.head?_cons, Option.some.injEq] at first
        subst first
        exact here.begins
          (Text.Utf8.head?_of_head?_encodeChars (c := '%') (by decide) (by rw [bytes]; rfl))
  have command := mt (hash_mem_encodeChars_iff p.command.toList).1 h.command
  rw [bodyChars, Text.Utf8.encodeChars_append, List.append_assoc]
  exact unterminated_append command (later p.args fun a mem => ⟨h.args a mem, h.begins a mem⟩)

end Packet

/-- The bytes of these packets' wires, one after another. -/
def stream (packets : List Packet) : List UInt8 :=
  Text.Utf8.encode (String.join (packets.map (·.toWire)))

theorem stream_cons (p : Packet) (packets : List Packet) :
    stream (p :: packets) =
      Text.Utf8.encodeChars p.bodyChars ++ hash :: percent :: stream packets := by
  simp only [stream, Text.Utf8.encode, String.toList_join, List.map_cons, List.flatMap_cons,
    Packet.toList_toWire, Packet.wireChars_eq, Text.Utf8.encodeChars_append, List.append_assoc]
  rfl

theorem segments_stream {packets : List Packet} (tidy : ∀ p ∈ packets, p.Tidy) :
    segments (stream packets) =
      packets.map (fun p => Text.Utf8.encodeChars p.bodyChars) ++ [[]] := by
  induction packets with
  | nil => rfl
  | cons p packets ih =>
    obtain ⟨here, others⟩ := List.forall_mem_cons.1 tidy
    rw [stream_cons, segments_append_terminator here.unterminated_body, ih others]
    rfl

theorem withoutZeros_stream {packets : List Packet} (sound : ∀ p ∈ packets, p.Transmissible) :
    withoutZeros (stream packets) = stream packets := by
  refine withoutZeros_encodeChars fun inside => ?_
  rw [String.toList_join, List.mem_flatMap] at inside
  obtain ⟨wire, listed, inside⟩ := inside
  obtain ⟨p, mem, rfl⟩ := List.mem_map.1 listed
  rw [Packet.toList_toWire] at inside
  exact (sound p mem).not_mem_wireChars inside

section Stream
variable {packets : List Packet} (sound : ∀ p ∈ packets, p.Transmissible)
include sound

theorem closedSegments_stream :
    (closedSegments (withoutZeros (stream packets))).map Text.Utf8.decode =
      packets.map (·.body) := by
  rw [withoutZeros_stream sound, closedSegments, segments_stream fun p mem => (sound p mem).tidy,
    List.dropLast_concat, List.map_map]
  exact List.map_congr_left fun p _ => Text.Utf8.decode_encodeChars p.bodyChars

theorem openSegment_stream : openSegment (withoutZeros (stream packets)) = [] := by
  simp only [openSegment, withoutZeros_stream sound,
    segments_stream fun p mem => (sound p mem).tidy, List.getLast_append_singleton]

theorem parse?_bodies : (packets.map (·.body)).map Packet.parse? = packets.map some := by
  rw [List.map_map]
  exact List.map_congr_left fun p mem => (sound p mem).parse?_body

end Stream

/-- A fresh framer makes one message of the wire of one packet, and is as fresh as before. -/
theorem Packet.Transmissible.feed_toWire {p : Packet} (h : p.Transmissible) (limit : Nat) :
    (Framer.withLimit limit).feed (Text.Utf8.encode p.toWire) =
      ({ messages := [p.body] }, Framer.withLimit limit) := by
  have single : Text.Utf8.encode p.toWire = stream [p] := by simp [stream]
  have sound : ∀ q ∈ [p], q.Transmissible := fun q mem => List.mem_singleton.1 mem ▸ h
  rw [single, Framer.feed_withLimit, closedSegments_stream sound, openSegment_stream sound]
  rfl

namespace Packet

/-- A packet put together from free text. -/
inductive Composed : Packet → Prop
  | named {command : String} (known : IsCommand command) (plain : '#' ∉ command.toList)
      (zeroless : '\x00' ∉ command.toList) : Composed (named command)
  | text {p : Packet} (before : Composed p) {value : String} (zeroless : '\x00' ∉ value.toList) :
      Composed (p.text value)
  | tuple {p : Packet} (before : Composed p) {members : List String}
      (zeroless : ∀ m ∈ members, '\x00' ∉ m.toList) : Composed (p.tuple members)

theorem Transmissible.arg {p : Packet} (h : p.Transmissible) {value : String}
    (carried : Carried value) : (p.arg value).Transmissible where
  command := h.command
  plain := h.plain
  zeroless := h.zeroless
  args a mem :=
    (List.mem_append.1 mem).elim (h.args a) fun mem => List.mem_singleton.1 mem ▸ carried

theorem Composed.transmissible {p : Packet} (h : p.Composed) : p.Transmissible := by
  induction h with
  | named known plain zeroless => exact ⟨known, plain, zeroless, nofun⟩
  | text _ zeroless ih => exact ih.arg (carried_escape zeroless)
  | tuple _ zeroless ih => exact ih.arg (carried_tuple zeroless)

end Packet

/-- Packets survive the wire. A framer of any limit cuts the stream of their wires into one message
for each packet, whether it comes at once or in chunks that do not overflow, nothing is left
waiting, and each message is read as its packet. Packets made of free text are among these. And
what was ever read as a packet is read as the same packet from that packet's own wire. -/
theorem packets_survive :
    (∀ (packets : List Packet) (limit : Nat), (∀ p ∈ packets, p.Transmissible) →
      (((Framer.withLimit limit).feed (stream packets)).1.messages.map Packet.parse? =
          packets.map some ∧
        ((Framer.withLimit limit).feed (stream packets)).1.overflow = none ∧
        ((Framer.withLimit limit).feed (stream packets)).2.buffer = []) ∧
      ∀ chunks, chunks.flatten = stream packets →
        NoOverflow ((Framer.withLimit limit).feedAll chunks).1 →
        (yielded ((Framer.withLimit limit).feedAll chunks).1).map Packet.parse? =
            packets.map some ∧
          ((Framer.withLimit limit).feedAll chunks).2.buffer = []) ∧
    (∀ p : Packet, p.Composed → p.Transmissible) ∧
    (∀ (message : String) (p : Packet), Packet.parse? message = some p →
      ∃ body, p.toWire = body ++ "#%" ∧ Packet.parse? body = some p) := by
  refine ⟨fun packets limit sound => ⟨?_, fun chunks whole fits => ?_⟩,
    fun p composed => composed.transmissible, fun message p parsed => ?_⟩
  · simp [Framer.feed_withLimit, closedSegments_stream sound, openSegment_stream sound,
      parse?_bodies sound, Framer.buffer]
  · obtain ⟨messages, buffer⟩ := Framer.feedAll_withLimit fits
    rw [whole] at messages buffer
    rw [messages, buffer, closedSegments_stream sound, openSegment_stream sound,
      parse?_bodies sound]
    exact ⟨rfl, rfl⟩
  · have plain := Packet.separated_of_parse parsed
    exact ⟨p.body, p.toWire_eq_body, Packet.parse?_body plain (Packet.isCommand_of_parse parsed)⟩

/-- Arguments that are empty, that hold separators and that end where the terminator begins. -/
def letters : List Packet :=
  [((Packet.named "LE").tuple ["", "a#b"]).text "", ⟨"%é", ["", "1%", ""]⟩]

/-- The letters arrive byte by byte. -/
theorem packets_survive_letters :
    (∀ p ∈ letters, p.Transmissible) ∧
      ((stream letters).map ([·])).flatten = stream letters ∧
      NoOverflow ((Framer.withLimit 16).feedAll ((stream letters).map ([·]))).1 ∧
      (yielded ((Framer.withLimit 16).feedAll ((stream letters).map ([·]))).1).map Packet.parse? =
        letters.map some ∧
      Packet.parse? "# CT #Nick##" = some ⟨"CT", ["Nick", "", ""]⟩ ∧
      ∃ body, Packet.toWire ⟨"CT", ["Nick", "", ""]⟩ = body ++ "#%" ∧
        Packet.parse? body = some ⟨"CT", ["Nick", "", ""]⟩ := by
  obtain ⟨streamed, composed, reread⟩ := packets_survive
  have evidence : (((Packet.named "LE").tuple ["", "a#b"]).text "").Composed :=
    .text (.tuple (.named ⟨by decide, by decide⟩ (by decide) (by decide)) (by decide)) (by decide)
  have plain : Packet.Transmissible ⟨"%é", ["", "1%", ""]⟩ := by
    refine ⟨⟨by decide, by decide⟩, by decide, by decide, ?_⟩
    simp only [List.forall_mem_cons]
    exact ⟨⟨⟨by decide, by decide⟩, by decide⟩, ⟨⟨by decide, by decide⟩, by decide⟩,
      ⟨⟨by decide, by decide⟩, by decide⟩, nofun⟩
  have sound : ∀ p ∈ letters, p.Transmissible :=
    List.forall_mem_cons.2 ⟨composed _ evidence, List.forall_mem_cons.2 ⟨plain, nofun⟩⟩
  have whole : ((stream letters).map ([·])).flatten = stream letters := by decide
  have fits : NoOverflow ((Framer.withLimit 16).feedAll ((stream letters).map ([·]))).1 := by
    decide
  have parsed : Packet.parse? "# CT #Nick##" = some ⟨"CT", ["Nick", "", ""]⟩ := by decide
  exact ⟨sound, whole, fits, ((streamed letters 16 sound).2 _ whole fits).1, parsed,
    reread _ _ parsed⟩

end CourtroomGateway.Wire
