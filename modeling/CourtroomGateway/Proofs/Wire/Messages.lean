import CourtroomGateway.Proofs.Text.Lenient
import CourtroomGateway.Proofs.Wire.Framing
import CourtroomGateway.Proofs.Wire.Terminator

/-! What the messages of a framer hold. Their bytes have no zero and no terminator. The texts have
no zero either; but bytes that belong to no character are left out after the stream was cut, and
where they kept a number sign and a percent sign apart, the text has a terminator. Only from there
can an argument begin with a percent sign. -/

namespace CourtroomGateway.Wire

/-- Bytes as they stand in a message. -/
structure Clean (bytes : List UInt8) : Prop where
  unterminated : Unterminated bytes
  zeroless : 0 ∉ bytes

theorem clean_nil : Clean [] := ⟨unterminated_nil, List.not_mem_nil⟩

theorem mem_of_mem_segments {bytes s : List UInt8} (listed : s ∈ segments bytes) {b : UInt8}
    (mem : b ∈ s) : b ∈ bytes := by
  obtain ⟨first, later, cuts⟩ := List.exists_cons_of_ne_nil (segments_ne_nil bytes)
  have joined := intercalate_segments bytes
  rw [cuts, Text.intercalate_cons] at joined
  rw [cuts] at listed
  rw [← joined, List.mem_append]
  rcases List.mem_cons.1 listed with rfl | behind
  · exact .inl mem
  · exact .inr (List.mem_flatMap.2 ⟨s, behind, List.mem_append_right _ mem⟩)

theorem clean_of_mem_segments {bytes s : List UInt8} (zeroless : 0 ∉ bytes)
    (listed : s ∈ segments bytes) : Clean s where
  unterminated := unterminated_of_mem_segments listed
  zeroless inside := zeroless (mem_of_mem_segments listed inside)

theorem zero_not_mem_withoutZeros (bytes : List UInt8) : 0 ∉ withoutZeros bytes := by
  simp [withoutZeros]

namespace Framer

/-- The bytes of the messages that a chunk completes. -/
def closed (f : Framer) (chunk : List UInt8) : List (List UInt8) :=
  (cut f.held (withoutZeros chunk)).1

/-- The bytes of the messages that chunks in turn complete. -/
def closedAll (f : Framer) : List (List UInt8) → List (List UInt8)
  | [] => []
  | chunk :: chunks => f.closed chunk ++ (f.feed chunk).2.closedAll chunks

theorem messages_feed (f : Framer) (chunk : List UInt8) :
    (f.feed chunk).1.messages = (f.closed chunk).map Text.Utf8.decode := by
  by_cases nothing : chunk = []
  · rw [nothing]
    rfl
  · rw [feed_of_ne_nil f nothing]
    rfl

theorem yielded_feedAll (f : Framer) (chunks : List (List UInt8)) :
    yielded (f.feedAll chunks).1 = (f.closedAll chunks).map Text.Utf8.decode := by
  induction chunks generalizing f with
  | nil => rfl
  | cons chunk chunks ih =>
    rw [closedAll, List.map_append, ← ih, ← messages_feed]
    rfl

section Feeding
variable {f : Framer} (clean : Clean f.buffer) (chunk : List UInt8)
include clean

theorem segments_buffer_append :
    segments (f.buffer ++ withoutZeros chunk) =
      f.closed chunk ++ [(cut f.held (withoutZeros chunk)).2.reverse] :=
  segments_eq_cut f.held (withoutZeros chunk) clean.unterminated

theorem clean_of_mem_segments_buffer {s : List UInt8}
    (listed : s ∈ segments (f.buffer ++ withoutZeros chunk)) : Clean s := by
  refine clean_of_mem_segments ?_ listed
  rw [List.mem_append, not_or]
  exact ⟨clean.zeroless, zero_not_mem_withoutZeros chunk⟩

theorem clean_of_mem_closed {raw : List UInt8} (listed : raw ∈ f.closed chunk) : Clean raw := by
  refine clean_of_mem_segments_buffer clean chunk ?_
  rw [segments_buffer_append clean]
  exact List.mem_append_left _ listed

theorem clean_feed : Clean (f.feed chunk).2.buffer := by
  by_cases nothing : chunk = []
  · rwa [nothing, feed_nil]
  · rw [feed_of_ne_nil f nothing]
    simp only [buffer]
    split
    · exact clean_nil
    · refine clean_of_mem_segments_buffer clean chunk ?_
      rw [segments_buffer_append clean]
      exact List.mem_concat_self

end Feeding

theorem clean_of_mem_closedAll {f : Framer} (clean : Clean f.buffer) {chunks : List (List UInt8)}
    {raw : List UInt8} (listed : raw ∈ f.closedAll chunks) : Clean raw := by
  induction chunks generalizing f with
  | nil => cases listed
  | cons chunk chunks ih =>
    rcases List.mem_append.1 listed with now | later
    · exact clean_of_mem_closed clean chunk now
    · exact ih (clean_feed clean chunk) later

end Framer

/-- A number sign and a percent sign, with bytes between them that belong to no character. -/
def Conceals (raw : List UInt8) : Prop :=
  ∃ front between back, raw = front ++ hash :: (between ++ percent :: back) ∧ between ≠ [] ∧
    Text.Utf8.decodeChars between = []

/-- The text contains a terminator. -/
def Terminated (text : String) : Prop := ['#', '%'] <:+: text.toList

instance (text : String) : Decidable (Terminated text) :=
  inferInstanceAs (Decidable (['#', '%'] <:+: text.toList))

section Decoded
open Text.Utf8

theorem zero_not_mem_decode {raw : List UInt8} (zeroless : 0 ∉ raw) :
    Char.ofNat 0 ∉ (decode raw).toList := by
  rw [decode, String.toList_ofList, decodeChars]
  exact fun mem => zeroless (byte_mem_of_mem_decodeFrom (by decide) underway_none mem)

theorem terminated_decode_iff {raw : List UInt8} (clean : Unterminated raw) :
    Terminated (decode raw) ↔ Conceals raw := by
  have number : ('#').toNat < 128 := by decide
  have sign : ('%').toNat < 128 := by decide
  rw [Terminated, decode, String.toList_ofList, decodeChars]
  constructor
  · rintro ⟨before, after, whole⟩
    have read : decodeFrom none raw = before ++ '#' :: '%' :: after := by
      rw [← whole, List.append_assoc]
      rfl
    obtain ⟨front, rest, rfl, -, read⟩ := exists_of_decodeFrom_eq number underway_none read
    have read : decodeFrom none rest = [] ++ '%' :: after := read
    obtain ⟨between, back, rfl, nothing, -⟩ := exists_of_decodeFrom_eq sign underway_none read
    refine ⟨front, between, back, rfl, ?_, nothing⟩
    rintro rfl
    exact clean ⟨front, back, by simp [hash, percent]⟩
  · rintro ⟨front, between, back, rfl, -, nothing⟩
    have first := decodeFrom_append_cons number underway_none front (between ++ percent :: back)
    have second := decodeFrom_append_cons sign underway_none between back
    have left : decodeFrom none between = [] := nothing
    rw [left, List.nil_append] at second
    refine ⟨decodeFrom none front, decodeFrom none back, ?_⟩
    rw [List.append_assoc]
    exact (first.trans (congrArg (decodeFrom none front ++ '#' :: ·) second)).symm

end Decoded

/-- The pieces of a message are a head, with the command, and one piece for each argument. With the
same head and other pieces behind it a message is read alike but for the arguments. -/
theorem exists_head_of_parse {message : String} {p : Packet}
    (parsed : Packet.parse? message = some p) :
    ∃ head pieces, message.toList.splitOn '#' = head ++ pieces ∧ head ≠ [] ∧
      p.args = pieces.map String.ofList ∧
        ∀ (other : String) (others : List (List Char)),
          other.toList.splitOn '#' = head ++ others →
            Packet.parse? other = some { p with args := others.map String.ofList } := by
  have read {segments : List (List Char)} (found : Packet.ofSegments? segments = some p) :
      ∃ name pieces, segments = name :: pieces ∧ p.args = pieces.map String.ofList ∧
        ∀ others : List (List Char), Packet.ofSegments? (name :: others) =
          some { p with args := others.map String.ofList } := by
    cases segments with
    | nil => cases found
    | cons name pieces =>
      simp only [Packet.ofSegments?] at found ⊢
      split at found
      · cases found
      next filled =>
        cases found
        exact ⟨name, pieces, rfl, rfl, fun others => if_neg filled⟩
  unfold Packet.parse? at parsed ⊢
  split at parsed
  next segments cuts =>
    obtain ⟨name, pieces, rfl, listed, again⟩ := read parsed
    refine ⟨[[], name], pieces, cuts, by simp, listed, fun other others same => ?_⟩
    simp only [same, List.cons_append, List.nil_append]
    exact again others
  next segments plain =>
    obtain ⟨name, pieces, cuts, listed, again⟩ := read parsed
    refine ⟨[name], pieces, cuts, by simp, listed, fun other others same => ?_⟩
    obtain ⟨first, later, rfl⟩ := List.exists_cons_of_ne_nil fun (nothing : name = []) =>
      plain pieces (nothing ▸ cuts)
    simp only [same, List.cons_append, List.nil_append]
    exact again others

theorem args_of_parse {message : String} {p : Packet} (parsed : Packet.parse? message = some p)
    {a : String} (mem : a ∈ p.args) : a.toList ∈ (message.toList.splitOn '#').tail := by
  obtain ⟨head, pieces, cuts, filled, listed, -⟩ := exists_head_of_parse parsed
  rw [listed] at mem
  obtain ⟨piece, inside, rfl⟩ := List.mem_map.1 mem
  rw [cuts, List.tail_append_of_ne_nil filled, String.toList_ofList]
  exact List.mem_append_right _ inside

theorem terminated_of_completes {message : String} {p : Packet}
    (parsed : Packet.parse? message = some p) {a : String} (mem : a ∈ p.args)
    (completes : Completes a) : Terminated message := by
  obtain ⟨rest, begins⟩ := List.head?_eq_some_iff.1 completes
  have inside := Text.infix_of_mem_tail_splitOn (args_of_parse parsed mem)
  rw [begins] at inside
  exact (List.prefix_append ['#', '%'] rest).isInfix.trans inside

namespace Framer

theorem held_feed_of_fits {f : Framer} {chunk : List UInt8}
    (fits : (f.feed chunk).1.overflow = none) :
    (f.feed chunk).2.held = (cut f.held (withoutZeros chunk)).2 := by
  by_cases nothing : chunk = []
  · rw [nothing]
    rfl
  · rw [feed_of_ne_nil f nothing] at fits ⊢
    simp only [ite_eq_right_iff, reduceCtorEq, imp_false] at fits
    exact if_neg fits

theorem closed_append {f : Framer} {a : List UInt8} (fits : (f.feed a).1.overflow = none)
    (b : List UInt8) : f.closed (a ++ b) = f.closed a ++ (f.feed a).2.closed b := by
  rw [closed, closed, closed, held_feed_of_fits fits, withoutZeros, List.filter_append, cut_append]
  rfl

theorem closed_flatten {f : Framer} {chunks : List (List UInt8)}
    (fits : NoOverflow (f.feedAll chunks).1) : f.closed chunks.flatten = f.closedAll chunks := by
  induction chunks generalizing f with
  | nil => rfl
  | cons chunk chunks ih =>
    obtain ⟨first, later⟩ := List.forall_mem_cons.1 fits
    rw [List.flatten_cons, closed_append first, ih later, closedAll]

/-- While nothing overflows, they are the closed segments of the stream. -/
theorem closedAll_withLimit {limit : Nat} {chunks : List (List UInt8)}
    (fits : NoOverflow ((withLimit limit).feedAll chunks).1) :
    (withLimit limit).closedAll chunks = closedSegments (withoutZeros chunks.flatten) := by
  have cuts := segments_buffer_append (f := withLimit limit) clean_nil chunks.flatten
  rw [closed_flatten fits] at cuts
  rw [closedSegments]
  exact (congrArg List.dropLast cuts).trans List.dropLast_concat |>.symm

/-- No message has a zero character. No message has a terminator either, exactly as long as the
bytes of none conceal one, and from messages without terminators no argument begins with a percent
sign. -/
theorem messages_clean_iff (limit : Nat) (chunks : List (List UInt8)) :
    (∀ m ∈ yielded ((withLimit limit).feedAll chunks).1,
      Char.ofNat 0 ∉ m.toList ∧
        (¬ Terminated m →
          ∀ p, Packet.parse? m = some p → ∀ a ∈ p.args, ¬ Completes a)) ∧
    ((∀ m ∈ yielded ((withLimit limit).feedAll chunks).1, ¬ Terminated m) ↔
      ∀ raw ∈ (withLimit limit).closedAll chunks, ¬ Conceals raw) ∧
    (NoOverflow ((withLimit limit).feedAll chunks).1 →
      (withLimit limit).closedAll chunks = closedSegments (withoutZeros chunks.flatten)) := by
  have fresh : Clean (withLimit limit).buffer := clean_nil
  have clean (raw) (listed : raw ∈ (withLimit limit).closedAll chunks) : Clean raw :=
    clean_of_mem_closedAll fresh listed
  rw [yielded_feedAll]
  refine ⟨fun m mem => ?_, ?_, closedAll_withLimit⟩
  · obtain ⟨raw, listed, rfl⟩ := List.mem_map.1 mem
    refine ⟨zero_not_mem_decode (clean raw listed).zeroless, fun whole p parsed a mem => ?_⟩
    exact mt (terminated_of_completes parsed mem) whole
  · rw [List.forall_mem_map]
    refine forall₂_congr fun raw listed => not_congr ?_
    exact terminated_decode_iff (clean raw listed).unterminated

/-- A byte that belongs to no character follows a number sign, and a percent sign comes later. -/
theorem messages_clean_iff_garbled :
    yielded ((withLimit 8).feedAll [[67, 84, hash, 0xC3], [0, 65, percent, hash], [percent]]).1 =
        ["CT#A%"] ∧
      Char.ofNat 0 ∉ "CT#A%".toList ∧
      ¬ Terminated "CT#A%" ∧ Packet.parse? "CT#A%" = some ⟨"CT", ["A%"]⟩ ∧ ¬ Completes "A%" ∧
      NoOverflow
        ((withLimit 8).feedAll [[67, 84, hash, 0xC3], [0, 65, percent, hash], [percent]]).1 ∧
      closedSegments [67, 84, hash, 0xC3, 65, percent, hash, percent] =
        [[67, 84, hash, 0xC3, 65, percent]] ∧
      ¬ Conceals [67, 84, hash, 0xC3, 65, percent] := by
  obtain ⟨each, concealed, stream⟩ :=
    messages_clean_iff 8 [[67, 84, hash, 0xC3], [0, 65, percent, hash], [percent]]
  have fits : NoOverflow
      ((withLimit 8).feedAll [[67, 84, hash, 0xC3], [0, 65, percent, hash], [percent]]).1 := by
    decide
  have all :
      yielded ((withLimit 8).feedAll [[67, 84, hash, 0xC3], [0, 65, percent, hash], [percent]]).1 =
        ["CT#A%"] := by
    decide
  have whole : ¬ Terminated "CT#A%" := by decide
  have parsed : Packet.parse? "CT#A%" = some ⟨"CT", ["A%"]⟩ := by decide
  have segments : closedSegments [67, 84, hash, 0xC3, 65, percent, hash, percent] =
      [[67, 84, hash, 0xC3, 65, percent]] := by
    decide
  obtain ⟨zeroless, plain⟩ := each "CT#A%" (all ▸ List.mem_singleton_self _)
  refine ⟨all, zeroless, whole, parsed, plain whole _ parsed "A%" List.mem_cons_self, fits,
    segments, concealed.1 ?_ _ ?_⟩
  · rw [all]
    exact fun m mem => List.mem_singleton.1 mem ▸ whole
  · rw [stream fits]
    exact segments.symm ▸ List.mem_singleton_self _

/-- One byte that belongs to no character makes an argument of a chat message begin with a percent
sign. -/
theorem exists_message_terminated :
    ∃ m ∈ yielded ((withLimit 1024).feedAll [[67, 84, hash, 0xFF, percent, 120, hash, percent]]).1,
      Terminated m ∧ ∃ p, Packet.parse? m = some p ∧ ∃ a ∈ p.args, Completes a := by
  refine ⟨"CT#%x", by decide, by decide, ⟨"CT", ["%x"]⟩, by decide, "%x", by decide, by decide⟩

end Framer

end CourtroomGateway.Wire
