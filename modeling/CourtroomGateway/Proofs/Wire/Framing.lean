import CourtroomGateway.Wire.Framer
import Mathlib.Data.List.Basic
import Mathlib.Data.List.Infix

/-! Framing as cutting a stream. `segments` cuts bytes at the leftmost terminators that do not
overlap; it knows of no chunks and of no buffer. A framer that is fed chunk by chunk yields the
segments of the whole stream but the last, and the last is what waits. -/

namespace CourtroomGateway.Wire

/-- The pieces between the terminators of a byte string, the leftmost first. -/
def segments : List UInt8 → List (List UInt8)
  | [] => [[]]
  | [b] => [[b]]
  | a :: b :: bytes =>
    if a = hash ∧ b = percent then [] :: segments bytes
    else (segments (b :: bytes)).modifyHead (a :: ·)

/-- No terminator stands anywhere in these bytes. -/
def Unterminated (bytes : List UInt8) : Prop := ¬ [hash, percent] <:+: bytes

theorem unterminated_nil : Unterminated [] := by
  simp [Unterminated]

theorem unterminated_cons_cons {a b : UInt8} {bytes : List UInt8} :
    Unterminated (a :: b :: bytes) ↔
      ¬ (a = hash ∧ b = percent) ∧ Unterminated (b :: bytes) := by
  have first : [hash, percent] <+: a :: b :: bytes ↔ a = hash ∧ b = percent := by
    simp [List.cons_prefix_cons, eq_comm]
  rw [Unterminated, List.infix_cons_iff, first, not_or]
  rfl

theorem segments_ne_nil (bytes : List UInt8) : segments bytes ≠ [] := by
  fun_induction segments bytes with
  | case1 => simp
  | case2 => simp
  | case3 => simp
  | case4 a b bytes h ih => simpa using ih

theorem segments_of_unterminated {bytes : List UInt8} (h : Unterminated bytes) :
    segments bytes = [bytes] := by
  fun_induction segments bytes with
  | case1 => rfl
  | case2 => rfl
  | case3 a b bytes here => exact absurd here (unterminated_cons_cons.1 h).1
  | case4 a b bytes other ih => rw [ih (unterminated_cons_cons.1 h).2]; rfl

theorem segments_append_terminator {bytes : List UInt8} (h : Unterminated (bytes ++ [hash]))
    (rest : List UInt8) :
    segments (bytes ++ hash :: percent :: rest) = bytes :: segments rest := by
  induction bytes with
  | nil => rfl
  | cons a bytes ih =>
    cases bytes with
    | nil =>
      rw [List.singleton_append, segments, if_neg (by simp [hash, percent])]
      rfl
    | cons b bytes =>
      have split := unterminated_cons_cons.1 h
      rw [List.cons_append, List.cons_append, segments, if_neg split.1]
      rw [← List.cons_append, ih split.2]
      rfl

theorem unterminated_concat {bytes : List UInt8} {b : UInt8} (h : Unterminated bytes)
    (goes : ¬ (b = percent ∧ bytes.getLast? = some hash)) : Unterminated (bytes ++ [b]) := by
  intro inside
  rcases List.infix_concat_iff.1 inside with last | before
  · obtain ⟨front, joined⟩ := last
    have joined : (front ++ [hash]) ++ [percent] = bytes ++ [b] := by simpa using joined
    obtain ⟨rfl, same⟩ := List.append_inj' joined rfl
    exact goes ⟨by simpa using same.symm, by simp⟩
  · exact h before

/-- Cutting byte by byte gives the segments, with what is held as the last one. -/
theorem segments_eq_cut (held bytes : List UInt8) (h : Unterminated held.reverse) :
    segments (held.reverse ++ bytes) =
      (cut held bytes).1 ++ [(cut held bytes).2.reverse] := by
  induction bytes generalizing held with
  | nil => simpa [cut] using segments_of_unterminated h
  | cons b bytes ih =>
    rw [cut]
    split
    next ends =>
      obtain ⟨rfl, first⟩ := ends
      obtain ⟨tail, rfl⟩ := List.head?_eq_some_iff.1 first
      have closed := segments_append_terminator (by simpa using h) bytes
      have later : segments bytes = _ := ih [] unterminated_nil
      simpa [later] using closed
    next goes =>
      have longer : Unterminated (b :: held).reverse := by
        rw [List.reverse_cons]
        exact unterminated_concat h (by simpa using goes)
      simpa using ih (b :: held) longer

/-- Joined by terminators the segments are the bytes they were cut from. -/
theorem intercalate_segments (bytes : List UInt8) :
    [hash, percent].intercalate (segments bytes) = bytes := by
  fun_induction segments bytes with
  | case1 => rfl
  | case2 => simp
  | case3 a b bytes here ih =>
    obtain ⟨rfl, rfl⟩ := here
    obtain ⟨s, ss, cuts⟩ := List.exists_cons_of_ne_nil (segments_ne_nil bytes)
    rw [cuts] at ih ⊢
    simp [List.intercalate, ← ih]
  | case4 a b bytes other ih =>
    obtain ⟨s, ss, cuts⟩ := List.exists_cons_of_ne_nil (segments_ne_nil (b :: bytes))
    rw [cuts] at ih ⊢
    rw [← ih]
    cases ss <;> simp [List.intercalate]

theorem unterminated_of_mem_segments {bytes s : List UInt8} (h : s ∈ segments bytes) :
    Unterminated s := by
  fun_induction segments bytes generalizing s with
  | case1 => simpa [List.mem_singleton.1 h] using unterminated_nil
  | case2 b => simp [List.mem_singleton.1 h, Unterminated, List.infix_cons_iff]
  | case3 a b bytes here ih =>
    rcases List.mem_cons.1 h with rfl | h
    · exact unterminated_nil
    · exact ih h
  | case4 a b bytes other ih =>
    obtain ⟨first, later, cuts⟩ := List.exists_cons_of_ne_nil (segments_ne_nil (b :: bytes))
    have joined := intercalate_segments (b :: bytes)
    rw [cuts] at h joined ih
    rcases List.mem_cons.1 h with rfl | h
    · cases first with
      | nil => simp [Unterminated, List.infix_cons_iff]
      | cons c first =>
        have same : c = b := by cases later <;> simp_all [List.intercalate]
        subst same
        exact unterminated_cons_cons.2 ⟨other, ih List.mem_cons_self⟩
    · exact ih (List.mem_cons_of_mem _ h)

namespace Framer

theorem feed_of_ne_nil (f : Framer) {chunk : List UInt8} (h : chunk ≠ []) :
    f.feed chunk =
      let (pieces, held) := cut f.held (chunk.filter (· ≠ 0))
      ({ messages := pieces.map Text.Utf8.decode
         overflow := if f.limit < held.length then some held.length else none },
        { f with held := if f.limit < held.length then [] else held }) := by
  rw [feed, if_neg (by simpa using h)]
  dsimp only
  split <;> rfl

/-- A chunk may be cut in two where the first part does not overflow. -/
theorem feed_append {f : Framer} {a : List UInt8} (fits : (f.feed a).1.overflow = none)
    (b : List UInt8) :
    f.feed (a ++ b) =
      ({ messages := (f.feed a).1.messages ++ ((f.feed a).2.feed b).1.messages
         overflow := ((f.feed a).2.feed b).1.overflow }, ((f.feed a).2.feed b).2) := by
  by_cases ha : a = []
  · subst ha
    rfl
  by_cases hb : b = []
  · subst hb
    simp [← fits]
  rw [feed_of_ne_nil f ha] at fits ⊢
  have room : ¬ f.limit < (cut f.held (a.filter (· ≠ 0))).2.length := by
    intro full
    simp only [if_pos full, reduceCtorEq] at fits
  rw [feed_of_ne_nil f (by simp [ha]), feed_of_ne_nil _ hb]
  simp only [List.filter_append, cut_append, room, if_false, List.map_append]

/-- The answers to chunks in turn, and the framer after them. -/
def feedAll (f : Framer) : List (List UInt8) → List Framed × Framer
  | [] => ([], f)
  | chunk :: chunks =>
    ((f.feed chunk).1 :: ((f.feed chunk).2.feedAll chunks).1, ((f.feed chunk).2.feedAll chunks).2)

end Framer

/-- All messages of some answers, in order. -/
def yielded (answers : List Framed) : List String := answers.flatMap (·.messages)

def NoOverflow (answers : List Framed) : Prop := ∀ a ∈ answers, a.overflow = none

instance (answers : List Framed) : Decidable (NoOverflow answers) :=
  inferInstanceAs (Decidable (∀ a ∈ answers, a.overflow = none))

namespace Framer

theorem feedAll_append (f : Framer) (a b : List (List UInt8)) :
    f.feedAll (a ++ b) =
      ((f.feedAll a).1 ++ ((f.feedAll a).2.feedAll b).1, ((f.feedAll a).2.feedAll b).2) := by
  induction a generalizing f with
  | nil => rfl
  | cons chunk a ih => simp only [List.cons_append, feedAll, ih]

/-- Chunks that do not overflow have the effect of their concatenation. -/
theorem feed_flatten {f : Framer} {chunks : List (List UInt8)}
    (fits : NoOverflow (f.feedAll chunks).1) :
    f.feed chunks.flatten =
      ({ messages := yielded (f.feedAll chunks).1 }, (f.feedAll chunks).2) := by
  induction chunks generalizing f with
  | nil => rfl
  | cons chunk chunks ih =>
    have first : (f.feed chunk).1.overflow = none := fits _ List.mem_cons_self
    have later := ih (f := (f.feed chunk).2) fun a ha => fits a (List.mem_cons_of_mem _ ha)
    rw [List.flatten_cons, feed_append first, later]
    rfl

theorem buffered_feed_le {f : Framer} (h : f.buffered ≤ f.limit) (chunk : List UInt8) :
    (f.feed chunk).2.buffered ≤ f.limit := by
  by_cases hc : chunk = []
  · rwa [hc, feed_nil]
  · rw [feed_of_ne_nil f hc]
    simp only [buffered]
    split
    · exact Nat.zero_le _
    · omega

theorem buffered_feedAll_le {f : Framer} (h : f.buffered ≤ f.limit)
    (chunks : List (List UInt8)) : (f.feedAll chunks).2.buffered ≤ f.limit := by
  induction chunks generalizing f with
  | nil => exact h
  | cons chunk chunks ih =>
    have later := ih (f := (f.feed chunk).2) (by simpa using buffered_feed_le h chunk)
    simpa [feedAll] using later

end Framer

/-- Bytes as the framer looks at them. -/
def withoutZeros (bytes : List UInt8) : List UInt8 := bytes.filter (· ≠ 0)

/-- What stands before the last terminator, and what stands after it. -/
def closedSegments (bytes : List UInt8) : List (List UInt8) := (segments bytes).dropLast

def openSegment (bytes : List UInt8) : List UInt8 :=
  (segments bytes).getLast (segments_ne_nil bytes)

namespace Framer

theorem feed_withLimit (limit : Nat) (chunk : List UInt8) :
    (withLimit limit).feed chunk =
      (⟨(closedSegments (withoutZeros chunk)).map Text.Utf8.decode,
          if max limit 1 < (openSegment (withoutZeros chunk)).length then
            some (openSegment (withoutZeros chunk)).length
          else none⟩,
        ⟨max limit 1,
          if max limit 1 < (openSegment (withoutZeros chunk)).length then []
          else (openSegment (withoutZeros chunk)).reverse⟩) := by
  by_cases h : chunk = []
  · subst h
    simp [withoutZeros, closedSegments, openSegment, segments, withLimit]
  · have cuts := segments_eq_cut [] (withoutZeros chunk) unterminated_nil
    rw [List.reverse_nil, List.nil_append] at cuts
    rw [feed_of_ne_nil _ h]
    simp only [openSegment, closedSegments, cuts, List.dropLast_concat,
      List.getLast_append_singleton, List.length_reverse, List.reverse_reverse]
    rfl

/-- While nothing overflows, the messages and the buffer are those of the whole stream. -/
theorem feedAll_withLimit {limit : Nat} {chunks : List (List UInt8)}
    (fits : NoOverflow ((withLimit limit).feedAll chunks).1) :
    yielded ((withLimit limit).feedAll chunks).1 =
        (closedSegments (withoutZeros chunks.flatten)).map Text.Utf8.decode ∧
      ((withLimit limit).feedAll chunks).2.buffer =
        openSegment (withoutZeros chunks.flatten) := by
  have whole := feed_flatten fits
  rw [feed_withLimit, Prod.mk.injEq, Framed.mk.injEq] at whole
  obtain ⟨⟨messages, room⟩, after⟩ := whole
  rw [← messages, ← after]
  split at room
  next => cases room
  next below => simp [buffer, below]

/-- A further chunk is judged by the open segment of the stream with it. -/
theorem feed_after {limit : Nat} {chunks : List (List UInt8)}
    (fits : NoOverflow ((withLimit limit).feedAll chunks).1) (chunk : List UInt8) :
    (withLimit limit).feed (chunks.flatten ++ chunk) =
      (⟨yielded ((withLimit limit).feedAll chunks).1 ++
            (((withLimit limit).feedAll chunks).2.feed chunk).1.messages,
          (((withLimit limit).feedAll chunks).2.feed chunk).1.overflow⟩,
        (((withLimit limit).feedAll chunks).2.feed chunk).2) := by
  have whole := feed_flatten fits
  rw [feed_append (by rw [whole]), whole]

/-- A coarser cut never overflows where a finer one does not. -/
theorem noOverflow_of_finer {f : Framer}
    {groups : List (List (List UInt8))} (fits : NoOverflow (f.feedAll groups.flatten).1) :
    NoOverflow (f.feedAll (groups.map List.flatten)).1 := by
  induction groups generalizing f with
  | nil => nofun
  | cons group groups ih =>
    rw [List.flatten_cons, feedAll_append] at fits
    have first : NoOverflow (f.feedAll group).1 := fun a ha => fits a (by simp [ha])
    have whole := feed_flatten first
    have later := ih (f := (f.feedAll group).2) fun a ha => fits a (by simp [ha])
    intro a ha
    rw [List.map_cons, feedAll, whole] at ha
    rcases List.mem_cons.1 ha with rfl | ha
    · rfl
    · exact later a ha

/-- Framing is cutting the stream, whatever the chunks: the messages are the closed segments, the
buffer is the open one, an overflow is an open segment longer than the limit and begins the
stream afresh. -/
theorem framing_of_stream (limit : Nat) :
    (∀ chunks, NoOverflow ((withLimit limit).feedAll chunks).1 →
      yielded ((withLimit limit).feedAll chunks).1 =
          (closedSegments (withoutZeros chunks.flatten)).map Text.Utf8.decode ∧
        ((withLimit limit).feedAll chunks).2.buffer =
          openSegment (withoutZeros chunks.flatten)) ∧
    (∀ chunks chunk, NoOverflow ((withLimit limit).feedAll chunks).1 →
      let answer := (((withLimit limit).feedAll chunks).2.feed chunk).1
      let after := (((withLimit limit).feedAll chunks).2.feed chunk).2
      let bytes := withoutZeros (chunks.flatten ++ chunk)
      (∀ n, answer.overflow = some n ↔ n = (openSegment bytes).length ∧ max limit 1 < n) ∧
        yielded ((withLimit limit).feedAll chunks).1 ++ answer.messages =
          (closedSegments bytes).map Text.Utf8.decode ∧
        (answer.overflow ≠ none →
          after.buffer = [] ∧ ∀ later, after.feedAll later = (withLimit limit).feedAll later)) ∧
    (∀ chunks others, chunks.flatten = others.flatten →
      NoOverflow ((withLimit limit).feedAll chunks).1 →
      NoOverflow ((withLimit limit).feedAll others).1 →
      yielded ((withLimit limit).feedAll chunks).1 =
          yielded ((withLimit limit).feedAll others).1 ∧
        ((withLimit limit).feedAll chunks).2.buffer =
          ((withLimit limit).feedAll others).2.buffer) ∧
    (∀ groups : List (List (List UInt8)),
      NoOverflow ((withLimit limit).feedAll groups.flatten).1 →
      NoOverflow ((withLimit limit).feedAll (groups.map List.flatten)).1) ∧
    (∀ chunks, ((withLimit limit).feedAll chunks).2.buffered ≤ max limit 1) := by
  refine ⟨fun chunks => feedAll_withLimit, ?_, ?_, fun groups => noOverflow_of_finer, ?_⟩
  · intro chunks chunk fits answer after bytes
    have single := feed_after fits chunk
    rw [feed_withLimit, Prod.mk.injEq, Framed.mk.injEq] at single
    obtain ⟨⟨messages, overflow⟩, next⟩ := single
    refine ⟨fun n => ?_, messages.symm, fun full => ?_⟩
    · rw [← overflow]
      grind
    · have above : max limit 1 < (openSegment bytes).length := by grind
      have fresh : after = withLimit limit := next.symm.trans (by rw [if_pos above]; rfl)
      rw [fresh]
      exact ⟨rfl, fun later => rfl⟩
  · intro chunks others same fits fitsToo
    have one := feedAll_withLimit fits
    have other := feedAll_withLimit fitsToo
    rw [← same] at other
    exact ⟨one.1.trans other.1.symm, one.2.trans other.2.symm⟩
  · intro chunks
    exact buffered_feedAll_le (f := withLimit limit) (Nat.zero_le _) chunks

/-- A terminator with a zero byte in it, cut in two. -/
theorem framing_of_stream_straddling :
    NoOverflow ((withLimit 2).feedAll [[65, hash], [0, percent, 66]]).1 ∧
      yielded ((withLimit 2).feedAll [[65, hash], [0, percent, 66]]).1 = ["A"] ∧
      ((withLimit 2).feedAll [[65, hash], [0, percent, 66]]).2.buffer = [66] := by
  have fits : NoOverflow ((withLimit 2).feedAll [[65, hash], [0, percent, 66]]).1 := by decide
  obtain ⟨messages, buffer⟩ := (framing_of_stream 2).1 _ fits
  exact ⟨fits, messages.trans (by decide), buffer.trans (by decide)⟩

end Framer

end CourtroomGateway.Wire
