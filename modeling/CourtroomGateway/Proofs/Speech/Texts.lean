import CourtroomGateway.Proofs.Speech.Decoding
import CourtroomGateway.Proofs.Speech.Pairing
import CourtroomGateway.Speech.Broadcast
import Mathlib.Tactic.Tauto

/-! The texts that speaking passes on. A property that the sent arguments have, and numbers as
well, is one of every text of the message that is read from them, of the pose it leaves, and of
its broadcast form. A pose that declares nobody is never shown to others, so nothing is asked of
the pose of a character that was just picked. -/

namespace CourtroomGateway.Speech

namespace Message

/-- The texts that are broadcast as they came. -/
def texts (m : Message) : List String :=
  [m.msgType, m.pre, m.folder, m.anim, m.text, m.pos, m.sfx, m.showname, m.offsetPair,
    m.sfxLooping, m.framesShake, m.framesRealization, m.framesSfx, m.effect, m.video]

variable {ok : String → Prop}

theorem texts_read {m : Message} (h : ∀ t ∈ m.texts, ok t) (numbers : ∀ n, ok (Text.decimal n))
    {raw : String} (sent : ok raw) (slot : Field × Kind) :
    ∀ t ∈ (m.read slot raw).texts, ok t := by
  obtain ⟨f, k⟩ := slot
  simp only [texts, List.forall_mem_cons] at h ⊢
  cases f
  case charidPair =>
    simp only [read]
    split
    · exact h
    · exact h
  case offsetPair =>
    simp only [read]
    split
    · cases Text.integer? raw <;> simp_all
    · simp_all
  all_goals simp_all [read]

/-- What reading an argument keeps, a message that was read has. -/
theorem decode_induction {args : List String} {m : Message} (holds : Message → Prop)
    (decoded : decode args = .ok m) (start : ∀ d, holds (empty d))
    (read : ∀ m slot, ∀ raw ∈ args, holds m → holds (m.read slot raw))
    (clamp : ∀ m, holds m → holds m.clampDing) : holds m := by
  obtain ⟨-, same⟩ := (decode_ok_iff args m).1 decoded
  rw [← same, readAll]
  refine clamp _ (List.foldlRecOn _ _ (start _) fun m held e mem => ?_)
  exact read m e.1 e.2 (List.of_mem_zip mem).2 held

theorem texts_decode {args : List String} {m : Message} (decoded : decode args = .ok m)
    (numbers : ∀ n, ok (Text.decimal n)) (empty : ok "") (sent : ∀ a ∈ args, ok a) :
    ∀ t ∈ m.texts, ok t := by
  have zero : ok "0" := numbers 0
  refine decode_induction (fun m => ∀ t ∈ m.texts, ok t) decoded ?_ ?_ ?_
  · intro d
    simp [texts, Message.empty, empty, zero]
  · intro m slot raw mem held
    exact texts_read held numbers (sent raw mem) slot
  · intro m held
    unfold clampDing
    split
    · exact held
    · exact held

/-- An order has no character that the arguments have not. -/
theorem order_decode {args : List String} {m : Message} (decoded : decode args = .ok m) {c : Char}
    (absent : ∀ a ∈ args, c ∉ a.toList) : ∀ order, m.pairOrder = some order → c ∉ order.toList := by
  refine decode_induction (fun m => ∀ order, m.pairOrder = some order → c ∉ order.toList)
    decoded ?_ ?_ ?_
  · intro d order sent
    cases sent
  · intro m slot raw mem held order found
    obtain ⟨f, k⟩ := slot
    cases f
    case charidPair =>
      simp only [Message.read] at found
      split at found
      · exact fun inside =>
          absent raw mem (Text.mem_of_mem_splitOn (mem_splitOn_of_splitPair found).1 inside)
      · exact held order found
    case offsetPair =>
      simp only [Message.read] at found
      split at found
      · exact held order found
      · exact held order found
    all_goals exact held order found
  · intro m held
    unfold clampDing
    split
    · exact held
    · exact held

end Message

namespace Pose

/-- The texts that others are shown. -/
def texts (p : Pose) : List String := [p.folder, p.anim, p.offset]

/-- What others can be shown of the pose has the property. -/
def Shows (ok : String → Prop) (p : Pose) : Prop :=
  0 ≤ p.pairTarget ∨ 0 ≤ p.thirdTarget → ∀ t ∈ p.texts, ok t

theorem shows_idle (ok : String → Prop) (folder : String) : (idle folder).Shows ok := by
  have nobody : ¬ (0 : Int64) ≤ -1 := by decide
  rintro (declared | declared)
  · exact absurd declared nobody
  · exact absurd declared nobody

theorem shows_ofMessage {ok : String → Prop} {m : Message} (h : ∀ t ∈ m.texts, ok t) :
    (ofMessage m).Shows ok := by
  simp only [Message.texts, List.forall_mem_cons] at h
  intro _
  simp only [texts, ofMessage, List.forall_mem_cons]
  tauto

end Pose

def Companion.texts (c : Companion) : List String := [c.folder, c.anim, c.offset]

variable {ok : String → Prop}

/-- A pose that others are shown declares one of them. -/
theorem texts_findCompanion {target : Int64} {me : Speaker} {pos : String} {cs : List Candidate}
    {c : Companion} (found : findCompanion target me pos cs = some c) (playing : 0 ≤ me.charId)
    (poses : ∀ d ∈ cs, d.pose.Shows ok) : ∀ t ∈ c.texts, ok t := by
  obtain ⟨d, first, rfl⟩ := Option.map_eq_some_iff.1 found
  have eligible := List.find?_some first
  have partners := Candidate.eligible_iff.1 eligible
  refine poses d (List.mem_of_find?_eq_some first) ?_
  rcases partners.answers with same | same
  · exact .inl (same.symm ▸ playing)
  · exact .inr (same.symm ▸ playing)

theorem texts_pair {m : Message} {me : Speaker} {cs : List Candidate}
    (poses : ∀ d ∈ cs, d.pose.Shows ok) {c : Companion}
    (found : (m.pair me cs).primary = some c ∨ (m.pair me cs).third = some c) :
    ∀ t ∈ c.texts, ok t := by
  unfold Message.pair at found
  split at found
  · rcases found with found | found
    · cases found
    · cases found
  next playing =>
    have playing : 0 ≤ me.charId := Int64.not_lt.1 playing
    rcases found with found | found
    · exact texts_findCompanion found playing poses
    · dsimp only at found
      split at found
      · cases found
      · exact texts_findCompanion found playing poses

/-- The partner field as broadcast is a number, and an order may follow it. -/
theorem charidPair_pair (m : Message) (me : Speaker) (cs : List Candidate) :
    ∃ id : Int64, (m.pair me cs).charidPair = Text.decimal id ∨
      ∃ order, m.pairOrder = some order ∧
        (m.pair me cs).charidPair = Text.decimal id ++ "^" ++ order := by
  unfold Message.pair
  split
  · exact ⟨-1, .inl rfl⟩
  · dsimp only
    split
    next c order _ sent => exact ⟨c.charId, .inr ⟨order, sent, rfl⟩⟩
    next c _ _ => exact ⟨c.charId, .inl rfl⟩
    next => exact ⟨-1, .inl rfl⟩

theorem ok_broadcastArgs {m : Message} {p : Pairing} (numbers : ∀ n, ok (Text.decimal n))
    (empty : ok "") (texts : ∀ t ∈ m.texts, ok t) (pair : ok p.charidPair)
    (companions : ∀ c, p.primary = some c ∨ p.third = some c → ∀ t ∈ c.texts, ok t) :
    ∀ a ∈ m.broadcastArgs p, ok a := by
  have zero : ok "0" := numbers 0
  have columns (slot : Option Companion)
      (shown : ∀ c, slot = some c → ∀ t ∈ c.texts, ok t) :
      ok (companionColumns slot).1 ∧ ok (companionColumns slot).2.1 ∧
        ok (companionColumns slot).2.2.1 ∧ ok (companionColumns slot).2.2.2 := by
    cases slot with
    | none => exact ⟨empty, empty, zero, zero⟩
    | some c =>
      have texts := shown c rfl
      simp only [Companion.texts, List.forall_mem_cons] at texts
      exact ⟨texts.1, texts.2.1, texts.2.2.1, numbers _⟩
  have primary := columns p.primary fun c found => companions c (.inl found)
  have third := columns p.third fun c found => companions c (.inr found)
  simp only [Message.texts, List.forall_mem_cons] at texts
  simp only [Message.broadcastArgs, List.forall_mem_cons, numbers, true_and]
  tauto

end CourtroomGateway.Speech
