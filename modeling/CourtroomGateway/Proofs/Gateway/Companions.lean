import CourtroomGateway.Proofs.Gateway.History
import CourtroomGateway.Proofs.Gateway.Wires
import CourtroomGateway.Proofs.Speech.Pairing

/-! What a broadcast shows of the companions beside its speaker. A companion is shown as it last
showed itself: it spoke since it took its character, declared the speaker's character in its last
message that changed its pose, and stood in the same place. The columns of the broadcast that
concern it are copies of columns in the companion's own broadcast. -/

namespace CourtroomGateway

namespace Speech

/-- The places beside a speaker. -/
inductive Slot
  | primary | third
deriving Repr, DecidableEq

theorem getElem?_pos (m : Message) (p : Pairing) : (m.broadcastArgs p)[5]? = some m.pos := rfl

namespace Slot

def companion (p : Pairing) : Slot → Option Companion
  | primary => p.primary
  | third => p.third

/-- The character that the message declares for the slot. -/
def target (m : Message) : Slot → Int64
  | primary => m.charidPair
  | third => m.thirdCharid

/-- The column that names the companion's character. -/
def column : Slot → Nat
  | primary => 16
  | third => 30

/-- What stands there for a companion with this character. An order follows where one was sent. -/
def name (m : Message) (charId : Int64) : Slot → String
  | primary => Text.decimal charId ++ (m.pairOrder.map ("^" ++ ·)).getD ""
  | third => Text.decimal charId

/-- The columns that show the companion, and beside each the one in which a speaker shows itself:
its folder, animation, offset and flip. -/
def mirrored : Slot → List (Nat × Nat)
  | primary => [(17, 2), (18, 3), (20, 19), (21, 12)]
  | third => [(31, 2), (32, 3), (33, 19), (34, 12)]

/-- A companion in a slot comes from a candidate that the speaker declares there, that stands where
the speaker stands, and that declares the speaker's character. -/
theorem exists_candidate {m : Message} {me : Speaker} {cs : List Candidate} {slot : Slot}
    {c : Companion} (confirmed : slot.companion (m.pair me cs) = some c) :
    0 ≤ me.charId ∧ ∃ d ∈ cs, d.Partners me m.pos (slot.target m) ∧ c = .of d := by
  have found {target : Int64} (h : findCompanion target me m.pos cs = some c) :
      ∃ d ∈ cs, d.Partners me m.pos target ∧ c = .of d := by
    obtain ⟨d, first, rfl⟩ := Option.map_eq_some_iff.1 h
    have eligible := List.find?_some first
    have partners := Candidate.eligible_iff.1 eligible
    exact ⟨d, List.mem_of_find?_eq_some first, partners, rfl⟩
  unfold Message.pair at confirmed
  split at confirmed
  · cases slot <;> cases confirmed
  next playing =>
    refine ⟨Int64.not_lt.1 playing, ?_⟩
    cases slot with
    | primary => exact found confirmed
    | third =>
      simp only [companion] at confirmed
      split at confirmed
      · cases confirmed
      · exact found confirmed

theorem getElem?_column {m : Message} {me : Speaker} {cs : List Candidate} {slot : Slot}
    {c : Companion} (confirmed : slot.companion (m.pair me cs) = some c) :
    (m.broadcastArgs (m.pair me cs))[slot.column]? = some (slot.name m c.charId) := by
  have playing : ¬ me.charId < 0 := Int64.not_lt.2 (exists_candidate confirmed).1
  rw [Message.pair, if_neg playing] at confirmed ⊢
  cases slot with
  | primary =>
    simp only [companion] at confirmed
    cases order : m.pairOrder <;>
      simp [column, name, Message.broadcastArgs, confirmed, order, String.append_assoc]
  | third =>
    simp only [companion] at confirmed
    simp [column, name, Message.broadcastArgs, confirmed]

theorem mirrored_broadcastArgs {m m' : Message} {p p' : Pairing} {slot : Slot} {c : Companion}
    (confirmed : slot.companion p = some c) (folder : c.folder = m'.folder)
    (anim : c.anim = m'.anim) (offset : c.offset = m'.offsetPair) (flip : c.flip = m'.flip) :
    ∀ columns ∈ slot.mirrored,
      (m.broadcastArgs p)[columns.1]? = (m'.broadcastArgs p')[columns.2]? := by
  cases slot with
  | primary =>
    simp only [companion] at confirmed
    simp [mirrored, Message.broadcastArgs, confirmed, companionColumns, folder, anim, offset, flip]
  | third =>
    simp only [companion] at confirmed
    simp [mirrored, Message.broadcastArgs, confirmed, companionColumns, folder, anim, offset, flip]

end Slot

namespace Pose

theorem declares_iff {p : Pose} {charId : Int64} :
    p.declares charId ↔ p.pairTarget = charId ∨ p.thirdTarget = charId := by
  simp only [declares, Bool.or_eq_true, decide_eq_true_eq]

theorem not_declares_idle {charId : Int64} (played : 0 ≤ charId) (folder : String) :
    ¬ (idle folder).declares charId := by
  have apart : (-1 : Int64) ≠ charId := by
    rintro rfl
    exact absurd played (by decide)
  rw [declares_iff]
  rintro (same | same) <;> exact apart same

end Pose
end Speech

namespace Scene

/-- The arguments of the broadcast that a message of the client makes. -/
def speech (s : Scene) (area : Nat) (m : Speech.Message) : List String :=
  m.broadcastArgs (Commands.Speaking.pairing s area m)

theorem Speaks.relay {s : Scene} {p : Wire.Packet} {area : Nat} {m : Speech.Message}
    (h : s.Speaks p area m) : s.relay? p = some (area, ⟨"MS", s.speech area m⟩) := by
  rw [relay?, h]
  rfl

theorem Speaks.area {s : Scene} {p : Wire.Packet} {area : Nat} {m : Speech.Message}
    (h : s.Speaks p area m) : s.client.area = some area :=
  (Commands.Speaking.judge_spoken_iff.1 (decided_of_request h).2).2.1

end Scene

namespace Gateway
open Speech (Slot Companion)

/-- What holds of a companion that a broadcast shows after these turns. -/
structure Accompanies (earlier : List Turn) (s : Scene) (area : Nat) (m : Speech.Message)
    (slot : Slot) (c : Companion) : Prop where
  apart : c.clientId ≠ s.client.id
  connected : s.hall.court.roster.contains c.clientId
  beside : s.client.area = some area ∧ s.hall.court.presence.areaOf c.clientId = some area
  named : ∃ charId, s.hall.court.roster.charId? c.clientId = some charId ∧
    (s.speech area m)[slot.column]? = some (slot.name m charId)
  /-- The companion's last message of its own that changed its pose. -/
  shown : ∃ t place m', LastShown earlier c.clientId t place m' ∧
    t.1.relay? t.2 = some (place, ⟨"MS", t.1.speech place m'⟩) ∧
    s.hall.court.roster.charId? c.clientId = some t.1.client.charId ∧
    (m'.charidPair = s.client.charId ∨ m'.thirdCharid = s.client.charId) ∧
    (s.speech area m)[5]? = (t.1.speech place m')[5]? ∧
    ∀ columns ∈ slot.mirrored, (s.speech area m)[columns.1]? = (t.1.speech place m')[columns.2]?

theorem accompanies_of_recalls {ts : List Turn} {s : Scene} {p : Wire.Packet} {area : Nat}
    {m : Speech.Message} (recalls : s.hall.court.roster.Recalls ts)
    (consistent : s.hall.court.presence.Consistent) (speaks : s.Speaks p area m) {slot : Slot}
    {c : Companion}
    (confirmed : slot.companion (Commands.Speaking.pairing s area m) = some c) :
    Accompanies ts s area m slot c := by
  obtain ⟨playing, d, listed, partners, rfl⟩ := Slot.exists_candidate confirmed
  obtain ⟨there, apart, known⟩ := Court.mem_candidates_iff.1 listed
  have character : s.hall.court.roster.charId? d.clientId = some d.charId := by
    rw [Court.Roster.charId?, known]
    rfl
  have column := Slot.getElem?_column confirmed
  have same := partners.beside
  have declares := Speech.Pose.declares_iff.2 partners.answers
  refine
    { apart
      connected := Option.isSome_iff_exists.2 ⟨_, known⟩
      beside := ⟨speaks.area, (consistent.mem_clientsIn area d.clientId).1 there⟩
      named := ⟨d.charId, character, column⟩
      shown := ?_ }
  rcases recalls d.clientId _ known with ⟨folder, pose⟩ | ⟨t, place, m', last, held, pose⟩
  · change d.pose = .idle folder at pose
    rw [pose] at declares
    exact absurd declares (Speech.Pose.not_declares_idle playing folder)
  · change d.pose = .ofMessage m' at pose
    rw [pose] at same declares
    have stands : m'.pos = m.pos := same
    have declared : m'.charidPair = s.client.charId ∨ m'.thirdCharid = s.client.charId :=
      Speech.Pose.declares_iff.1 declares
    refine ⟨t, place, m', last, last.commits.1.relay, character.trans (congrArg some held),
      declared, ?_, ?_⟩
    · rw [Scene.speech, Scene.speech, Speech.getElem?_pos, Speech.getElem?_pos, stands]
    · apply Slot.mirrored_broadcastArgs confirmed <;>
        rw [Companion.of, pose, Speech.Pose.ofMessage]

/-- In every run, the companions that a broadcast shows are the clients they claim to be, as these
showed themselves in their own last broadcast that changed their pose, with the characters they
still hold. -/
theorem companions_shown {config : Config} {g : Gateway}
    (opened : Gateway.ofConfig .builtin config = .ok g) {events : List Event}
    {earlier later : List Turn} {s : Scene} {p : Wire.Packet}
    (turns : g.turns events = earlier ++ (s, p) :: later) {area : Nat} {m : Speech.Message}
    (speaks : s.Speaks p area m) {slot : Slot} {c : Companion}
    (confirmed : slot.companion (Commands.Speaking.pairing s area m) = some c) :
    s.relay? p = some (area, ⟨"MS", s.speech area m⟩) ∧
      Accompanies earlier s area m slot c := by
  have passes := g.passes_run events
  rw [turns] at passes
  obtain ⟨g₁, id, session, before, live, rfl⟩ := passes.split
  obtain ⟨coherent, recalls⟩ := recalls_of_passes opened before
  exact ⟨speaks.relay, accompanies_of_recalls recalls coherent.consistent speaks confirmed⟩

/-- What the second client says to its partner, to someone else, and the first client to it. -/
def rejoinder : Speech.Message where
  dialect := .v26
  msgType := "1"
  folder := "Miles"
  anim := "smirk"
  pos := "wit"
  sfx := "0"
  cid := 1
  flip := 1
  charidPair := 0
  offsetPair := "-30"

def aside : Speech.Message := { rejoinder with anim := "bow", emoteMod := 3, charidPair := -1 }

def plea : Speech.Message where
  dialect := .v28
  msgType := "1"
  folder := "Nick"
  anim := "point"
  pos := "wit"
  sfx := "0"
  charidPair := 1
  pairOrder := some "1"

def utters (id : Nat) (m : Speech.Message) : Event :=
  feeds id (Wire.Packet.toWire ⟨"MS", m.render⟩)

def duet : List Event :=
  [.arrive .tcp 0, .arrive .ws 0, feeds 0 "CC#0#0#%RD#%", feeds 1 "CC#1#1#%RD#%",
    utters 1 rejoinder, utters 1 aside, utters 0 plea]

theorem companions_shown_duet :
    Gateway.ofConfig .builtin courthouse = .ok doors ∧
      ∃ earlier t later, doors.turns duet = earlier ++ t :: later ∧ t.1.Speaks t.2 0 plea ∧
        Slot.primary.companion (Commands.Speaking.pairing t.1 0 plea) =
          some ⟨1, 1, "Miles", "smirk", "-30", 1⟩ ∧
        t.1.relay? t.2 = some (0, ⟨"MS", t.1.speech 0 plea⟩) ∧
        Accompanies earlier t.1 0 plea .primary ⟨1, 1, "Miles", "smirk", "-30", 1⟩ := by
  have evaluated : ((doors.turns duet)[6]?.map fun t =>
      (t.1.request t.2, Slot.primary.companion (Commands.Speaking.pairing t.1 0 plea))) =
      some (.ok (.speaking (.spoken 0 plea)), some ⟨1, 1, "Miles", "smirk", "-30", 1⟩) := by
    decide +kernel
  obtain ⟨t, found, both⟩ := Option.map_eq_some_iff.1 evaluated
  obtain ⟨speaks, confirmed⟩ := Prod.mk.inj both
  obtain ⟨inside, rfl⟩ := List.getElem?_eq_some_iff.1 found
  have turns : doors.turns duet = (doors.turns duet).take 6 ++
      (doors.turns duet)[6] :: (doors.turns duet).drop 7 := by
    rw [← List.drop_eq_getElem_cons inside, List.take_append_drop]
  obtain ⟨relayed, accompanies⟩ := companions_shown ofConfig_courthouse turns speaks confirmed
  exact ⟨ofConfig_courthouse, _, _, _, turns, speaks, confirmed, relayed, accompanies⟩

end Gateway
end CourtroomGateway
