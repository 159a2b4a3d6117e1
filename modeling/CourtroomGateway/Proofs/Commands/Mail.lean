import CourtroomGateway.Proofs.Commands.Turns
import CourtroomGateway.Proofs.Wire.Terminator

/-! What a request puts into mailboxes: either replies to the client who made it, or one packet
that is passed on to everyone in an area. -/

namespace CourtroomGateway

namespace Scene

theorem mail_replyAll (s : Scene) (ps : List Wire.Packet) :
    (s.replyAll ps).hall.court.mail =
      (s.hall.court.postEach s.client.id (ps.map (·.toWire))).mail := by
  induction ps generalizing s with
  | nil => rfl
  | cons p ps ih => exact ih (s.reply p)

/-- What a client who enters an area is told of its character. -/
def releasePackets (s : Scene) (area : Nat) : List Wire.Packet :=
  if s.client.isSpectator then []
  else if s.taken area s.client.charId then [(s.setCharacter (-1) {}).characterPacket]
  else []

theorem mail_enter (s : Scene) (index : Nat) (area : Area) (lead : List Wire.Packet) :
    (s.enter index area lead).hall.court.mail =
      (s.hall.court.postEach s.client.id
        ((s.releasePackets index ++ (lead ++ areaPackets area)).map (·.toWire))).mail := by
  have entered := mail_replyAll ((s.releaseIfTaken index).join index) (lead ++ areaPackets area)
  have id : ((s.releaseIfTaken index).join index).client.id = s.client.id :=
    (s.spares_releaseIfTaken index).id
  rw [id] at entered
  refine entered.trans ?_
  have all : (s.releasePackets index ++ (lead ++ areaPackets area)).map (·.toWire) =
      (s.releasePackets index).map (·.toWire) ++ (lead ++ areaPackets area).map (·.toWire) :=
    List.map_append
  rw [all, Court.postEach_append]
  refine Court.mail_postEach_congr ?_ s.client.id _
  unfold releaseIfTaken releasePackets
  split
  · rfl
  split
  · rfl
  · rfl

end Scene

namespace Request

/-- What the client who makes the request is answered. -/
def replies (s : Scene) : Request → List Wire.Packet
  | joining (.greet _) => Commands.Joining.greeting s
  | joining .counts => [Commands.Joining.countPacket s.hall.config]
  | joining .characters => [Commands.Joining.castPacket s.hall.config]
  | joining .music => [Commands.Joining.musicPacket s.hall.config]
  | joining (.enter area) => s.releasePackets 0 ++ ([.named "DONE"] ++ Scene.areaPackets area)
  | joining .keepAlive => [.named "CHECK"]
  | character act => [(s.setCharacter act.charId (.idle act.folder)).characterPacket]
  | music (.move index area) => s.releasePackets index ++ ([] ++ Scene.areaPackets area)
  | _ => []

/-- What the request passes on, and to which area. -/
def relay? (s : Scene) : Request → Option (Nat × Wire.Packet)
  | speaking (.spoken area m) => some (area, m.broadcast (Commands.Speaking.pairing s area m))
  | chatting act => some (act.area, { command := "CT", args := [act.name, act.text, "0"] })
  | music (.play area track showname) =>
    some (area, (((Wire.Packet.named "MC").text track).int s.client.charId).arg showname)
  | _ => none

theorem mail_of_relay {request : Request} {s : Scene} {area : Nat} {packet : Wire.Packet}
    (h : request.relay? s = some (area, packet)) :
    (request.perform s).hall.court.mail =
      (s.hall.court.publishLossy area packet.toWire).mail := by
  cases request with
  | joining act => cases act <;> cases h
  | character act => cases h
  | chatting act =>
    cases h
    rfl
  | music act =>
    cases act with
    | stay => cases h
    | move index area => cases h
    | play area track showname =>
      cases h
      rfl
  | speaking act =>
    cases act with
    | unread error => cases h
    | silent m => cases h
    | spoken area m =>
      cases h
      let shown := Commands.Speaking.commitPose (Commands.Speaking.note s m) m
      have sent := shown.hall.court.court_publishReliable area
        (m.broadcast (Commands.Speaking.pairing s area m)).toWire Commands.speechTimeout
        (some shown.client.id)
      refine (congrArg Court.mail sent).trans ?_
      -- Showing a pose touches neither the mail nor who receives it.
      simp only [shown, Commands.Speaking.commitPose]
      split
      · have enrolled := (s.spares_showPose (.ofMessage m)).enrolled
        exact Court.mail_publishLossy_congr enrolled rfl rfl area _
      · rfl

theorem mail_of_no_relay {request : Request} {s : Scene} (h : request.relay? s = none) :
    (request.perform s).hall.court.mail =
      (s.hall.court.postEach s.client.id ((request.replies s).map (·.toWire))).mail := by
  cases request with
  | joining act =>
    cases act with
    | greet hardwareId => exact Scene.mail_replyAll _ _
    | identify software version => rfl
    | counts => rfl
    | characters => rfl
    | music => rfl
    | enter area => exact Scene.mail_enter _ _ _ _
    | keepAlive => rfl
  | character act => rfl
  | speaking act =>
    cases act with
    | unread error => rfl
    | silent m => rfl
    | spoken area m => cases h
  | chatting act => cases h
  | music act =>
    cases act with
    | stay => rfl
    | move index area => exact Scene.mail_enter _ _ _ _
    | play area track showname => cases h

/-- The commands under which clients are answered. -/
def answering : List String :=
  ["ID", "PN", "FL", "CT", "SI", "SC", "SM", "DONE", "CHECK", "PV", "BN", "LE"]

/-- A packet that the server may answer with: one message, and neither speech nor a track. -/
structure Answer (p : Wire.Packet) : Prop extends p.Tidy where
  known : p.command ∈ answering

theorem answer_of (command : String) {p : Wire.Packet} (tidy : p.Tidy) (same : p.command = command)
    (known : command ∈ answering) : Answer p :=
  ⟨tidy, same ▸ known⟩

theorem answer_areaPackets (a : Area) : ∀ packet ∈ Scene.areaPackets a, Answer packet := by
  have evidence (es : List Evidence) (p : Wire.Packet) (answer : Answer p) :
      Answer (es.foldl (fun p e => p.tuple [e.name, e.description, e.image]) p) := by
    induction es generalizing p with
    | nil => exact answer
    | cons e es ih => exact ih _ ⟨answer.toTidy.tuple _, answer.known⟩
  intro packet mem
  simp only [Scene.areaPackets, List.mem_cons, List.not_mem_nil, or_false] at mem
  rcases mem with rfl | rfl
  · exact answer_of "BN" ((Wire.Packet.tidy_named (by decide)).text _) rfl (by decide)
  · exact evidence _ _ (answer_of "LE" (Wire.Packet.tidy_named (by decide)) rfl (by decide))

theorem answer_characterPacket (s : Scene) : Answer s.characterPacket := by
  have constant : Wire.Safe "CID" := Wire.safe_of_not_mem (by decide) (by decide)
  exact answer_of "PV" ((((Wire.Packet.tidy_named (by decide)).nat _).arg constant).int _) rfl
    (by decide)

theorem answer_releasePackets (s : Scene) (area : Nat) :
    ∀ packet ∈ s.releasePackets area, Answer packet := by
  intro packet mem
  unfold Scene.releasePackets at mem
  split at mem
  · cases mem
  split at mem
  · rw [List.mem_singleton.1 mem]
    exact answer_characterPacket _
  · cases mem

theorem answer_greeting (s : Scene) : ∀ packet ∈ Commands.Joining.greeting s, Answer packet := by
  have constant {text : String} (h : '#' ∉ text.toList ∧ '%' ∉ text.toList) : Wire.Safe text :=
    Wire.safe_of_not_mem h.1 h.2
  have named {command : String} (plain : '#' ∉ command.toList) := Wire.Packet.tidy_named plain
  intro packet mem
  rcases List.mem_append.1 mem with mem | mem
  · simp only [List.mem_cons, List.not_mem_nil, or_false] at mem
    rcases mem with rfl | rfl | rfl
    · have software : Wire.Safe Commands.software := constant (by decide)
      have version : Wire.Safe Commands.softwareVersion := constant (by decide)
      exact answer_of "ID" ((((named (by decide)).nat _).arg software).arg version) rfl (by decide)
    · exact answer_of "PN" ((((named (by decide)).nat _).nat _).text _) rfl (by decide)
    · have features : ∀ f ∈ Commands.features, '#' ∉ f.toList ∧ '%' ∉ f.toList := by decide
      have tidy : Wire.Packet.Tidy ⟨"FL", Commands.features⟩ :=
        Wire.Packet.tidy_of_safe (by decide) fun f listed => constant (features f listed)
      exact answer_of "FL" tidy rfl (by decide)
  · cases welcome : s.hall.config.server.motd with
    | none =>
      rw [welcome] at mem
      cases mem
    | some motd =>
      rw [welcome] at mem
      rw [List.mem_singleton.1 mem]
      exact answer_of "CT" ((((named (by decide)).text _).text _).nat _) rfl (by decide)

/-- The server's own packets are answers, whatever the configuration holds. -/
theorem answer_replies (request : Request) (s : Scene) :
    ∀ packet ∈ request.replies s, Answer packet := by
  have entering (area : Nat) {lead : List Wire.Packet} (answers : ∀ packet ∈ lead, Answer packet)
      (a : Area) :
      ∀ packet ∈ s.releasePackets area ++ (lead ++ Scene.areaPackets a), Answer packet := by
    intro packet mem
    rcases List.mem_append.1 mem with mem | mem
    · exact answer_releasePackets s area packet mem
    rcases List.mem_append.1 mem with mem | mem
    · exact answers packet mem
    · exact answer_areaPackets a packet mem
  have single {p : Wire.Packet} (answer : Answer p) : ∀ packet ∈ [p], Answer packet :=
    fun _ mem => List.mem_singleton.1 mem ▸ answer
  have nothing : ∀ packet ∈ ([] : List Wire.Packet), Answer packet := List.forall_mem_nil _
  have named {command : String} (plain : '#' ∉ command.toList) := Wire.Packet.tidy_named plain
  cases request with
  | joining act =>
    cases act with
    | greet hardwareId => exact answer_greeting s
    | identify software version => exact nothing
    | counts =>
      exact single (answer_of "SI" ((((named (by decide)).nat _).nat _).nat _) rfl (by decide))
    | characters => exact single (answer_of "SC" ((named (by decide)).texts _) rfl (by decide))
    | music =>
      exact single (answer_of "SM" (((named (by decide)).texts _).texts _) rfl (by decide))
    | enter area =>
      exact entering 0 (single (answer_of "DONE" (named (by decide)) rfl (by decide))) area
    | keepAlive => exact single (answer_of "CHECK" (named (by decide)) rfl (by decide))
  | character act => exact single (answer_characterPacket _)
  | speaking act => exact nothing
  | chatting act => exact nothing
  | music act =>
    cases act with
    | stay => exact nothing
    | move index area => exact entering index nothing area
    | play area track showname => exact nothing

end Request
end CourtroomGateway
