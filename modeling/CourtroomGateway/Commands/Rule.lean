import CourtroomGateway.Scene

/-! Commands as rules. A rule first decides what a packet asks for, which changes nothing and may
end in a refusal, and then performs what it decided. A handler is anything that reacts to a
packet; the handlers of a gateway are kept by command. -/

namespace CourtroomGateway

inductive Refusal
  | hardwareIdMissing
  | notPartOfJoining (command : String)
  | noAreas
  | noSuchArea (index : Nat)
  | characterIdMissing
  | noCharacter (id : Int64)
  | characterTaken (id : Int64)
  | chatOutside
  | chatIncomplete
  | musicNameMissing
  | unknownMusic (name : String)
  | musicOutside
  | musicSpectating
  | unknownCommand (command : String)
  | serverFull
deriving Repr, DecidableEq

def Refusal.toFault : Refusal → Fault
  | hardwareIdMissing => .badRequest "HI requires a hardware id"
  | notPartOfJoining command => .badRequest ("handshake: unexpected " ++ command)
  | noAreas => .internal "no areas configured"
  | noSuchArea index => .internal ("area index " ++ Text.decimalNat index ++ " out of range")
  | characterIdMissing => .badRequest "CC requires a character id"
  | noCharacter id => .notAllowed ("no character " ++ Text.decimal id)
  | characterTaken id => .notAllowed ("character " ++ Text.decimal id ++ " taken")
  | chatOutside => .notAllowed "CT before joining an area"
  | chatIncomplete => .badRequest "CT requires a name and a message"
  | musicNameMissing => .badRequest "MC requires a name"
  | unknownMusic name => .badRequest ("unknown track or area: " ++ name)
  | musicOutside => .notAllowed "MC before joining an area"
  | musicSpectating => .notAllowed "spectators cannot change music"
  | unknownCommand command => .badRequest ("unknown command: " ++ command)
  | serverFull => .notAllowed "server full"

inductive Outcome
  | done
  | refused (fault : Fault)
  | crashed
deriving Repr, DecidableEq

structure Reaction where
  scene : Scene
  outcome : Outcome

abbrev Handler := Scene → Wire.Packet → Reaction

structure Rule (α : Type) where
  decide : Scene → Wire.Packet → Except Refusal α
  perform : α → Scene → Scene

namespace Rule
variable {α : Type}

def handle (r : Rule α) : Handler := fun s p =>
  match r.decide s p with
  | .error refusal => ⟨s, .refused refusal.toFault⟩
  | .ok act => ⟨r.perform act s, .done⟩

theorem handle_of_error {r : Rule α} {s : Scene} {p : Wire.Packet} {refusal : Refusal}
    (h : r.decide s p = .error refusal) : r.handle s p = ⟨s, .refused refusal.toFault⟩ := by
  simp only [handle, h]

theorem handle_of_ok {r : Rule α} {s : Scene} {p : Wire.Packet} {act : α}
    (h : r.decide s p = .ok act) : r.handle s p = ⟨r.perform act s, .done⟩ := by
  simp only [handle, h]

/-- A rule that refuses leaves the scene as it was. -/
theorem scene_of_refused {r : Rule α} {s : Scene} {p : Wire.Packet} {fault : Fault}
    (h : (r.handle s p).outcome = .refused fault) : (r.handle s p).scene = s := by
  cases hd : r.decide s p with
  | error refusal => rw [handle_of_error hd]
  | ok act =>
    rw [handle_of_ok hd] at h
    cases h

theorem not_crashed (r : Rule α) (s : Scene) (p : Wire.Packet) :
    (r.handle s p).outcome ≠ .crashed := by
  cases hd : r.decide s p with
  | error refusal => rw [handle_of_error hd]; nofun
  | ok act => rw [handle_of_ok hd]; nofun

end Rule
end CourtroomGateway
