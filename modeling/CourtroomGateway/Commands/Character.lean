import CourtroomGateway.Commands.Rule

/-! Choosing a character, or `-1` to watch. In an area a character is free when no other client
there holds it; outside of areas every character is. -/

namespace CourtroomGateway.Commands

structure CharacterAct where
  charId : Int64
  folder : String
deriving Repr, DecidableEq

namespace Character

def decide (s : Scene) (p : Wire.Packet) : Except Refusal CharacterAct :=
  match p.args[1]?.bind Text.integer? with
  | none => .error .characterIdMissing
  | some charId =>
    if charId = -1 then .ok ⟨charId, ""⟩
    else
      match s.hall.config.character? charId with
      | none => .error (.noCharacter charId)
      | some folder =>
        if s.client.area.any fun area => s.taken area charId then
          .error (.characterTaken charId)
        else .ok ⟨charId, folder⟩

def perform (act : CharacterAct) (s : Scene) : Scene :=
  let s := s.setCharacter act.charId (.idle act.folder)
  s.reply s.characterPacket

end Character

def character : Rule CharacterAct where
  decide := Character.decide
  perform := Character.perform

end CourtroomGateway.Commands
