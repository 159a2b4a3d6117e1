import CourtroomGateway.Commands.Rule

/-! Chat out of character. Name and text go to the client's area trimmed and otherwise as they
came, for what a client sends is in wire form already. -/

namespace CourtroomGateway.Commands

structure ChattingAct where
  area : Nat
  name : String
  text : String
deriving Repr, DecidableEq

namespace Chatting

def decide (s : Scene) (p : Wire.Packet) : Except Refusal ChattingAct :=
  match s.client.area with
  | none => .error .chatOutside
  | some area =>
    let name := Text.trim (p.args[0]?.getD "")
    let text := Text.trim (p.args[1]?.getD "")
    if name = "" ∨ text = "" then .error .chatIncomplete else .ok { area, name, text }

def perform (act : ChattingAct) (s : Scene) : Scene :=
  let packet : Wire.Packet := { command := "CT", args := [act.name, act.text, "0"] }
  { s with hall := s.hall.publishLossy act.area packet }

end Chatting

def chatting : Rule ChattingAct where
  decide := Chatting.decide
  perform := Chatting.perform

end CourtroomGateway.Commands
