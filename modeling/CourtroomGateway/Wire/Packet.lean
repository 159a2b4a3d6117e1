import CourtroomGateway.Text.Integer
import CourtroomGateway.Wire.Escape

/-! Packets: a command and its arguments, separated by `#` and closed by `#%` on the wire.
Arguments are held in wire form, so free text is escaped when it is added. Reading a framed
message skips one leading empty segment and trims the command, which must not be blank. -/

namespace CourtroomGateway.Wire

structure Packet where
  command : String
  args : List String := []
deriving Repr, DecidableEq

namespace Packet

/-- A packet without arguments. -/
def named (command : String) : Packet := { command }

def arg (p : Packet) (value : String) : Packet := { p with args := p.args ++ [value] }

def int (p : Packet) (value : Int64) : Packet := p.arg (Text.decimal value)

def nat (p : Packet) (value : Nat) : Packet := p.arg (Text.decimalNat value)

def text (p : Packet) (value : String) : Packet := p.arg (escape value)

/-- One argument of several members, each escaped, with `&` between them. -/
def tuple (p : Packet) (members : List String) : Packet :=
  p.arg (String.intercalate "&" (members.map escape))

def texts (p : Packet) (values : List String) : Packet :=
  { p with args := p.args ++ values.map escape }

def ofSegments? : List (List Char) → Option Packet
  | [] => none
  | head :: rest =>
    let name := Text.trimChars head
    if name.isEmpty then none
    else some { command := String.ofList name, args := rest.map String.ofList }

def parse? (message : String) : Option Packet :=
  match message.toList.splitOn '#' with
  | [] :: rest => ofSegments? rest
  | segments => ofSegments? segments

def wireChars (p : Packet) : List Char :=
  p.command.toList ++ p.args.flatMap (fun a => '#' :: a.toList) ++ ['#', '%']

def toWire (p : Packet) : String := String.ofList p.wireChars

@[simp] theorem toList_toWire (p : Packet) : p.toWire.toList = p.wireChars := String.toList_ofList

end Packet
end CourtroomGateway.Wire
