import CourtroomGateway.Text.Printable

/-! Text between double quotes, for messages that repeat what a client sent. A quote, a backslash
and the usual controls have two-character forms; any other character that is not printable is
written by its code point in lower-case hexadecimal digits. -/

namespace CourtroomGateway.Text

def quotedChar (c : Char) : List Char :=
  match c with
  | '"' => ['\\', '"']
  | '\\' => ['\\', '\\']
  | '\n' => ['\\', 'n']
  | '\r' => ['\\', 'r']
  | '\t' => ['\\', 't']
  | '\x00' => ['\\', '0']
  | c =>
    if isPrintable c then [c]
    else ['\\', 'u', '\x7b'] ++ Nat.toDigits 16 c.toNat ++ ['\x7d']

def quoted (s : String) : String :=
  String.ofList ('"' :: s.toList.flatMap quotedChar ++ ['"'])

end CourtroomGateway.Text
