/-! UTF-8 bytes. Encoding writes each character in its shortest form. Decoding is lenient: bytes
that belong to no well-formed character are left out, one longest ill-formed prefix at a time,
and nothing is put in their place. -/

namespace CourtroomGateway.Text.Utf8

def encodeChars (cs : List Char) : List UInt8 := cs.flatMap String.utf8EncodeChar

def encode (s : String) : List UInt8 := encodeChars s.toList

/-- An unfinished character: the value read so far, how many further bytes follow the next one,
and the range the next byte has to lie in. -/
structure Pending where
  value : Nat
  further : Nat
  lowest : UInt8
  highest : UInt8
deriving Repr, DecidableEq

/-- The state after a byte that cannot continue a character, and the character it completes. -/
def start (b : UInt8) : Option Char × Option Pending :=
  let n := b.toNat
  if n < 0x80 then (some (Char.ofNat n), none)
  else if n < 0xC2 then (none, none)
  else if n < 0xE0 then (none, some ⟨n - 0xC0, 0, 0x80, 0xBF⟩)
  else if n < 0xF0 then
    (none, some ⟨n - 0xE0, 1, if n = 0xE0 then 0xA0 else 0x80, if n = 0xED then 0x9F else 0xBF⟩)
  else if n < 0xF5 then
    (none, some ⟨n - 0xF0, 2, if n = 0xF0 then 0x90 else 0x80, if n = 0xF4 then 0x8F else 0xBF⟩)
  else (none, none)

def step (pending : Option Pending) (b : UInt8) : Option Char × Option Pending :=
  match pending with
  | none => start b
  | some p =>
    if p.lowest ≤ b ∧ b ≤ p.highest then
      let value := p.value * 64 + (b.toNat - 0x80)
      match p.further with
      | 0 => (some (Char.ofNat value), none)
      | further + 1 => (none, some ⟨value, further, 0x80, 0xBF⟩)
    else start b

def decodeFrom (pending : Option Pending) : List UInt8 → List Char
  | [] => []
  | b :: bytes =>
    match step pending b with
    | (some c, next) => c :: decodeFrom next bytes
    | (none, next) => decodeFrom next bytes

def decodeChars (bytes : List UInt8) : List Char := decodeFrom none bytes

def decode (bytes : List UInt8) : String := String.ofList (decodeChars bytes)

end CourtroomGateway.Text.Utf8
