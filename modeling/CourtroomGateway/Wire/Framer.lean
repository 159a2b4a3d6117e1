import CourtroomGateway.Text.Utf8

/-! Framing a byte stream. A message ends at the terminator, the two bytes of `#%`; zero bytes
are dropped before terminators are looked for. What follows the last terminator waits in the
buffer, and a wait longer than the limit is discarded and reported. Bytes are cut one by one, so
that a chunk costs its own length however much waits. -/

namespace CourtroomGateway.Wire

def hash : UInt8 := 0x23

def percent : UInt8 := 0x25

/-- The pieces before each terminator, leftmost first, and what is held after the last one. What
was held before belongs to the first piece. Held bytes have the last one first. -/
def cut (held : List UInt8) : List UInt8 → List (List UInt8) × List UInt8
  | [] => ([], held)
  | b :: bytes =>
    if b = percent ∧ held.head? = some hash then
      let (pieces, rest) := cut [] bytes
      (held.tail.reverse :: pieces, rest)
    else cut (b :: held) bytes

/-- Cutting may stop anywhere and go on with what is held. -/
theorem cut_append (held a b : List UInt8) :
    cut held (a ++ b) =
      ((cut held a).1 ++ (cut (cut held a).2 b).1, (cut (cut held a).2 b).2) := by
  induction a generalizing held with
  | nil => rfl
  | cons x a ih =>
    rw [List.cons_append, cut, cut]
    split
    · rw [ih]
      rfl
    · exact ih _

/-- What one chunk completes, and the length of the buffer if it was discarded. -/
structure Framed where
  messages : List String := []
  overflow : Option Nat := none
deriving Repr, DecidableEq

structure Framer where
  limit : Nat
  held : List UInt8 := []
deriving Repr, DecidableEq

namespace Framer

def defaultLimit : Nat := 1024

/-- An empty buffer; a limit of zero counts as one. -/
def withLimit (limit : Nat) : Framer := { limit := max limit 1 }

def new : Framer := withLimit defaultLimit

/-- The bytes that wait, in the order they came. -/
def buffer (f : Framer) : List UInt8 := f.held.reverse

def buffered (f : Framer) : Nat := f.held.length

def feed (f : Framer) (chunk : List UInt8) : Framed × Framer :=
  if chunk.isEmpty then ({}, f)
  else
    let (pieces, held) := cut f.held (chunk.filter (· ≠ 0))
    let messages := pieces.map Text.Utf8.decode
    let waits := held.length
    if f.limit < waits then
      ({ messages, overflow := some waits }, { f with held := [] })
    else ({ messages }, { f with held })

@[simp] theorem feed_nil (f : Framer) : f.feed [] = ({}, f) := rfl

@[simp] theorem limit_feed (f : Framer) (chunk : List UInt8) :
    (f.feed chunk).2.limit = f.limit := by
  unfold feed
  split
  · rfl
  · dsimp only
    split <;> rfl

end Framer
end CourtroomGateway.Wire
