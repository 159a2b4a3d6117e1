/-! Flood control: a token bucket for one connection. Every message costs a token; tokens come
back with time, at `rate` per second and never above `capacity`. Instants are nanoseconds, and
the bucket is told the present one. Counts are machine words. A check whose refill forms a product
or a sum that its word cannot hold overflows: it comes to no verdict of the bucket's, and leaves
the bucket as it was. -/

namespace CourtroomGateway.Flood

inductive Verdict
  | pass | drop | overflow
deriving Repr, DecidableEq

structure Bucket where
  rate : UInt32
  capacity : UInt32
  tokens : UInt32
  refilled : Nat
deriving Repr, DecidableEq

namespace Bucket

/-- A full bucket. A rate or capacity of zero counts as one. -/
def new (rate burst : UInt32) (now : Nat) : Bucket where
  rate := max rate 1
  capacity := max burst 1
  tokens := max burst 1
  refilled := now

/-- The nanoseconds of a millisecond. -/
def millisecond : Nat := 1000000

/-- The shortest time after which tokens come back. -/
def minimumWait : Nat := 50 * millisecond

/-- The tokens that this many milliseconds bring back, unless the product overflows. -/
def earned? (b : Bucket) (milliseconds : UInt64) : Option UInt32 :=
  if milliseconds.toNat * b.rate.toNat < UInt64.size then
    some (min (milliseconds * b.rate.toUInt64 / 1000) b.capacity.toUInt64).toUInt32
  else none

/-- The bucket with so many tokens more, as far as it holds them, unless the sum overflows. -/
def credit? (b : Bucket) (earned : UInt32) (now : Nat) : Option Bucket :=
  if b.tokens.toNat + earned.toNat < UInt32.size then
    some { b with tokens := min (b.tokens + earned) b.capacity, refilled := now }
  else none

/-- Nothing happens before the minimum wait, and a wait that earns no token goes on. Time is counted
in whole milliseconds, as many as a word can tell. -/
def refill? (b : Bucket) (now : Nat) : Option Bucket :=
  if now - b.refilled < minimumWait then some b
  else
    match b.earned? ((now - b.refilled) / millisecond).toUInt64 with
    | none => none
    | some earned => if earned = 0 then some b else b.credit? earned now

def take (b : Bucket) : Verdict × Bucket :=
  if b.tokens = 0 then (.drop, b) else (.pass, { b with tokens := b.tokens - 1 })

def check (b : Bucket) (now : Nat) : Verdict × Bucket :=
  match b.refill? now with
  | none => (.overflow, b)
  | some b => b.take

/-- The verdicts on checks at the given instants, in order. -/
def checks (b : Bucket) : List Nat → List Verdict
  | [] => []
  | now :: later => (b.check now).1 :: (b.check now).2.checks later

theorem check_of_overflow {b : Bucket} {now : Nat} (overflows : b.refill? now = none) :
    b.check now = (.overflow, b) := by
  simp only [check, overflows]

theorem verdict_eq_overflow_iff {b : Bucket} {now : Nat} :
    (b.check now).1 = .overflow ↔ b.refill? now = none := by
  unfold check take
  grind

@[simp] theorem capacity_check (b : Bucket) (now : Nat) :
    (b.check now).2.capacity = b.capacity := by
  unfold check refill? credit? take
  grind

@[simp] theorem rate_check (b : Bucket) (now : Nat) : (b.check now).2.rate = b.rate := by
  unfold check refill? credit? take
  grind

end Bucket
end CourtroomGateway.Flood
