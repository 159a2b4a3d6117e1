import CourtroomGateway.Flood
import Mathlib.Algebra.Order.Field.Rat
import Mathlib.Tactic.Linarith
import Mathlib.Tactic.Ring

/-! How many messages a bucket lets pass. What it holds, and what time brings it until some horizon,
is a credit; a message that passes is paid for out of it, and nothing adds to it. So a sequence of
checks passes no more than the credit at its beginning. Amounts are counted in thousandths of a
token, so that nothing has to be rounded as long as instants are whole milliseconds apart. A check
that overflows lets nothing pass and credits nothing. -/

namespace CourtroomGateway.Flood

/-- How many of the checks passed. -/
def passes (verdicts : List Verdict) : Nat := verdicts.count .pass

theorem passes_cons (v : Verdict) (vs : List Verdict) :
    passes (v :: vs) = passes [v] + passes vs := by
  rw [passes, ← List.singleton_append, List.count_append]
  rfl

/-- The thousandths of a token that the whole milliseconds between two instants bring. -/
def brought (rate : UInt32) (s t : Nat) : Nat := rate.toNat * ((t - s) / Bucket.millisecond)

/-- No part of a millisecond is left over between the instants. -/
def Whole (s t : Nat) : Prop := s % Bucket.millisecond = t % Bucket.millisecond

theorem brought_add (rate : UInt32) {s m t : Nat} (whole : Whole s m) (h : s ≤ m) (h' : m ≤ t) :
    brought rate s m + brought rate m t = brought rate s t := by
  rw [brought, brought, brought, ← Nat.mul_add]
  congr 1
  unfold Whole Bucket.millisecond at whole
  unfold Bucket.millisecond
  omega

theorem brought_anti (rate : UInt32) {s m : Nat} (h : s ≤ m) (t : Nat) :
    brought rate m t ≤ brought rate s t :=
  Nat.mul_le_mul_left _ (Nat.div_le_div_right (Nat.sub_le_sub_left h t))

namespace Bucket

/-- The bucket after checks at the given instants. -/
def afterAll (b : Bucket) (instants : List Nat) : Bucket :=
  instants.foldl (fun b now => (b.check now).2) b

/-- A check depends on the checks before it only. -/
theorem take_checks (b : Bucket) (instants : List Nat) (n : Nat) :
    (b.checks instants).take n = b.checks (instants.take n) := by
  induction instants generalizing b n with
  | nil => simp [checks]
  | cons now later ih => cases n <;> simp [checks, ih]

theorem drop_checks (b : Bucket) (instants : List Nat) (n : Nat) :
    (b.checks instants).drop n = (b.afterAll (instants.take n)).checks (instants.drop n) := by
  induction instants generalizing b n with
  | nil => simp [checks]
  | cons now later ih => cases n <;> simp [checks, afterAll, ih]

/-- What time brought since the last refill, as far as a word can hold it. -/
def pending (b : Bucket) (now : Nat) : Nat := brought b.rate b.refilled now % UInt64.size

theorem pending_le (b : Bucket) (now : Nat) : b.pending now ≤ brought b.rate b.refilled now :=
  Nat.mod_le _ _

theorem pending_le_add {b : Bucket} {s now : Nat} (whole : Whole b.refilled s)
    (begun : b.refilled ≤ s) (later : s ≤ now) :
    b.pending now ≤ b.pending s + brought b.rate s now := by
  rw [pending, ← brought_add _ whole begun later, ← Nat.mod_add_mod]
  exact Nat.mod_le _ _

/-- Where the product does not overflow, what was earned is what was pending, in whole tokens. -/
theorem toNat_earned {b : Bucket} {now : Nat} {earned : UInt32}
    (found : b.earned? ((now - b.refilled) / millisecond).toUInt64 = some earned) :
    earned.toNat = min (b.pending now / 1000) b.capacity.toNat := by
  have small := b.capacity.toNat_lt
  have product (milliseconds : Nat) :
      (milliseconds.toUInt64 * b.rate.toUInt64 / 1000).toNat =
        b.rate.toNat * milliseconds % UInt64.size / 1000 := by
    simp [Nat.mul_comm]
  unfold earned? at found
  split at found
  · obtain rfl := Option.some.inj found
    rw [UInt64.toNat_toUInt32, UInt64.toNat_min, product, UInt32.toNat_toUInt64, pending, brought]
    omega
  · cases found

/-- A bucket holds no more than its capacity. -/
def Sound (b : Bucket) : Prop := b.tokens ≤ b.capacity

/-- A refill that does anything credits no more than was pending, and begins a new wait. -/
structure Credited (b : Bucket) (now : Nat) (b' : Bucket) : Prop where
  waited : b.refilled ≤ now
  rate : b'.rate = b.rate
  capacity : b'.capacity = b.capacity
  refilled : b'.refilled = now
  sound : b'.Sound
  paid : 1000 * b'.tokens.toNat ≤ 1000 * b.tokens.toNat + b.pending now

/-- The bucket that a check takes from: a refill that overflows leaves it as it was. -/
def refill (b : Bucket) (now : Nat) : Bucket := (b.refill? now).getD b

theorem check_of_refill {b b' : Bucket} {now : Nat} (refilled : b.refill? now = some b') :
    b.check now = b'.take := by
  simp only [check, refilled]

theorem credited_of_credit? {b b' : Bucket} {now : Nat} {earned : UInt32}
    (late : ¬ now - b.refilled < minimumWait)
    (found : b.earned? ((now - b.refilled) / millisecond).toUInt64 = some earned)
    (held : b.credit? earned now = some b') : b.Credited now b' := by
  have worth := toNat_earned found
  have sum : (b.tokens + earned).toNat ≤ b.tokens.toNat + earned.toNat := by
    rw [UInt32.toNat_add]
    exact Nat.mod_le _ _
  unfold credit? at held
  split at held
  · obtain rfl := Option.some.inj held
    refine ⟨?_, rfl, rfl, rfl, ?_, ?_⟩
    · unfold minimumWait millisecond at late
      omega
    · rw [Sound, UInt32.le_iff_toNat_le, UInt32.toNat_min]
      exact Nat.min_le_right _ _
    · rw [UInt32.toNat_min]
      omega
  · cases held

/-- A refill does nothing when it comes early or would bring nothing, and it may overflow. -/
theorem refill?_cases (b : Bucket) (now : Nat) :
    b.refill? now = none ∨
      (b.refill? now = some b ∧ (now - b.refilled < minimumWait ∨
        min (b.pending now / 1000) b.capacity.toNat = 0)) ∨
      ∃ b', b.refill? now = some b' ∧ b.Credited now b' := by
  unfold refill?
  split
  next early => exact .inr (.inl ⟨rfl, .inl early⟩)
  next late =>
    cases found : b.earned? ((now - b.refilled) / millisecond).toUInt64 with
    | none => exact .inl rfl
    | some earned =>
      have worth := toNat_earned found
      dsimp only
      split
      next nothing =>
        rw [nothing, UInt32.toNat_zero] at worth
        exact .inr (.inl ⟨rfl, .inr worth.symm⟩)
      next =>
        cases held : b.credit? earned now with
        | none => exact .inl rfl
        | some b' => exact .inr (.inr ⟨b', rfl, credited_of_credit? late found held⟩)

/-- The bucket is left as it was, or a refill credited it. -/
theorem refill_cases (b : Bucket) (now : Nat) :
    b.refill now = b ∨ b.Credited now (b.refill now) := by
  unfold refill
  rcases b.refill?_cases now with overflows | ⟨kept, -⟩ | ⟨b', refilled, credited⟩
  · exact .inl (by rw [overflows, Option.getD_none])
  · exact .inl (by rw [kept, Option.getD_some])
  · exact .inr (by rwa [refilled, Option.getD_some])

theorem Credited.pending_eq_zero {b b' : Bucket} {now : Nat} (h : b.Credited now b') :
    b'.pending now = 0 := by
  simp [pending, brought, h.refilled]

theorem capacity_refill (b : Bucket) (now : Nat) : (b.refill now).capacity = b.capacity := by
  rcases b.refill_cases now with kept | credited
  · rw [kept]
  · exact credited.capacity

theorem Sound.refill {b : Bucket} (sound : b.Sound) (now : Nat) : (b.refill now).Sound := by
  rcases b.refill_cases now with kept | credited
  · rwa [kept]
  · exact credited.sound

/-- A message that passes costs a token, and nothing else happens to the bucket. -/
theorem passes_take (b : Bucket) :
    passes [b.take.1] + b.take.2.tokens.toNat = b.tokens.toNat ∧
      b.take.2 = { b with tokens := b.take.2.tokens } := by
  unfold take
  split
  next empty => exact ⟨by simp [passes], rfl⟩
  next held =>
    have some : b.tokens.toNat ≠ 0 := fun none => held (UInt32.toNat_inj.1 none)
    have one : (1 : UInt32) ≤ b.tokens :=
      UInt32.le_iff_toNat_le.2 (Nat.one_le_iff_ne_zero.2 some)
    have less : (b.tokens - 1).toNat = b.tokens.toNat - 1 := UInt32.toNat_sub_of_le _ _ one
    refine ⟨?_, rfl⟩
    rw [less, show passes [Verdict.pass] = 1 from rfl]
    omega

/-- What a check passes comes out of the tokens that are there after the refill. -/
theorem passes_check (b : Bucket) (now : Nat) :
    passes [(b.check now).1] + (b.check now).2.tokens.toNat = (b.refill now).tokens.toNat ∧
      (b.check now).2 = { b.refill now with tokens := (b.check now).2.tokens } := by
  unfold refill
  cases refilled : b.refill? now with
  | none =>
    rw [check_of_overflow refilled]
    exact ⟨Nat.zero_add _, rfl⟩
  | some b' =>
    rw [check_of_refill refilled]
    exact b'.passes_take

theorem Sound.check {b : Bucket} (sound : b.Sound) (now : Nat) : (b.check now).2.Sound := by
  obtain ⟨paid, same⟩ := b.passes_check now
  have refilled := UInt32.le_iff_toNat_le.1 (sound.refill now)
  rw [Sound, same, UInt32.le_iff_toNat_le]
  dsimp only
  omega

theorem refilled_check (b : Bucket) (now : Nat) :
    (b.check now).2.refilled = b.refilled ∨
      b.refilled ≤ now ∧ (b.check now).2.refilled = now := by
  obtain ⟨-, same⟩ := b.passes_check now
  rw [same]
  change (b.refill now).refilled = b.refilled ∨
    b.refilled ≤ now ∧ (b.refill now).refilled = now
  rcases b.refill_cases now with kept | credited
  · exact .inl (congrArg Bucket.refilled kept)
  · exact .inr ⟨credited.waited, credited.refilled⟩

theorem refilled_check_le {b : Bucket} {now s : Nat} (begun : b.refilled ≤ s) (reached : now ≤ s) :
    (b.check now).2.refilled ≤ s := by
  rcases b.refilled_check now with kept | ⟨-, moved⟩
  · rwa [kept]
  · rwa [moved]

/-- All instants are whole milliseconds from the last refill. -/
def Aligned (b : Bucket) (instants : List Nat) : Prop := ∀ now ∈ instants, Whole b.refilled now

theorem Aligned.check {b : Bucket} {now : Nat} {later : List Nat}
    (aligned : b.Aligned (now :: later)) : (b.check now).2.Aligned later := by
  obtain ⟨first, rest⟩ := List.forall_mem_cons.1 aligned
  rcases b.refilled_check now with kept | ⟨-, moved⟩
  · rwa [Aligned, kept]
  · rw [Aligned, moved]
    exact fun next listed => first.symm.trans (rest next listed)

section AfterAll
variable (b : Bucket) (instants : List Nat)

@[simp] theorem rate_afterAll : (b.afterAll instants).rate = b.rate := by
  induction instants generalizing b with
  | nil => rfl
  | cons now later ih => exact (ih _).trans (b.rate_check now)

@[simp] theorem capacity_afterAll : (b.afterAll instants).capacity = b.capacity := by
  induction instants generalizing b with
  | nil => rfl
  | cons now later ih => exact (ih _).trans (b.capacity_check now)

variable {b instants}

theorem Sound.afterAll (sound : b.Sound) : (b.afterAll instants).Sound := by
  induction instants generalizing b with
  | nil => exact sound
  | cons now later ih => exact ih (sound.check now)

theorem refilled_afterAll_le {s : Nat} (begun : b.refilled ≤ s)
    (reached : ∀ now ∈ instants, now ≤ s) : (b.afterAll instants).refilled ≤ s := by
  induction instants generalizing b with
  | nil => exact begun
  | cons now later ih =>
    obtain ⟨first, rest⟩ := List.forall_mem_cons.1 reached
    exact ih (refilled_check_le begun first) rest

theorem Aligned.afterAll {later : List Nat} (aligned : b.Aligned (instants ++ later)) :
    (b.afterAll instants).Aligned later := by
  induction instants generalizing b with
  | nil => exact aligned
  | cons now rest ih => exact ih (Aligned.check aligned)

end AfterAll

/-- What the bucket can pay until the horizon, if nothing that time brings is lost. -/
def credit (b : Bucket) (horizon : Nat) : Nat :=
  1000 * b.tokens.toNat + brought b.rate b.refilled horizon

theorem credit_check_le {b : Bucket} {now horizon : Nat} (whole : Whole b.refilled now)
    (ahead : now ≤ horizon) :
    1000 * passes [(b.check now).1] + (b.check now).2.credit horizon ≤ b.credit horizon := by
  obtain ⟨paid, same⟩ := b.passes_check now
  have refilled : (b.refill now).credit horizon ≤ b.credit horizon := by
    rcases b.refill_cases now with kept | credited
    · rw [kept]
    · have pending := b.pending_le now
      have gained := credited.paid
      rw [credit, credit, credited.rate, credited.refilled,
        ← brought_add _ whole credited.waited ahead]
      omega
  refine le_trans (le_of_eq ?_) refilled
  rw [same, credit, credit]
  dsimp only
  omega

/-- Checks at any instants up to the horizon pass no more than the credit. -/
theorem passes_checks_le {b : Bucket} {horizon : Nat} {instants : List Nat}
    (aligned : b.Aligned instants) (ahead : ∀ now ∈ instants, now ≤ horizon) :
    1000 * passes (b.checks instants) ≤ b.credit horizon := by
  induction instants generalizing b with
  | nil => exact Nat.zero_le _
  | cons now later ih =>
    obtain ⟨first, rest⟩ := List.forall_mem_cons.1 ahead
    have paid := credit_check_le (b := b) (aligned now List.mem_cons_self) first
    have after := ih (b := (b.check now).2) aligned.check rest
    rw [checks, passes_cons]
    omega

/-- What the bucket can pay from an instant until the horizon. -/
def outlook (b : Bucket) (now horizon : Nat) : Nat :=
  1000 * b.tokens.toNat + b.pending now + brought b.rate now horizon

theorem outlook_later_le {b : Bucket} {s now horizon : Nat} (whole : Whole b.refilled s)
    (further : Whole s now) (begun : b.refilled ≤ s) (later : s ≤ now) (ahead : now ≤ horizon) :
    b.outlook now horizon ≤ b.outlook s horizon := by
  have pending := pending_le_add whole begun later
  rw [outlook, outlook, ← brought_add _ further later ahead]
  omega

theorem outlook_check (b : Bucket) (now horizon : Nat) :
    1000 * passes [(b.check now).1] + (b.check now).2.outlook now horizon =
      (b.refill now).outlook now horizon := by
  obtain ⟨paid, same⟩ := b.passes_check now
  rw [same, outlook, outlook, pending, pending]
  dsimp only
  omega

theorem outlook_refill_le (b : Bucket) (now horizon : Nat) :
    (b.refill now).outlook now horizon ≤ b.outlook now horizon := by
  rcases b.refill_cases now with kept | credited
  · rw [kept]
  · have gained := credited.paid
    rw [outlook, outlook, credited.pending_eq_zero, credited.rate]
    omega

/-- Checks one after the other up to the horizon pass no more than the outlook. -/
theorem passes_checks_le_outlook {b : Bucket} {s horizon : Nat} {instants : List Nat}
    (aligned : b.Aligned (s :: instants)) (begun : b.refilled ≤ s)
    (ordered : (s :: instants).Pairwise (· ≤ ·)) (ahead : ∀ now ∈ instants, now ≤ horizon) :
    1000 * passes (b.checks instants) ≤ b.outlook s horizon := by
  induction instants generalizing b s with
  | nil => exact Nat.zero_le _
  | cons now later ih =>
    obtain ⟨first, rest⟩ := List.forall_mem_cons.1 ahead
    obtain ⟨least, ordered⟩ := List.pairwise_cons.1 ordered
    obtain ⟨whole, aligned⟩ := List.forall_mem_cons.1 aligned
    have next : s ≤ now := least now List.mem_cons_self
    have further : Whole s now := whole.symm.trans (aligned now List.mem_cons_self)
    have twice : b.Aligned (now :: now :: later) :=
      List.forall_mem_cons.2 ⟨aligned now List.mem_cons_self, aligned⟩
    have after := ih twice.check (refilled_check_le (begun.trans next) le_rfl) ordered rest
    have paid := b.outlook_check now horizon
    have refilled := b.outlook_refill_le now horizon
    have waited := outlook_later_le whole further begun next first
    rw [checks, passes_cons]
    omega

/-- At the first check of a block the bucket is full at most, and what is still pending then was
not worth a refill, unless the refill overflows. -/
theorem outlook_refill_le_capacity {b : Bucket} (sound : b.Sound) (usable : 0 < b.capacity)
    {now : Nat} (holds : b.refill? now ≠ none) (horizon : Nat) :
    (b.refill now).outlook now horizon ≤
      1000 * b.capacity.toNat + max (50 * b.rate.toNat) 1000 + brought b.rate now horizon := by
  have full := UInt32.le_iff_toNat_le.1 (sound.refill now)
  rw [capacity_refill] at full
  rcases b.refill?_cases now with overflows | ⟨same, reason⟩ | ⟨b', refilled, credited⟩
  · exact absurd overflows holds
  · have kept : b.refill now = b := by rw [refill, same, Option.getD_some]
    rw [kept] at full ⊢
    have small : b.pending now ≤ max (50 * b.rate.toNat) 1000 := by
      rcases reason with early | nothing
      · have short : (now - b.refilled) / millisecond ≤ 50 := by
          unfold minimumWait millisecond at early
          unfold millisecond
          omega
        have brief : b.rate.toNat * ((now - b.refilled) / millisecond) ≤ b.rate.toNat * 50 :=
          Nat.mul_le_mul_left _ short
        have pending := b.pending_le now
        rw [brought] at pending
        omega
      · have some := UInt32.lt_iff_toNat_lt.1 usable
        rw [UInt32.toNat_zero] at some
        omega
    rw [outlook]
    omega
  · have moved : b.refill now = b' := by rw [refill, refilled, Option.getD_some]
    rw [moved] at full ⊢
    rw [outlook, credited.pending_eq_zero, credited.rate]
    omega

/-- Checks one after the other pass no more than a full bucket, what time brings from the first of
them to the horizon, and what was not worth a refill before. -/
theorem passes_block_le {b : Bucket} (sound : b.Sound) (usable : 0 < b.capacity) {s horizon : Nat}
    {later : List Nat} (aligned : b.Aligned (s :: later)) (begun : b.refilled ≤ s)
    (ordered : (s :: later).Pairwise (· ≤ ·)) (ahead : ∀ now ∈ later, now ≤ horizon) :
    1000 * passes (b.checks (s :: later)) ≤
      1000 * b.capacity.toNat + max (50 * b.rate.toNat) 1000 + brought b.rate s horizon := by
  by_cases overflows : b.refill? s = none
  · -- Nothing passes and nothing is changed, and the block may as well begin at the next check.
    have none : passes [Verdict.overflow] = 0 := rfl
    rw [checks, check_of_overflow overflows, passes_cons, none, Nat.zero_add]
    cases later with
    | nil => exact Nat.zero_le _
    | cons next later =>
      obtain ⟨least, ordered⟩ := List.pairwise_cons.1 ordered
      have further : s ≤ next := least next List.mem_cons_self
      have rest := passes_block_le sound usable (List.forall_mem_cons.1 aligned).2
        (begun.trans further) ordered (List.forall_mem_cons.1 ahead).2
      exact rest.trans (Nat.add_le_add_left (brought_anti b.rate further horizon) _)
  · have first := outlook_refill_le_capacity sound usable overflows horizon
    have paid := b.outlook_check s horizon
    have twice : b.Aligned (s :: s :: later) :=
      List.forall_mem_cons.2 ⟨aligned s List.mem_cons_self, aligned⟩
    have rest := passes_checks_le_outlook twice.check (refilled_check_le begun le_rfl) ordered ahead
    rw [checks, passes_cons]
    omega

/-- The same for any block of an ordered sequence of checks. -/
theorem passes_span_le {b : Bucket} (sound : b.Sound) (usable : 0 < b.capacity)
    {instants : List Nat} (aligned : b.Aligned instants)
    (begun : ∀ now ∈ instants, b.refilled ≤ now) (ordered : instants.Pairwise (· ≤ ·)) {i j : Nat}
    (h : i ≤ j) (hj : j < instants.length) :
    1000 * passes (((b.checks instants).take (j + 1)).drop i) ≤
      1000 * b.capacity.toNat + max (50 * b.rate.toNat) 1000 +
        brought b.rate instants[i] instants[j] := by
  have before : (instants.take (j + 1)).take i = instants.take i := by
    rw [List.take_take, Nat.min_eq_left (by omega)]
  have block : (instants.take (j + 1)).drop i =
      instants[i] :: (instants.take (j + 1)).drop (i + 1) := by
    rw [List.drop_eq_getElem_cons (by rw [List.length_take]; omega), List.getElem_take]
  have within : ((instants.take (j + 1)).drop i).Pairwise (· ≤ ·) := ordered.take.drop
  have behind : ∀ now ∈ instants.take i, now ≤ instants[i] := by
    intro now mem
    obtain ⟨k, early, rfl⟩ := List.mem_take_iff_getElem.1 mem
    exact List.pairwise_iff_getElem.1 ordered _ _ _ _ (by omega)
  have ahead : ∀ now ∈ (instants.take (j + 1)).drop (i + 1), now ≤ instants[j] := by
    intro now mem
    obtain ⟨k, inside, rfl⟩ := List.mem_take_iff_getElem.1 (List.mem_of_mem_drop mem)
    rcases Nat.lt_or_ge k j with early | last
    · exact List.pairwise_iff_getElem.1 ordered _ _ _ _ early
    · obtain rfl : k = j := by omega
      exact le_rfl
  have left : b.Aligned (instants.take i ++ (instants.take (j + 1)).drop i) := by
    intro now mem
    refine aligned now ((List.mem_append.1 mem).elim List.mem_of_mem_take fun inside => ?_)
    exact List.mem_of_mem_take (List.mem_of_mem_drop inside)
  rw [block] at within left
  rw [take_checks, drop_checks, before, block]
  have bound := passes_block_le (b := b.afterAll (instants.take i)) sound.afterAll
    (by rwa [capacity_afterAll]) left.afterAll
    (refilled_afterAll_le (begun _ (List.getElem_mem _)) behind) within ahead
  rwa [capacity_afterAll, rate_afterAll] at bound

end Bucket

theorem Bucket.new_of_pos {rate burst : UInt32} (hr : 0 < rate) (hb : 0 < burst) (now : Nat) :
    new rate burst now = ⟨rate, burst, burst, now⟩ := by
  have max_one {n : UInt32} (h : 0 < n) : max n 1 = n := by
    rw [← UInt32.toNat_inj, UInt32.toNat_max]
    exact Nat.max_eq_left (UInt32.lt_iff_toNat_lt.1 h)
  rw [new, max_one hr, max_one hb]

/-- The instants at the given milliseconds after another one. -/
def instantsAt (created : Nat) (times : List Nat) : List Nat :=
  times.map fun time => created + time * Bucket.millisecond

/-- The verdicts of a new bucket on checks at the given milliseconds after its creation. -/
def verdicts (rate burst : UInt32) (created : Nat) (times : List Nat) : List Verdict :=
  (Bucket.new rate burst created).checks (instantsAt created times)

section Times
variable (rate : UInt32) (created s t : Nat)

theorem whole_instant : Whole created (created + t * Bucket.millisecond) :=
  (Nat.add_mul_mod_self_right created t Bucket.millisecond).symm

theorem brought_instant :
    brought rate (created + s * Bucket.millisecond) (created + t * Bucket.millisecond) =
      rate.toNat * (t - s) := by
  rw [brought, Nat.add_sub_add_left, ← Nat.sub_mul, Nat.mul_div_cancel _ (by decide)]

end Times

/-- However the checks are spread in time, and even if the clock goes back, no more messages pass
than the burst and what the rate allows until the latest of the times; and of checks one after the
other no more of a block pass than the burst, what the rate allows from its first time to its last,
and what was not worth a refill before. -/
theorem passes_bounded {rate burst : UInt32} (hr : 0 < rate) (hb : 0 < burst) (created : Nat)
    (times : List Nat) :
    (∀ n, 1000 * passes ((verdicts rate burst created times).take n) ≤
        1000 * burst.toNat + rate.toNat * (times.take n).max?.getD 0) ∧
      (times.Pairwise (· ≤ ·) → ∀ i j (_ : i ≤ j) (_ : j < times.length),
        (passes (((verdicts rate burst created times).take (j + 1)).drop i) : ℚ) ≤
          burst.toNat + rate.toNat * ((times[j] : ℚ) - times[i]) / 1000 +
            max ((rate.toNat : ℚ) / 20) 1) := by
  have aligned (b : Bucket) (begun : b.refilled = created) :
      b.Aligned (instantsAt created times) := by
    intro now mem
    obtain ⟨time, -, rfl⟩ := List.mem_map.1 mem
    exact begun ▸ whole_instant created time
  rw [verdicts, Bucket.new_of_pos hr hb]
  refine ⟨fun n => ?_, fun ordered i j h hj => ?_⟩
  · have latest : ∀ now ∈ (instantsAt created times).take n,
        now ≤ created + (times.take n).max?.getD 0 * Bucket.millisecond := by
      intro now mem
      rw [instantsAt, ← List.map_take] at mem
      obtain ⟨time, listed, rfl⟩ := List.mem_map.1 mem
      exact Nat.add_le_add_left (Nat.mul_le_mul_right _ (List.le_max?_getD_of_mem listed)) created
    have begun := aligned ⟨rate, burst, burst, created⟩ rfl
    have paid := Bucket.passes_checks_le (b := ⟨rate, burst, burst, created⟩)
      (fun now mem => begun now (List.mem_of_mem_take mem)) latest
    have gained := brought_instant rate created 0 ((times.take n).max?.getD 0)
    rw [Nat.zero_mul, Nat.add_zero, Nat.sub_zero] at gained
    rwa [Bucket.credit, gained, ← Bucket.take_checks] at paid
  · have shifted : (instantsAt created times).Pairwise (· ≤ ·) :=
      List.pairwise_map.2
        (ordered.imp fun le => Nat.add_le_add_left (Nat.mul_le_mul_right _ le) created)
    have bound := Bucket.passes_span_le (b := ⟨rate, burst, burst, created⟩) (UInt32.le_refl _) hb
      (aligned _ rfl) (by simp [instantsAt]) shifted h (by rwa [instantsAt, List.length_map])
    have order : times[i] ≤ times[j] := by
      rcases Nat.eq_or_lt_of_le h with rfl | before
      · exact le_rfl
      · exact List.pairwise_iff_getElem.1 ordered _ _ _ _ before
    simp only [instantsAt, List.getElem_map, brought_instant] at bound
    have real := Nat.cast_le (α := ℚ).2 bound
    push_cast [order] at real
    have spare : (max (50 * rate.toNat) 1000 : ℚ) = 1000 * max ((rate.toNat : ℚ) / 20) 1 := by
      rw [mul_max_of_nonneg _ _ (by norm_num)]
      congr 1 <;> ring
    simp only [instantsAt]
    linarith

/-- Nothing comes back before 50 milliseconds, and then two tokens do, so that four messages pass
in one millisecond. Both bounds leave no room for a fifth. -/
theorem passes_bounded_gate :
    (0 : UInt32) < 40 ∧ (0 : UInt32) < 2 ∧ [49, 49, 50, 50, 50].Pairwise (· ≤ ·) ∧
      passes (verdicts 40 2 7 [49, 49, 50, 50, 50]) = 4 ∧
      1000 * passes ((verdicts 40 2 7 [49, 49, 50, 50, 50]).take 5) ≤ 1000 * 2 + 40 * 50 ∧
      (passes (((verdicts 40 2 7 [49, 49, 50, 50, 50]).take 5).drop 0) : ℚ) ≤
        2 + 40 * (50 - 49) / 1000 + max (40 / 20) 1 := by
  have rate : (0 : UInt32) < 40 := by decide
  have burst : (0 : UInt32) < 2 := by decide
  have ordered : [49, 49, 50, 50, 50].Pairwise (· ≤ ·) := by decide
  obtain ⟨latest, block⟩ := passes_bounded rate burst 7 [49, 49, 50, 50, 50]
  have last := block ordered 0 4 (by decide) (by decide)
  simp only [UInt32.reduceToNat] at last
  refine ⟨rate, burst, ordered, by decide +kernel, latest 5, ?_⟩
  exact_mod_cast last

end CourtroomGateway.Flood
