import CourtroomGateway.Config.Basic
import CourtroomGateway.Proofs.Flood.Budget

/-! What the words of a bucket can hold. A refill multiplies the rate by the wait before it takes
what there is room for, and adds what came back before it cuts the sum to the capacity, so either
word can overflow, and then there is no verdict. Where both hold their results the tokens are those
that exact arithmetic gives. For how long that is so depends on the allowance alone; a bucket never
holds more than its capacity. -/

namespace CourtroomGateway

theorem Allowance.fault?_eq_none_iff {a : Allowance} :
    a.fault? = none ↔ 0 < a.rate ∧ 0 < a.burst := by
  have pos (n : UInt32) : 0 < n ↔ n ≠ 0 := by
    rw [UInt32.lt_iff_toNat_lt, UInt32.toNat_zero, Nat.pos_iff_ne_zero, ne_eq, ne_eq,
      ← UInt32.toNat_inj, UInt32.toNat_zero]
  unfold Allowance.fault?
  rw [pos, pos, ← not_or]
  split
  next fails => simp [fails]
  next holds => simp [holds]

namespace Flood
namespace Bucket

/-- The whole tokens that time brought since the last refill, up to the capacity. -/
def due (b : Bucket) (now : Nat) : Nat :=
  min (brought b.rate b.refilled now / 1000) b.capacity.toNat

/-- The words of a refill hold the product and the sum that it forms. -/
def Fits (b : Bucket) (now : Nat) : Prop :=
  minimumWait ≤ now - b.refilled →
    brought b.rate b.refilled now < 2 ^ 64 ∧ b.tokens.toNat + b.due now < 2 ^ 32

/-- The tokens after a refill, by exact arithmetic. -/
def exactTokens (b : Bucket) (now : Nat) : Nat :=
  if now - b.refilled < minimumWait then b.tokens.toNat
  else min (b.tokens.toNat + b.due now) b.capacity.toNat

/-- A check goes by exact arithmetic. -/
structure Exact (b : Bucket) (now : Nat) : Prop where
  refilled : (b.refill? now).map (·.tokens.toNat) = some (b.exactTokens now)
  verdict : (b.check now).1 = if 0 < b.exactTokens now then .pass else .drop
  left : (b.check now).2.tokens.toNat = b.exactTokens now - 1

theorem take_eq (b : Bucket) :
    b.take.1 = (if 0 < b.tokens.toNat then .pass else .drop) ∧
      b.take.2.tokens.toNat = b.tokens.toNat - 1 := by
  obtain ⟨paid, -⟩ := b.passes_take
  unfold take at paid ⊢
  by_cases empty : b.tokens = 0
  · simp [empty]
  · have some : 0 < b.tokens.toNat :=
      Nat.pos_of_ne_zero fun none => empty (UInt32.toNat_inj.1 none)
    rw [if_neg empty, show passes [Verdict.pass] = 1 from rfl] at paid
    rw [if_neg empty, if_pos some]
    exact ⟨rfl, by omega⟩

/-- The product of a refill overflows exactly if its word cannot hold what time brought, as long as
a word can tell the time. -/
theorem earned?_eq_none_iff {b : Bucket} {now : Nat}
    (told : (now - b.refilled) / millisecond < 2 ^ 64) :
    b.earned? ((now - b.refilled) / millisecond).toUInt64 = none ↔
      2 ^ 64 ≤ brought b.rate b.refilled now := by
  have whole : ((now - b.refilled) / millisecond).toUInt64.toNat =
      (now - b.refilled) / millisecond := Nat.mod_eq_of_lt told
  unfold earned?
  rw [whole, Nat.mul_comm, ← brought]
  split
  next small => exact iff_of_false (Option.some_ne_none _) (Nat.not_le.2 small)
  next large => exact iff_of_true rfl (Nat.not_lt.1 large)

theorem toNat_earned_of_lt {b : Bucket} {now : Nat} {earned : UInt32}
    (found : b.earned? ((now - b.refilled) / millisecond).toUInt64 = some earned)
    (small : brought b.rate b.refilled now < 2 ^ 64) : earned.toNat = b.due now := by
  have whole : brought b.rate b.refilled now < UInt64.size := small
  rw [toNat_earned found, pending, Nat.mod_eq_of_lt whole, due]

/-- The wait is one that a word can tell, if what it brings at any rate fits into one. -/
theorem told_of_lt {b : Bucket} (usable : 0 < b.rate) {now : Nat}
    (small : brought b.rate b.refilled now < 2 ^ 64) :
    (now - b.refilled) / millisecond < 2 ^ 64 := by
  have one : 1 ≤ b.rate.toNat := UInt32.lt_iff_toNat_lt.1 usable
  exact (Nat.le_mul_of_pos_left _ one).trans_lt small

theorem map_refill?_of_fits {b : Bucket} (sound : b.Sound) (usable : 0 < b.rate) {now : Nat}
    (fits : b.Fits now) : (b.refill? now).map (·.tokens.toNat) = some (b.exactTokens now) := by
  have held := UInt32.le_iff_toNat_le.1 sound
  unfold refill? exactTokens
  split
  next early => rfl
  next late =>
    obtain ⟨product, sum⟩ := fits (Nat.le_of_not_lt late)
    cases found : b.earned? ((now - b.refilled) / millisecond).toUInt64 with
    | none =>
      have large := (earned?_eq_none_iff (told_of_lt usable product)).1 found
      exact absurd product (Nat.not_lt.2 large)
    | some earned =>
      have worth := toNat_earned_of_lt found product
      dsimp only
      split
      next nothing =>
        rw [nothing, UInt32.toNat_zero] at worth
        rw [← worth, Nat.add_zero, Nat.min_eq_left held]
        rfl
      next =>
        rw [← worth] at sum ⊢
        have room : b.tokens.toNat + earned.toNat < UInt32.size := sum
        rw [credit?, if_pos room, Option.map_some, UInt32.toNat_min, UInt32.toNat_add,
          Nat.mod_eq_of_lt sum]

theorem exact_of_fits {b : Bucket} (sound : b.Sound) (usable : 0 < b.rate) {now : Nat}
    (fits : b.Fits now) : b.Exact now := by
  have refilled := map_refill?_of_fits sound usable fits
  obtain ⟨b', found, tokens⟩ := Option.map_eq_some_iff.1 refilled
  obtain ⟨verdict, left⟩ := b'.take_eq
  rw [tokens] at verdict left
  refine ⟨refilled, ?_, ?_⟩
  · rw [check_of_refill found, verdict]
  · rw [check_of_refill found, left]

/-- Where the words do not suffice there is no verdict, and nothing is changed. -/
theorem check_of_not_fits {b : Bucket} {now : Nat} (exceeds : ¬ b.Fits now)
    (told : (now - b.refilled) / millisecond < 2 ^ 64) : b.check now = (.overflow, b) := by
  obtain ⟨late, exceeds⟩ := Classical.not_imp.1 exceeds
  refine check_of_overflow ?_
  rw [refill?, if_neg (Nat.not_lt.2 late)]
  cases found : b.earned? ((now - b.refilled) / millisecond).toUInt64 with
  | none => rfl
  | some earned =>
    have small : brought b.rate b.refilled now < 2 ^ 64 := by
      rw [← Nat.not_le, ← earned?_eq_none_iff told, found]
      nofun
    have worth := toNat_earned_of_lt found small
    have large : ¬ b.tokens.toNat + earned.toNat < UInt32.size := by
      rw [worth]
      exact fun sum => exceeds ⟨small, sum⟩
    have some : earned ≠ 0 := by
      rintro rfl
      exact large b.tokens.toNat_lt
    dsimp only
    rw [if_neg some, credit?, if_neg large]

theorem le_refilled_check (b : Bucket) (now : Nat) : b.refilled ≤ (b.check now).2.refilled := by
  rcases b.refilled_check now with kept | ⟨waited, moved⟩
  · exact kept.ge
  · exact waited.trans moved.ge

theorem le_refilled_afterAll (b : Bucket) (instants : List Nat) :
    b.refilled ≤ (b.afterAll instants).refilled := by
  induction instants generalizing b with
  | nil => exact le_rfl
  | cons now later ih => exact (b.le_refilled_check now).trans (ih (b.check now).2)

/-- The words suffice where they do for the longest wait and the fullest bucket. -/
theorem fits_of_le {b : Bucket} (sound : b.Sound) {now horizon : Nat}
    (near : now - b.refilled ≤ horizon)
    (product : b.rate.toNat * (horizon / millisecond) < 2 ^ 64)
    (sum : minimumWait ≤ horizon →
      b.capacity.toNat + min (b.rate.toNat * (horizon / millisecond) / 1000) b.capacity.toNat <
        2 ^ 32) :
    b.Fits now := by
  intro late
  have held := UInt32.le_iff_toNat_le.1 sound
  have room := sum (late.trans near)
  have less : brought b.rate b.refilled now ≤ b.rate.toNat * (horizon / millisecond) :=
    Nat.mul_le_mul_left _ (Nat.div_le_div_right near)
  have credited := Nat.div_le_div_right (c := 1000) less
  refine ⟨less.trans_lt product, ?_⟩
  unfold due
  omega

end Bucket

/-- The bucket of a connection after checks at the given times, in nanoseconds, after its
creation. -/
def bucketAfter (a : Allowance) (created : Nat) (times : List Nat) : Bucket :=
  (Bucket.new a.rate a.burst created).afterAll (times.map (created + ·))

section After
variable {a : Allowance} (valid : a.fault? = none) (created : Nat) (times : List Nat)
include valid

theorem bucketAfter_eq :
    bucketAfter a created times =
      (Bucket.mk a.rate a.burst a.burst created).afterAll (times.map (created + ·)) := by
  obtain ⟨rate, burst⟩ := Allowance.fault?_eq_none_iff.1 valid
  rw [bucketAfter, Bucket.new_of_pos rate burst]

theorem rate_bucketAfter : (bucketAfter a created times).rate = a.rate := by
  rw [bucketAfter_eq valid, Bucket.rate_afterAll]

theorem capacity_bucketAfter : (bucketAfter a created times).capacity = a.burst := by
  rw [bucketAfter_eq valid, Bucket.capacity_afterAll]

theorem sound_bucketAfter : (bucketAfter a created times).Sound := by
  rw [bucketAfter_eq valid]
  exact Bucket.Sound.afterAll (UInt32.le_refl _)

theorem le_refilled_bucketAfter : created ≤ (bucketAfter a created times).refilled := by
  rw [bucketAfter_eq valid]
  exact Bucket.le_refilled_afterAll ⟨a.rate, a.burst, a.burst, created⟩ _

end After

/-- Whatever was checked before, a bucket holds no more than the burst. A check whose words suffice
goes by exact arithmetic, and one whose words do not comes to no verdict and changes nothing. The
words suffice for all checks up to a time, however they are spread, exactly if the rate times its
whole milliseconds is below 2^64, and a full bucket with what comes back in that time below 2^32. -/
theorem words_suffice_iff {a : Allowance} (valid : a.fault? = none) (created : Nat) :
    (∀ earlier time,
      (bucketAfter a created earlier).tokens ≤ a.burst ∧
      ((bucketAfter a created earlier).check (created + time)).2.tokens ≤ a.burst ∧
      ((bucketAfter a created earlier).Fits (created + time) →
        (bucketAfter a created earlier).Exact (created + time)) ∧
      (¬ (bucketAfter a created earlier).Fits (created + time) →
        time < 2 ^ 64 * Bucket.millisecond →
        (bucketAfter a created earlier).check (created + time) =
          (.overflow, bucketAfter a created earlier))) ∧
    ∀ horizon,
      (∀ earlier time, (∀ t ∈ time :: earlier, t ≤ horizon) →
        (bucketAfter a created earlier).Fits (created + time)) ↔
      a.rate.toNat * (horizon / Bucket.millisecond) < 2 ^ 64 ∧
        (Bucket.minimumWait ≤ horizon →
          a.burst.toNat + min (a.rate.toNat * (horizon / Bucket.millisecond) / 1000) a.burst.toNat <
            2 ^ 32) := by
  refine ⟨fun earlier time => ?_, fun horizon => ⟨fun fits => ?_, ?_⟩⟩
  · have sound := sound_bucketAfter valid created earlier
    have capacity := capacity_bucketAfter valid created earlier
    have usable : 0 < (bucketAfter a created earlier).rate := by
      rw [rate_bucketAfter valid]
      exact (Allowance.fault?_eq_none_iff.1 valid).1
    have checked := sound.check (created + time)
    rw [Bucket.Sound, Bucket.capacity_check, capacity] at checked
    refine ⟨capacity ▸ sound, checked, Bucket.exact_of_fits sound usable, fun exceeds told => ?_⟩
    have begun := le_refilled_bucketAfter valid created earlier
    refine Bucket.check_of_not_fits exceeds (Nat.div_lt_of_lt_mul ?_)
    rw [Nat.mul_comm]
    omega
  · have first := fits [] horizon (by simp)
    rw [bucketAfter_eq valid] at first
    simp only [Bucket.Fits, Bucket.due, brought, Bucket.afterAll, List.map_nil, List.foldl_nil,
      Nat.add_sub_cancel_left] at first
    have rate := a.rate.toNat_lt
    refine ⟨?_, fun late => (first late).2⟩
    rcases Nat.lt_or_ge horizon Bucket.minimumWait with early | late
    · have short : horizon / Bucket.millisecond ≤ 50 := by
        unfold Bucket.minimumWait Bucket.millisecond at early
        unfold Bucket.millisecond
        omega
      have small : a.rate.toNat * (horizon / Bucket.millisecond) ≤ a.rate.toNat * 50 :=
        Nat.mul_le_mul_left _ short
      omega
    · exact (first late).1
  · rintro ⟨product, sum⟩ earlier time near
    have begun := le_refilled_bucketAfter valid created earlier
    have last := near time List.mem_cons_self
    have waits : created + time - (bucketAfter a created earlier).refilled ≤ horizon := by omega
    refine Bucket.fits_of_le (sound_bucketAfter valid created earlier) waits ?_ ?_
    · rwa [rate_bucketAfter valid]
    · rwa [rate_bucketAfter valid, capacity_bucketAfter valid]

/-- At the highest rate and half the highest burst the words suffice for about fifty days, and then
a check that comes after a silence of that length overflows. -/
theorem words_suffice_iff_hurried :
    Allowance.fault? ⟨4294967295, 2147483647⟩ = none ∧
      (∀ earlier time, (∀ t ∈ time :: earlier, t ≤ 4294967297999999) →
        (bucketAfter ⟨4294967295, 2147483647⟩ 7 earlier).Fits (7 + time)) ∧
      (bucketAfter ⟨4294967295, 2147483647⟩ 7 []).Exact (7 + 4294967297999999) ∧
      (bucketAfter ⟨4294967295, 2147483647⟩ 7 []).check (7 + 4294967298000000) =
        (.overflow, bucketAfter ⟨4294967295, 2147483647⟩ 7 []) := by
  have valid : Allowance.fault? ⟨4294967295, 2147483647⟩ = none := by decide
  obtain ⟨counted, suffice⟩ := words_suffice_iff valid 7
  have lasts := (suffice 4294967297999999).2 (by decide)
  obtain ⟨-, -, counts, -⟩ := counted [] 4294967297999999
  obtain ⟨-, -, -, overflows⟩ := counted [] 4294967298000000
  refine ⟨valid, lasts, counts (lasts [] _ (by simp)), overflows (fun fits => ?_) (by decide)⟩
  exact absurd (fits (by decide)).1 (by decide)

/-- A full bucket of 2^31 tokens to which as many come back has no verdict on a message that a
second of silence came before. -/
theorem exists_check_not_exact :
    ∃ (a : Allowance) (time : Nat), a.fault? = none ∧ ¬ (bucketAfter a 0 []).Fits time ∧
      (bucketAfter a 0 []).exactTokens time = 2147483648 ∧
      (bucketAfter a 0 []).check time = (.overflow, bucketAfter a 0 []) ∧
      verdicts a.rate a.burst 0 [1000] = [.overflow] := by
  refine ⟨⟨2147483648, 2147483648⟩, 1000 * Bucket.millisecond, by decide, fun fits => ?_,
    by decide, by decide, by decide⟩
  obtain ⟨-, sum⟩ := fits (by decide)
  exact absurd sum (by decide)

end Flood
end CourtroomGateway
