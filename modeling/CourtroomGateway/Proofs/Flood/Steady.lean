import CourtroomGateway.Proofs.Flood.Words
import Mathlib.Data.List.Chain

/-! Clients that keep to the rate. What a bucket lacks is made up for by time, and a client that
leaves the time of a token between its messages never takes out more than time has brought. Nothing
is credited before the minimum wait is over, and a bucket that can hold what the rate brings in a
twentieth of a second lasts until then. The first refill after it fills the bucket again, so it
does not matter that the fraction of a token is lost. -/

namespace CourtroomGateway.Flood

theorem lt_of_brought_pos {rate : UInt32} {s t : Nat} (some : 0 < brought rate s t) : s < t := by
  have whole : 0 < (t - s) / Bucket.millisecond := Nat.pos_of_mul_pos_left some
  exact Nat.sub_pos_iff_lt.1 (Nat.pos_of_div_pos whole)

namespace Bucket

/-- What the bucket lacks. -/
def lack (b : Bucket) : Nat := b.capacity.toNat - b.tokens.toNat

/-- Since the last refill time has brought what the bucket lacks. -/
def Repaid (b : Bucket) (now : Nat) : Prop := 1000 * b.lack ≤ brought b.rate b.refilled now

/-- A full bucket lasts for as long as nothing comes back. -/
structure Lasting (b : Bucket) : Prop where
  usable : 0 < b.capacity
  wide : b.rate.toNat ≤ 20 * b.capacity.toNat

theorem Lasting.check {b : Bucket} (lasting : b.Lasting) (now : Nat) :
    (b.check now).2.Lasting where
  usable := by rw [capacity_check]; exact lasting.usable
  wide := by rw [rate_check, capacity_check]; exact lasting.wide

section Check
variable {b : Bucket} (sound : b.Sound) (lasting : b.Lasting) {now : Nat} (repaid : b.Repaid now)
include sound lasting repaid

/-- Before the minimum wait is over something is left, and then the bucket is full. -/
theorem exactTokens_cases :
    (now - b.refilled < minimumWait ∧ b.exactTokens now = b.tokens.toNat ∧ 0 < b.tokens.toNat) ∨
      b.exactTokens now = b.capacity.toNat := by
  have some : 0 < b.capacity.toNat := UInt32.lt_iff_toNat_lt.1 lasting.usable
  have held : b.tokens.toNat ≤ b.capacity.toNat := UInt32.le_iff_toNat_le.1 sound
  have wide := lasting.wide
  unfold Repaid lack at repaid
  unfold exactTokens due
  split
  next early =>
    have short : (now - b.refilled) / millisecond ≤ 49 :=
      Nat.le_of_lt_succ (Nat.div_lt_of_lt_mul (by rwa [Nat.mul_comm]))
    have brief : brought b.rate b.refilled now ≤ b.rate.toNat * 49 :=
      Nat.mul_le_mul_left _ short
    exact .inl ⟨early, rfl, by omega⟩
  next late => exact .inr (by omega)

/-- Whoever comes when nothing is owing passes, and owes nothing any more when time has brought
another token. -/
theorem pass_of_repaid (running : 0 < b.rate) (begun : b.refilled ≤ now)
    (whole : Whole b.refilled now) (fits : b.Fits now) :
    (b.check now).1 = .pass ∧
      ∀ next, 1000 ≤ brought b.rate now next → (b.check now).2.Repaid next := by
  have counted := exact_of_fits sound running fits
  have cases := exactTokens_cases sound lasting repaid
  have some : 0 < b.capacity.toNat := UInt32.lt_iff_toNat_lt.1 lasting.usable
  have held : 0 < b.exactTokens now := by omega
  refine ⟨by rw [counted.verdict, if_pos held], fun next token => ?_⟩
  have later : now ≤ next := (lt_of_brought_pos (Nat.lt_of_lt_of_le (by decide) token)).le
  have reached : (b.check now).2.refilled ≤ now := refilled_check_le begun le_rfl
  have twice : b.Aligned [now, now] :=
    List.forall_mem_cons.2 ⟨whole, List.forall_mem_singleton.2 whole⟩
  have still : Whole (b.check now).2.refilled now := twice.check now (List.mem_singleton_self now)
  rw [Repaid, lack, capacity_check, rate_check, counted.left, ← brought_add _ still reached later]
  rcases cases with ⟨early, kept, held⟩ | full
  · -- Nothing was credited, so what was brought before still counts.
    have same : (b.check now).2.refilled = b.refilled := by
      have refilled : b.refill? now = Option.some b := by rw [refill?, if_pos early]
      rw [check_of_refill refilled, b.passes_take.2]
    unfold Repaid lack at repaid
    rw [same]
    omega
  · omega

end Check

/-- While the words suffice, all messages pass that have the time of a token between them. -/
theorem checks_eq_replicate {b : Bucket} (sound : b.Sound) (lasting : b.Lasting)
    (running : 0 < b.rate) {instants : List Nat} (aligned : b.Aligned instants)
    (begun : ∀ now ∈ instants.head?, b.refilled ≤ now ∧ b.Repaid now)
    (steady : instants.IsChain fun s t => 1000 ≤ brought b.rate s t)
    (fits : ∀ earlier now later, instants = earlier ++ now :: later →
      (b.afterAll earlier).Fits now) :
    b.checks instants = List.replicate instants.length .pass := by
  induction instants generalizing b with
  | nil => rfl
  | cons now later ih =>
    obtain ⟨reached, repaid⟩ := begun now rfl
    obtain ⟨token, steady⟩ := List.isChain_cons.1 steady
    obtain ⟨passed, next⟩ := pass_of_repaid sound lasting repaid running reached
      (aligned now List.mem_cons_self) (fits [] now later rfl)
    have begun : ∀ following ∈ later.head?,
        (b.check now).2.refilled ≤ following ∧ (b.check now).2.Repaid following := by
      intro following first
      have brings := token following first
      have after := lt_of_brought_pos (Nat.lt_of_lt_of_le (by decide) brings)
      exact ⟨(refilled_check_le reached le_rfl).trans after.le, next following brings⟩
    have suffice (earlier : List Nat) (following : Nat) (others : List Nat)
        (split : later = earlier ++ following :: others) :
        ((b.check now).2.afterAll earlier).Fits following :=
      fits (now :: earlier) following others (by rw [split]; rfl)
    have rest := ih (sound.check now) (lasting.check now) (by rwa [rate_check]) aligned.check begun
      (by rwa [rate_check]) suffice
    rw [checks, passed, rest, List.length_cons, List.replicate_succ]

end Bucket

/-- The words suffice until the horizon for which they hold the longest wait and the fullest
bucket. -/
theorem fits_bucketAfter {a : Allowance} (valid : a.fault? = none) {horizon : Nat}
    (product : a.rate.toNat * (horizon / Bucket.millisecond) < 2 ^ 64)
    (sum : Bucket.minimumWait ≤ horizon →
      a.burst.toNat + min (a.rate.toNat * (horizon / Bucket.millisecond) / 1000) a.burst.toNat <
        2 ^ 32)
    (created : Nat) (earlier : List Nat) {time : Nat} (near : time ≤ horizon) :
    (bucketAfter a created earlier).Fits (created + time) := by
  have begun := le_refilled_bucketAfter valid created earlier
  have near : created + time - (bucketAfter a created earlier).refilled ≤ horizon := by omega
  refine Bucket.fits_of_le (sound_bucketAfter valid created earlier) near ?_ ?_
  · rwa [rate_bucketAfter valid]
  · rwa [rate_bucketAfter valid, capacity_bucketAfter valid]

/-- A client whose messages are far enough apart, each from the one before it, for a token to come
back is never dropped, if a full bucket holds what the rate brings in a twentieth of a second and
the words suffice at every check. -/
theorem steady_never_dropped {a : Allowance} (rate : 0 < a.rate) (burst : 0 < a.burst)
    (wide : a.rate.toNat ≤ 20 * a.burst.toNat) (created : Nat) {times : List Nat}
    (steady : times.IsChain fun s t => s ≤ t ∧ 1000 ≤ (t - s) * a.rate.toNat)
    (fits : ∀ earlier time later, times = earlier ++ time :: later →
      (bucketAfter a created (earlier.map (· * Bucket.millisecond))).Fits
        (created + time * Bucket.millisecond)) :
    verdicts a.rate a.burst created times = List.replicate times.length .pass := by
  have valid : a.fault? = none := Allowance.fault?_eq_none_iff.2 ⟨rate, burst⟩
  have instants : (instantsAt created times).length = times.length := List.length_map _
  rw [verdicts, Bucket.new_of_pos rate burst, ← instants]
  refine Bucket.checks_eq_replicate (UInt32.le_refl _) ⟨burst, wide⟩ rate ?_ ?_ ?_ ?_
  · intro now mem
    obtain ⟨time, -, rfl⟩ := List.mem_map.1 mem
    exact whole_instant created time
  · intro now first
    obtain ⟨time, -, rfl⟩ := List.mem_map.1 (List.mem_of_mem_head? first)
    refine ⟨Nat.le_add_right created _, ?_⟩
    rw [Bucket.Repaid, Bucket.lack, Nat.sub_self]
    exact Nat.zero_le _
  · refine (List.isChain_map _).2 (steady.imp fun s t apart => ?_)
    rw [brought_instant, Nat.mul_comm]
    exact apart.2
  · intro earlier now later split
    obtain ⟨before, rest, rfl, rfl, tail⟩ := List.map_eq_append_iff.1 split
    obtain ⟨time, others, rfl, rfl, -⟩ := List.map_eq_cons_iff.1 tail
    have own := fits before time others rfl
    rwa [bucketAfter_eq valid, List.map_map] at own

/-- At a thousand messages a second a bucket of fifty is empty just before the first refill. -/
theorem steady_never_dropped_millisecond :
    (List.range 120).IsChain (fun s t => s ≤ t ∧ 1000 ≤ (t - s) * 1000) ∧
      verdicts 1000 50 7 (List.range 120) = List.replicate 120 .pass ∧
      verdicts 1000 49 7 (List.range 50) = List.replicate 49 .pass ++ [.drop] := by
  have steady : (List.range 120).IsChain fun s t => s ≤ t ∧ 1000 ≤ (t - s) * 1000 := by
    decide +kernel
  have fits : ∀ earlier time later, List.range 120 = earlier ++ time :: later →
      (bucketAfter ⟨1000, 50⟩ 7 (earlier.map (· * Bucket.millisecond))).Fits
        (7 + time * Bucket.millisecond) := by
    intro earlier time later split
    have mem : time ∈ List.range 120 := by rw [split]; simp
    have near : time * Bucket.millisecond ≤ 120 * Bucket.millisecond :=
      Nat.mul_le_mul_right _ (List.mem_range.1 mem).le
    exact fits_bucketAfter (by decide) (by decide) (by decide) 7 _ near
  exact ⟨steady,
    steady_never_dropped (a := ⟨1000, 50⟩) (by decide) (by decide) (by decide) 7 steady fits,
    by decide +kernel⟩

end CourtroomGateway.Flood
