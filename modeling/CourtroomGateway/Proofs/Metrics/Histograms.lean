import CourtroomGateway.Proofs.Metrics.Families

/-! Histograms as what they were given to observe. Under each multiset of labels a histogram holds
how many whole microseconds stayed within each bound, how many there were and their sum, all as
words. While there are fewer observations than a word can count, its lines show the numbers
themselves, which grow with the bounds up to the number of all observations; only the sum comes
round. -/

namespace CourtroomGateway.Metrics

namespace Distribution

/-- What is held of microseconds, whatever the order in which they came. -/
def ofMicros (ms : List Nat) : Distribution where
  count := .ofNat ms.length
  sum := .ofNat ms.sum
  within := bounds.map fun bound => .ofNat (ms.countP (· ≤ bound))

theorem observe_ofMicros (ms : List Nat) (m : Nat) :
    (ofMicros ms).observe m = ofMicros (ms ++ [m]) := by
  have within (bound : Nat) : UInt64.ofNat ((ms ++ [m]).countP (· ≤ bound)) =
      if m ≤ bound then .ofNat (ms.countP (· ≤ bound)) + 1 else .ofNat (ms.countP (· ≤ bound)) := by
    rw [List.countP_append, List.countP_singleton]
    by_cases inside : m ≤ bound <;> simp [inside, UInt64.ofNat_add]
  simp only [observe, ofMicros, List.zipWith_map_right, List.zipWith_self, within,
    List.length_append, List.length_singleton, List.sum_append, List.sum_singleton,
    UInt64.ofNat_add]
  rfl

theorem foldl_observe (ms : List Nat) : ms.foldl observe {} = ofMicros ms := by
  induction ms using List.reverseRecOn with
  | nil => rfl
  | append_singleton ms m ih => rw [List.foldl_concat, ih, observe_ofMicros]

end Distribution

/-- The bounds as they are written, and how many microseconds are within each of them. All are
within the last one. -/
def buckets (ms : List Nat) : List (String × Nat) :=
  bounds.map (fun bound => (Text.decimalNat bound, ms.countP (· ≤ bound))) ++
    [("+Inf", ms.length)]

/-- The samples that show microseconds under one list of labels. -/
def rows (name : String) (labels : LabelSet) (ms : List Nat) : List Sample :=
  (buckets ms).map (fun e =>
      ⟨name ++ "_bucket", labels ++ [⟨"le", e.1⟩], Text.decimalNat e.2⟩) ++
    [⟨name ++ "_sum", labels, Text.decimalNat (ms.sum % 2 ^ 64)⟩,
      ⟨name ++ "_count", labels, Text.decimalNat ms.length⟩]

theorem ascending_bounds : bounds.Pairwise (· < ·) := by decide

theorem rising_buckets (ms : List Nat) : ((buckets ms).map (·.2)).Pairwise (· ≤ ·) := by
  rw [buckets, List.map_append, List.map_map, List.pairwise_append]
  refine ⟨?_, List.pairwise_singleton _ _, ?_⟩
  · refine List.pairwise_map.2 (ascending_bounds.imp fun below => ?_)
    refine List.countP_mono_left fun m _ inside => ?_
    simp only [decide_eq_true_eq] at inside ⊢
    omega
  · intro shown mem all last
    obtain ⟨bound, -, rfl⟩ := List.mem_map.1 mem
    obtain rfl := List.mem_singleton.1 last
    exact List.countP_le_length

/-- While a word counts the microseconds, the samples of their distribution show their numbers. -/
theorem samples_ofMicros {ms : List Nat} (few : ms.length < 2 ^ 64) (name : String)
    (labels : LabelSet) : (Distribution.ofMicros ms).samples name labels = rows name labels ms := by
  have counted {n : Nat} (le : n ≤ ms.length) : (UInt64.ofNat n).toNat = n := by
    rw [UInt64.toNat_ofNat', Nat.mod_eq_of_lt (by omega)]
  have within (bound : Nat) := counted (List.countP_le_length (p := (· ≤ bound)) (l := ms))
  simp only [Distribution.samples, Distribution.ofMicros, rows, buckets, bucket, List.map_append,
    List.map_map, List.map_zip_eq_zipWith, List.zipWith_map_right, List.zipWith_self,
    Function.curry_apply, Function.comp_def, within, counted (Nat.le_refl _), UInt64.toNat_ofNat',
    List.map_cons, List.map_nil, List.append_assoc, List.cons_append, List.nil_append]

namespace Histogram

/-- Observations in order: labels and nanoseconds. -/
def observeAll (h : Histogram) (os : List (List Label × Nat)) : Histogram :=
  os.foldl (fun h o => h.observe o.1 o.2) h

theorem series_observeAll (h : Histogram) (os : List (List Label × Nat)) :
    (h.observeAll os).series =
      os.foldl (record (fun d n => d.observe (microseconds n)) {}) h.series := by
  induction os generalizing h with
  | nil => rfl
  | cons o os ih => exact ih (h.observe o.1 o.2)

end Histogram

/-- The whole microseconds that were observed under the labels, none above the highest word. -/
def micros (os : List (List Label × Nat)) (labels : List Label) : List Nat :=
  (amounts os labels).map fun nanoseconds => min (nanoseconds / 1000) (2 ^ 64 - 1)

theorem length_micros_le (os : List (List Label × Nat)) (labels : List Label) :
    (micros os labels).length ≤ os.length := by
  rw [micros, amounts, List.length_map, List.length_map]
  exact List.length_filter_le _ os

theorem get_observeAll (os : List (List Label × Nat)) (labels : List Label) :
    (Histogram.observeAll {} os).get labels = .ofMicros (micros os labels) := by
  rw [Histogram.get, Histogram.series_observeAll, getD_find?_foldl_record, micros,
    ← Distribution.foldl_observe, List.foldl_map]
  rfl

theorem samples_observeAll {os : List (List Label × Nat)} (few : os.length < 2 ^ 64)
    (name : String) :
    (Family.histogram name (Histogram.observeAll {} os)).samples =
      (Histogram.observeAll {} os).series.keys.flatMap fun key =>
        rows name key (micros os key) := by
  rw [Family.histogram, Table.keys, List.flatMap_map]
  refine List.flatMap_congr fun e mem => ?_
  have listed : e.1 ∈ (Histogram.observeAll {} os).series.keys := List.mem_map_of_mem mem
  have found := ((Histogram.observeAll {} os).series.mem_entries_iff e.1 e.2).1 mem
  have own := get_observeAll os e.1
  rw [Histogram.series_observeAll, mem_keys_foldl_record] at listed
  rw [Histogram.get, LabelSet.of_eq_self listed.1, found, Option.getD_some] at own
  rw [own, samples_ofMicros (Nat.lt_of_le_of_lt (length_micros_le os e.1) few)]

/-- The lines are a heading and the rows of each of the keys, which are the multisets of labels that
were observed under, in the order of their sorted lists. In each series what is shown for a bound
is never less than for a lower one. Where names are plain the lines are printed as single lines, and
no two of them are of one series. -/
structure Distributes (lines : List String) (name : String) (os : List (List Label × Nat))
    (keys : List LabelSet) : Prop where
  ascending : keys.Pairwise fun a b => compare a b = .lt
  mem_iff : ∀ key, key ∈ keys ↔
    key.Pairwise LabelSet.Le ∧ ∃ labels ∈ os.map (·.1), labels.Perm key
  rows : lines = ("# TYPE " ++ name ++ " histogram") ::
    (keys.flatMap fun key => Metrics.rows name key (micros os key)).map Sample.line
  rising : bounds.Pairwise (· < ·) ∧
    ∀ key ∈ keys, ((buckets (micros os key)).map (·.2)).Pairwise (· ≤ ·)
  single : '\n' ∉ name.toList → (∀ labels ∈ os.map (·.1), ∀ l ∈ labels, l.Plain) →
    (lines.flatMap fun line => line.toList ++ ['\n']).splitOn '\n' =
      lines.map (·.toList) ++ [[]]
  distinct : '\n' ∉ name.toList → '{' ∉ name.toList →
    (∀ labels ∈ os.map (·.1), ∀ l ∈ labels, l.Plain) →
    ((keys.flatMap fun key => Metrics.rows name key (micros os key)).map Sample.series).Nodup

/-- Whatever a histogram was given to observe, and in whatever order, as long as a word can count
it: under each multiset of labels that occurred it shows how many of the whole microseconds are
within each bound, how many there are and their sum in a word. -/
theorem histogram_cumulative (name : String) {os : List (List Label × Nat)}
    (few : os.length < 2 ^ 64) :
    ∃ keys, Distributes ((Histogram.observeAll {} os).lines name) name os keys := by
  have series := Histogram.series_observeAll {} os
  have samples := samples_observeAll few name
  have sound (line : '\n' ∉ name.toList) (names : ∀ labels ∈ os.map (·.1), ∀ l ∈ labels, l.Plain) :
      (Family.histogram name (Histogram.observeAll {} os)).Sound := by
    refine Family.sound_histogram line ?_
    rw [series]
    exact plainKeys_foldl_record _ _ names
  rw [← Family.lines_histogram]
  refine ⟨(Histogram.observeAll {} os).series.keys,
    { ascending := Table.keys_ascending _
      mem_iff := fun key => ?_
      rows := ?_
      rising := ⟨ascending_bounds, fun key _ => rising_buckets _⟩
      single := fun line names => ?_
      distinct := fun line brace names => ?_ }⟩
  · rw [series, mem_keys_foldl_record]
  · rw [Family.lines, samples, Family.histogram]
  · refine splitOn_printed fun shown => (sound line names).not_mem_lines fun other mem => ?_
    simp only [Family.histogram, List.mem_cons, List.not_mem_nil, or_false] at mem
    rcases mem with rfl | rfl | rfl <;> simp [line]
  · rw [← samples]
    refine nodup_map_series (sound line names).distinct (fun s mem => ?_) (sound line names).plain
    have named := (sound line names).named s mem
    simp only [Family.histogram, List.mem_cons, List.not_mem_nil, or_false] at named
    rcases named with named | named | named <;> simp [named, brace]

def command : Label := ⟨"cmd", "MS"⟩

def shard : Label := ⟨"shard", ""⟩

/-- Two labels in both orders: microseconds at a bound and just above it, and more than a word can
hold, which brings the sum round. -/
def edgeTimings : List (List Label × Nat) :=
  [([command, shard], 100999), ([shard, command], 101000),
    ([command, shard], 18446744073709551616000), ([shard, command], 2000)]

theorem histogram_cumulative_edgeTimings :
    edgeTimings.length < 2 ^ 64 ∧
      (∀ labels ∈ edgeTimings.map (·.1), ∀ l ∈ labels, l.Plain) ∧
      (∃ keys, Distributes ((Histogram.observeAll {} edgeTimings).lines "t") "t" edgeTimings keys) ∧
      (Histogram.observeAll {} edgeTimings).lines "t" =
        ["# TYPE t histogram",
          "t_bucket\x7bcmd=\"MS\",shard=\"\",le=\"100\"\x7d 2",
          "t_bucket\x7bcmd=\"MS\",shard=\"\",le=\"500\"\x7d 3",
          "t_bucket\x7bcmd=\"MS\",shard=\"\",le=\"1000\"\x7d 3",
          "t_bucket\x7bcmd=\"MS\",shard=\"\",le=\"5000\"\x7d 3",
          "t_bucket\x7bcmd=\"MS\",shard=\"\",le=\"10000\"\x7d 3",
          "t_bucket\x7bcmd=\"MS\",shard=\"\",le=\"50000\"\x7d 3",
          "t_bucket\x7bcmd=\"MS\",shard=\"\",le=\"100000\"\x7d 3",
          "t_bucket\x7bcmd=\"MS\",shard=\"\",le=\"500000\"\x7d 3",
          "t_bucket\x7bcmd=\"MS\",shard=\"\",le=\"1000000\"\x7d 3",
          "t_bucket\x7bcmd=\"MS\",shard=\"\",le=\"+Inf\"\x7d 4",
          "t_sum\x7bcmd=\"MS\",shard=\"\"\x7d 202",
          "t_count\x7bcmd=\"MS\",shard=\"\"\x7d 4"] := by
  have few : edgeTimings.length < 2 ^ 64 := by decide
  have names : ∀ labels ∈ edgeTimings.map (·.1), ∀ l ∈ labels, l.Plain := by
    unfold Label.Plain
    decide
  exact ⟨few, names, histogram_cumulative "t" few, by decide +kernel⟩

end CourtroomGateway.Metrics
