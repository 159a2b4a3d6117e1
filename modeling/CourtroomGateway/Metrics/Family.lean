import CourtroomGateway.Metrics.Label
import CourtroomGateway.Table
import CourtroomGateway.Text.Integer

/-! Metric families: counters, gauges and histograms with one series per label set. Amounts are
machine words and wrap. A family is printed as a type line and then its series in the order of
their labels. -/

namespace CourtroomGateway.Metrics

structure Counter where
  series : Table LabelSet UInt64 := ∅

namespace Counter

def get (c : Counter) (labels : List Label) : UInt64 :=
  (c.series.find? (LabelSet.of labels)).getD 0

def add (c : Counter) (labels : List Label) (n : UInt64) : Counter :=
  ⟨c.series.insert (LabelSet.of labels) (c.get labels + n)⟩

def inc (c : Counter) (labels : List Label) : Counter := c.add labels 1

theorem get_add (c : Counter) (labels others : List Label) (n : UInt64) :
    (c.add labels n).get others =
      if LabelSet.of others = LabelSet.of labels then c.get labels + n else c.get others := by
  simp only [get, add, Table.find?_insert]
  split <;> rfl

def lines (c : Counter) (name : String) : List String :=
  ("# TYPE " ++ name ++ " counter") ::
    c.series.entries.map fun e => LabelSet.series name e.1 ++ " " ++ Text.decimalNat e.2.toNat

end Counter

structure Gauge where
  series : Table LabelSet Int64 := ∅

namespace Gauge

def get (g : Gauge) (labels : List Label) : Int64 :=
  (g.series.find? (LabelSet.of labels)).getD 0

def add (g : Gauge) (labels : List Label) (n : Int64) : Gauge :=
  ⟨g.series.insert (LabelSet.of labels) (g.get labels + n)⟩

theorem get_add (g : Gauge) (labels others : List Label) (n : Int64) :
    (g.add labels n).get others =
      if LabelSet.of others = LabelSet.of labels then g.get labels + n else g.get others := by
  simp only [get, add, Table.find?_insert]
  split <;> rfl

def inc (g : Gauge) (labels : List Label) : Gauge := g.add labels 1

def dec (g : Gauge) (labels : List Label) : Gauge := g.add labels (-1)

def lines (g : Gauge) (name : String) : List String :=
  ("# TYPE " ++ name ++ " gauge") ::
    g.series.entries.map fun e => LabelSet.series name e.1 ++ " " ++ Text.decimal e.2

end Gauge

/-- The bucket bounds, in microseconds. -/
def bounds : List Nat := [100, 500, 1000, 5000, 10000, 50000, 100000, 500000, 1000000]

/-- How many observations there were, how many stayed within each bound, and their sum. -/
structure Distribution where
  count : UInt64 := 0
  sum : UInt64 := 0
  within : List UInt64 := bounds.map fun _ => 0
deriving Repr, DecidableEq

def Distribution.observe (d : Distribution) (micros : Nat) : Distribution where
  count := d.count + 1
  sum := d.sum + micros.toUInt64
  within := List.zipWith (fun bound n => if micros ≤ bound then n + 1 else n) bounds d.within

def Distribution.lines (d : Distribution) (name : String) (labels : LabelSet) : List String :=
  let lead := if labels.isEmpty then "" else labels.text ++ ","
  let bucket (bound : String) (n : UInt64) :=
    name ++ "_bucket\x7b" ++ lead ++ "le=\"" ++ bound ++ "\"\x7d " ++ Text.decimalNat n.toNat
  List.zipWith (fun bound n => bucket (Text.decimalNat bound) n) bounds d.within ++
    [bucket "+Inf" d.count,
      LabelSet.series (name ++ "_sum") labels ++ " " ++ Text.decimalNat d.sum.toNat,
      LabelSet.series (name ++ "_count") labels ++ " " ++ Text.decimalNat d.count.toNat]

structure Histogram where
  series : Table LabelSet Distribution := ∅

namespace Histogram

def get (h : Histogram) (labels : List Label) : Distribution :=
  (h.series.find? (LabelSet.of labels)).getD {}

/-- Whole microseconds, as many as a word can hold. -/
def microseconds (nanoseconds : Nat) : Nat := min (nanoseconds / 1000) (UInt64.size - 1)

def observe (h : Histogram) (labels : List Label) (nanoseconds : Nat) : Histogram :=
  ⟨h.series.insert (LabelSet.of labels) ((h.get labels).observe (microseconds nanoseconds))⟩

theorem get_observe (h : Histogram) (labels others : List Label) (nanoseconds : Nat) :
    (h.observe labels nanoseconds).get others =
      if LabelSet.of others = LabelSet.of labels then
        (h.get labels).observe (microseconds nanoseconds)
      else h.get others := by
  simp only [get, observe, Table.find?_insert]
  split <;> rfl

def lines (h : Histogram) (name : String) : List String :=
  ("# TYPE " ++ name ++ " histogram") :: h.series.entries.flatMap fun e => e.2.lines name e.1

end Histogram
end CourtroomGateway.Metrics
