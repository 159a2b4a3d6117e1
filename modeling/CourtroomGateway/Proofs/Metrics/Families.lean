import CourtroomGateway.Proofs.Metrics.Page
import Mathlib.Algebra.Ring.Int.Defs
import Mathlib.Algebra.Ring.Nat

/-! Families as maps. Whatever is done to a family of counters or gauges, it holds for each
multiset of labels the sum of the amounts that were posted under it, wrapped into a word. It lists
just these multisets, each in one line, in the order of their sorted lists. Reading posts
nothing. -/

namespace CourtroomGateway.Metrics

namespace LabelSet

theorem perm_of (ls : List Label) : (of ls).Perm ls := by
  rw [of_eq_insertionSort]
  exact List.perm_insertionSort Le ls

/-- The key of labels is the one list of them that is in order. -/
theorem eq_of_iff {key : LabelSet} {ls : List Label} :
    key = of ls ↔ key.Pairwise Le ∧ ls.Perm key := by
  constructor
  · rintro rfl
    refine ⟨?_, (perm_of ls).symm⟩
    rw [of_eq_insertionSort]
    exact List.pairwise_insertionSort Le ls
  · rintro ⟨sorted, perm⟩
    rw [of_eq_of_iff.2 perm, of_eq_insertionSort, sorted.insertionSort_eq]

theorem of_eq_self {key : LabelSet} (sorted : key.Pairwise Le) : of key = key :=
  (eq_of_iff.2 ⟨sorted, .refl key⟩).symm

/-- Series of one name are told apart by their labels, but not by the order of these. -/
theorem series_of_eq_iff {name : String} {a b : List Label} (plain : ∀ l ∈ a, l.Plain)
    (plain' : ∀ l ∈ b, l.Plain) : series name (of a) = series name (of b) ↔ a.Perm b := by
  rw [← of_eq_of_iff]
  refine ⟨fun same => series_left_inj (fun l mem => plain l ?_) (fun l mem => plain' l ?_) same,
    fun same => by rw [same]⟩
  · exact (perm_of a).subset mem
  · exact (perm_of b).subset mem

end LabelSet

section Records
variable {α β : Type}

/-- The amounts that were posted under the labels, in whatever order these were given. -/
def amounts (ps : List (List Label × α)) (labels : List Label) : List α :=
  (ps.filter fun p => p.1.Perm labels).map (·.2)

variable (combine : β → α → β) (zero : β)

/-- Adds what was posted under some labels to what their series has, in whatever way. -/
def record (series : Table LabelSet β) (p : List Label × α) : Table LabelSet β :=
  series.insert (.of p.1) (combine ((series.find? (.of p.1)).getD zero) p.2)

theorem getD_find?_record (series : Table LabelSet β) (p : List Label × α) (labels : List Label) :
    ((record combine zero series p).find? (.of labels)).getD zero =
      if p.1.Perm labels then combine ((series.find? (.of labels)).getD zero) p.2
      else (series.find? (.of labels)).getD zero := by
  have same : LabelSet.of labels = LabelSet.of p.1 ↔ p.1.Perm labels :=
    LabelSet.of_eq_of_iff.trans List.perm_comm
  rw [record, Table.find?_insert]
  simp only [same]
  by_cases perm : p.1.Perm labels
  · rw [if_pos perm, if_pos perm, LabelSet.of_eq_of_iff.2 perm, Option.getD_some]
  · rw [if_neg perm, if_neg perm]

theorem getD_find?_foldl_record (series : Table LabelSet β) (ps : List (List Label × α))
    (labels : List Label) :
    ((ps.foldl (record combine zero) series).find? (.of labels)).getD zero =
      (amounts ps labels).foldl combine ((series.find? (.of labels)).getD zero) := by
  induction ps generalizing series with
  | nil => rfl
  | cons p ps ih =>
    rw [List.foldl_cons, ih, getD_find?_record]
    by_cases perm : p.1.Perm labels <;> simp [amounts, perm]

theorem contains_foldl_record (series : Table LabelSet β) (ps : List (List Label × α))
    (key : LabelSet) :
    (ps.foldl (record combine zero) series).contains key ↔
      (∃ p ∈ ps, key = .of p.1) ∨ series.contains key := by
  induction ps generalizing series with
  | nil => simp
  | cons p ps ih =>
    rw [List.foldl_cons, ih, record, Table.contains_insert]
    simp only [List.mem_cons, exists_eq_or_imp]
    rw [or_left_comm, or_assoc]

/-- The series are those of the multisets that were posted under. -/
theorem mem_keys_foldl_record (ps : List (List Label × α)) (key : LabelSet) :
    key ∈ (ps.foldl (record combine zero) ∅).keys ↔
      key.Pairwise LabelSet.Le ∧ ∃ labels ∈ ps.map (·.1), labels.Perm key := by
  rw [Table.mem_keys_iff, contains_foldl_record]
  constructor
  · rintro (⟨p, mem, own⟩ | none)
    · obtain ⟨sorted, perm⟩ := LabelSet.eq_of_iff.1 own
      exact ⟨sorted, p.1, List.mem_map_of_mem mem, perm⟩
    · cases none
  · rintro ⟨sorted, labels, mem, perm⟩
    obtain ⟨p, listed, rfl⟩ := List.mem_map.1 mem
    exact .inl ⟨p, listed, LabelSet.eq_of_iff.2 ⟨sorted, perm⟩⟩

theorem plainKeys_foldl_record {ps : List (List Label × α)}
    (names : ∀ labels ∈ ps.map (·.1), ∀ l ∈ labels, l.Plain) :
    PlainKeys (ps.foldl (record combine zero) ∅) := by
  intro key mem l inside
  obtain ⟨-, labels, listed, perm⟩ := (mem_keys_foldl_record combine zero ps key).1 mem
  exact names labels listed l (perm.symm.subset inside)

end Records

section Postings
variable {α : Type} [Add α] (zero : α)

def post (series : Table LabelSet α) (p : List Label × α) : Table LabelSet α :=
  series.insert (.of p.1) ((series.find? (.of p.1)).getD zero + p.2)

theorem post_eq_record : post zero = record (· + ·) zero := rfl

theorem getD_find?_foldl_post (series : Table LabelSet α) (ps : List (List Label × α))
    (labels : List Label) :
    ((ps.foldl (post zero) series).find? (.of labels)).getD zero =
      (amounts ps labels).foldl (· + ·) ((series.find? (.of labels)).getD zero) :=
  getD_find?_foldl_record (· + ·) zero series ps labels

end Postings

/-- The lines are a heading and a row for each of the keys, which are the multisets of labels that
were posted under, in the order of their sorted lists. Where names are plain the lines are printed
as single lines. -/
structure Tabulates (lines : List String) (name kind : String) (posted : List (List Label))
    (value : LabelSet → String) (keys : List LabelSet) : Prop where
  ascending : keys.Pairwise fun a b => compare a b = .lt
  mem_iff : ∀ key, key ∈ keys ↔
    key.Pairwise LabelSet.Le ∧ ∃ labels ∈ posted, labels.Perm key
  rows : lines = ("# TYPE " ++ name ++ kind) ::
    keys.map fun key => LabelSet.series name key ++ " " ++ value key
  single : '\n' ∉ name.toList → (∀ labels ∈ posted, ∀ l ∈ labels, l.Plain) →
    (lines.flatMap fun line => line.toList ++ ['\n']).splitOn '\n' =
      lines.map (·.toList) ++ [[]]

theorem splitOn_printed {lines : List String} (single : ∀ line ∈ lines, '\n' ∉ line.toList) :
    (lines.flatMap fun line => line.toList ++ ['\n']).splitOn '\n' =
      lines.map (·.toList) ++ [[]] := by
  have closed : (lines.flatMap fun line => line.toList ++ ['\n']) =
      (lines.map (·.toList)).flatMap (· ++ ['\n']) := by
    rw [List.flatMap_map]
  rw [closed, Text.splitOn_closed, Text.flatMap_splitOn_of_plain (List.forall_mem_map.2 single)]

theorem tabulates_flat {α : Type} [Add α] {zero : α} {ps : List (List Label × α)}
    {series : Table LabelSet α} (posted : series = ps.foldl (post zero) ∅) {name kind : String}
    (line : '\n' ∉ kind.toList) {value : α → String}
    (valued : ∀ v, ' ' ∉ (value v).toList ∧ '\n' ∉ (value v).toList) :
    Tabulates (Family.flat name kind series value).lines name kind (ps.map (·.1))
      (fun key => value ((series.find? (.of key)).getD zero)) series.keys := by
  rw [post_eq_record] at posted
  have mem_iff (key : LabelSet) : key ∈ series.keys ↔
      key.Pairwise LabelSet.Le ∧ ∃ labels ∈ ps.map (·.1), labels.Perm key := by
    rw [posted, mem_keys_foldl_record]
  refine ⟨series.keys_ascending, mem_iff, ?_, fun plain names => ?_⟩
  · rw [Family.lines, Family.flat, Table.keys, List.map_map, List.map_map]
    refine congrArg _ (List.map_congr_left fun e mem => ?_)
    have found : series.find? e.1 = some e.2 := (series.mem_entries_iff e.1 e.2).1 mem
    have sorted := ((mem_iff e.1).1 (List.mem_map_of_mem mem)).1
    simp [Sample.line, Sample.series, LabelSet.of_eq_self sorted, found]
  · have keys : PlainKeys series := posted ▸ plainKeys_foldl_record (· + ·) zero names
    have sound := Family.sound_flat ⟨plain, line⟩ keys valued
    exact splitOn_printed fun line => sound.not_mem_lines (List.forall_mem_singleton.2 plain)

/-- What is done to a family of counters. -/
inductive Counter.Call
  | inc (labels : List Label)
  | add (labels : List Label) (n : UInt64)
  | get (labels : List Label)

namespace Counter

def perform (c : Counter) : Call → Counter
  | .inc labels => c.inc labels
  | .add labels n => c.add labels n
  | .get _ => c

def Call.posting? : Call → Option (List Label × UInt64)
  | inc labels => some (labels, 1)
  | add labels n => some (labels, n)
  | get _ => none

theorem series_foldl_perform (c : Counter) (calls : List Call) :
    (calls.foldl perform c).series = (calls.filterMap Call.posting?).foldl (post 0) c.series := by
  induction calls generalizing c with
  | nil => rfl
  | cons call calls ih =>
    rw [List.foldl_cons, ih]
    cases call <;> rfl

theorem toNat_foldl_add (ns : List UInt64) (a : UInt64) :
    (ns.foldl (· + ·) a).toNat = (a.toNat + (ns.map UInt64.toNat).sum) % 2 ^ 64 := by
  induction ns generalizing a with
  | nil => simp [Nat.mod_eq_of_lt a.toNat_lt]
  | cons n ns ih =>
    rw [List.foldl_cons, ih, UInt64.toNat_add, List.map_cons, List.sum_cons, Nat.mod_add_mod,
      Nat.add_assoc]

end Counter

/-- What is done to a family of gauges. -/
inductive Gauge.Call
  | inc (labels : List Label)
  | dec (labels : List Label)
  | add (labels : List Label) (n : Int64)
  | get (labels : List Label)

namespace Gauge

def perform (g : Gauge) : Call → Gauge
  | .inc labels => g.inc labels
  | .dec labels => g.dec labels
  | .add labels n => g.add labels n
  | .get _ => g

def Call.posting? : Call → Option (List Label × Int64)
  | inc labels => some (labels, 1)
  | dec labels => some (labels, -1)
  | add labels n => some (labels, n)
  | get _ => none

theorem series_foldl_perform (g : Gauge) (calls : List Call) :
    (calls.foldl perform g).series = (calls.filterMap Call.posting?).foldl (post 0) g.series := by
  induction calls generalizing g with
  | nil => rfl
  | cons call calls ih =>
    rw [List.foldl_cons, ih]
    cases call <;> rfl

theorem toInt_foldl_add (ns : List Int64) (a : Int64) :
    (ns.foldl (· + ·) a).toInt = (a.toInt + (ns.map Int64.toInt).sum).bmod (2 ^ 64) := by
  induction ns generalizing a with
  | nil => simp
  | cons n ns ih =>
    rw [List.foldl_cons, ih, Int64.toInt_add, List.map_cons, List.sum_cons, Int.bmod_add_bmod,
      Int.add_assoc]

end Gauge

/-- Whatever is done to families of counters and gauges, under each list of labels stands the sum of
the amounts that were posted under its permutations, in a word without and with a sign, and nothing
if there were none. The families list the multisets that were posted under and no others, and with
plain names the text of a series tells its labels, whatever their values. -/
theorem families_add_up (name : String) (calls : List Counter.Call) (moves : List Gauge.Call) :
    (let c := calls.foldl Counter.perform {}
      let ps := calls.filterMap Counter.Call.posting?
      (∀ labels, (c.get labels).toNat =
        ((amounts ps labels).map UInt64.toNat).sum % 2 ^ 64) ∧
      ∃ keys, Tabulates (c.lines name) name " counter" (ps.map (·.1))
        (fun key => Text.decimalNat (c.get key).toNat) keys) ∧
    (let g := moves.foldl Gauge.perform {}
      let ps := moves.filterMap Gauge.Call.posting?
      (∀ labels, (g.get labels).toInt =
        ((amounts ps labels).map Int64.toInt).sum.bmod (2 ^ 64)) ∧
      ∃ keys, Tabulates (g.lines name) name " gauge" (ps.map (·.1))
        (fun key => Text.decimal (g.get key)) keys) ∧
    ∀ a b : List Label, (∀ l ∈ a, l.Plain) → (∀ l ∈ b, l.Plain) →
      (LabelSet.series name (.of a) = LabelSet.series name (.of b) ↔ a.Perm b) := by
  refine ⟨⟨fun labels => ?_, ?_⟩, ⟨fun labels => ?_, ?_⟩, fun a b => LabelSet.series_of_eq_iff⟩
  · rw [Counter.get, Counter.series_foldl_perform, getD_find?_foldl_post,
      Counter.toNat_foldl_add]
    simp
  · rw [← Family.lines_counter]
    exact ⟨_, tabulates_flat (Counter.series_foldl_perform {} calls) (by decide)
      fun n => valued_decimalNat n.toNat⟩
  · rw [Gauge.get, Gauge.series_foldl_perform, getD_find?_foldl_post, Gauge.toInt_foldl_add]
    simp
  · rw [← Family.lines_gauge]
    exact ⟨_, tabulates_flat (Gauge.series_foldl_perform {} moves) (by decide)
      fun n => ⟨Text.not_mem_decimal (by decide) (by decide) n,
        Text.not_mem_decimal (by decide) (by decide) n⟩⟩

def quoted : Label := ⟨"code", "\"\\"⟩

def broken : Label := ⟨"cmd", "C\nT"⟩

/-- Two labels in both orders, whose word comes round to zero, one label twice, none at all, and a
reading. -/
def hits : List Counter.Call :=
  [.inc [quoted, broken], .add [broken, quoted] 18446744073709551615, .add [broken, broken] 5,
    .inc [], .get [quoted]]

/-- Down past the lowest word, and back. -/
def swings : List Gauge.Call :=
  [.add [broken, quoted] (-9223372036854775808), .dec [quoted, broken], .dec [], .inc []]

theorem families_add_up_hits :
    (∀ labels ∈ (hits.filterMap Counter.Call.posting?).map (·.1), ∀ l ∈ labels, l.Plain) ∧
      ((swings.foldl Gauge.perform {}).get [quoted, broken]).toInt = 9223372036854775807 ∧
      LabelSet.series "hits" (.of [quoted, broken]) =
        LabelSet.series "hits" (.of [broken, quoted]) ∧
      let c := hits.foldl Counter.perform {}
      (c.get [quoted, broken]).toNat = 0 ∧
        ((c.lines "hits").flatMap fun line => line.toList ++ ['\n']).splitOn '\n' =
          ["# TYPE hits counter".toList, "hits 1".toList,
            "hits\x7bcmd=\"C\\nT\",cmd=\"C\\nT\"\x7d 5".toList,
            "hits\x7bcmd=\"C\\nT\",code=\"\\\"\\\\\"\x7d 0".toList, []] := by
  obtain ⟨⟨sums, keys, tabulates⟩, ⟨swung, -⟩, series⟩ := families_add_up "hits" hits swings
  have names : ∀ labels ∈ (hits.filterMap Counter.Call.posting?).map (·.1), ∀ l ∈ labels,
      l.Plain := by
    unfold Label.Plain
    decide
  have plain : ∀ l ∈ [quoted, broken], l.Plain := by
    unfold Label.Plain
    decide
  refine ⟨names, ?_, (series _ _ plain fun l mem => plain l ?_).2 (.swap _ _ []), ?_, ?_⟩
  · rw [swung]
    decide +kernel
  · exact (List.Perm.swap _ _ []).subset mem
  · rw [sums]
    decide +kernel
  · rw [tabulates.single (by decide) names]
    decide +kernel

end CourtroomGateway.Metrics
