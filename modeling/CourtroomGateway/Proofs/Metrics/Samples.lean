import CourtroomGateway.Proofs.Metrics.Labels
import CourtroomGateway.Proofs.Text.Integer
import CourtroomGateway.Table.Lemmas

/-! The page of metrics as families of samples. A family is a heading and the samples of its
series; a sample is a series, told by its name and its labels, and a number. The names of the
families differ and no series is listed twice in one, so no two samples are of one series. -/

namespace CourtroomGateway.Metrics

structure Sample where
  name : String
  labels : LabelSet
  value : String

namespace Sample

def series (s : Sample) : String := LabelSet.series s.name s.labels

def line (s : Sample) : String := s.series ++ " " ++ s.value

end Sample

theorem LabelSet.text_concat (s : LabelSet) (l : Label) :
    text (s ++ [l]) = (if s.isEmpty then "" else text s ++ ",") ++ l.text := by
  induction s with
  | nil => simp [text]
  | cons d s ih =>
    have rest : text (d :: (s ++ [l])) = d.text ++ "," ++ text (s ++ [l]) :=
      String.intercalate_cons_of_ne_nil (by simp)
    rw [List.cons_append, rest, ih]
    cases s with
    | nil => simp [text]
    | cons e s =>
      have longer : text (d :: e :: s) = d.text ++ "," ++ text (e :: s) :=
        String.intercalate_cons_of_ne_nil (by simp)
      simp [longer, String.append_assoc]

/-- The text has none of the characters that are escaped in a value. -/
def Label.Literal (value : String) : Prop :=
  '\\' ∉ value.toList ∧ '"' ∉ value.toList ∧ '\n' ∉ value.toList

theorem Label.text_of_literal {value : String} (literal : Literal value) (name : String) :
    text ⟨name, value⟩ = name ++ "=\"" ++ value ++ "\"" := by
  have kept : value.toList.flatMap escapeChar = value.toList := by
    obtain ⟨slash, quote, line⟩ := literal
    have single : ∀ c ∈ value.toList, escapeChar c = [c] := by
      intro c mem
      unfold escapeChar
      split
      · exact absurd mem slash
      · exact absurd mem quote
      · exact absurd mem line
      · rfl
    rw [List.flatMap_congr single, List.flatMap_singleton']
  rw [text, kept, String.ofList_toList]

theorem Label.literal_decimalNat (n : Nat) : Literal (Text.decimalNat n) :=
  ⟨Text.not_mem_decimalNat (by decide) n, Text.not_mem_decimalNat (by decide) n,
    Text.not_mem_decimalNat (by decide) n⟩

/-- The sample of a bucket, with the bound as one label more. -/
def bucket (name : String) (labels : LabelSet) (bound : String) (n : UInt64) : Sample where
  name := name ++ "_bucket"
  labels := labels ++ [⟨"le", bound⟩]
  value := Text.decimalNat n.toNat

def Distribution.samples (d : Distribution) (name : String) (labels : LabelSet) : List Sample :=
  (bounds.zip d.within).map (fun e => bucket name labels (Text.decimalNat e.1) e.2) ++
    [bucket name labels "+Inf" d.count,
      ⟨name ++ "_sum", labels, Text.decimalNat d.sum.toNat⟩,
      ⟨name ++ "_count", labels, Text.decimalNat d.count.toNat⟩]

theorem line_bucket {bound : String} (literal : Label.Literal bound) (name : String)
    (labels : LabelSet) (n : UInt64) :
    (bucket name labels bound n).line =
      name ++ "_bucket\x7b" ++ (if labels.isEmpty then "" else labels.text ++ ",") ++ "le=\"" ++
        bound ++ "\"\x7d " ++ Text.decimalNat n.toNat := by
  have braced : (bucket name labels bound n).series =
      name ++ "_bucket" ++ "\x7b" ++ LabelSet.text (labels ++ [⟨"le", bound⟩]) ++ "\x7d" := by
    simp [Sample.series, bucket, LabelSet.series]
  rw [Sample.line, braced, LabelSet.text_concat, Label.text_of_literal literal]
  simp [← String.toList_inj, bucket]

theorem Distribution.lines_eq (d : Distribution) (name : String) (labels : LabelSet) :
    d.lines name labels = (d.samples name labels).map Sample.line := by
  have infinite : Label.Literal "+Inf" := by
    unfold Label.Literal
    decide
  simp only [samples, lines, List.map_append, List.map_map, List.map_cons, List.map_nil,
    Function.comp_def, line_bucket infinite, line_bucket (Label.literal_decimalNat _)]
  rw [List.map_zip_eq_zipWith]
  rfl

/-- A family as it is listed, with the names that its series have. -/
structure Family where
  heading : String
  names : List String
  samples : List Sample

namespace Family

/-- One sample for each series. -/
def flat {α : Type} (name kind : String) (t : Table LabelSet α) (value : α → String) : Family where
  heading := "# TYPE " ++ name ++ kind
  names := [name]
  samples := t.entries.map fun e => ⟨name, e.1, value e.2⟩

def counter (name : String) (c : Counter) : Family :=
  flat name " counter" c.series fun n => Text.decimalNat n.toNat

def gauge (name : String) (g : Gauge) : Family := flat name " gauge" g.series Text.decimal

def histogram (name : String) (h : Histogram) : Family where
  heading := "# TYPE " ++ name ++ " histogram"
  names := [name ++ "_bucket", name ++ "_sum", name ++ "_count"]
  samples := h.series.entries.flatMap fun e => e.2.samples name e.1

def lines (f : Family) : List String := f.heading :: f.samples.map Sample.line

theorem lines_counter (name : String) (c : Counter) : (counter name c).lines = c.lines name := by
  simp [lines, counter, flat, Counter.lines, Sample.line, Sample.series]

theorem lines_gauge (name : String) (g : Gauge) : (gauge name g).lines = g.lines name := by
  simp [lines, gauge, flat, Gauge.lines, Sample.line, Sample.series]

theorem lines_histogram (name : String) (h : Histogram) :
    (histogram name h).lines = h.lines name := by
  simp only [lines, histogram, Histogram.lines, Distribution.lines_eq, List.map_flatMap]

end Family

/-- Every label of every series has a plain name. -/
def PlainKeys {α : Type} (t : Table LabelSet α) : Prop := ∀ s ∈ t.keys, ∀ l ∈ s, l.Plain

theorem plainKeys_empty {α : Type} : PlainKeys (∅ : Table LabelSet α) := nofun

theorem PlainKeys.insert {α : Type} {t : Table LabelSet α} (h : PlainKeys t) {labels : List Label}
    (plain : ∀ l ∈ labels, l.Plain) (v : α) : PlainKeys (t.insert (.of labels) v) := by
  intro s mem l inside
  rw [Table.mem_keys_iff, Table.contains_insert, ← Table.mem_keys_iff] at mem
  rcases mem with rfl | before
  · rw [LabelSet.of_eq_insertionSort, List.mem_insertionSort] at inside
    exact plain l inside
  · exact h s before l inside

theorem PlainKeys.insert_single {α : Type} {t : Table LabelSet α} (h : PlainKeys t) {name : String}
    (plain : '=' ∉ name.toList ∧ '\n' ∉ name.toList) (value : String) (v : α) :
    PlainKeys (t.insert (.of [⟨name, value⟩]) v) :=
  h.insert (List.forall_mem_singleton.2 (Label.plain_of_name plain value)) v

/-- A family whose series can be told apart, in lines that can be told from its heading. -/
structure Family.Sound (f : Family) : Prop where
  heading : f.heading.toList.head? = some '#' ∧ '\n' ∉ f.heading.toList
  named : ∀ s ∈ f.samples, s.name ∈ f.names
  plain : ∀ s ∈ f.samples, ∀ l ∈ s.labels, l.Plain
  valued : ∀ s ∈ f.samples, ' ' ∉ s.value.toList ∧ '\n' ∉ s.value.toList
  distinct : (f.samples.map fun s => (s.name, s.labels)).Nodup

theorem valued_decimalNat (n : Nat) :
    ' ' ∉ (Text.decimalNat n).toList ∧ '\n' ∉ (Text.decimalNat n).toList :=
  ⟨Text.not_mem_decimalNat (by decide) n, Text.not_mem_decimalNat (by decide) n⟩

theorem head?_heading (name kind : String) :
    ("# TYPE " ++ name ++ kind).toList.head? = some '#' := by
  simp

theorem Family.sound_flat {α : Type} {name kind : String}
    (line : '\n' ∉ name.toList ∧ '\n' ∉ kind.toList) {t : Table LabelSet α} (plain : PlainKeys t)
    {value : α → String} (valued : ∀ v, ' ' ∉ (value v).toList ∧ '\n' ∉ (value v).toList) :
    (flat name kind t value).Sound where
  heading := ⟨head?_heading name kind, by simp [flat, line]⟩
  named s mem := by
    obtain ⟨e, -, rfl⟩ := List.mem_map.1 mem
    exact List.mem_singleton_self name
  plain s mem := by
    obtain ⟨e, listed, rfl⟩ := List.mem_map.1 mem
    exact plain e.1 (List.mem_map_of_mem listed)
  valued s mem := by
    obtain ⟨e, -, rfl⟩ := List.mem_map.1 mem
    exact valued e.2
  distinct := by
    have keys : (t.keys.map (Prod.mk name)).Nodup := t.nodup_keys.map (Prod.mk_right_injective name)
    rw [Table.keys, List.map_map] at keys
    rw [flat, List.map_map]
    exact keys

/-- The series of one distribution, which are all that it can list. -/
def tags (name : String) (labels : LabelSet) : List (String × LabelSet) :=
  (bounds.map Text.decimalNat ++ ["+Inf"]).map
      (fun bound => (name ++ "_bucket", labels ++ [⟨"le", bound⟩])) ++
    [(name ++ "_sum", labels), (name ++ "_count", labels)]

theorem append_ne (name : String) {kind kind' : String} (differ : kind ≠ kind') :
    name ++ kind ≠ name ++ kind' := mt (String.append_right_inj name).1 differ

theorem nodup_tags (name : String) (labels : LabelSet) : (tags name labels).Nodup := by
  have bucket_sum := append_ne name (show "_bucket" ≠ "_sum" by decide)
  have bucket_count := append_ne name (show "_bucket" ≠ "_count" by decide)
  have buckets : (bounds.map Text.decimalNat ++ ["+Inf"]).Nodup := by decide
  refine List.nodup_append.2 ⟨buckets.map fun a b same => ?_, ?_, ?_⟩
  · simpa using same
  · simp
  · intro tag mem tag' mem'
    obtain ⟨bound, -, rfl⟩ := List.mem_map.1 mem
    rcases List.mem_pair.1 mem' with rfl | rfl
    · exact fun same => bucket_sum (Prod.mk.inj same).1
    · exact fun same => bucket_count (Prod.mk.inj same).1

/-- A tag tells the labels of its distribution. -/
theorem labels_of_mem_tags {name : String} {labels : LabelSet} {tag : String × LabelSet}
    (mem : tag ∈ tags name labels) :
    (if tag.1 = name ++ "_bucket" then tag.2.dropLast else tag.2) = labels := by
  rcases List.mem_append.1 mem with first | last
  · obtain ⟨bound, -, rfl⟩ := List.mem_map.1 first
    rw [if_pos rfl, List.dropLast_concat]
  · rcases List.mem_pair.1 last with rfl | rfl
    · exact if_neg (append_ne name (show "_sum" ≠ "_bucket" by decide))
    · exact if_neg (append_ne name (show "_count" ≠ "_bucket" by decide))

theorem map_fst_zip_sublist {α β : Type} (as : List α) (bs : List β) :
    ((as.zip bs).map Prod.fst).Sublist as := by
  induction as generalizing bs with
  | nil => exact .slnil
  | cons a as ih =>
    cases bs with
    | nil => exact List.nil_sublist _
    | cons b bs => exact (ih bs).cons_cons a

namespace Distribution
variable (d : Distribution) (name : String) (labels : LabelSet)

theorem sublist_tags :
    ((d.samples name labels).map fun s => (s.name, s.labels)).Sublist (tags name labels) := by
  have buckets := ((map_fst_zip_sublist bounds d.within).map fun bound =>
    (name ++ "_bucket", labels ++ [(⟨"le", Text.decimalNat bound⟩ : Label)]))
  rw [List.map_map] at buckets
  rw [samples, tags, List.map_append, List.map_append, List.map_map, List.map_map,
    List.append_assoc]
  exact buckets.append (List.Sublist.refl _)

theorem valued_samples {s : Sample} (mem : s ∈ d.samples name labels) :
    ' ' ∉ s.value.toList ∧ '\n' ∉ s.value.toList := by
  rcases List.mem_append.1 mem with first | last
  · obtain ⟨e, -, rfl⟩ := List.mem_map.1 first
    exact valued_decimalNat _
  · simp only [List.mem_cons, List.not_mem_nil, or_false] at last
    rcases last with rfl | rfl | rfl <;> exact valued_decimalNat _

theorem tag_of_mem_samples {s : Sample} (mem : s ∈ d.samples name labels) :
    (s.name, s.labels) ∈ tags name labels :=
  (d.sublist_tags name labels).subset (List.mem_map_of_mem mem)

end Distribution

theorem plain_of_mem_tags {name : String} {labels : LabelSet} (plain : ∀ l ∈ labels, l.Plain)
    {tag : String × LabelSet} (mem : tag ∈ tags name labels) : ∀ l ∈ tag.2, l.Plain := by
  rcases List.mem_append.1 mem with first | last
  · obtain ⟨bound, -, rfl⟩ := List.mem_map.1 first
    have own : (⟨"le", bound⟩ : Label).Plain := Label.plain_of_name (by decide) bound
    simpa [or_imp, forall_and, own] using plain
  · rcases List.mem_pair.1 last with rfl | rfl <;> exact plain

theorem named_of_mem_tags {name : String} {labels : LabelSet} {tag : String × LabelSet}
    (mem : tag ∈ tags name labels) :
    tag.1 ∈ [name ++ "_bucket", name ++ "_sum", name ++ "_count"] := by
  rcases List.mem_append.1 mem with first | last
  · obtain ⟨bound, -, rfl⟩ := List.mem_map.1 first
    simp
  · rcases List.mem_pair.1 last with rfl | rfl <;> simp

theorem Family.sound_histogram {name : String} (line : '\n' ∉ name.toList) {h : Histogram}
    (plain : PlainKeys h.series) : (histogram name h).Sound where
  heading := ⟨head?_heading name " histogram", by simp [histogram, line]⟩
  named s mem := by
    obtain ⟨e, -, inside⟩ := List.mem_flatMap.1 mem
    exact named_of_mem_tags (e.2.tag_of_mem_samples name e.1 inside)
  plain s mem := by
    obtain ⟨e, listed, inside⟩ := List.mem_flatMap.1 mem
    exact plain_of_mem_tags (plain e.1 (List.mem_map_of_mem listed))
      (e.2.tag_of_mem_samples name e.1 inside)
  valued s mem := by
    obtain ⟨e, -, inside⟩ := List.mem_flatMap.1 mem
    exact e.2.valued_samples name e.1 inside
  distinct := by
    rw [histogram, List.map_flatMap, List.nodup_flatMap]
    refine ⟨fun e _ => (nodup_tags name e.1).sublist (e.2.sublist_tags name e.1), ?_⟩
    have keys := List.pairwise_map.1 h.series.nodup_keys
    refine keys.imp fun {e e'} differ => ?_
    intro tag mem mem'
    have first := labels_of_mem_tags ((e.2.sublist_tags name e.1).subset mem)
    have second := labels_of_mem_tags ((e'.2.sublist_tags name e'.1).subset mem')
    exact differ (first.symm.trans second)

/-- Samples are told apart by how their series are written, where names do not hide a brace. -/
theorem nodup_map_series {ss : List Sample} (tags : (ss.map fun s => (s.name, s.labels)).Nodup)
    (braces : ∀ s ∈ ss, '{' ∉ s.name.toList) (plain : ∀ s ∈ ss, ∀ l ∈ s.labels, l.Plain) :
    (ss.map Sample.series).Nodup := by
  rw [List.Nodup, List.pairwise_map] at tags ⊢
  refine tags.imp_of_mem fun {s s'} mem mem' differ same => differ ?_
  obtain ⟨name, labels⟩ := LabelSet.series_inj (braces s mem) (braces s' mem') (plain s mem)
    (plain s' mem') same
  rw [name, labels]

def families (m : Metrics) : List Family :=
  [.counter "aoprism_connections_total" m.connections,
    .gauge "aoprism_sessions_active" m.activeSessions,
    .counter "aoprism_ic_decoded_total" m.decoded,
    .counter "aoprism_ic_decode_failures_total" m.decodeFailures,
    .counter "aoprism_framing_overflows_total" m.framingOverflows,
    .counter "aoprism_flood_drops_total" m.floodDrops,
    .counter "aoprism_unknown_commands_total" m.unknownCommands,
    .histogram "aoprism_dispatch_duration_micros" m.dispatchDuration,
    .counter "aoprism_handler_errors_total" m.handlerErrors]

theorem lines_eq (m : Metrics) : m.lines = m.families.flatMap Family.lines := by
  simp only [families, List.flatMap_cons, List.flatMap_nil, Family.lines_counter,
    Family.lines_gauge, Family.lines_histogram, List.append_nil, lines, List.append_assoc]

/-- All samples of the page. -/
def samples (m : Metrics) : List Sample := m.families.flatMap (·.samples)

/-- The names that the series of each family have. -/
def seriesNames : List (List String) :=
  [["aoprism_connections_total"], ["aoprism_sessions_active"], ["aoprism_ic_decoded_total"],
    ["aoprism_ic_decode_failures_total"], ["aoprism_framing_overflows_total"],
    ["aoprism_flood_drops_total"], ["aoprism_unknown_commands_total"],
    ["aoprism_dispatch_duration_micros_bucket", "aoprism_dispatch_duration_micros_sum",
      "aoprism_dispatch_duration_micros_count"],
    ["aoprism_handler_errors_total"]]

theorem names_families (m : Metrics) : m.families.map (·.names) = seriesNames := rfl

/-- Every label of every series has a plain name. -/
structure Plain (m : Metrics) : Prop where
  connections : PlainKeys m.connections.series
  activeSessions : PlainKeys m.activeSessions.series
  decoded : PlainKeys m.decoded.series
  decodeFailures : PlainKeys m.decodeFailures.series
  framingOverflows : PlainKeys m.framingOverflows.series
  floodDrops : PlainKeys m.floodDrops.series
  unknownCommands : PlainKeys m.unknownCommands.series
  dispatchDuration : PlainKeys m.dispatchDuration.series
  handlerErrors : PlainKeys m.handlerErrors.series

theorem plain_empty : Plain {} :=
  ⟨plainKeys_empty, plainKeys_empty, plainKeys_empty, plainKeys_empty, plainKeys_empty,
    plainKeys_empty, plainKeys_empty, plainKeys_empty, plainKeys_empty⟩

theorem Family.sound_counter {name : String} (line : '\n' ∉ name.toList) {c : Counter}
    (plain : PlainKeys c.series) : (counter name c).Sound :=
  sound_flat ⟨line, by decide⟩ plain fun _ => valued_decimalNat _

theorem Family.sound_gauge {name : String} (line : '\n' ∉ name.toList) {g : Gauge}
    (plain : PlainKeys g.series) : (gauge name g).Sound :=
  sound_flat ⟨line, by decide⟩ plain fun n =>
    ⟨Text.not_mem_decimal (by decide) (by decide) n, Text.not_mem_decimal (by decide) (by decide) n⟩

section Plain
variable {m : Metrics} (plain : m.Plain)
include plain

theorem sound_of_mem_families : ∀ f ∈ m.families, f.Sound := by
  simp only [families, List.forall_mem_cons]
  exact ⟨Family.sound_counter (by decide) plain.connections,
    Family.sound_gauge (by decide) plain.activeSessions,
    Family.sound_counter (by decide) plain.decoded,
    Family.sound_counter (by decide) plain.decodeFailures,
    Family.sound_counter (by decide) plain.framingOverflows,
    Family.sound_counter (by decide) plain.floodDrops,
    Family.sound_counter (by decide) plain.unknownCommands,
    Family.sound_histogram (by decide) plain.dispatchDuration,
    Family.sound_counter (by decide) plain.handlerErrors, nofun⟩

theorem name_mem_seriesNames {s : Sample} (mem : s ∈ m.samples) :
    s.name ∈ seriesNames.flatten := by
  obtain ⟨f, listed, inside⟩ := List.mem_flatMap.1 mem
  rw [← names_families m, List.mem_flatten]
  exact ⟨f.names, List.mem_map_of_mem listed,
    (sound_of_mem_families plain f listed).named s inside⟩

theorem plain_of_mem_samples {s : Sample} (mem : s ∈ m.samples) : ∀ l ∈ s.labels, l.Plain := by
  obtain ⟨f, listed, inside⟩ := List.mem_flatMap.1 mem
  exact (sound_of_mem_families plain f listed).plain s inside

/-- No two samples have the same name and the same labels. -/
theorem nodup_tags_samples : (m.samples.map fun s => (s.name, s.labels)).Nodup := by
  have apart : m.families.Pairwise fun f f' => f.names.Disjoint f'.names := by
    have names : seriesNames.flatten.Nodup := by decide
    rw [List.nodup_flatten, ← names_families m] at names
    exact List.pairwise_map.1 names.2
  rw [samples, List.map_flatMap, List.nodup_flatMap]
  refine ⟨fun f listed => (sound_of_mem_families plain f listed).distinct, ?_⟩
  refine apart.imp_of_mem fun {f f'} listed listed' disjoint => ?_
  intro tag mem mem'
  obtain ⟨s, inside, rfl⟩ := List.mem_map.1 mem
  obtain ⟨s', inside', same⟩ := List.mem_map.1 mem'
  refine disjoint ((sound_of_mem_families plain f listed).named s inside) ?_
  rw [← (Prod.mk.inj same).1]
  exact (sound_of_mem_families plain f' listed').named s' inside'

/-- No two samples are of the same series, as it is written. -/
theorem nodup_series : (m.samples.map Sample.series).Nodup := by
  have braces : ∀ name ∈ seriesNames.flatten, '{' ∉ name.toList := by decide
  exact nodup_map_series (nodup_tags_samples plain)
    (fun s mem => braces s.name (name_mem_seriesNames plain mem))
    fun s mem => plain_of_mem_samples plain mem

/-- The families have no series with the name of another one. -/
theorem not_mem_series {series : List Char}
    (foreign : series.takeWhile (· ≠ '{') ∉ seriesNames.flatten.map (·.toList)) :
    series ∉ m.samples.map (·.series.toList) := by
  have braces : ∀ name ∈ seriesNames.flatten, '{' ∉ name.toList := by decide
  intro mem
  obtain ⟨s, own, rfl⟩ := List.mem_map.1 mem
  have named := name_mem_seriesNames plain own
  rw [Sample.series, LabelSet.takeWhile_series (braces s.name named)] at foreign
  exact foreign (List.mem_map_of_mem named)

end Plain
end CourtroomGateway.Metrics
