import CourtroomGateway.Proofs.Metrics.Samples

/-! How a page of metrics is read. It is taken line by line; a line that begins with a number sign
is a comment, and any other one shows a sample, whose series stands in front of the last blank. -/

namespace CourtroomGateway.Metrics

def pageLines (page : String) : List (List Char) := page.toList.splitOn '\n'

/-- The line is there and is no comment. -/
def isSample (line : List Char) : Bool := line.head?.any (· ≠ '#')

def seriesOf (line : List Char) : List Char := (line.rdropWhile (· ≠ ' ')).dropLast

theorem seriesOf_line {value : List Char} (plain : ' ' ∉ value) (series : List Char) :
    seriesOf (series ++ ' ' :: value) = series := by
  have last : ∀ c ∈ value.reverse, decide (c ≠ ' ') := fun c mem =>
    decide_eq_true fun same => plain (same ▸ List.mem_reverse.1 mem)
  rw [seriesOf, List.rdropWhile, List.reverse_append, List.reverse_cons, List.append_assoc,
    List.dropWhile_append_of_pos last]
  simp

theorem prefix_of_prefix_append_cons {word first rest : List Char} {c : Char} (plain : c ∉ word)
    (found : word <+: first ++ c :: rest) : word <+: first := by
  induction word generalizing first with
  | nil => exact List.nil_prefix
  | cons d word ih =>
    cases first with
    | nil =>
      obtain ⟨same, -⟩ := List.cons_prefix_cons.1 found
      exact absurd (same ▸ List.mem_cons_self) plain
    | cons e first =>
      obtain ⟨rfl, later⟩ := List.cons_prefix_cons.1 found
      exact List.cons_prefix_cons.2 ⟨rfl, ih (List.not_mem_of_not_mem_cons plain) later⟩

namespace Sample

theorem toList_line (s : Sample) : s.line.toList = s.series.toList ++ ' ' :: s.value.toList := by
  simp [line]

/-- Behind its name the line of a sample goes on with a blank or a brace. -/
theorem exists_toList_line (s : Sample) :
    ∃ c rest, (c = ' ' ∨ c = '{') ∧ s.line.toList = s.name.toList ++ c :: rest := by
  rw [toList_line, series, LabelSet.toList_series, List.append_assoc]
  split
  · exact ⟨_, _, .inl rfl, rfl⟩
  · exact ⟨_, _, .inr rfl, rfl⟩

end Sample

/-- A sound family is listed in single lines. -/
theorem Family.Sound.not_mem_lines {f : Family} (sound : f.Sound)
    (names : ∀ name ∈ f.names, '\n' ∉ name.toList) {line : String} (mem : line ∈ f.lines) :
    '\n' ∉ line.toList := by
  rcases List.mem_cons.1 mem with rfl | inside
  · exact sound.heading.2
  · obtain ⟨s, own, rfl⟩ := List.mem_map.1 inside
    have name := names s.name (sound.named s own)
    have text := LabelSet.not_mem_text (sound.plain s own)
    have value := (sound.valued s own).2
    rw [Sample.toList_line, Sample.series, LabelSet.toList_series]
    split <;> simp [name, text, value]

section Plain
variable {m : Metrics} (plain : m.Plain)
include plain

theorem not_mem_lines {line : String} (mem : line ∈ m.lines) : '\n' ∉ line.toList := by
  have names : ∀ name ∈ seriesNames.flatten, '\n' ∉ name.toList := by decide
  rw [lines_eq] at mem
  obtain ⟨f, listed, inside⟩ := List.mem_flatMap.1 mem
  refine (sound_of_mem_families plain f listed).not_mem_lines (fun name own => names name ?_) inside
  rw [← names_families m, List.mem_flatten]
  exact ⟨f.names, List.mem_map_of_mem listed, own⟩

/-- No line of the families begins with a name that none of the series has. -/
theorem not_prefix_lines {name : List Char} (nonempty : name ≠ []) (sign : '#' ∉ name)
    (blank : ' ' ∉ name) (brace : '{' ∉ name)
    (foreign : ∀ other ∈ seriesNames.flatten, ¬ name <+: other.toList) {line : String}
    (mem : line ∈ m.lines) : ¬ name <+: line.toList := by
  intro found
  rw [lines_eq] at mem
  obtain ⟨f, listed, inside⟩ := List.mem_flatMap.1 mem
  rcases List.mem_cons.1 inside with rfl | inside
  · obtain ⟨rest, whole⟩ := found
    have first := (sound_of_mem_families plain f listed).heading.1
    cases name with
    | nil => exact nonempty rfl
    | cons c name =>
      rw [← whole] at first
      obtain rfl := Option.some.inj first
      exact sign List.mem_cons_self
  · obtain ⟨s, own, rfl⟩ := List.mem_map.1 inside
    obtain ⟨c, rest, which, whole⟩ := s.exists_toList_line
    have absent : c ∉ name := by rcases which with rfl | rfl <;> assumption
    rw [whole] at found
    exact foreign s.name (name_mem_seriesNames plain (List.mem_flatMap.2 ⟨f, listed, own⟩))
      (prefix_of_prefix_append_cons absent found)

theorem filter_isSample_lines :
    (m.lines.map (·.toList)).filter isSample = m.samples.map (·.line.toList) := by
  have letters : ∀ name ∈ seriesNames.flatten, name.toList.head? = some 'a' := by decide
  rw [lines_eq, List.map_flatMap, List.filter_flatMap, samples, List.map_flatMap]
  refine List.flatMap_congr fun f listed => ?_
  have heading : ¬ isSample f.heading.toList := by
    rw [isSample, (sound_of_mem_families plain f listed).heading.1]
    decide
  rw [Family.lines, List.map_cons, List.filter_cons_of_neg heading, List.map_map]
  refine List.filter_eq_self.2 fun line mem => ?_
  obtain ⟨s, own, rfl⟩ := List.mem_map.1 mem
  have first := letters s.name (name_mem_seriesNames plain (List.mem_flatMap.2 ⟨f, listed, own⟩))
  obtain ⟨c, rest, -, whole⟩ := s.exists_toList_line
  rw [isSample, Function.comp_apply, whole, List.head?_append, first]
  rfl

theorem map_seriesOf_lines :
    ((m.lines.map (·.toList)).filter isSample).map seriesOf =
      m.samples.map (·.series.toList) := by
  rw [filter_isSample_lines plain, List.map_map]
  refine List.map_congr_left fun s mem => ?_
  obtain ⟨f, listed, inside⟩ := List.mem_flatMap.1 mem
  obtain ⟨value, -⟩ := (sound_of_mem_families plain f listed).valued s inside
  rw [Function.comp_apply, Sample.toList_line, seriesOf_line value]

/-- The lines of the page. A line break can only come from the extra samples. -/
theorem pageLines_page (extra : List (String × Nat)) :
    pageLines (m.page extra) =
      m.lines.map (·.toList) ++
        (extra.map fun e => e.1.toList ++ ' ' :: (Text.decimalNat e.2).toList).flatMap
          (·.splitOn '\n') ++ [[]] := by
  have single : ∀ line ∈ m.lines.map (·.toList), '\n' ∉ line := by
    intro line mem
    obtain ⟨text, listed, rfl⟩ := List.mem_map.1 mem
    exact not_mem_lines plain listed
  have closed : m.pageChars extra =
      (m.lines.map (·.toList) ++
        extra.map fun e => e.1.toList ++ ' ' :: (Text.decimalNat e.2).toList).flatMap
          (· ++ ['\n']) := by
    simp [pageChars, List.flatMap_map]
  rw [pageLines, toList_page, closed, Text.splitOn_closed, List.flatMap_append,
    Text.flatMap_splitOn_of_plain single]

end Plain
end CourtroomGateway.Metrics
