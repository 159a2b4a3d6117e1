import CourtroomGateway.Pages
import CourtroomGateway.Proofs.Commands.Tallies
import CourtroomGateway.Proofs.Gateway.Deliveries
import CourtroomGateway.Proofs.Metrics.Page

/-! The page of metrics in a run. Behind the samples of the families it counts the clients of the
gateway and of each area. The names of areas are configured, and they are put on the page without
their quotes and otherwise as they are. So whether the page can be read depends on the names alone:
a line break in one breaks its line, a backslash at the end of one takes the closing quote away,
and two names that differ in their quotes are counted in one series. -/

namespace CourtroomGateway

namespace Metrics

/-- The series that counts all clients. -/
def playersName : List Char := "aoprism_players".toList

/-- The name of the series that count the clients of areas. -/
def areaName : List Char := "aoprism_area_players".toList

def areaOpening : List Char := areaName ++ "\x7barea=\"".toList

def countsArea (line : List Char) : Bool := areaName.isPrefixOf line

/-- A series of which the label can be read, one blank and a number. -/
def Complete (line : List Char) : Prop :=
  ∃ value n, Label.Readable value ∧
    line = areaOpening ++ value ++ '"' :: '}' :: ' ' :: (Text.decimalNat n).toList

/-- The page counts the clients of this number of areas, each in a complete line, and no series has
two samples. -/
structure WellFormed (areas : Nat) (page : String) : Prop where
  counted : ((pageLines page).filter countsArea).length = areas
  complete : ∀ line ∈ (pageLines page).filter countsArea, Complete line
  distinct : (((pageLines page).filter isSample).map seriesOf).Nodup

/-- What is left of a name on the page. -/
def unquoted (name : String) : List Char := name.toList.filter (· ≠ '"')

/-- The names keep the page readable. -/
structure Presentable (names : List String) : Prop where
  unbroken : ∀ name ∈ names, '\n' ∉ name.toList
  closed : ∀ name ∈ names, Label.backslashes (unquoted name) % 2 = 0
  apart : (names.map unquoted).Nodup

/-- The series of the area with this value for its label. -/
def areaSeries (value : List Char) : List Char := areaOpening ++ value ++ ['"', '}']

theorem not_mem_unquoted (name : String) : '"' ∉ unquoted name := by simp [unquoted]

theorem mem_unquoted_iff {name : String} {c : Char} (plain : c ≠ '"') :
    c ∈ unquoted name ↔ c ∈ name.toList := by
  simp [unquoted, plain]

theorem areaSeries_injective : Function.Injective areaSeries := fun _ _ same =>
  List.append_cancel_left (List.append_cancel_right same)

theorem takeWhile_areaSeries (value : List Char) :
    (areaSeries value).takeWhile (· ≠ '{') = areaName := by
  have brace : '{' ∉ areaName := by decide
  have whole : ∀ c ∈ areaName, decide (c ≠ '{') := fun c mem =>
    decide_eq_true fun same => brace (same ▸ mem)
  rw [areaSeries, areaOpening, List.append_assoc, List.append_assoc,
    List.takeWhile_append_of_pos whole]
  simp

end Metrics

namespace Hall

open Metrics

def playersLine (h : Hall) : List Char :=
  playersName ++ ' ' :: (Text.decimalNat h.players).toList

/-- The line that counts the clients of an area. -/
def areaLine (h : Hall) (number : Nat) (area : Area) : List Char :=
  areaSeries (unquoted area.name) ++
    ' ' :: (Text.decimalNat (h.court.presence.countIn number)).toList

def areaLines (h : Hall) : List (List Char) := h.config.areas.mapIdx h.areaLine

theorem exists_of_mem_areaLines {h : Hall} {line : List Char} (listed : line ∈ h.areaLines) :
    ∃ number, ∃ area ∈ h.config.areas, h.areaLine number area = line := by
  obtain ⟨number, inside, same⟩ := List.mem_mapIdx.1 listed
  exact ⟨number, _, List.getElem_mem inside, same⟩

theorem exists_areaLine_mem {h : Hall} {area : Area} (known : area ∈ h.config.areas) :
    ∃ number, h.areaLine number area ∈ h.areaLines := by
  obtain ⟨number, inside, rfl⟩ := List.mem_iff_getElem.1 known
  exact ⟨number, List.mem_mapIdx.2 ⟨number, inside, rfl⟩⟩

theorem lines_samples (h : Hall) :
    (h.samples.map fun e => e.1.toList ++ ' ' :: (Text.decimalNat e.2).toList) =
      h.playersLine :: h.areaLines := by
  have opening : areaOpening = "aoprism_area_players\x7barea=\"".toList := by decide
  refine congrArg (h.playersLine :: ·) (List.ext_getElem (by simp [areaLines]) fun number _ _ => ?_)
  simp [areaLines, areaLine, areaSeries, opening, unquoted]

theorem mem_areaLine_iff (h : Hall) (number : Nat) (area : Area) :
    '\n' ∈ h.areaLine number area ↔ '\n' ∈ area.name.toList := by
  have opening : '\n' ∉ areaOpening := by decide
  have value := Text.not_mem_decimalNat (c := '\n') (by decide) (h.court.presence.countIn number)
  simp [areaLine, areaSeries, opening, value, mem_unquoted_iff]

theorem not_mem_playersLine (h : Hall) : '\n' ∉ h.playersLine := by
  have name : '\n' ∉ playersName := by decide
  have value := Text.not_mem_decimalNat (c := '\n') (by decide) h.players
  simp [playersLine, name, value]

theorem complete_areaLine_iff (h : Hall) (number : Nat) (area : Area) :
    Complete (h.areaLine number area) ↔ Label.Readable (unquoted area.name) := by
  have tail (n : Nat) : '"' ∉ '}' :: ' ' :: (Text.decimalNat n).toList := by
    simpa using Text.not_mem_decimalNat (c := '"') (by decide) n
  have whole : h.areaLine number area = areaOpening ++ (unquoted area.name ++
      '"' :: '}' :: ' ' :: (Text.decimalNat (h.court.presence.countIn number)).toList) := by
    simp [areaLine, areaSeries]
  constructor
  · rintro ⟨value, n, readable, same⟩
    rw [whole, List.append_assoc, List.append_cancel_left_eq] at same
    obtain ⟨rfl, -⟩ := Text.append_cons_inj_of_last (tail _) (tail n) same
    exact readable
  · intro readable
    exact ⟨_, _, readable, by rw [whole, List.append_assoc]⟩

theorem complete_areaLines_iff (h : Hall) :
    (∀ line ∈ h.areaLines, Complete line) ↔
      ∀ area ∈ h.config.areas, Label.Readable (unquoted area.name) := by
  constructor
  · intro complete area known
    obtain ⟨number, listed⟩ := exists_areaLine_mem known
    exact (h.complete_areaLine_iff number area).1 (complete _ listed)
  · intro readable line listed
    obtain ⟨number, area, known, rfl⟩ := exists_of_mem_areaLines listed
    exact (h.complete_areaLine_iff number area).2 (readable area known)

theorem countsArea_areaLine (h : Hall) (number : Nat) (area : Area) :
    countsArea (h.areaLine number area) := by
  rw [countsArea, List.isPrefixOf_iff_prefix]
  simp [areaLine, areaSeries, areaOpening]

theorem seriesOf_areaLine (h : Hall) (number : Nat) (area : Area) :
    seriesOf (h.areaLine number area) = areaSeries (unquoted area.name) :=
  seriesOf_line (Text.not_mem_decimalNat (by decide) _) _

section Page
variable {h : Hall} (plain : h.metrics.Plain)
include plain

theorem pageLines_metricsPage :
    pageLines h.metricsPage =
      h.metrics.lines.map (·.toList) ++
        (h.playersLine :: h.areaLines).flatMap (·.splitOn '\n') ++ [[]] := by
  rw [metricsPage, pageLines_page plain, lines_samples]

/-- A name with a line break has a line of its own that is not complete. -/
theorem unbroken_of_complete
    (complete : ∀ line ∈ (pageLines h.metricsPage).filter countsArea, Complete line) {area : Area}
    (known : area ∈ h.config.areas) : '\n' ∉ area.name.toList := by
  intro broken
  obtain ⟨number, listed⟩ := exists_areaLine_mem known
  obtain ⟨first, later, cut, start⟩ := List.eq_append_cons_of_mem
    ((mem_unquoted_iff (by decide)).2 broken)
  have line : h.areaLine number area = areaOpening ++ first ++ '\n' ::
      (later ++ ['"', '}'] ++
        ' ' :: (Text.decimalNat (h.court.presence.countIn number)).toList) := by
    simp [areaLine, areaSeries, cut]
  have opening : '\n' ∉ areaOpening ++ first := by
    rw [List.mem_append, not_or]
    exact ⟨by decide, start⟩
  have shown : areaOpening ++ first ∈ pageLines h.metricsPage := by
    rw [pageLines_metricsPage plain, List.mem_append, List.mem_append]
    refine .inl (.inr (List.mem_flatMap.2 ⟨_, List.mem_cons_of_mem _ listed, ?_⟩))
    rw [line, List.splitOn_append_cons_self_of_not_mem opening]
    exact List.mem_cons_self
  have counts : countsArea (areaOpening ++ first) := by
    rw [countsArea, List.isPrefixOf_iff_prefix]
    simp [areaOpening]
  obtain ⟨value, n, -, same⟩ := complete _ (List.mem_filter.2 ⟨shown, counts⟩)
  rw [List.append_assoc, List.append_cancel_left_eq] at same
  have quote : '"' ∈ unquoted area.name := by
    rw [cut, same]
    simp
  exact not_mem_unquoted _ quote

section Unbroken
variable (unbroken : ∀ area ∈ h.config.areas, '\n' ∉ area.name.toList)
include unbroken

theorem pageLines_of_unbroken :
    pageLines h.metricsPage =
      h.metrics.lines.map (·.toList) ++ h.playersLine :: h.areaLines ++ [[]] := by
  have single : ∀ line ∈ h.playersLine :: h.areaLines, '\n' ∉ line := by
    refine List.forall_mem_cons.2 ⟨h.not_mem_playersLine, fun line listed => ?_⟩
    obtain ⟨number, area, known, rfl⟩ := exists_of_mem_areaLines listed
    exact mt (h.mem_areaLine_iff number area).1 (unbroken area known)
  rw [pageLines_metricsPage plain, Text.flatMap_splitOn_of_plain single]

theorem filter_countsArea : (pageLines h.metricsPage).filter countsArea = h.areaLines := by
  have families : (h.metrics.lines.map (·.toList)).filter countsArea = [] := by
    refine List.filter_eq_nil_iff.2 fun line listed counts => ?_
    obtain ⟨text, own, rfl⟩ := List.mem_map.1 listed
    exact not_prefix_lines plain (by decide) (by decide) (by decide) (by decide) (by decide) own
      (List.isPrefixOf_iff_prefix.1 counts)
  have players : ¬ countsArea h.playersLine := by
    intro counts
    have found := List.isPrefixOf_iff_prefix.1 counts
    exact absurd (prefix_of_prefix_append_cons (by decide) found) (by decide)
  have areas : h.areaLines.filter countsArea = h.areaLines := by
    refine List.filter_eq_self.2 fun line listed => ?_
    obtain ⟨number, area, -, rfl⟩ := exists_of_mem_areaLines listed
    exact h.countsArea_areaLine number area
  have ending : [([] : List Char)].filter countsArea = [] := rfl
  rw [pageLines_of_unbroken plain unbroken, List.filter_append, List.filter_append, families,
    List.filter_cons_of_neg players, areas, ending, List.nil_append, List.append_nil]

theorem map_seriesOf_page :
    ((pageLines h.metricsPage).filter isSample).map seriesOf =
      h.metrics.samples.map (·.series.toList) ++
        playersName :: ((h.config.areas.map (·.name)).map unquoted).map areaSeries := by
  have players : isSample h.playersLine := rfl
  have areas : h.areaLines.filter isSample = h.areaLines := by
    refine List.filter_eq_self.2 fun line listed => ?_
    obtain ⟨number, area, -, rfl⟩ := exists_of_mem_areaLines listed
    rfl
  have ending : [([] : List Char)].filter isSample = [] := rfl
  have series : h.areaLines.map seriesOf =
      ((h.config.areas.map (·.name)).map unquoted).map areaSeries := by
    refine List.ext_getElem (by simp [areaLines]) fun number _ _ => ?_
    simp only [areaLines, List.getElem_map, List.getElem_mapIdx, seriesOf_areaLine]
  rw [pageLines_of_unbroken plain unbroken, List.filter_append, List.filter_append,
    List.filter_cons_of_pos players, areas, ending, List.append_nil, List.map_append,
    map_seriesOf_lines plain, List.map_cons, series,
    show seriesOf h.playersLine = _ from seriesOf_line (Text.not_mem_decimalNat (by decide) _) _]

/-- The series on the page differ if the areas do without the quotes in their names. -/
theorem nodup_map_seriesOf_iff :
    (((pageLines h.metricsPage).filter isSample).map seriesOf).Nodup ↔
      ((h.config.areas.map (·.name)).map unquoted).Nodup := by
  have families : (h.metrics.samples.map (·.series.toList)).Nodup := by
    have series := (nodup_series plain).map fun _ _ same => String.toList_inj.1 same
    rwa [List.map_map] at series
  have players : playersName ∉ h.metrics.samples.map (·.series.toList) :=
    not_mem_series plain (by decide)
  have areas (value : List Char) :
      areaSeries value ∉ h.metrics.samples.map (·.series.toList) := by
    refine not_mem_series plain ?_
    rw [takeWhile_areaSeries]
    decide
  have others (value : List Char) : areaSeries value ≠ playersName := by
    intro same
    have name := takeWhile_areaSeries value
    rw [same] at name
    exact absurd name (by decide)
  rw [map_seriesOf_page plain unbroken, List.nodup_append, List.nodup_cons,
    List.nodup_map_iff areaSeries_injective]
  constructor
  · rintro ⟨-, ⟨-, distinct⟩, -⟩
    exact distinct
  · intro distinct
    refine ⟨families, ⟨?_, distinct⟩, ?_⟩
    · intro mem
      obtain ⟨value, -, same⟩ := List.mem_map.1 mem
      exact others value same
    · intro series own other mem same
      rcases List.mem_cons.1 mem with rfl | mem
      · exact players (same ▸ own)
      · obtain ⟨value, -, rfl⟩ := List.mem_map.1 mem
        exact areas value (same ▸ own)

end Unbroken

theorem wellFormed_metricsPage_iff :
    WellFormed h.config.areas.length h.metricsPage ↔
      Presentable (h.config.areas.map (·.name)) := by
  have readable_iff (area : Area) : Label.Readable (unquoted area.name) ↔
      '\n' ∉ area.name.toList ∧ Label.backslashes (unquoted area.name) % 2 = 0 := by
    rw [Label.readable_iff (not_mem_unquoted area.name), mem_unquoted_iff (by decide)]
  constructor
  · rintro ⟨-, complete, distinct⟩
    have unbroken : ∀ area ∈ h.config.areas, '\n' ∉ area.name.toList := fun area known =>
      unbroken_of_complete plain complete known
    rw [filter_countsArea plain unbroken, complete_areaLines_iff] at complete
    refine ⟨List.forall_mem_map.2 unbroken, List.forall_mem_map.2 fun area known => ?_,
      (nodup_map_seriesOf_iff plain unbroken).1 distinct⟩
    exact ((readable_iff area).1 (complete area known)).2
  · rintro ⟨unbroken, closed, apart⟩
    have unbroken := List.forall_mem_map.1 unbroken
    refine ⟨?_, ?_, (nodup_map_seriesOf_iff plain unbroken).2 apart⟩
    · rw [filter_countsArea plain unbroken, areaLines, List.length_mapIdx]
    · rw [filter_countsArea plain unbroken, complete_areaLines_iff]
      intro area known
      exact (readable_iff area).2 ⟨unbroken area known, closed _ (List.mem_map_of_mem known)⟩

end Page

theorem plain_openSession {h : Hall} (plain : h.metrics.Plain) {transport : Transport} {now : Nat}
    {v : Visit} (opened : h.openSession transport now = .ok v) : v.hall.metrics.Plain := by
  unfold openSession at opened
  dsimp only at opened
  split at opened
  · cases opened
  · cases opened
    exact { plain with
      connections := plain.connections.insert_single (by decide) _ _
      activeSessions := plain.activeSessions.insert_single (by decide) _ _ }

theorem plain_endSession {h : Hall} (plain : h.metrics.Plain) (c : Client) :
    (h.endSession c).metrics.Plain :=
  { plain with
    activeSessions := plain.activeSessions.insert_single (by decide) _ _ }

end Hall

namespace Gateway

theorem plain_arrive {g : Gateway} (plain : g.hall.metrics.Plain) (transport : Transport)
    (now : Nat) : (g.arrive transport now).2.hall.metrics.Plain := by
  unfold arrive
  cases opened : g.hall.openSession transport now with
  | error refusal => exact plain
  | ok v => exact Hall.plain_openSession plain opened

theorem plain_depart {g : Gateway} (plain : g.hall.metrics.Plain) (id : Nat) :
    (g.depart id).hall.metrics.Plain := by
  unfold depart
  cases g.sessions.find? id with
  | none => exact plain
  | some session => exact Hall.plain_endSession plain session.client

theorem plain_metrics_step {admits : Scene → Wire.Packet → Prop} {g g' : Gateway}
    (coherent : g.Coherent) (plain : g.hall.metrics.Plain) (step : Step admits g g') :
    g'.hall.metrics.Plain := by
  cases step with
  | arrive transport now => exact plain_arrive plain transport now
  | depart id => exact plain_depart plain id
  | tend live framer bucket => exact plain
  | overflow live =>
    exact { plain with
      framingOverflows := plain.framingOverflows.insert_single (by decide) _ _ }
  | drop live =>
    exact { plain with
      floodDrops := plain.floodDrops.insert (List.forall_mem_nil _) _ }
  | turn live parsed admitted =>
    rw [coherent.builtin]
    exact Scene.plain_dispatch plain _
  | collect id => exact plain
  | wait milliseconds => exact plain

theorem Reached.plain {config : Config} {g : Gateway} (h : Reached config g) :
    g.hall.metrics.Plain := by
  induction h with
  | opened accepted =>
    obtain ⟨-, rfl⟩ := ofConfig_ok accepted
    exact Metrics.plain_empty
  | step before next ih => exact plain_metrics_step before.sound.1 ih next
  | received _ id f takes ih => exact ih

/-- In every state that can be reached, the page of metrics is well formed exactly if the names of
the areas keep it readable: none has a line break, none ends in a backslash that would take the
closing quote away, and no two are the same without their quotes. Then its lines about areas count
the clients of each area, in order. -/
theorem metrics_page_wellFormed_iff {config : Config} {g : Gateway} (reached : Reached config g) :
    (Metrics.WellFormed config.areas.length (Pages.answer g.hall "GET" "/metrics").body ↔
        Metrics.Presentable (config.areas.map (·.name))) ∧
      (Metrics.Presentable (config.areas.map (·.name)) →
        (Metrics.pageLines (Pages.answer g.hall "GET" "/metrics").body).filter Metrics.countsArea =
          g.hall.areaLines) := by
  obtain ⟨rfl, -⟩ := reached.config_eq
  have served : (Pages.answer g.hall "GET" "/metrics").body = g.hall.metricsPage := rfl
  rw [served]
  refine ⟨Hall.wellFormed_metricsPage_iff reached.plain, fun presentable => ?_⟩
  have unbroken : ∀ area ∈ g.hall.config.areas, '\n' ∉ area.name.toList := fun area known =>
    presentable.unbroken area.name (List.mem_map_of_mem known)
  exact Hall.filter_countsArea reached.plain unbroken

/-- Three of the clients are in the lobby. -/
theorem metrics_page_wellFormed_iff_gathering :
    Reached courthouse (doors.run gathering) ∧
      Metrics.WellFormed 2 (Pages.answer (doors.run gathering).hall "GET" "/metrics").body ∧
      (Metrics.pageLines (Pages.answer (doors.run gathering).hall "GET" "/metrics").body).filter
          Metrics.countsArea =
        ["aoprism_area_players\x7barea=\"Lobby\"\x7d 3".toList,
          "aoprism_area_players\x7barea=\"Courtroom\"\x7d 0".toList] := by
  have reached : Reached courthouse (doors.run gathering) := reached_run ofConfig_courthouse _
  have presentable : Metrics.Presentable (courthouse.areas.map (·.name)) :=
    ⟨by decide, by decide, by decide⟩
  obtain ⟨formed, counted⟩ := metrics_page_wellFormed_iff reached
  refine ⟨reached, formed.2 presentable, (counted presentable).trans ?_⟩
  decide +kernel

/-- Two areas whose names differ in a quote. -/
def twins : Config where
  version := 1
  characters := ["Phoenix"]
  areas := [{ name := "Hall" }, { name := "Hall\"" }]

/-- The gateway of `twins` before anyone arrives. -/
def twinned : Gateway := { handlers := .builtin, hall := { config := twins } }

/-- Both areas are counted in one series. -/
theorem exists_metrics_page_not_wellFormed :
    Reached twins twinned ∧
      ¬ Metrics.WellFormed twins.areas.length
        (Pages.answer twinned.hall "GET" "/metrics").body := by
  have reached : Reached twins twinned := .opened rfl
  refine ⟨reached, fun formed => ?_⟩
  have unbroken : ∀ area ∈ twins.areas, '\n' ∉ area.name.toList := by decide
  have distinct := (Hall.nodup_map_seriesOf_iff reached.plain unbroken).1 formed.distinct
  exact absurd distinct (by decide)

end Gateway
end CourtroomGateway
