import CourtroomGateway.Config.Basic
import Mathlib.Data.List.Nodup

/-! The areas of a configuration that breaks no rule. There is one at least, and no two have the
same name, so that an area is found again by its name and by no other. -/

namespace CourtroomGateway

theorem areaFault?_eq_none_iff (seen : List String) (areas : List Area) :
    areaFault? seen areas = none ↔
      (∀ a ∈ areas, ¬ Text.isBlankText a.name ∧ a.name ∉ seen) ∧
        (areas.map (·.name)).Nodup := by
  induction areas generalizing seen with
  | nil => simp [areaFault?]
  | cons area areas ih =>
    simp only [areaFault?, List.forall_mem_cons, List.map_cons, List.nodup_cons]
    split
    next blank => simp [blank]
    split
    next known => simp [known]
    next filled fresh =>
      rw [ih]
      simp only [List.mem_cons, not_or, List.mem_map, not_exists, not_and]
      constructor
      · rintro ⟨later, unique⟩
        exact ⟨⟨⟨filled, fresh⟩, fun a mem => ⟨(later a mem).1, (later a mem).2.2⟩⟩,
          fun a mem => (later a mem).2.1, unique⟩
      · rintro ⟨⟨-, later⟩, apart, unique⟩
        exact ⟨fun a mem => ⟨(later a mem).1, apart a mem, (later a mem).2⟩, unique⟩

namespace Config

theorem areaIndex?_eq_none_iff {c : Config} {name : String} :
    c.areaIndex? name = none ↔ ∀ a ∈ c.areas, a.name ≠ name := by
  simp [areaIndex?]

theorem exists_of_areaIndex? {c : Config} {name : String} {index : Nat}
    (found : c.areaIndex? name = some index) : ∃ a, c.areas[index]? = some a ∧ a.name = name := by
  obtain ⟨inside, named, -⟩ := List.findIdx?_eq_some_iff_getElem.1 found
  exact ⟨_, List.getElem?_eq_getElem inside, by simpa using named⟩

section Clean
variable {c : Config} (clean : c.fault? = none)
include clean

theorem areas_ne_nil : c.areas ≠ [] := by
  unfold fault? at clean
  grind

theorem areaFault?_areas : areaFault? [] c.areas = none := by
  unfold fault? at clean
  grind [Option.or_eq_none_iff]

theorem nodup_names : (c.areas.map (·.name)).Nodup :=
  ((areaFault?_eq_none_iff [] c.areas).1 (areaFault?_areas clean)).2

theorem areaIndex?_eq_some_iff {name : String} {index : Nat} :
    c.areaIndex? name = some index ↔ ∃ a, c.areas[index]? = some a ∧ a.name = name := by
  refine ⟨exists_of_areaIndex?, ?_⟩
  rintro ⟨a, here, rfl⟩
  obtain ⟨inside, rfl⟩ := List.getElem?_eq_some_iff.1 here
  refine List.findIdx?_eq_some_iff_getElem.2 ⟨inside, by simp, fun j before => ?_⟩
  have unique := List.pairwise_map.1 (nodup_names clean)
  have within : j < c.areas.length := Nat.lt_trans before inside
  simpa using List.pairwise_iff_getElem.1 unique j index within inside before

end Clean
end Config
end CourtroomGateway
