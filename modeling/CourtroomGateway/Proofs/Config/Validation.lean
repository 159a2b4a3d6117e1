import CourtroomGateway.Proofs.Config.Areas
import CourtroomGateway.Proofs.Flood.Words

/-! Which configurations are accepted. `Valid` states the rules without saying in which order they
are looked at or which of several faults is told. A configuration of another version is refused as
one of an unsupported version, and breaking any other rule is a bad request. In an accepted one an
area's name leads to its position and an id to the character in its place. -/

namespace CourtroomGateway

theorem Service.fault?_eq_none_iff {s : Service} :
    s.fault? = none ↔ 1 ≤ s.maxPlayers ∧
      (10000 ≤ s.keepaliveTimeout ∧ s.keepaliveTimeout ≤ 600000) ∧
      256 ≤ s.maxBuffer ∧ s.maxBuffer ≤ 65536 := by
  unfold Service.fault?
  grind

/-- What is left out of a configuration's text breaks no rule. -/
example : ({} : Service).fault? = none ∧ ({} : Allowance).fault? = none := by decide

/-- The fault is told as a bad request. -/
def ConfigFault.IsBadRequest (f : ConfigFault) : Prop := ∃ detail, f.toFault = .badRequest detail

theorem isBadRequest_of_areaFault? {seen : List String} {areas : List Area} {f : ConfigFault}
    (broken : areaFault? seen areas = some f) : f.IsBadRequest := by
  induction areas generalizing seen with
  | nil => simp [areaFault?] at broken
  | cons area areas ih =>
    rw [areaFault?] at broken
    split at broken
    · obtain rfl := Option.some.inj broken
      exact ⟨_, rfl⟩
    split at broken
    · obtain rfl := Option.some.inj broken
      exact ⟨_, rfl⟩
    · exact ih broken

theorem Service.isBadRequest {s : Service} {f : ConfigFault} (broken : s.fault? = some f) :
    f.IsBadRequest := by
  unfold Service.fault? at broken
  repeat' split at broken
  all_goals cases broken
  all_goals exact ⟨_, rfl⟩

theorem Allowance.isBadRequest {a : Allowance} {f : ConfigFault} (broken : a.fault? = some f) :
    f.IsBadRequest := by
  unfold Allowance.fault? at broken
  split at broken
  · obtain rfl := Option.some.inj broken
    exact ⟨_, rfl⟩
  · cases broken

namespace Config

/-- The configuration obeys every rule. -/
structure Valid (c : Config) : Prop where
  version : c.version = 1
  someCharacter : c.characters ≠ []
  characterNames : ∀ name ∈ c.characters, Text.trim name ≠ ""
  someArea : c.areas ≠ []
  areaNames : ∀ a ∈ c.areas, Text.trim a.name ≠ ""
  distinct : (c.areas.map (·.name)).Nodup
  players : 1 ≤ c.server.maxPlayers
  keepalive : 10000 ≤ c.server.keepaliveTimeout ∧ c.server.keepaliveTimeout ≤ 600000
  buffer : 256 ≤ c.server.maxBuffer ∧ c.server.maxBuffer ≤ 65536
  allowance : 0 < c.flood.rate ∧ 0 < c.flood.burst

/-- The look-ups undo the indexing of the two lists. -/
structure Indexed (c : Config) : Prop where
  area (name : String) (i : Nat) :
    c.areaIndex? name = some i ↔ ∃ inside : i < c.areas.length, c.areas[i].name = name
  character (id : Int64) (name : String) :
    c.character? id = some name ↔
      ∃ (i : Nat) (inside : i < c.characters.length), id.toInt = i ∧ c.characters[i] = name
  stranger (id : Int64) :
    c.character? id = none ↔ id.toInt < 0 ∨ (c.characters.length : Int) ≤ id.toInt

theorem fault?_eq_none_iff {c : Config} : c.fault? = none ↔ c.Valid := by
  have named : ¬ c.characters.any Text.isBlankText = true ↔
      ∀ name ∈ c.characters, Text.trim name ≠ "" := by
    simp [← Text.isBlankText_iff]
  have distinct : areaFault? [] c.areas = none ↔
      (∀ a ∈ c.areas, Text.trim a.name ≠ "") ∧ (c.areas.map (·.name)).Nodup := by
    simp [areaFault?_eq_none_iff, ← Text.isBlankText_iff]
  unfold fault?
  simp only [ite_eq_iff, reduceCtorEq, and_false, false_or, Option.or_eq_none_iff, named, distinct,
    Service.fault?_eq_none_iff, Allowance.fault?_eq_none_iff, ne_eq, not_not]
  constructor
  · rintro ⟨version, some₁, names₁, some₂, ⟨names₂, apart⟩, ⟨players, keepalive, buffer⟩, allowance⟩
    exact ⟨version, some₁, names₁, some₂, names₂, apart, players, keepalive, buffer, allowance⟩
  · intro v
    exact ⟨v.version, v.someCharacter, v.characterNames, v.someArea, ⟨v.areaNames, v.distinct⟩,
      ⟨v.players, v.keepalive, v.buffer⟩, v.allowance⟩

theorem isBadRequest {c : Config} {f : ConfigFault} (version : c.version = 1)
    (broken : c.fault? = some f) : f.IsBadRequest := by
  unfold fault? at broken
  rw [if_neg (not_not.2 version)] at broken
  split at broken
  · cases broken
    exact ⟨_, rfl⟩
  split at broken
  · cases broken
    exact ⟨_, rfl⟩
  split at broken
  · cases broken
    exact ⟨_, rfl⟩
  rcases Option.or_eq_some_iff.1 broken with ofAreas | ⟨-, later⟩
  · exact isBadRequest_of_areaFault? ofAreas
  · rcases Option.or_eq_some_iff.1 later with ofService | ⟨-, ofAllowance⟩
    · exact Service.isBadRequest ofService
    · exact Allowance.isBadRequest ofAllowance

theorem character?_eq (c : Config) (id : Int64) :
    c.character? id = if id.toInt < 0 then none else c.characters[id.toInt.toNat]? := by
  have sign : id < 0 ↔ id.toInt < 0 := Int64.lt_iff_toInt_lt
  simp only [character?, sign]

theorem indexed_of_fault?_eq_none {c : Config} (clean : c.fault? = none) : c.Indexed where
  area name i := by
    simp only [areaIndex?_eq_some_iff clean, List.getElem?_eq_some_iff]
    exact ⟨fun ⟨_, ⟨inside, here⟩, named⟩ => ⟨inside, here ▸ named⟩,
      fun ⟨inside, named⟩ => ⟨_, ⟨inside, rfl⟩, named⟩⟩
  character id name := by
    rw [character?_eq]
    split
    next below => simp only [reduceCtorEq, false_iff]; omega
    next above =>
      rw [List.getElem?_eq_some_iff]
      constructor
      · rintro ⟨inside, here⟩
        exact ⟨id.toInt.toNat, inside, by omega, here⟩
      · rintro ⟨i, inside, position, here⟩
        obtain rfl : id.toInt.toNat = i := by omega
        exact ⟨inside, here⟩
  stranger id := by
    rw [character?_eq]
    split
    next below => simp [below]
    next above => rw [List.getElem?_eq_none_iff]; omega

/-- A configuration is accepted if it obeys every rule; otherwise it is refused, for its version
where that is not the first and with a bad request in all other cases. An accepted one is handed
back unchanged, and its look-ups undo indexing. -/
theorem validate_decides (c : Config) :
    (c.validate = .ok c ↔ c.Valid) ∧
      ((∃ f, c.validate = .error f ∧ f.toFault = .unsupportedVersion) ↔ c.version ≠ 1) ∧
      ((∃ f, c.validate = .error f ∧ f.IsBadRequest) ↔ c.version = 1 ∧ ¬ c.Valid) ∧
      ∀ d, c.validate = .ok d → d = c ∧ d.Indexed := by
  have refused (f : ConfigFault) : c.validate = .error f ↔ c.fault? = some f := by
    unfold validate
    split <;> simp_all
  have future (other : c.version ≠ 1) : c.fault? = some .version := if_pos other
  simp only [refused, ← fault?_eq_none_iff, validate_eq_ok_iff, and_true]
  refine ⟨trivial, ⟨?_, fun other => ⟨_, future other, rfl⟩⟩, ⟨?_, ?_⟩, ?_⟩
  · rintro ⟨f, broken, told⟩ version
    obtain ⟨detail, improper⟩ := isBadRequest version broken
    exact nomatch told.symm.trans improper
  · rintro ⟨f, broken, detail, improper⟩
    refine ⟨?_, by simp [broken]⟩
    by_contra other
    obtain rfl := Option.some.inj ((future other).symm.trans broken)
    exact nomatch improper
  · rintro ⟨version, broken⟩
    obtain ⟨f, found⟩ := Option.ne_none_iff_exists'.1 broken
    exact ⟨f, found, isBadRequest version found⟩
  · rintro d ⟨clean, rfl⟩
    exact ⟨rfl, indexed_of_fault?_eq_none clean⟩

/-- Two areas whose names differ in a trailing blank, at the ends of what the limits allow. -/
def twinCourts : Config where
  version := 1
  server := { maxPlayers := 1, keepaliveTimeout := 600000, maxBuffer := 256 }
  flood := { rate := 1, burst := 1 }
  characters := ["Phoenix", "Phoenix"]
  areas := [{ name := "Court" }, { name := "Court " }]

theorem validate_decides_twinCourts :
    twinCourts.validate = .ok twinCourts ∧ twinCourts.Valid ∧ twinCourts.Indexed := by
  have accepted : twinCourts.validate = .ok twinCourts := by decide
  obtain ⟨exact, -, -, found⟩ := validate_decides twinCourts
  exact ⟨accepted, exact.1 accepted, (found twinCourts accepted).2⟩

end Config
end CourtroomGateway
