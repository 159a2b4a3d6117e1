import CourtroomGateway.Config.Load
import CourtroomGateway.Proofs.Commands.Turns
import CourtroomGateway.Proofs.Gateway.Steps

/-! What the parts of a gateway hold of a client agrees: the roster lists exactly the clients with
a session, presence places only them, and each session knows the character and the area that the
court holds of its client. Every step of the built-in handlers keeps this. -/

namespace CourtroomGateway

/-- What the client's session knows is what the court holds, and it exists. -/
structure Client.Agrees (c : Client) (h : Hall) : Prop where
  character : h.court.roster.charId? c.id = some c.charId
  place : h.court.presence.areaOf c.id = c.area
  characterKnown : c.charId = -1 ∨ (h.config.character? c.charId).isSome
  areaKnown : ∀ i, c.area = some i → i < h.config.areas.length

/-- Agreement looks at nothing but the client's own entries and the configuration. -/
theorem Client.Agrees.transfer {c : Client} {h h' : Hall} (own : c.Agrees h)
    (character : h'.court.roster.charId? c.id = h.court.roster.charId? c.id)
    (place : h'.court.presence.areaOf c.id = h.court.presence.areaOf c.id)
    (config : h'.config = h.config) : c.Agrees h' where
  character := character.trans own.character
  place := place.trans own.place
  characterKnown := by rw [config]; exact own.characterKnown
  areaKnown := by rw [config]; exact own.areaKnown

namespace Scene

theorem Alike.agrees {s t : Scene} (h : s.Alike t) (own : s.client.Agrees s.hall) :
    t.client.Agrees t.hall where
  character := by rw [h.roster, h.id, h.charId, own.character]
  place := by rw [h.presence, h.id, h.area, own.place]
  characterKnown := by rw [h.charId, h.config]; exact own.characterKnown
  areaKnown := by rw [h.area, h.config]; exact own.areaKnown

theorem agrees_showPose {s : Scene} (own : s.client.Agrees s.hall) (pose : Speech.Pose) :
    (s.showPose pose).client.Agrees (s.showPose pose).hall where
  character := by
    have character := own.character
    simp only [Court.Roster.charId?] at character
    simp [showPose, Court.Roster.charId?, Function.comp_def, character]
  place := own.place
  characterKnown := own.characterKnown
  areaKnown := own.areaKnown

theorem agrees_setCharacter {s : Scene} (own : s.client.Agrees s.hall) {charId : Int64}
    (known : charId = -1 ∨ (s.hall.config.character? charId).isSome) (pose : Speech.Pose) :
    (s.setCharacter charId pose).client.Agrees (s.setCharacter charId pose).hall where
  character := by
    obtain ⟨profile, found, -⟩ := Option.map_eq_some_iff.1 own.character
    simp [setCharacter, Court.Roster.charId?, found]
  place := own.place
  characterKnown := known
  areaKnown := own.areaKnown

theorem agrees_join {s : Scene} (own : s.client.Agrees s.hall) {area : Nat}
    (known : area < s.hall.config.areas.length) :
    (s.join area).client.Agrees (s.join area).hall where
  character := own.character
  place := by simp [join]
  characterKnown := own.characterKnown
  areaKnown i same := Option.some.inj same ▸ known

theorem agrees_releaseIfTaken {s : Scene} (own : s.client.Agrees s.hall) (area : Nat) :
    (s.releaseIfTaken area).client.Agrees (s.releaseIfTaken area).hall := by
  rcases s.releaseIfTaken_cases area with ⟨kept, -⟩ | released
  · rw [kept]
    exact own
  · exact released.agrees (agrees_setCharacter own (.inl rfl) {})

theorem Turned.agrees {s t : Scene} {p : Wire.Packet} (h : s.Turned p t)
    (own : s.client.Agrees s.hall) : t.client.Agrees t.hall := by
  cases h with
  | kept same => exact same.agrees own
  | posed m decoded same => exact same.agrees (agrees_showPose own _)
  | picked act decided same =>
    refine same.agrees (agrees_setCharacter own ?_ _)
    obtain ⟨-, ⟨watch, -⟩ | ⟨-, known, -⟩⟩ := Commands.Character.decide_eq_ok_iff.1 decided
    · exact .inl watch
    · exact .inr (by rw [known]; rfl)
  | entered index area known same =>
    refine same.agrees (agrees_join (agrees_releaseIfTaken own index) ?_)
    rw [(s.spares_releaseIfTaken index).config]
    exact (List.getElem?_eq_some_iff.1 known).1

/-- The turn of one client does not unsettle another. -/
theorem Spares.agrees {s t : Scene} (h : s.Spares t) {c : Client} (apart : c.id ≠ s.client.id)
    (other : c.Agrees s.hall) : c.Agrees t.hall :=
  other.transfer (congrArg _ (h.profile _ apart)) (h.place _ apart) h.config

end Scene

namespace Hall

theorem openSession_ok {h : Hall} {transport : Transport} {now : Nat} {v : Visit}
    (opened : h.openSession transport now = .ok v) :
    h.players < h.config.server.maxPlayers ∧
      v.hall.config = h.config ∧
      v.hall.court.roster = h.court.roster.enrol ∧
      v.hall.court.presence = h.court.presence ∧
      v.hall.court.mail =
        ((h.court.connect mailboxCapacity).post h.court.roster.nextId
          ((Wire.Packet.named "decryptor").nat 34).toWire).mail ∧
      v.session.client =
        { id := h.court.roster.nextId, transport, lastKeepalive := h.clock } := by
  unfold openSession at opened
  dsimp only at opened
  split at opened
  · cases opened
  next room =>
    cases opened
    exact ⟨Nat.lt_of_not_le room, rfl, rfl, rfl, rfl, rfl⟩

theorem metrics_openSession {h : Hall} {transport : Transport} {now : Nat} {v : Visit}
    (opened : h.openSession transport now = .ok v) :
    v.hall.metrics = (h.recordOpening transport).metrics := by
  unfold openSession at opened
  dsimp only at opened
  split at opened
  · cases opened
  · cases opened
    rfl

@[simp] theorem roster_endSession (h : Hall) (c : Client) :
    (h.endSession c).court.roster = h.court.roster.remove c.id := rfl

@[simp] theorem presence_endSession (h : Hall) (c : Client) :
    (h.endSession c).court.presence = h.court.presence.leave c.id := rfl

@[simp] theorem mail_endSession (h : Hall) (c : Client) :
    (h.endSession c).court.mail = h.court.mail.erase c.id := rfl

end Hall

namespace Gateway

/-- Who is on the roster after an arrival was there before, or has just come. -/
theorem find?_roster_arrive {g : Gateway} {transport : Transport} {now id : Nat}
    {profile : Court.Profile}
    (found : (g.arrive transport now).2.hall.court.roster.find? id = some profile) :
    profile = {} ∨ g.hall.court.roster.find? id = some profile := by
  unfold arrive at found
  cases opened : g.hall.openSession transport now with
  | error refusal =>
    rw [opened] at found
    exact .inr found
  | ok v =>
    obtain ⟨-, -, roster, -, -, -⟩ := Hall.openSession_ok opened
    simp only [opened, roster, Court.Roster.find?_enrol] at found
    split at found
    · exact .inl (Option.some.inj found).symm
    · exact .inr found

theorem find?_roster_depart {g : Gateway} {id i : Nat} {profile : Court.Profile}
    (found : (g.depart id).hall.court.roster.find? i = some profile) :
    g.hall.court.roster.find? i = some profile := by
  unfold depart at found
  cases live : g.sessions.find? id with
  | none =>
    rw [live] at found
    exact found
  | some session =>
    simp only [live, Hall.roster_endSession, Court.Roster.find?_remove] at found
    split at found
    · cases found
    · exact found

structure Coherent (g : Gateway) : Prop where
  builtin : g.handlers = .builtin
  consistent : g.hall.court.presence.Consistent
  fresh : ∀ id, g.hall.court.roster.contains id → id < g.hall.court.roster.nextId
  seated : ∀ id, g.hall.court.roster.contains id = g.sessions.contains id
  placed : ∀ id area, g.hall.court.presence.areaOf id = some area →
    g.hall.court.roster.contains id
  own : ∀ id session, g.sessions.find? id = some session →
    session.client.id = id ∧ session.client.Agrees g.hall

theorem ofConfig_ok {handlers : Handlers} {config : Config} {g : Gateway}
    (opened : Gateway.ofConfig handlers config = .ok g) :
    config.fault? = none ∧ g = { handlers, hall := { config } } := by
  unfold ofConfig Hall.ofConfig at opened
  cases valid : config.validate with
  | error fault => simp [valid, Except.map] at opened
  | ok config' =>
    obtain ⟨clean, rfl⟩ := Config.validate_eq_ok_iff.1 valid
    simp only [valid, Except.map, Except.ok.injEq] at opened
    exact ⟨clean, opened.symm⟩

/-- The gateway of a configuration before anyone arrives. -/
def unvisited (config : Config) : Gateway := { handlers := .builtin, hall := { config } }

theorem ofConfig_of_clean {config : Config} (clean : config.fault? = none) :
    Gateway.ofConfig .builtin config = .ok (unvisited config) := by
  have valid : config.validate = .ok config := Config.validate_eq_ok_iff.2 ⟨clean, rfl⟩
  rw [ofConfig, Hall.ofConfig, valid]
  rfl

/-- A text that is read as a configuration opens a gateway. -/
theorem ofConfig_of_ofYaml {text : String} {config : Config}
    (loaded : Config.ofYaml text = .ok config) :
    Gateway.ofConfig .builtin config = .ok (unvisited config) :=
  ofConfig_of_clean (Config.fault?_of_ofYaml loaded)

/-- A configuration with as little as there may be. -/
def lobby : Config where
  version := 1
  characters := ["Phoenix"]
  areas := [{ name := "Lobby" }]

/-- The gateway of `lobby` before anyone arrives. -/
def opening : Gateway := { handlers := .builtin, hall := { config := lobby } }

theorem ofConfig_lobby : Gateway.ofConfig .builtin lobby = .ok opening := rfl

/-- A configuration with areas to move between and characters to pair. -/
def courthouse : Config where
  version := 1
  characters := ["Phoenix", "Edgeworth"]
  music := ["Trial"]
  areas := [{ name := "Lobby" }, { name := "Courtroom" }]

/-- The gateway of `courthouse` before anyone arrives. -/
def doors : Gateway := { handlers := .builtin, hall := { config := courthouse } }

theorem ofConfig_courthouse : Gateway.ofConfig .builtin courthouse = .ok doors := rfl

/-- A client sends a text in one chunk, while the flood clock stands still. -/
def feeds (id : Nat) (text : String) : Event := .send id (fun _ => 0) (Text.Utf8.encode text)

theorem coherent_ofConfig {config : Config} {g : Gateway}
    (opened : Gateway.ofConfig .builtin config = .ok g) : g.Coherent := by
  obtain ⟨-, rfl⟩ := ofConfig_ok opened
  exact
    { builtin := rfl
      consistent := Court.Presence.consistent_empty
      fresh := nofun
      seated := fun id => rfl
      placed := nofun
      own := nofun }

/-- Mail, metrics and the clock do not matter. -/
theorem Coherent.inHall {g : Gateway} (h : g.Coherent) (hall : Hall)
    (roster : hall.court.roster = g.hall.court.roster)
    (presence : hall.court.presence = g.hall.court.presence)
    (config : hall.config = g.hall.config) : { g with hall }.Coherent where
  builtin := h.builtin
  consistent := presence ▸ h.consistent
  fresh := roster ▸ h.fresh
  seated := roster ▸ h.seated
  placed := by rw [roster, presence]; exact h.placed
  own i session live := by
    obtain ⟨named, agrees⟩ := h.own i session live
    exact ⟨named, agrees.transfer (by rw [roster]) (by rw [presence]) config⟩

/-- What spares the other clients and leaves the visited one in agreement keeps coherence. -/
theorem Coherent.after {g : Gateway} (h : g.Coherent) {id : Nat} {session : Session}
    (live : g.sessions.find? id = some session) {v : Visit}
    (spares : (g.visit session).scene.Spares v.scene)
    (agrees : v.session.client.Agrees v.hall) : (g.after id v).Coherent := by
  obtain ⟨own, -⟩ := h.own id session live
  have kept : v.session.client.id = id := spares.id.trans own
  constructor
  · exact h.builtin
  · exact spares.consistent h.consistent
  · intro i enrolled
    have before : g.hall.court.roster.contains i := spares.enrolled i ▸ enrolled
    exact spares.nextId ▸ h.fresh i before
  · intro i
    exact (spares.enrolled i).trans ((h.seated i).trans (contains_after live v i).symm)
  · intro i area there
    refine (spares.enrolled i).trans ?_
    by_cases same : i = id
    · rw [same]
      refine (h.seated id).trans ?_
      rw [Table.contains, live]
      rfl
    · exact h.placed i area ((spares.place i (own.symm ▸ same)).symm.trans there)
  · intro i other found
    rw [find?_after] at found
    split at found
    next same =>
      cases found
      exact ⟨kept.trans same.symm, agrees⟩
    next apart =>
      obtain ⟨named, settled⟩ := h.own i other found
      exact ⟨named, spares.agrees (named.trans_ne (own.symm ▸ apart)) settled⟩

theorem Coherent.arrive {g : Gateway} (h : g.Coherent) (transport : Transport) (now : Nat) :
    (g.arrive transport now).2.Coherent := by
  unfold Gateway.arrive
  cases opened : g.hall.openSession transport now with
  | error refusal => exact h
  | ok v =>
    obtain ⟨-, config, roster, presence, -, client⟩ := Hall.openSession_ok opened
    have id : v.session.client.id = g.hall.court.roster.nextId := by rw [client]
    have unseated : ¬ g.hall.court.roster.contains v.session.client.id := fun seated =>
      Nat.lt_irrefl _ (id ▸ h.fresh _ seated)
    have nowhere : g.hall.court.presence.areaOf g.hall.court.roster.nextId = none := by
      rw [Option.eq_none_iff_forall_ne_some]
      intro area there
      exact unseated (id ▸ h.placed _ area there)
    constructor
    · exact h.builtin
    · exact presence ▸ h.consistent
    · intro i enrolled
      simp only [roster, Court.Roster.contains, Court.Roster.find?_enrol] at enrolled
      simp only [roster, Court.Roster.enrol]
      split at enrolled
      next same => omega
      next => exact Nat.lt_succ_of_lt (h.fresh i enrolled)
    · intro i
      have seated := h.seated i
      simp only [roster, id, Court.Roster.contains, Table.contains, Court.Roster.find?_enrol,
        Table.find?_insert] at seated ⊢
      split
      · rfl
      · exact seated
    · intro i area there
      rw [presence] at there
      have seated := h.placed i area there
      simp only [roster, Court.Roster.contains, Court.Roster.find?_enrol] at seated ⊢
      split
      · rfl
      · exact seated
    · intro i session found
      simp only [Table.find?_insert] at found
      split at found
      next same =>
        cases found
        refine ⟨same.symm, ?_, ?_, ?_, ?_⟩
        · simp [client, roster, Court.Roster.charId?]
        · rw [presence, client]
          exact nowhere
        · exact .inl (by rw [client])
        · intro area there
          rw [client] at there
          cases there
      next apart =>
        obtain ⟨named, agrees⟩ := h.own i session found
        refine ⟨named, agrees.transfer ?_ (by rw [presence]) config⟩
        have apart : session.client.id ≠ g.hall.court.roster.nextId := by rwa [named, ← id]
        simp only [roster, Court.Roster.charId?, Court.Roster.find?_enrol, apart, if_false]

theorem Coherent.depart {g : Gateway} (h : g.Coherent) (id : Nat) : (g.depart id).Coherent := by
  unfold Gateway.depart
  cases live : g.sessions.find? id with
  | none => exact h
  | some session =>
    obtain ⟨named, -⟩ := h.own id session live
    have roster := g.hall.roster_endSession session.client
    have presence := g.hall.presence_endSession session.client
    rw [named] at roster presence
    constructor
    · exact h.builtin
    · rw [presence]
      exact h.consistent.leave id
    · intro i enrolled
      simp only [roster, Court.Roster.contains, Court.Roster.find?_remove] at enrolled
      split at enrolled
      · cases enrolled
      · exact h.fresh i enrolled
    · intro i
      have seated := h.seated i
      simp only [roster, Court.Roster.contains, Table.contains, Court.Roster.find?_remove,
        Table.find?_erase] at seated ⊢
      split
      · rfl
      · exact seated
    · intro i area there
      simp only [roster, presence, Court.Roster.contains, Court.Roster.find?_remove,
        Court.Presence.areaOf_leave] at there ⊢
      split at there
      · cases there
      next apart =>
        rw [if_neg apart]
        exact h.placed i area there
    · intro i other found
      simp only [Table.find?_erase] at found
      split at found
      · cases found
      next apart =>
        obtain ⟨own, agrees⟩ := h.own i other found
        have apart : other.client.id ≠ id := own.trans_ne apart
        refine ⟨own, agrees.transfer ?_ ?_ rfl⟩
        · simp only [roster, Court.Roster.charId?, Court.Roster.find?_remove, apart, if_false]
        · rw [presence, Court.Presence.areaOf_leave, if_neg apart]

theorem Coherent.step {admits : Scene → Wire.Packet → Prop} {g g' : Gateway} (h : g.Coherent)
    (step : Step admits g g') : g'.Coherent := by
  cases step with
  | arrive transport now => exact h.arrive transport now
  | depart id => exact h.depart id
  | @tend id session live framer bucket =>
    obtain ⟨-, agrees⟩ := h.own id session live
    exact h.after live (Scene.Alike.refl _).spares agrees
  | @overflow id session live =>
    obtain ⟨-, agrees⟩ := h.own id session live
    have same : (g.visit session).scene.Alike (g.visit session).recordOverflow.scene :=
      ⟨rfl, rfl, rfl, rfl, rfl, rfl, rfl⟩
    exact h.after live same.spares (same.agrees agrees)
  | @drop id session live =>
    obtain ⟨-, agrees⟩ := h.own id session live
    have same : (g.visit session).scene.Alike (g.visit session).recordDrop.scene :=
      ⟨rfl, rfl, rfl, rfl, rfl, rfl, rfl⟩
    exact h.after live same.spares (same.agrees agrees)
  | @turn id session live message p parsed admitted =>
    obtain ⟨-, agrees⟩ := h.own id session live
    rw [h.builtin]
    have turned := (g.visit session).scene.turned_dispatch p
    exact h.after live turned.spares (turned.agrees agrees)
  | collect id => exact h.inHall _ rfl rfl rfl
  | wait milliseconds => exact h.inHall _ rfl rfl rfl

/-- What every step from a coherent gateway keeps, any number of steps keeps. -/
theorem Leads.keeps_of_coherent {admits : Scene → Wire.Packet → Prop} (holds : Gateway → Prop)
    (step : ∀ g h, g.Coherent → holds g → Step admits g h → holds h) {g h : Gateway}
    (coherent : g.Coherent) (start : holds g) (leads : Leads admits g h) :
    h.Coherent ∧ holds h :=
  leads.keeps (fun g => g.Coherent ∧ holds g)
    (fun _ _ held next => ⟨held.1.step next, step _ _ held.1 held.2 next⟩) ⟨coherent, start⟩

end Gateway
end CourtroomGateway
