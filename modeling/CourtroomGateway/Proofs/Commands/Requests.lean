import CourtroomGateway.Commands.Dispatch

/-! What the built-in handlers are asked for. A packet is refused or asks for one request; what is
known of the scene when it is granted is said here once for each rule, and dispatch grants a
request by performing it and counting it. -/

namespace CourtroomGateway

namespace Commands

theorem Joining.decide_enter {s : Scene} {p : Wire.Packet} {area : Area}
    (h : Joining.decide s p = .ok (.enter area)) : s.hall.config.areas[0]? = some area := by
  unfold Joining.decide at h
  grind

theorem Joining.decide_enter_iff {s : Scene} {p : Wire.Packet} {area : Area} :
    Joining.decide s p = .ok (.enter area) ↔
      p.command = "RD" ∧ s.hall.config.areas[0]? = some area := by
  constructor
  · intro decided
    refine ⟨?_, decide_enter decided⟩
    unfold Joining.decide at decided
    grind
  · rintro ⟨command, known⟩
    rw [← List.head?_eq_getElem?] at known
    obtain ⟨later, areas⟩ := List.head?_eq_some_iff.1 known
    simp only [Joining.decide, command, areas]

theorem Character.decide_eq_ok_iff {s : Scene} {p : Wire.Packet} {act : CharacterAct} :
    Character.decide s p = .ok act ↔
      p.args[1]?.bind Text.integer? = some act.charId ∧
        (act.charId = -1 ∧ act.folder = "" ∨
          act.charId ≠ -1 ∧ s.hall.config.character? act.charId = some act.folder ∧
            ∀ area, s.client.area = some area → ¬ s.taken area act.charId) := by
  obtain ⟨picked, folder⟩ := act
  unfold Character.decide
  cases p.args[1]?.bind Text.integer? with
  | none => simp
  | some charId =>
    by_cases same : charId = picked
    · subst same
      by_cases watch : charId = -1
      · grind
      · cases found : s.hall.config.character? charId with
        | none => simp [watch, found]
        | some named =>
          cases s.client.area with
          | none => simp [watch, found]
          | some area => by_cases held : s.taken area charId <;> simp [watch, found, held]
    · simp only [Option.some.injEq, same, false_and, iff_false]
      grind

theorem Chatting.decide_eq_ok_iff {s : Scene} {p : Wire.Packet} {act : ChattingAct} :
    Chatting.decide s p = .ok act ↔
      s.client.area = some act.area ∧ act.name = Text.trim (p.args[0]?.getD "") ∧
        act.text = Text.trim (p.args[1]?.getD "") ∧ act.name ≠ "" ∧ act.text ≠ "" := by
  unfold Chatting.decide
  cases s.client.area with
  | none => simp
  | some area =>
    dsimp only
    obtain ⟨place, name, text⟩ := act
    split
    next incomplete => simp; grind
    next complete => simp; grind

/-- Only the name of an area that the client is not in moves it. -/
theorem Music.decide_move_iff {s : Scene} {p : Wire.Packet} {index : Nat} {area : Area} :
    Music.decide s p = .ok (.move index area) ↔
      (∃ name, p.args.head?.map Wire.unescape = some name ∧
        s.hall.config.areaIndex? name = some index) ∧
        s.hall.config.areas[index]? = some area ∧ s.client.area ≠ some index := by
  unfold Music.decide
  cases p.args with
  | nil => simp
  | cons raw rest =>
    simp only [List.head?_cons, Option.map_some, Option.some.injEq, exists_eq_left']
    cases found : s.hall.config.areaIndex? (Wire.unescape raw) with
    | none =>
      simp only [reduceCtorEq, false_and, iff_false]
      split
      · nofun
      split
      · nofun
      split <;> nofun
    | some i =>
      rw [Option.some.injEq]
      dsimp only
      split
      next here =>
        refine ⟨nofun, ?_⟩
        rintro ⟨rfl, -, outside⟩
        exact absurd here outside
      next outside =>
        constructor
        · intro decided
          split at decided
          next => cases decided
          next known =>
            cases decided
            exact ⟨rfl, known, outside⟩
        · rintro ⟨rfl, known, -⟩
          rw [known]

theorem Music.decide_move {s : Scene} {p : Wire.Packet} {index : Nat} {area : Area}
    (h : Music.decide s p = .ok (.move index area)) : s.hall.config.areas[index]? = some area :=
  (decide_move_iff.1 h).2.1

/-- Where a client may go depends on the configuration and on the client alone. -/
theorem Music.decide_congr {s t : Scene} (config : s.hall.config = t.hall.config)
    (client : s.client = t.client) (p : Wire.Packet) : Music.decide s p = Music.decide t p := by
  unfold Music.decide
  rw [config, client]

theorem Music.decide_play_iff {s : Scene} {p : Wire.Packet} {area : Nat}
    {track showname : String} :
    Music.decide s p = .ok (.play area track showname) ↔
      p.args.head?.map Wire.unescape = some track ∧ s.hall.config.areaIndex? track = none ∧
        track ∈ s.hall.config.music ∧ s.client.area = some area ∧ ¬ s.client.isSpectator ∧
        showname = p.args[2]?.getD "" := by
  unfold Music.decide
  cases p.args with
  | nil => simp
  | cons raw rest => grind

/-- A name that no area has moves nobody. -/
theorem Music.decide_of_missing {s : Scene} {p : Wire.Packet} {raw : String} {act : MusicAct}
    (sent : p.args.head? = some raw)
    (missing : s.hall.config.areaIndex? (Wire.unescape raw) = none)
    (decided : decide s p = .ok act) : ∃ area track showname, act = .play area track showname := by
  obtain ⟨rest, args⟩ := List.head?_eq_some_iff.1 sent
  simp only [decide, args, missing] at decided
  grind

theorem Speaking.judge_spoken_iff {s : Scene} {p : Wire.Packet} {area : Nat}
    {m : Speech.Message} :
    Speaking.judge s p = .spoken area m ↔
      Speech.decode p.args = .ok m ∧ s.client.area = some area ∧ Speaking.permits s.client m := by
  unfold Speaking.judge
  grind

end Commands

/-- What a packet may ask the built-in handlers for. -/
inductive Request
  | joining (act : Commands.JoiningAct)
  | character (act : Commands.CharacterAct)
  | speaking (act : Commands.SpeakingAct)
  | chatting (act : Commands.ChattingAct)
  | music (act : Commands.MusicAct)
deriving DecidableEq

def Request.perform : Request → Scene → Scene
  | joining act => Commands.joining.perform act
  | character act => Commands.character.perform act
  | speaking act => Commands.speaking.perform act
  | chatting act => Commands.chatting.perform act
  | music act => Commands.music.perform act

/-- What the packet asks for, if it is granted. -/
def Scene.request (s : Scene) (p : Wire.Packet) : Except Refusal Request :=
  if p.command = "MC" then (Commands.music.decide s p).map .music
  else if p.command = "CT" then (Commands.chatting.decide s p).map .chatting
  else if p.command = "MS" then (Commands.speaking.decide s p).map .speaking
  else if p.command = "CC" then (Commands.character.decide s p).map .character
  else if p.command ∈ Handlers.joiningCommands then (Commands.joining.decide s p).map .joining
  else .error (.unknownCommand p.command)

/-- The request is one that a rule decided on for a packet of its command. -/
def Request.Decided (s : Scene) (p : Wire.Packet) : Request → Prop
  | joining act => p.command ∈ Handlers.joiningCommands ∧ Commands.Joining.decide s p = .ok act
  | character act => p.command = "CC" ∧ Commands.Character.decide s p = .ok act
  | speaking act => p.command = "MS" ∧ Commands.Speaking.judge s p = act
  | chatting act => p.command = "CT" ∧ Commands.Chatting.decide s p = .ok act
  | music act => p.command = "MC" ∧ Commands.Music.decide s p = .ok act

theorem Except.map_eq_ok_iff {ε α β : Type} {f : α → β} {x : Except ε α} {b : β} :
    x.map f = .ok b ↔ ∃ a, x = .ok a ∧ f a = b := by
  cases x <;> simp [Except.map]

theorem Scene.decided_of_request {s : Scene} {p : Wire.Packet} {request : Request}
    (h : s.request p = .ok request) : request.Decided s p := by
  unfold Scene.request at h
  split at h
  next command =>
    obtain ⟨act, decided, rfl⟩ := Except.map_eq_ok_iff.1 h
    exact ⟨command, decided⟩
  split at h
  next command =>
    obtain ⟨act, decided, rfl⟩ := Except.map_eq_ok_iff.1 h
    exact ⟨command, decided⟩
  split at h
  next command =>
    obtain ⟨act, decided, rfl⟩ := Except.map_eq_ok_iff.1 h
    exact ⟨command, Except.ok.inj decided⟩
  split at h
  next command =>
    obtain ⟨act, decided, rfl⟩ := Except.map_eq_ok_iff.1 h
    exact ⟨command, decided⟩
  split at h
  next command =>
    obtain ⟨act, decided, rfl⟩ := Except.map_eq_ok_iff.1 h
    exact ⟨command, decided⟩
  · cases h

theorem Scene.request_eq_ok_iff {s : Scene} {p : Wire.Packet} {request : Request} :
    s.request p = .ok request ↔ request.Decided s p := by
  refine ⟨decided_of_request, fun decided => ?_⟩
  have apart : ∀ command ∈ Handlers.joiningCommands,
      command ≠ "MC" ∧ command ≠ "CT" ∧ command ≠ "MS" ∧ command ≠ "CC" := by decide
  unfold Scene.request
  cases request with
  | joining act =>
    obtain ⟨command, decided⟩ := decided
    obtain ⟨music, chatting, speaking, character⟩ := apart _ command
    simp only [music, chatting, speaking, character, command, if_true, if_false]
    exact Except.map_eq_ok_iff.2 ⟨act, decided, rfl⟩
  | character act =>
    obtain ⟨command, decided⟩ := decided
    simp only [command]
    exact Except.map_eq_ok_iff.2 ⟨act, decided, rfl⟩
  | speaking act =>
    obtain ⟨command, rfl⟩ := decided
    simp only [command]
    rfl
  | chatting act =>
    obtain ⟨command, decided⟩ := decided
    simp only [command]
    exact Except.map_eq_ok_iff.2 ⟨act, decided, rfl⟩
  | music act =>
    obtain ⟨command, decided⟩ := decided
    simp only [command]
    exact Except.map_eq_ok_iff.2 ⟨act, decided, rfl⟩

namespace Handlers

theorem find?_register (hs : Handlers) (commands : List String) (handler : Handler)
    (command : String) :
    (hs.register commands handler).table.find? command =
      if command ∈ commands then some handler else hs.table.find? command := by
  induction commands generalizing hs with
  | nil => rfl
  | cons first commands ih =>
    have tail := ih ⟨hs.table.insert first handler⟩
    rw [register, List.foldl_cons]
    refine tail.trans ?_
    rw [Table.find?_insert]
    by_cases here : command ∈ commands <;> by_cases same : command = first <;> simp [here, same]

theorem find?_builtin (command : String) :
    builtin.table.find? command =
      if command = "MC" then some Commands.music.handle
      else if command = "CT" then some Commands.chatting.handle
      else if command = "MS" then some Commands.speaking.handle
      else if command = "CC" then some Commands.character.handle
      else if command ∈ joiningCommands then some Commands.joining.handle
      else none := by
  simp only [builtin, find?_register, List.mem_singleton]
  rfl

/-- The scene after a refusal differs from the one before it in the metrics alone. -/
def refuse (s : Scene) (p : Wire.Packet) (refusal : Refusal) : Scene :=
  if builtin.table.contains p.command then
    recordFault p.command refusal.toFault (recordDuration p.command s.hall.clock s)
  else recordUnknown s

/-- How the request of a packet, or its refusal, is answered. -/
def answer (s : Scene) (p : Wire.Packet) : Except Refusal Request → Reaction
  | .error refusal => ⟨refuse s p refusal, .refused refusal.toFault⟩
  | .ok request => ⟨recordDuration p.command s.hall.clock (request.perform s), .done⟩

theorem dispatch_of_rule {α : Type} {rule : Rule α} {wrap : α → Request} {s : Scene}
    {p : Wire.Packet} (found : builtin.table.find? p.command = some rule.handle)
    (performs : ∀ act, (wrap act).perform s = rule.perform act s) :
    builtin.dispatch s p = answer s p ((rule.decide s p).map wrap) := by
  have known : builtin.table.contains p.command := by rw [Table.contains, found]; rfl
  rw [dispatch, found]
  cases decided : rule.decide s p with
  | error refusal =>
    simp only [Rule.handle_of_error decided, Except.map, answer, refuse, known, if_true]
  | ok act => simp only [Rule.handle_of_ok decided, Except.map, answer, performs]

theorem dispatch_of_unknown {s : Scene} {p : Wire.Packet}
    (missing : builtin.table.find? p.command = none) :
    builtin.dispatch s p = answer s p (.error (.unknownCommand p.command)) := by
  have unknown : ¬ builtin.table.contains p.command := by simp [Table.contains, missing]
  rw [dispatch, missing, answer, refuse, if_neg unknown]

/-- The built-in handlers refuse a packet or perform the request it makes. -/
theorem dispatch_builtin (s : Scene) (p : Wire.Packet) :
    builtin.dispatch s p = answer s p (s.request p) := by
  have found := find?_builtin p.command
  unfold Scene.request
  by_cases music : p.command = "MC"
  · rw [if_pos music] at found ⊢
    exact dispatch_of_rule found fun _ => rfl
  rw [if_neg music] at found ⊢
  by_cases chatting : p.command = "CT"
  · rw [if_pos chatting] at found ⊢
    exact dispatch_of_rule found fun _ => rfl
  rw [if_neg chatting] at found ⊢
  by_cases speaking : p.command = "MS"
  · rw [if_pos speaking] at found ⊢
    exact dispatch_of_rule found fun _ => rfl
  rw [if_neg speaking] at found ⊢
  by_cases character : p.command = "CC"
  · rw [if_pos character] at found ⊢
    exact dispatch_of_rule found fun _ => rfl
  rw [if_neg character] at found ⊢
  by_cases joining : p.command ∈ joiningCommands
  · rw [if_pos joining] at found ⊢
    exact dispatch_of_rule found fun _ => rfl
  rw [if_neg joining] at found ⊢
  exact dispatch_of_unknown found

end Handlers
end CourtroomGateway
