import CourtroomGateway.Proofs.Gateway.Reciprocity

/-! When a speaker is heard. A message that can be read, from a client who is in an area and plays
the character that it speaks for, at no great length, goes out as it is paired in the state before
it, and may change what its speaker shows. If one of these fails nothing that others can see
happens, and still nothing is refused. The dialect of a message that can be read is remembered in
either case. -/

namespace CourtroomGateway

theorem Speech.Message.commitsPose_iff {m : Message} :
    m.commitsPose ↔ m.emoteMod ∈ ([0, 1, 2, 5, 6] : List Int64) := by
  rw [commitsPose, List.contains_iff_mem, committing]

/-- The packet holds a message that the client may send to the area it is in. -/
structure Client.Heard (c : Client) (p : Wire.Packet) (area : Nat) (m : Speech.Message) :
    Prop where
  decoded : Speech.decode p.args = .ok m
  here : c.area = some area
  plays : 0 ≤ c.charId
  own : m.cid = c.charId
  brief : m.text.length ≤ 256

theorem Client.Heard.permitted {c : Client} {p : Wire.Packet} {area : Nat} {m : Speech.Message}
    (h : c.Heard p area m) : Commands.Speaking.permits c m :=
  Commands.Speaking.permits_iff.2 ⟨h.plays, h.own, h.brief⟩

namespace Commands.Speaking
variable {s : Scene} {p : Wire.Packet}

theorem judge_spoken_iff_heard {area : Nat} {m : Speech.Message} :
    judge s p = .spoken area m ↔ s.client.Heard p area m := by
  rw [judge_spoken_iff]
  constructor
  · rintro ⟨decoded, here, permitted⟩
    obtain ⟨plays, own, brief⟩ := permits_iff.1 permitted
    exact ⟨decoded, here, plays, own, brief⟩
  · exact fun heard => ⟨heard.decoded, heard.here, heard.permitted⟩

theorem court_perform_of_unheard (unheard : ∀ area m, ¬ s.client.Heard p area m) :
    (perform (judge s p) s).hall.court = s.hall.court := by
  cases judged : judge s p with
  | unread error => rfl
  | silent m => rfl
  | spoken area m => exact absurd (judge_spoken_iff_heard.1 judged) (unheard area m)

theorem client_commitPose (s : Scene) (m : Speech.Message) :
    (commitPose s m).client = s.client := by
  unfold commitPose
  split <;> rfl

/-- The dialect of what could be read is remembered, whatever becomes of it. -/
theorem client_perform (s : Scene) (p : Wire.Packet) :
    (perform (judge s p) s).client =
      match Speech.decode p.args with
      | .ok m => { s.client with dialect := some m.dialect }
      | .error _ => s.client := by
  cases decoded : Speech.decode p.args with
  | error e =>
    have judged : judge s p = .unread e := by rw [judge, decoded]
    rw [judged]
    rfl
  | ok m =>
    have judged : judge s p = .silent m ∨ ∃ area, judge s p = .spoken area m := by
      simp only [judge, decoded]
      split
      · exact .inl rfl
      split
      · exact .inr ⟨_, rfl⟩
      · exact .inl rfl
    rcases judged with judged | ⟨area, judged⟩
    · rw [judged]
      rfl
    · rw [judged]
      exact client_commitPose (note s m) m

end Commands.Speaking

namespace Scene

/-- Whatever comes under the command for speech is judged. -/
theorem request_speech {p : Wire.Packet} (command : p.command = "MS") (s : Scene) :
    s.request p = .ok (.speaking (Commands.Speaking.judge s p)) :=
  request_eq_ok_iff.2 ⟨command, rfl⟩

theorem dispatch_speech {p : Wire.Packet} (command : p.command = "MS") (s : Scene) :
    Handlers.builtin.dispatch s p =
      ⟨Handlers.recordDuration p.command s.hall.clock
        (Commands.Speaking.perform (Commands.Speaking.judge s p) s), .done⟩ := by
  rw [Handlers.dispatch_builtin, request_speech command]
  rfl

/-- What speech does to the roster: the message's pose is shown, if the message changes what is
shown. -/
theorem roster_spoken (s : Scene) (area : Nat) (m : Speech.Message) :
    (Commands.Speaking.perform (.spoken area m) s).hall.court.roster =
      if m.commitsPose then s.hall.court.roster.setPose s.client.id (.ofMessage m)
      else s.hall.court.roster := by
  split
  next commits => exact (alike_spoken_of_commits commits s area).roster
  next quiet => exact (alike_spoken quiet s area).roster

theorem presence_spoken (s : Scene) (area : Nat) (m : Speech.Message) :
    (Commands.Speaking.perform (.spoken area m) s).hall.court.presence =
      s.hall.court.presence := by
  by_cases commits : m.commitsPose
  · exact (alike_spoken_of_commits commits s area).presence
  · exact (alike_spoken commits s area).presence

end Scene

namespace Gateway

/-- What becomes of a message that is heard: it is broadcast in the area with the companions that
the state before it gives, its speaker shows the pose of the message or what it showed before, and
nobody moves, changes its character or shows anything else. -/
structure Voiced (g : Gateway) (session : Session) (area : Nat) (m : Speech.Message) (c : Court) :
    Prop where
  published : g.Delivered area
    (m.broadcast (m.pair ⟨session.client.id, session.client.charId⟩
      (g.hall.court.candidates area session.client.id))).toWire c
  posed : ∃ profile, g.hall.court.roster.find? session.client.id = some profile ∧
    c.roster.find? session.client.id =
      some
        { profile with
          pose :=
            if m.emoteMod ∈ ([0, 1, 2, 5, 6] : List Int64) then .ofMessage m
            else profile.pose }
  others : ∀ i, i ≠ session.client.id → c.roster.find? i = g.hall.court.roster.find? i
  characters : ∀ i, c.roster.charId? i = g.hall.court.roster.charId? i
  presence : c.presence = g.hall.court.presence

theorem Coherent.voiced {g : Gateway} (h : g.Coherent) {id : Nat} {session : Session}
    (live : g.sessions.find? id = some session) {p : Wire.Packet} (command : p.command = "MS")
    {area : Nat} {m : Speech.Message} (heard : session.client.Heard p area m) :
    g.Voiced session area m (g.courtAfter session p) := by
  obtain ⟨rfl, agrees⟩ := h.own id session live
  have judged := Commands.Speaking.judge_spoken_iff_heard (s := (g.visit session).scene).2 heard
  have court : g.courtAfter session p =
      (Commands.Speaking.perform (.spoken area m) (g.visit session).scene).hall.court := by
    rw [courtAfter, h.builtin, Scene.dispatch_speech command, judged]
    rfl
  have roster := Scene.roster_spoken (g.visit session).scene area m
  rw [← court] at roster
  constructor
  · exact h.delivered
      (.speech command heard.here heard.decoded heard.plays heard.own heard.brief)
  · obtain ⟨profile, found, -⟩ := Option.map_eq_some_iff.1 agrees.character
    refine ⟨profile, found, ?_⟩
    rw [roster]
    by_cases commits : m.commitsPose
    · rw [if_pos commits, if_pos (Speech.Message.commitsPose_iff.1 commits)]
      refine (Court.Roster.find?_setPose _ _ _ _).trans ((if_pos rfl).trans ?_)
      exact Option.map_eq_some_iff.2 ⟨profile, found, rfl⟩
    · rw [if_neg commits, if_neg (mt Speech.Message.commitsPose_iff.2 commits)]
      exact found
  · intro i apart
    rw [roster]
    split
    · exact (Court.Roster.find?_setPose _ _ _ _).trans (if_neg apart)
    · rfl
  · intro i
    rw [roster]
    split
    · exact Court.Roster.charId?_setPose _ _ _ _
    · rfl
  · rw [court]
    exact Scene.presence_spoken _ _ _

/-- In every state that can be reached, a packet under the command for speech is never refused. If
its message is heard, the message is voiced; if not, the court is left as it was. Of the client's
own record only the dialect may change, to that of the message, if there is one. -/
theorem speech_exact {config : Config} {g : Gateway} (reached : Reached config g) {id : Nat}
    {session : Session} (live : g.sessions.find? id = some session) {p : Wire.Packet}
    (command : p.command = "MS") :
    (g.handlers.dispatch (g.visit session).scene p).outcome = .done ∧
      (∀ area m, session.client.Heard p area m →
        g.Voiced session area m (g.courtAfter session p)) ∧
      ((∀ area m, ¬ session.client.Heard p area m) →
        g.courtAfter session p = g.hall.court) ∧
      (g.handlers.dispatch (g.visit session).scene p).scene.client =
        match Speech.decode p.args with
        | .ok m => { session.client with dialect := some m.dialect }
        | .error _ => session.client := by
  obtain ⟨coherent, -⟩ := reached.sound
  have dispatched := Scene.dispatch_speech command (g.visit session).scene
  rw [← coherent.builtin] at dispatched
  refine ⟨?_, fun area m heard => coherent.voiced live command heard, fun unheard => ?_, ?_⟩
  · rw [dispatched]
  · rw [courtAfter, dispatched]
    exact Commands.Speaking.court_perform_of_unheard unheard
  · rw [dispatched]
    exact Commands.Speaking.client_perform _ p

/-- Speech of the second client for the first one's character. -/
def usurped : Speech.Message := { aside with cid := 0 }

theorem speech_exact_rehearsal :
    Reached courthouse rehearsal ∧ ∃ session, rehearsal.sessions.find? 1 = some session ∧
      session.client.Heard ⟨"MS", aside.render⟩ 0 aside ∧
      rehearsal.Voiced session 0 aside (rehearsal.courtAfter session ⟨"MS", aside.render⟩) ∧
      (rehearsal.courtAfter session ⟨"MS", aside.render⟩).roster.find? 1 =
        some ⟨1, .ofMessage rejoinder⟩ ∧
      (∀ area m, ¬ session.client.Heard ⟨"MS", usurped.render⟩ area m) ∧
      rehearsal.courtAfter session ⟨"MS", usurped.render⟩ = rehearsal.hall.court := by
  have reached : Reached courthouse rehearsal := reached_run ofConfig_courthouse _
  have evaluated : ((rehearsal.sessions.find? 1).map fun session =>
      (session.client.area, session.client.charId,
        (rehearsal.courtAfter session ⟨"MS", aside.render⟩).roster.find? 1)) =
      some (some 0, 1, some ⟨1, .ofMessage rejoinder⟩) := by
    decide +kernel
  obtain ⟨session, live, all⟩ := Option.map_eq_some_iff.1 evaluated
  obtain ⟨here, rest⟩ := Prod.mk.inj all
  obtain ⟨character, shown⟩ := Prod.mk.inj rest
  have heard : session.client.Heard ⟨"MS", aside.render⟩ 0 aside :=
    { decoded := by decide +kernel
      here
      plays := character ▸ by decide
      own := character ▸ rfl
      brief := by decide }
  have unheard : ∀ area m, ¬ session.client.Heard ⟨"MS", usurped.render⟩ area m := by
    intro area m heard
    have decoded : Speech.decode usurped.render = .ok usurped := by decide +kernel
    obtain rfl := Except.ok.inj (heard.decoded.symm.trans decoded)
    have own := heard.own
    rw [character] at own
    exact absurd own (by decide)
  obtain ⟨-, voiced, -, -⟩ := speech_exact reached live (p := ⟨"MS", aside.render⟩) rfl
  obtain ⟨-, -, dropped, -⟩ := speech_exact reached live (p := ⟨"MS", usurped.render⟩) rfl
  exact ⟨reached, session, live, heard, voiced 0 aside heard, shown, unheard, dropped unheard⟩

end Gateway
end CourtroomGateway
