import CourtroomGateway.Proofs.Gateway.Reciprocity
import Mathlib.Data.List.Find

/-! The choice of companions. The first candidate that qualifies is taken, and still the order of
the candidates does not matter. Whoever qualifies plays the character that the speaker declares,
and no two clients of an area play the same one, so at most one candidate qualifies. Those who
watch have no character that could be declared. -/

namespace CourtroomGateway

namespace Speech

section Order
variable {cs cs' : List Candidate} (perm : cs'.Perm cs) (distinct : Distinct cs)
include perm distinct

theorem findCompanion_perm (target : Int64) (me : Speaker) (pos : String) :
    findCompanion target me pos cs' = findCompanion target me pos cs := by
  refine congrArg (Option.map Companion.of) (List.find?_eq_find?_of_perm perm ?_)
  rintro c ⟨listed, qualifies⟩ d ⟨listed', qualifies'⟩
  have partners := Candidate.eligible_iff.1 qualifies
  have partners' := Candidate.eligible_iff.1 qualifies'
  exact distinct c (perm.mem_iff.1 listed) d (perm.mem_iff.1 listed')
    (partners.plays ▸ partners.declared) (partners.plays.trans partners'.plays.symm)

theorem pair_perm (m : Message) (me : Speaker) : m.pair me cs' = m.pair me cs := by
  simp only [Message.pair, findCompanion_perm perm distinct]

end Order

/-- The two slots are never filled for the same character. -/
theorem target_ne_of_third {m : Message} {me : Speaker} {cs : List Candidate} {c : Companion}
    (confirmed : Slot.third.companion (m.pair me cs) = some c) :
    Slot.third.target m ≠ Slot.primary.target m := by
  intro same
  simp only [Slot.target] at same
  simp only [Slot.companion, Message.pair, same, if_true] at confirmed
  split at confirmed
  · cases confirmed
  · cases confirmed

end Speech

namespace Court

/-- In the area this client and nobody else has the character. -/
structure OnlyHas (c : Court) (area id : Nat) (charId : Int64) : Prop where
  there : id ∈ c.presence.clientsIn area
  holds : c.roster.charId? id = some charId
  only : ∀ i ∈ c.presence.clientsIn area, c.roster.charId? i = some charId → i = id

end Court

namespace Gateway
open Speech (Slot Companion)

theorem onlyHas_of_confirmed {g : Gateway} (coherent : g.Coherent)
    (exclusive : g.hall.court.Exclusive) {session : Session} {area : Nat} {m : Speech.Message}
    {slot : Slot} {c : Companion}
    (confirmed :
      slot.companion (Commands.Speaking.pairing (g.visit session).scene area m) = some c) :
    g.hall.court.OnlyHas area c.clientId (slot.target m) := by
  obtain ⟨-, beside, holds, target⟩ := beside_of_confirmed coherent confirmed
  have there := (coherent.consistent.mem_clientsIn area c.clientId).2 beside
  have plays : 0 ≤ slot.target m := by
    obtain ⟨-, d, -, partners, -⟩ := Slot.exists_candidate confirmed
    exact partners.declared
  rw [target] at holds
  refine ⟨there, holds, fun i there' holds' => ?_⟩
  by_contra apart
  exact exclusive area i c.clientId _ apart there' there plays holds' holds

/-- In every state that can be reached, the companions of a message that is broadcast are the same
in whatever order the other clients of the area are looked at. A companion is the only client of
the area with the character that the message declares, and the two slots are filled by two
clients. -/
theorem companions_unambiguous {config : Config} {g : Gateway} (reached : Reached config g)
    {id : Nat} {session : Session} (live : g.sessions.find? id = some session)
    {p : Wire.Packet} {area : Nat} {m : Speech.Message}
    (speaks : (g.visit session).scene.Speaks p area m) :
    (∀ cs : List Speech.Candidate, cs.Perm (g.hall.court.candidates area id) →
      (g.visit session).scene.relay? p =
          some (area, m.broadcast (m.pair ⟨id, session.client.charId⟩ cs)) ∧
        m.pair ⟨id, session.client.charId⟩ cs =
          Commands.Speaking.pairing (g.visit session).scene area m) ∧
      (∀ (slot : Slot) (c : Companion),
        slot.companion (Commands.Speaking.pairing (g.visit session).scene area m) = some c →
        g.hall.court.OnlyHas area c.clientId (slot.target m)) ∧
      ∀ c d : Companion,
        Slot.primary.companion (Commands.Speaking.pairing (g.visit session).scene area m) =
          some c →
        Slot.third.companion (Commands.Speaking.pairing (g.visit session).scene area m) =
          some d →
        c.clientId ≠ d.clientId := by
  obtain ⟨coherent, -⟩ := reached.sound
  obtain ⟨exclusive, -⟩ := reached.apart
  obtain ⟨rfl, -⟩ := coherent.own id session live
  refine ⟨fun cs perm => ?_, fun slot c => onlyHas_of_confirmed coherent exclusive, ?_⟩
  · have same : m.pair ⟨session.client.id, session.client.charId⟩ cs =
        Commands.Speaking.pairing (g.visit session).scene area m :=
      Speech.pair_perm perm (Court.distinct_candidates exclusive area _) m _
    exact ⟨by rw [same]; exact speaks.relay, same⟩
  · intro c d first second both
    obtain ⟨-, holds, -⟩ := onlyHas_of_confirmed coherent exclusive first
    obtain ⟨-, holds', -⟩ := onlyHas_of_confirmed coherent exclusive second
    rw [← both, holds, Option.some.injEq] at holds'
    exact Speech.target_ne_of_third second holds'.symm

/-- Three characters, so that a speaker can be shown with two others. -/
def bench : Config := { courthouse with characters := ["Phoenix", "Edgeworth", "Maya"] }

/-- Three clients play and two watch, and those who play have all addressed the first. -/
def tribunal : Gateway :=
  (unvisited bench).run
    [.arrive .tcp 0, .arrive .ws 0, .arrive .ws 0, .arrive .tcp 0, .arrive .tcp 0,
      feeds 0 "CC#0#0#%RD#%", feeds 1 "CC#1#1#%RD#%", feeds 2 "CC#2#2#%RD#%", feeds 3 "RD#%",
      feeds 4 "RD#%", utters 1 rejoinder,
      utters 2 { rejoinder with folder := "Maya", anim := "nod", cid := 2 }]

/-- What the first client says to both. -/
def appeal : Speech.Message := { plea with dialect := .aoGolden, thirdCharid := 2 }

theorem companions_unambiguous_tribunal :
    Reached bench tribunal ∧ ∃ session, tribunal.sessions.find? 0 = some session ∧
      (tribunal.visit session).scene.relay? ⟨"MS", appeal.render⟩ =
        some (0, appeal.broadcast
          (appeal.pair ⟨0, session.client.charId⟩
            (tribunal.hall.court.candidates 0 0).reverse)) ∧
      tribunal.hall.court.OnlyHas 0 1 1 ∧ tribunal.hall.court.OnlyHas 0 2 2 := by
  have reached : Reached bench tribunal := reached_run (ofConfig_of_clean (by decide)) _
  have evaluated : ((tribunal.sessions.find? 0).map fun session =>
      ((tribunal.visit session).scene.request ⟨"MS", appeal.render⟩,
        Slot.primary.companion
          (Commands.Speaking.pairing (tribunal.visit session).scene 0 appeal),
        Slot.third.companion
          (Commands.Speaking.pairing (tribunal.visit session).scene 0 appeal))) =
      some (.ok (.speaking (.spoken 0 appeal)), some ⟨1, 1, "Miles", "smirk", "-30", 1⟩,
        some ⟨2, 2, "Maya", "nod", "-30", 1⟩) := by
    decide +kernel
  obtain ⟨session, live, all⟩ := Option.map_eq_some_iff.1 evaluated
  obtain ⟨speaks, both⟩ := Prod.mk.inj all
  obtain ⟨beside, across⟩ := Prod.mk.inj both
  obtain ⟨unordered, only, -⟩ := companions_unambiguous reached live speaks
  exact ⟨reached, session, live, (unordered _ (List.reverse_perm _)).1, only _ _ beside,
    only _ _ across⟩

end Gateway
end CourtroomGateway
