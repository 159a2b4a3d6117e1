import CourtroomGateway.Speech.Pairing

/-! The exact meaning of pairing. A slot shows the first candidate that may stand in it: another
client with the declared character, in the position of the message, that declares the speaker's
character in turn. The slots and the two values that name them are settled by this alone, so the
candidates that may stand in neither slot do not matter. -/

namespace CourtroomGateway.Speech

/-- The candidate may stand beside a speaker at `pos` who declares `target`. -/
structure Candidate.Partners (c : Candidate) (me : Speaker) (pos : String) (target : Int64) :
    Prop where
  declared : 0 ≤ target
  other : c.clientId ≠ me.clientId
  plays : c.charId = target
  beside : c.pose.pos = pos
  answers : c.pose.pairTarget = me.charId ∨ c.pose.thirdTarget = me.charId

theorem Candidate.eligible_iff {c : Candidate} {me : Speaker} {pos : String} {target : Int64} :
    c.eligible me pos target ↔ c.Partners me pos target := by
  simp only [eligible, Pose.declares, Bool.and_eq_true, Bool.or_eq_true, decide_eq_true_eq]
  constructor
  · rintro ⟨⟨⟨⟨declared, other⟩, plays⟩, beside⟩, answers⟩
    exact ⟨declared, other, plays, beside, answers⟩
  · rintro ⟨declared, other, plays, beside, answers⟩
    exact ⟨⟨⟨⟨declared, other⟩, plays⟩, beside⟩, answers⟩

/-- What stands beside a speaker at `pos` who declares `target`: the first candidate that may, or
nothing. -/
inductive Beside (me : Speaker) (pos : String) (target : Int64) (cs : List Candidate) :
    Option Companion → Prop
  | first {before after : List Candidate} {c : Candidate} (split : cs = before ++ c :: after)
      (partners : c.Partners me pos target) (passed : ∀ d ∈ before, ¬ d.Partners me pos target) :
      Beside me pos target cs
        (some
          { clientId := c.clientId
            charId := target
            folder := c.pose.folder
            anim := c.pose.anim
            offset := c.pose.offset
            flip := c.pose.flip })
  | nobody (passed : ∀ d ∈ cs, ¬ d.Partners me pos target) : Beside me pos target cs none

theorem findCompanion_eq_iff {me : Speaker} {pos : String} {target : Int64} {cs : List Candidate}
    {slot : Option Companion} :
    findCompanion target me pos cs = slot ↔ Beside me pos target cs slot := by
  constructor
  · rintro rfl
    rw [findCompanion]
    cases found : cs.find? fun c => c.eligible me pos target with
    | none =>
      refine .nobody fun d listed partners => ?_
      exact List.find?_eq_none.1 found d listed (Candidate.eligible_iff.2 partners)
    | some c =>
      obtain ⟨eligible, before, after, split, passed⟩ := List.find?_eq_some_iff_append.1 found
      have partners := Candidate.eligible_iff.1 eligible
      obtain rfl := partners.plays
      refine .first split partners fun d listed partners' => ?_
      have refused := passed d listed
      rw [Candidate.eligible_iff.2 partners'] at refused
      cases refused
  · rintro (⟨split, partners, passed⟩ | passed)
    · obtain rfl := partners.plays
      refine Option.map_eq_some_iff.2 ⟨_, List.find?_eq_some_iff_append.2 ?_, rfl⟩
      refine ⟨Candidate.eligible_iff.2 partners, _, _, split, fun d listed => ?_⟩
      simpa using mt Candidate.eligible_iff.1 (passed d listed)
    · refine Option.map_eq_none_iff.2 (List.find?_eq_none.2 fun d listed => ?_)
      exact mt Candidate.eligible_iff.1 (passed d listed)

/-- How a player's message is paired: what stands in its two slots, and how the broadcast names
it. A character is looked for in one slot only. -/
structure Paired (m : Message) (me : Speaker) (cs : List Candidate) (p : Pairing) : Prop where
  primary : Beside me m.pos m.charidPair cs p.primary
  doubled : m.thirdCharid = m.charidPair → p.third = none
  third : m.thirdCharid ≠ m.charidPair → Beside me m.pos m.thirdCharid cs p.third
  alone : p.primary = none → p.charidPair = "-1"
  plain : p.primary ≠ none → m.pairOrder = none → p.charidPair = Text.decimal m.charidPair
  ordered : ∀ order, p.primary ≠ none → m.pairOrder = some order →
    p.charidPair = Text.decimal m.charidPair ++ "^" ++ order
  unnamed : p.third = none → p.thirdCharid = -1
  named : p.third ≠ none → p.thirdCharid = m.thirdCharid

theorem Beside.charId {me : Speaker} {pos : String} {target : Int64} {cs : List Candidate}
    {c : Companion} (beside : Beside me pos target cs (some c)) : c.charId = target := by
  cases beside
  rfl

/-- There is one way to pair a message. -/
theorem Paired.unique {m : Message} {me : Speaker} {cs : List Candidate} {p q : Pairing}
    (h : Paired m me cs p) (h' : Paired m me cs q) : p = q := by
  have primary : p.primary = q.primary :=
    (findCompanion_eq_iff.2 h.primary).symm.trans (findCompanion_eq_iff.2 h'.primary)
  have third : p.third = q.third := by
    by_cases doubled : m.thirdCharid = m.charidPair
    · rw [h.doubled doubled, h'.doubled doubled]
    · exact (findCompanion_eq_iff.2 (h.third doubled)).symm.trans
        (findCompanion_eq_iff.2 (h'.third doubled))
  have charidPair : p.charidPair = q.charidPair := by
    by_cases alone : p.primary = none
    · rw [h.alone alone, h'.alone (primary ▸ alone)]
    · cases order : m.pairOrder with
      | none => rw [h.plain alone order, h'.plain (primary ▸ alone) order]
      | some value => rw [h.ordered value alone order, h'.ordered value (primary ▸ alone) order]
  have thirdCharid : p.thirdCharid = q.thirdCharid := by
    by_cases alone : p.third = none
    · rw [h.unnamed alone, h'.unnamed (third ▸ alone)]
    · rw [h.named alone, h'.named (third ▸ alone)]
  cases p
  cases q
  simp only at primary third charidPair thirdCharid
  rw [primary, third, charidPair, thirdCharid]

theorem paired_pair {m : Message} {me : Speaker} (plays : 0 ≤ me.charId) (cs : List Candidate) :
    Paired m me cs (m.pair me cs) := by
  rw [Message.pair, if_neg (Int64.not_lt.2 plays)]
  have primary : Beside me m.pos m.charidPair cs (findCompanion m.charidPair me m.pos cs) :=
    findCompanion_eq_iff.1 rfl
  have third : Beside me m.pos m.thirdCharid cs (findCompanion m.thirdCharid me m.pos cs) :=
    findCompanion_eq_iff.1 rfl
  constructor
  · exact primary
  · intro doubled
    rw [if_pos doubled]
  · intro apart
    rwa [if_neg apart]
  · intro alone
    simp only at alone ⊢
    rw [alone]
  · intro confirmed order
    obtain ⟨c, found⟩ := Option.ne_none_iff_exists'.1 confirmed
    simp only at found ⊢
    rw [found] at primary ⊢
    simp only [order, primary.charId]
  · intro value confirmed order
    obtain ⟨c, found⟩ := Option.ne_none_iff_exists'.1 confirmed
    simp only at found ⊢
    rw [found] at primary ⊢
    simp only [order, primary.charId]
  · intro alone
    simp only at alone ⊢
    rw [alone]
    rfl
  · intro confirmed
    obtain ⟨c, found⟩ := Option.ne_none_iff_exists'.1 confirmed
    simp only at found ⊢
    rw [found]
    split at found
    · cases found
    · rw [found] at third
      exact third.charId

theorem pair_of_watching {m : Message} {me : Speaker} (watches : me.charId < 0)
    (cs : List Candidate) : m.pair me cs = .unpaired := by
  rw [Message.pair, if_pos watches]

theorem pair_eq_iff {m : Message} {me : Speaker} (plays : 0 ≤ me.charId) {cs : List Candidate}
    {p : Pairing} : m.pair me cs = p ↔ Paired m me cs p := by
  refine ⟨?_, fun paired => (paired_pair plays cs).unique paired⟩
  rintro rfl
  exact paired_pair plays cs

theorem charId_ne_of_pair {m : Message} {me : Speaker} {cs : List Candidate} {c d : Companion}
    (primary : (m.pair me cs).primary = some c) (third : (m.pair me cs).third = some d) :
    c.charId ≠ d.charId := by
  by_cases plays : 0 ≤ me.charId
  · have paired := paired_pair (m := m) plays cs
    have apart : m.thirdCharid ≠ m.charidPair := by
      intro doubled
      rw [paired.doubled doubled] at third
      cases third
    have beside := paired.primary
    have across := paired.third apart
    rw [primary] at beside
    rw [third] at across
    rw [beside.charId, across.charId]
    exact apart.symm
  · rw [pair_of_watching (Int64.not_le.1 plays)] at primary
    cases primary

/-- The candidate may stand in neither slot of the message. -/
def Candidate.Uninvolved (c : Candidate) (m : Message) (me : Speaker) : Prop :=
  ¬ c.Partners me m.pos m.charidPair ∧ ¬ c.Partners me m.pos m.thirdCharid

/-- The second list is the first one with some candidates taken out and others put in, all of
which are idle. A candidate is altered where one is put in for another. -/
inductive Edited (idle : Candidate → Prop) : List Candidate → List Candidate → Prop
  | nil : Edited idle [] []
  | kept (c : Candidate) {cs cs' : List Candidate} (rest : Edited idle cs cs') :
      Edited idle (c :: cs) (c :: cs')
  | removed {c : Candidate} (unused : idle c) {cs cs' : List Candidate}
      (rest : Edited idle cs cs') : Edited idle (c :: cs) cs'
  | added {c : Candidate} (unused : idle c) {cs cs' : List Candidate}
      (rest : Edited idle cs cs') : Edited idle cs (c :: cs')

theorem Edited.refl (idle : Candidate → Prop) (cs : List Candidate) : Edited idle cs cs := by
  induction cs with
  | nil => exact .nil
  | cons c cs ih => exact .kept c ih

theorem findCompanion_edited {me : Speaker} {pos : String} {target : Int64}
    {idle : Candidate → Prop} (passed : ∀ c, idle c → ¬ c.Partners me pos target)
    {cs cs' : List Candidate} (edited : Edited idle cs cs') :
    findCompanion target me pos cs' = findCompanion target me pos cs := by
  have skipped {c : Candidate} (unused : idle c) (cs : List Candidate) :
      (c :: cs).find? (fun c => c.eligible me pos target) =
        cs.find? (fun c => c.eligible me pos target) :=
    List.find?_cons_of_neg (mt Candidate.eligible_iff.1 (passed c unused))
  refine congrArg (Option.map Companion.of) ?_
  induction edited with
  | nil => rfl
  | kept c rest ih => rw [List.find?_cons, List.find?_cons, ih]
  | removed unused rest ih => rw [skipped unused, ih]
  | added unused rest ih => rw [skipped unused, ih]

theorem pair_edited {m : Message} {me : Speaker} {cs cs' : List Candidate}
    (edited : Edited (fun c => c.Uninvolved m me) cs cs') : m.pair me cs' = m.pair me cs := by
  have primary := findCompanion_edited (fun c uninvolved => uninvolved.1) edited
  have third := findCompanion_edited (fun c uninvolved => uninvolved.2) edited
  simp only [Message.pair, primary, third]

/-- The pairing of a message. One that is sent by a client who watches has none; one of a player
is paired as `Paired` says and in no other way. So two companions play two characters, and
candidates that may stand in neither slot can be put in, taken out and altered as one likes. -/
theorem pair_exact (m : Message) (me : Speaker) (cs : List Candidate) :
    (me.charId < 0 → m.pair me cs = ⟨none, none, "-1", -1⟩) ∧
      (0 ≤ me.charId → ∀ p, m.pair me cs = p ↔ Paired m me cs p) ∧
      (∀ c d, (m.pair me cs).primary = some c → (m.pair me cs).third = some d →
        c.charId ≠ d.charId) ∧
      ∀ cs', Edited (fun c => c.Uninvolved m me) cs cs' → m.pair me cs' = m.pair me cs :=
  ⟨fun watches => pair_of_watching watches cs, fun plays _ => pair_eq_iff plays,
    fun _ _ => charId_ne_of_pair, fun _ => pair_edited⟩

/-- Speech of the first character that declares a partner for each slot. -/
def summons : Message where
  dialect := .aoGolden
  pos := "wit"
  charidPair := 1
  pairOrder := some "0"
  thirdCharid := 2

/-- A client that stands somewhere and declares the first character. -/
def facing (clientId : Nat) (charId : Int64) (pos : String) : Candidate where
  clientId
  charId
  pose := { folder := "Miles", anim := "smirk", offset := "-30", flip := 1, pos, thirdTarget := 0 }

/-- One in another position, two with the same character, and one for the other slot. -/
def gallery : List Candidate :=
  [facing 4 1 "def", facing 5 1 "wit", facing 6 1 "wit", facing 7 2 "wit"]

theorem pair_exact_summons :
    summons.pair ⟨3, -1⟩ gallery = ⟨none, none, "-1", -1⟩ ∧
      Paired summons ⟨3, 0⟩ gallery
        ⟨some ⟨5, 1, "Miles", "smirk", "-30", 1⟩, some ⟨7, 2, "Miles", "smirk", "-30", 1⟩, "1^0",
          2⟩ ∧
      Edited (fun c => c.Uninvolved summons ⟨3, 0⟩) gallery
        (facing 8 1 "pro" :: gallery.tail) ∧
      summons.pair ⟨3, 0⟩ (facing 8 1 "pro" :: gallery.tail) = summons.pair ⟨3, 0⟩ gallery := by
  have evaluated : summons.pair ⟨3, 0⟩ gallery =
      ⟨some ⟨5, 1, "Miles", "smirk", "-30", 1⟩, some ⟨7, 2, "Miles", "smirk", "-30", 1⟩, "1^0",
        2⟩ := by
    decide +kernel
  have elsewhere {c : Candidate} (apart : c.pose.pos ≠ summons.pos) :
      c.Uninvolved summons ⟨3, 0⟩ :=
    ⟨fun partners => apart partners.beside, fun partners => apart partners.beside⟩
  obtain ⟨unpaired, -, -, -⟩ := pair_exact summons ⟨3, -1⟩ gallery
  obtain ⟨-, paired, -, edited⟩ := pair_exact summons ⟨3, 0⟩ gallery
  have altered : Edited (fun c => c.Uninvolved summons ⟨3, 0⟩) gallery
      (facing 8 1 "pro" :: gallery.tail) :=
    .removed (elsewhere (by decide)) (.added (elsewhere (by decide)) (.refl _ _))
  exact ⟨unpaired (by decide), (paired (by decide) _).1 evaluated, altered, edited _ altered⟩

end CourtroomGateway.Speech
