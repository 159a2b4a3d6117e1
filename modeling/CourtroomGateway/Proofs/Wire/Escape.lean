import CourtroomGateway.Wire.Escape
import Mathlib.Data.List.Infix

/-! What escaping and unescaping undo of each other. A text comes back from its escaped form unless
it contains one of the tokens, which cannot be told from those that escaping writes. A text without
reserved characters comes back from its unescaped form always. Both are shown for one kind of token
at a time: the tokens begin with `<`, hold it nowhere else, and none begins with another, so that
no token overlaps with one of another kind. -/

namespace CourtroomGateway.Wire

namespace Reserved

/-- The token begins with a mark that it holds nowhere else, and does not hold what it stands
for. -/
structure Tagged (r : Reserved) : Prop where
  opened : ∃ body, r.token = '<' :: body ∧ '<' ∉ body
  foreign : r.raw ∉ r.token

/-- Neither token can be taken for the other one, and neither holds what the other stands for. -/
structure Apart (r s : Reserved) : Prop where
  raw : r.raw ≠ s.raw
  token : ¬ r.token <+: s.token ∧ ¬ s.token <+: r.token
  foreign : r.raw ∉ s.token ∧ s.raw ∉ r.token

section One
variable (r : Reserved)

theorem restoreFrom_eq (skip : Nat) (cs : List Char) :
    r.restoreFrom skip cs = r.restore (cs.drop skip) := by
  induction cs generalizing skip with
  | nil => cases skip <;> rfl
  | cons c cs ih =>
    cases skip with
    | zero => rfl
    | succ skip => exact ih skip

theorem restore_cons (c : Char) (cs : List Char) :
    r.restore (c :: cs) =
      if r.token <+: c :: cs then r.raw :: r.restore (cs.drop (r.token.length - 1))
      else c :: r.restore cs := by
  rw [restore, restoreFrom, restoreFrom_eq]
  simp only [ List.isPrefixOf_iff_prefix]
  rfl

variable {r}

theorem restore_cons_of_absent {c : Char} {cs : List Char} (h : ¬ r.token <+: c :: cs) :
    r.restore (c :: cs) = c :: r.restore cs := by
  rw [restore_cons, if_neg h]

theorem Tagged.restore_token_append (h : r.Tagged) (cs : List Char) :
    r.restore (r.token ++ cs) = r.raw :: r.restore cs := by
  obtain ⟨body, token, -⟩ := h.opened
  have here : r.token <+: '<' :: (body ++ cs) := by
    rw [token]
    exact List.prefix_append _ _
  rw [token, List.cons_append, restore_cons, if_pos here, token, List.length_cons,
    Nat.add_sub_cancel, List.drop_left]

/-- What is restored of a text goes from token to token. -/
theorem Tagged.induction (h : r.Tagged) {motive : List Char → Prop} (nil : motive [])
    (token : ∀ cs, motive cs → motive (r.token ++ cs))
    (plain : ∀ c cs, ¬ r.token <+: c :: cs → motive cs → motive (c :: cs)) (cs : List Char) :
    motive cs := by
  induction size : cs.length using Nat.strong_induction_on generalizing cs with
  | _ n ih =>
    subst size
    by_cases here : r.token <+: cs
    · obtain ⟨rest, rfl⟩ := here
      obtain ⟨body, opened, -⟩ := h.opened
      refine token rest (ih _ ?_ rest rfl)
      rw [opened, List.length_append, List.length_cons]
      omega
    · cases cs with
      | nil => exact nil
      | cons c cs => exact plain c cs here (ih _ (Nat.lt_succ_self _) cs rfl)

theorem Tagged.restore_plain_append (h : r.Tagged) {word : List Char} (plain : '<' ∉ word)
    (rest : List Char) : r.restore (word ++ rest) = word ++ r.restore rest := by
  obtain ⟨body, token, -⟩ := h.opened
  induction word with
  | nil => rfl
  | cons c word ih =>
    obtain ⟨first, plain⟩ := not_or.1 (mt List.mem_cons.2 plain)
    have later : ¬ r.token <+: c :: (word ++ rest) := by
      rw [token, List.cons_prefix_cons]
      exact fun same => first same.1
    rw [List.cons_append, restore_cons_of_absent later, ih plain, List.cons_append]

/-- A token of another kind is left alone. -/
theorem Tagged.restore_other_append (h : r.Tagged) {s : Reserved} (h' : s.Tagged)
    (apart : r.Apart s) (rest : List Char) :
    r.restore (s.token ++ rest) = s.token ++ r.restore rest := by
  have absent : ¬ r.token <+: s.token ++ rest := fun here =>
    (List.prefix_or_prefix_of_prefix here (List.prefix_append s.token rest)).elim apart.token.1
      apart.token.2
  obtain ⟨body, token, plain⟩ := h'.opened
  rw [token, List.cons_append] at absent ⊢
  rw [restore_cons_of_absent absent, h.restore_plain_append plain, List.cons_append]

/-- Restoring brings nothing about that does not hold the restored character. -/
theorem Tagged.prefix_of_prefix_restore (h : r.Tagged) {word cs : List Char}
    (foreign : r.raw ∉ word) (found : word <+: r.restore cs) : word <+: cs := by
  induction cs using h.induction generalizing word with
  | nil => exact found
  | token cs ih =>
    rw [h.restore_token_append] at found
    cases word with
    | nil => exact List.nil_prefix
    | cons c word =>
      obtain rfl := (List.cons_prefix_cons.1 found).1
      exact absurd List.mem_cons_self foreign
  | plain c cs absent ih =>
    rw [restore_cons_of_absent absent] at found
    cases word with
    | nil => exact List.nil_prefix
    | cons d word =>
      obtain ⟨rfl, later⟩ := List.cons_prefix_cons.1 found
      exact List.cons_prefix_cons.2 ⟨rfl, ih (List.not_mem_of_not_mem_cons foreign) later⟩

theorem Tagged.infix_of_infix_restore (h : r.Tagged) {word cs : List Char}
    (foreign : r.raw ∉ word) (found : word <:+: r.restore cs) : word <:+: cs := by
  induction cs using h.induction with
  | nil => exact found
  | token cs ih =>
    rw [h.restore_token_append, List.infix_cons_iff] at found
    rcases found with here | later
    · cases word with
      | nil => exact List.nil_infix
      | cons c word =>
        obtain rfl := (List.cons_prefix_cons.1 here).1
        exact absurd List.mem_cons_self foreign
    · exact (ih later).trans (List.suffix_append _ _).isInfix
  | plain c cs absent ih =>
    rw [restore_cons_of_absent absent, List.infix_cons_iff] at found
    rcases found with here | later
    · rw [← restore_cons_of_absent absent] at here
      exact (h.prefix_of_prefix_restore foreign here).isInfix
    · exact (ih later).trans (List.suffix_cons c cs).isInfix

theorem Tagged.not_infix_restore (h : r.Tagged) (cs : List Char) :
    ¬ r.token <:+: r.restore cs := by
  obtain ⟨body, token, -⟩ := h.opened
  induction cs using h.induction with
  | nil =>
    rw [token]
    exact fun found => List.cons_ne_nil _ _ (List.infix_nil.1 found)
  | token cs ih =>
    rw [h.restore_token_append, List.infix_cons_iff]
    rintro (here | later)
    · rw [token] at here
      have same := (List.cons_prefix_cons.1 here).1
      exact h.foreign (by rw [token, ← same]; exact List.mem_cons_self)
    · exact ih later
  | plain c cs absent ih =>
    rw [restore_cons_of_absent absent, List.infix_cons_iff]
    rintro (here | later)
    · rw [← restore_cons_of_absent absent] at here
      exact absent (h.prefix_of_prefix_restore h.foreign here)
    · exact ih later

end One

/-- Tokens that can be told apart. -/
structure Legible (rs : List Reserved) : Prop where
  tagged : ∀ r ∈ rs, r.Tagged
  apart : rs.Pairwise Apart

theorem Legible.tail {r : Reserved} {rs : List Reserved} (h : Legible (r :: rs)) : Legible rs where
  tagged s mem := h.tagged s (List.mem_cons_of_mem r mem)
  apart := (List.pairwise_cons.1 h.apart).2

theorem Legible.head {r : Reserved} {rs : List Reserved} (h : Legible (r :: rs)) :
    r.Tagged ∧ ∀ s ∈ rs, r.Apart s :=
  ⟨h.tagged r List.mem_cons_self, (List.pairwise_cons.1 h.apart).1⟩

/-- Escapes a character if one of these stands for it. -/
def escapeWith (rs : List Reserved) (c : Char) : List Char :=
  match rs.find? fun r => r.raw = c with
  | some r => r.token
  | none => [c]

theorem escapeWith_cons (r : Reserved) (rs : List Reserved) (c : Char) :
    escapeWith (r :: rs) c = if r.raw = c then r.token else escapeWith rs c := by
  by_cases same : r.raw = c <;> simp [escapeWith, same]

theorem escapeWith_cases (rs : List Reserved) (c : Char) :
    (escapeWith rs c = [c] ∧ ∀ r ∈ rs, r.raw ≠ c) ∨
      ∃ r ∈ rs, r.raw = c ∧ escapeWith rs c = r.token := by
  unfold escapeWith
  cases found : rs.find? fun r => r.raw = c with
  | none => exact .inl ⟨rfl, by simpa using found⟩
  | some r =>
    have raw : r.raw = c := by simpa using List.find?_some found
    exact .inr ⟨r, List.mem_of_find?_eq_some found, raw, rfl⟩

/-- A word without the mark of a token is not made of tokens. -/
theorem Legible.prefix_of_prefix_flatMap {rs : List Reserved} (h : Legible rs)
    {word cs : List Char} (plain : '<' ∉ word) (found : word <+: cs.flatMap (escapeWith rs)) :
    word <+: cs := by
  induction cs generalizing word with
  | nil => exact found
  | cons c cs ih =>
    rw [List.flatMap_cons] at found
    cases word with
    | nil => exact List.nil_prefix
    | cons d word =>
      rcases escapeWith_cases rs c with ⟨kept, -⟩ | ⟨s, mem, -, escaped⟩
      · rw [kept, List.singleton_append, List.cons_prefix_cons] at found
        obtain ⟨rfl, later⟩ := found
        exact List.cons_prefix_cons.2 ⟨rfl, ih (List.not_mem_of_not_mem_cons plain) later⟩
      · obtain ⟨body, token, -⟩ := (h.tagged s mem).opened
        rw [escaped, token, List.cons_append, List.cons_prefix_cons] at found
        exact absurd (found.1 ▸ List.mem_cons_self) plain

/-- Restoring one kind of token undoes the escaping of one character. -/
theorem Legible.restore_flatMap {r : Reserved} {rs : List Reserved} (h : Legible (r :: rs))
    {cs : List Char} (free : ¬ r.token <:+: cs) :
    r.restore (cs.flatMap (escapeWith (r :: rs))) = cs.flatMap (escapeWith rs) := by
  obtain ⟨tagged, apart⟩ := h.head
  induction cs with
  | nil => rfl
  | cons c cs ih =>
    rw [List.infix_cons_iff, not_or] at free
    obtain ⟨absent, free⟩ := free
    rw [List.flatMap_cons, List.flatMap_cons, escapeWith_cons]
    rcases escapeWith_cases rs c with ⟨kept, -⟩ | ⟨s, mem, rfl, escaped⟩
    · rw [kept]
      split
      next same => rw [tagged.restore_token_append, ih free, same, List.singleton_append]
      next differs =>
        have later : ¬ r.token <+: c :: cs.flatMap (escapeWith (r :: rs)) := by
          obtain ⟨body, token, plain⟩ := tagged.opened
          rw [token, List.cons_prefix_cons] at absent ⊢
          exact fun found => absent ⟨found.1, h.prefix_of_prefix_flatMap plain found.2⟩
        rw [List.singleton_append, restore_cons_of_absent later, ih free,
          List.singleton_append]
    · have other := apart s mem
      have tagged' := h.tagged s (List.mem_cons_of_mem r mem)
      rw [if_neg other.raw, escaped, tagged.restore_other_append tagged' other, ih free]

theorem Legible.foldl_restore_flatMap {rs : List Reserved} (h : Legible rs) {cs : List Char}
    (free : ∀ r ∈ rs, ¬ r.token <:+: cs) :
    rs.foldl (fun cs r => r.restore cs) (cs.flatMap (escapeWith rs)) = cs := by
  induction rs with
  | nil => exact List.flatMap_singleton' cs
  | cons r rs ih =>
    obtain ⟨first, later⟩ := List.forall_mem_cons.1 free
    rw [List.foldl_cons, h.restore_flatMap first, ih h.tail later]

/-- Restoring leaves no token. -/
theorem Legible.not_infix_foldl {rs : List Reserved} (h : Legible rs) (cs : List Char) :
    ∀ r ∈ rs, ¬ r.token <:+: rs.foldl (fun cs r => r.restore cs) cs := by
  have kept {word : List Char} {rs : List Reserved} (tagged : ∀ r ∈ rs, r.Tagged)
      (foreign : ∀ r ∈ rs, r.raw ∉ word) {cs : List Char}
      (found : word <:+: rs.foldl (fun cs r => r.restore cs) cs) : word <:+: cs := by
    induction rs generalizing cs with
    | nil => exact found
    | cons r rs ih =>
      obtain ⟨first, tagged⟩ := List.forall_mem_cons.1 tagged
      obtain ⟨own, foreign⟩ := List.forall_mem_cons.1 foreign
      exact first.infix_of_infix_restore own (ih tagged foreign found)
  induction rs generalizing cs with
  | nil => nofun
  | cons r rs ih =>
    obtain ⟨tagged, apart⟩ := h.head
    refine List.forall_mem_cons.2 ⟨fun found => ?_, ih h.tail _⟩
    have foreign := fun s mem => (apart s mem).foreign.2
    exact tagged.not_infix_restore cs (kept h.tail.tagged foreign found)

theorem flatMap_escapeWith_of_not_mem {rs : List Reserved} {cs : List Char}
    (plain : ∀ r ∈ rs, r.raw ∉ cs) : cs.flatMap (escapeWith rs) = cs := by
  induction cs with
  | nil => rfl
  | cons c cs ih =>
    rcases escapeWith_cases rs c with ⟨kept, -⟩ | ⟨r, mem, rfl, -⟩
    · rw [List.flatMap_cons, kept, ih fun r mem => List.not_mem_of_not_mem_cons (plain r mem),
        List.singleton_append]
    · exact absurd List.mem_cons_self (plain r mem)

theorem Tagged.flatMap_restore {r : Reserved} (h : r.Tagged) {cs : List Char}
    (plain : r.raw ∉ cs) : (r.restore cs).flatMap (escapeWith [r]) = cs := by
  induction cs using h.induction with
  | nil => rfl
  | token cs ih =>
    have rest := ih fun mem => plain (List.mem_append_right _ mem)
    rw [h.restore_token_append, List.flatMap_cons, rest, escapeWith_cons, if_pos rfl]
  | plain c cs absent ih =>
    have other : r.raw ≠ c := fun same => plain (same ▸ List.mem_cons_self)
    have rest := ih (List.not_mem_of_not_mem_cons plain)
    rw [restore_cons_of_absent absent, List.flatMap_cons, rest, escapeWith_cons, if_neg other]
    rfl

theorem Tagged.mem_restore {r : Reserved} (h : r.Tagged) {cs : List Char} {c : Char}
    (mem : c ∈ r.restore cs) : c = r.raw ∨ c ∈ cs := by
  induction cs using h.induction with
  | nil => cases mem
  | token cs ih =>
    rw [h.restore_token_append, List.mem_cons] at mem
    rcases mem with raw | later
    · exact .inl raw
    · exact (ih later).imp_right (List.mem_append_right _)
  | plain d cs absent ih =>
    rw [restore_cons_of_absent absent, List.mem_cons] at mem
    rcases mem with rfl | later
    · exact .inr List.mem_cons_self
    · exact (ih later).imp_right (List.mem_cons_of_mem d)

/-- What is restored is escaped again. -/
theorem Legible.flatMap_foldl_restore {rs : List Reserved} (h : Legible rs) {cs : List Char}
    (plain : ∀ r ∈ rs, r.raw ∉ cs) :
    (rs.foldl (fun cs r => r.restore cs) cs).flatMap (escapeWith rs) = cs := by
  induction rs generalizing cs with
  | nil => exact List.flatMap_singleton' cs
  | cons r rs ih =>
    obtain ⟨tagged, apart⟩ := h.head
    obtain ⟨own, plain⟩ := List.forall_mem_cons.1 plain
    have twice (c : Char) :
        escapeWith (r :: rs) c = (escapeWith rs c).flatMap (escapeWith [r]) := by
      rcases escapeWith_cases rs c with ⟨kept, -⟩ | ⟨s, mem, rfl, escaped⟩
      · rw [kept, List.flatMap_singleton, escapeWith_cons, escapeWith_cons, kept]
        rfl
      · have absent : ∀ t ∈ [r], t.raw ∉ s.token := by simpa using (apart s mem).foreign.1
        rw [escapeWith_cons, if_neg (apart s mem).raw, escaped,
          flatMap_escapeWith_of_not_mem absent]
    have fresh : ∀ s ∈ rs, s.raw ∉ r.restore cs := fun s mem found =>
      (tagged.mem_restore found).elim (apart s mem).raw.symm (plain s mem)
    rw [List.foldl_cons, funext twice, ← List.flatMap_assoc, ih h.tail fresh,
      tagged.flatMap_restore own]

end Reserved

theorem legible_reserved : Reserved.Legible reserved where
  tagged r mem := by
    have shapes : ∀ r ∈ reserved,
        r.token = '<' :: r.token.tail ∧ '<' ∉ r.token.tail ∧ r.raw ∉ r.token := by
      decide
    obtain ⟨opened, plain, foreign⟩ := shapes r mem
    exact ⟨⟨_, opened, plain⟩, foreign⟩
  apart := by
    have apart : reserved.Pairwise fun r s => r.raw ≠ s.raw ∧
        (¬ r.token <+: s.token ∧ ¬ s.token <+: r.token) ∧ r.raw ∉ s.token ∧ s.raw ∉ r.token := by
      decide
    exact apart.imp fun ⟨raw, token, foreign⟩ => ⟨raw, token, foreign⟩

/-- The text contains none of the tokens. -/
def TokenFree (text : String) : Prop := ∀ r ∈ reserved, ¬ r.token <:+: text.toList

instance (text : String) : Decidable (TokenFree text) :=
  inferInstanceAs (Decidable (∀ r ∈ reserved, ¬ r.token <:+: text.toList))

theorem tokenFree_unescape (text : String) : TokenFree (unescape text) := by
  unfold TokenFree
  rw [toList_unescape]
  exact legible_reserved.not_infix_foldl text.toList

theorem unescape_escape_eq_iff {text : String} :
    unescape (escape text) = text ↔ TokenFree text := by
  constructor
  · intro same
    rw [← same]
    exact tokenFree_unescape _
  · intro free
    rw [← String.toList_inj, toList_unescape, toList_escape]
    exact legible_reserved.foldl_restore_flatMap free

theorem escape_unescape_of_not_mem {text : String} (plain : ∀ r ∈ reserved, r.raw ∉ text.toList) :
    escape (unescape text) = text := by
  rw [← String.toList_inj, toList_escape, toList_unescape]
  exact legible_reserved.flatMap_foldl_restore plain

end CourtroomGateway.Wire
