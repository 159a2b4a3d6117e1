import CourtroomGateway.Proofs.Wire.Escape
import CourtroomGateway.Proofs.Wire.Terminator

/-! Free text on the wire. Escaped text has none of the characters that a receiver cuts at, so the
members of a tuple are found again where they were put together, and each of them is read back
unless it contains a token. -/

namespace CourtroomGateway.Wire

theorem escapeChars_of_not_mem {cs : List Char} (plain : ∀ r ∈ reserved, r.raw ∉ cs) :
    escapeChars cs = cs :=
  Reserved.flatMap_escapeWith_of_not_mem plain

theorem escape_of_not_mem {text : String} (plain : ∀ r ∈ reserved, r.raw ∉ text.toList) :
    escape text = text := by
  rw [escape, escapeChars_of_not_mem plain, String.ofList_toList]

theorem escape_escape (text : String) : escape (escape text) = escape text :=
  escape_of_not_mem (not_mem_escape text)

/-- What a receiver takes for the members of an argument. -/
def members (arg : String) : List String := (arg.toList.splitOn '&').map String.ofList

theorem members_intercalate {texts : List String} (filled : texts ≠ [])
    (plain : ∀ text ∈ texts, '&' ∉ text.toList) : members ("&".intercalate texts) = texts := by
  have pieces : ("&".intercalate texts).toList.splitOn '&' = texts.map String.toList := by
    rw [String.toList_intercalate]
    refine List.splitOn_intercalate '&' ?_ (by simpa using filled)
    intro piece mem
    obtain ⟨text, listed, rfl⟩ := List.mem_map.1 mem
    exact plain text listed
  have same : String.ofList ∘ String.toList = id := funext fun _ => String.ofList_toList
  rw [members, pieces, List.map_map, same, List.map_id]

/-- A tuple is taken apart into the escaped members, one by one. -/
theorem members_tuple {texts : List String} (filled : texts ≠ []) :
    members ("&".intercalate (texts.map escape)) = texts.map escape := by
  refine members_intercalate (by simpa using filled) ?_
  intro piece mem
  obtain ⟨text, -, rfl⟩ := List.mem_map.1 mem
  exact not_mem_escape text ⟨'&', "<and>".toList⟩ (by decide)

theorem map_unescape_escape {texts : List String} (free : ∀ text ∈ texts, TokenFree text) :
    (texts.map escape).map unescape = texts := by
  rw [List.map_map]
  exact (List.map_congr_left fun text mem => unescape_escape_eq_iff.2 (free text mem)).trans
    (List.map_id texts)

theorem forall_raw_iff {motive : Char → Prop} :
    (∀ r ∈ reserved, motive r.raw) ↔ ∀ c ∈ ['#', '%', '$', '&'], motive c :=
  List.forall_mem_map.symm

theorem tokenFree_iff {text : String} :
    TokenFree text ↔
      ∀ token ∈ ["<num>", "<percent>", "<dollar>", "<and>"], ¬ token.toList <:+: text.toList := by
  simp [TokenFree, reserved]

/-- Escaping can be undone for exactly the texts without tokens, leaves no reserved character and
changes nothing the second time. Unescaping can be undone for all texts without reserved
characters. The members of a tuple are their escaped forms in order, and come back themselves where
none contains a token. -/
theorem escaping_invertible :
    (∀ text,
      (unescape (escape text) = text ↔
        ∀ token ∈ ["<num>", "<percent>", "<dollar>", "<and>"],
          ¬ token.toList <:+: text.toList) ∧
      (∀ c ∈ ['#', '%', '$', '&'], c ∉ (escape text).toList) ∧
      escape (escape text) = escape text) ∧
    (∀ text, (∀ c ∈ ['#', '%', '$', '&'], c ∉ text.toList) → escape (unescape text) = text) ∧
    ∀ (p : Packet) (texts : List String), texts ≠ [] →
      ∃ arg, (p.tuple texts).args = p.args ++ [arg] ∧
        members arg = texts.map escape ∧
        ((∀ text ∈ texts, TokenFree text) → (members arg).map unescape = texts) := by
  refine ⟨fun text => ⟨?_, ?_, escape_escape text⟩, fun text plain => ?_, fun p texts filled => ?_⟩
  · rw [← tokenFree_iff]
    exact unescape_escape_eq_iff
  · exact forall_raw_iff.1 (not_mem_escape text)
  · exact escape_unescape_of_not_mem (forall_raw_iff.2 plain)
  · refine ⟨_, rfl, members_tuple filled, fun free => ?_⟩
    rw [members_tuple filled]
    exact map_unescape_escape free

/-- The text with one token inside another is restored once and escaped again. -/
theorem escaping_invertible_badge :
    (∀ c ∈ ['#', '%', '$', '&'], c ∉ "<<num>num>".toList) ∧ unescape "<<num>num>" = "<#num>" ∧
      escape (unescape "<<num>num>") = "<<num>num>" ∧
      ["Badge & Gun", "<50%", ""] ≠ [] ∧
      (∀ text ∈ ["Badge & Gun", "<50%", ""], TokenFree text) ∧
      ∃ arg, ((Packet.named "LE").tuple ["Badge & Gun", "<50%", ""]).args = [arg] ∧
        members arg = ["Badge <and> Gun", "<50<percent>", ""] ∧
        (members arg).map unescape = ["Badge & Gun", "<50%", ""] := by
  obtain ⟨-, back, tuple⟩ := escaping_invertible
  have plain : ∀ c ∈ ['#', '%', '$', '&'], c ∉ "<<num>num>".toList :=
    forall_raw_iff.1 (by decide)
  have filled : ["Badge & Gun", "<50%", ""] ≠ [] := by decide
  have free : ∀ text ∈ ["Badge & Gun", "<50%", ""], TokenFree text := by decide
  obtain ⟨arg, added, pieces, restored⟩ := tuple (.named "LE") ["Badge & Gun", "<50%", ""] filled
  exact ⟨plain, by decide, back _ plain, filled, free, arg, added, pieces.trans (by decide),
    restored free⟩

end CourtroomGateway.Wire
