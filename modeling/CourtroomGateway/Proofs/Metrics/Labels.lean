import CourtroomGateway.Proofs.Metrics.Series
import CourtroomGateway.Proofs.Text.Split
import Mathlib.Data.List.DropRight

/-! How the text of a series is read. A value stands between quotes and ends at the first quote
without a backslash before it, so an escaped value is read back with whatever follows it. With
label names that hold no equals sign, a series is told from every other one by its text. -/

namespace CourtroomGateway.Metrics

namespace Label

/-- The character that a backslash and the given one stand for. -/
def meant (c : Char) : Char := if c = 'n' then '\n' else c

/-- The value in front of its closing quote, and what follows. There is none if the line ends
first. -/
def readValue : List Char → Option (List Char × List Char)
  | [] => none
  | '"' :: rest => some ([], rest)
  | '\n' :: _ => none
  | ['\\'] => none
  | '\\' :: '\n' :: _ => none
  | '\\' :: c :: rest => (readValue rest).map fun r => (meant c :: r.1, r.2)
  | c :: rest => (readValue rest).map fun r => (c :: r.1, r.2)

theorem readValue_cons {c : Char} (quote : c ≠ '"') (line : c ≠ '\n') (slash : c ≠ '\\')
    (rest : List Char) :
    readValue (c :: rest) = (readValue rest).map fun r => (c :: r.1, r.2) := by
  rw [readValue.eq_7] <;> simp_all

/-- What is written is read back. -/
theorem readValue_escaped (value rest : List Char) :
    readValue (value.flatMap escapeChar ++ '"' :: rest) = some (value, rest) := by
  induction value with
  | nil => rfl
  | cons c value ih =>
    rw [List.flatMap_cons, List.append_assoc]
    by_cases slash : c = '\\'
    · subst slash
      simp [escapeChar, readValue, ih, meant]
    by_cases quote : c = '"'
    · subst quote
      simp [escapeChar, readValue, ih, meant]
    by_cases line : c = '\n'
    · subst line
      simp [escapeChar, readValue, ih, meant]
    have kept : escapeChar c = [c] := by simp [escapeChar]
    rw [kept, List.singleton_append, readValue_cons quote line slash, ih]
    rfl

theorem escaped_inj {value value' rest rest' : List Char}
    (same : value.flatMap escapeChar ++ '"' :: rest = value'.flatMap escapeChar ++ '"' :: rest') :
    value = value' ∧ rest = rest' := by
  have read := readValue_escaped value rest
  rw [same, readValue_escaped] at read
  obtain ⟨rfl, rfl⟩ := Prod.mk.inj (Option.some.inj read)
  exact ⟨rfl, rfl⟩

theorem not_mem_escaped (value : List Char) : '\n' ∉ value.flatMap escapeChar := by
  rw [List.mem_flatMap]
  rintro ⟨c, -, inside⟩
  unfold escapeChar at inside
  split at inside
  · simp at inside
  · simp at inside
  · simp at inside
  next line => exact line (List.mem_singleton.1 inside).symm

theorem toList_text (l : Label) :
    l.text.toList =
      l.name.toList ++ '=' :: '"' :: (l.value.toList.flatMap escapeChar ++ ['"']) := by
  simp [text]

/-- Written between quotes as it stands, the text is read as one value. -/
def Readable (text : List Char) : Prop := ∃ value, readValue (text ++ ['"']) = some (value, [])

/-- The number of backslashes that the text ends with. -/
def backslashes (text : List Char) : Nat := (text.rtakeWhile (· = '\\')).length

theorem backslashes_le (text : List Char) : backslashes text ≤ text.length :=
  (List.rtakeWhile_suffix _ text).length_le

theorem backslashes_cons (c : Char) (text : List Char) :
    backslashes (c :: text) =
      if backslashes text = text.length ∧ c = '\\' then text.length + 1 else backslashes text := by
  simp only [backslashes, List.rtakeWhile, List.reverse_cons, List.takeWhile_append,
    List.length_reverse]
  by_cases whole : (List.takeWhile (· = '\\') text.reverse).length = text.length
  · by_cases slash : c = '\\' <;> simp [whole, slash]
  · simp [whole]

theorem readable_cons_iff {c : Char} (quote : c ≠ '"') (line : c ≠ '\n') (slash : c ≠ '\\')
    (text : List Char) : Readable (c :: text) ↔ Readable text := by
  rw [Readable, List.cons_append, readValue_cons quote line slash]
  simp [Readable]

theorem readable_escape_iff {c : Char} (line : c ≠ '\n') (text : List Char) :
    Readable ('\\' :: c :: text) ↔ Readable text := by
  have read : readValue ('\\' :: c :: (text ++ ['"'])) =
      (readValue (text ++ ['"'])).map fun r => (meant c :: r.1, r.2) := by
    rw [readValue.eq_6]
    exact line
  rw [Readable, List.cons_append, List.cons_append, read]
  simp [Readable]

/-- A text without quotes is read as one value if it holds no line break and does not end in a
backslash that would take the closing quote for its own. -/
theorem readable_iff {text : List Char} (quotes : '"' ∉ text) :
    Readable text ↔ '\n' ∉ text ∧ backslashes text % 2 = 0 := by
  induction text using readValue.induct with
  | case1 => exact ⟨fun _ => ⟨List.not_mem_nil, rfl⟩, fun _ => ⟨[], rfl⟩⟩
  | case2 rest => exact absurd List.mem_cons_self quotes
  | case3 rest => simp [Readable, readValue]
  | case4 =>
    have odd : backslashes ['\\'] = 1 := rfl
    simp [Readable, readValue, odd]
  | case5 rest => simp [Readable, readValue]
  | case6 c rest line ih =>
    have quotes' : '"' ∉ rest := fun mem => quotes (by simp [mem])
    have le := backslashes_le rest
    have parity : backslashes ('\\' :: c :: rest) % 2 = backslashes rest % 2 := by
      rw [backslashes_cons '\\']
      simp only [backslashes_cons c, List.length_cons, and_true]
      by_cases slashes : backslashes rest = rest.length ∧ c = '\\'
      · rw [if_pos slashes, if_pos rfl, slashes.1]
        omega
      · rw [if_neg slashes, if_neg (by omega)]
    rw [readable_escape_iff line, ih quotes', parity]
    simp [Ne.symm line]
  | case7 c rest quote line last escape pair ih =>
    have quotes' : '"' ∉ rest := fun mem => quotes (List.mem_cons_of_mem c mem)
    have slash : c ≠ '\\' := by
      cases rest with
      | nil => exact fun same => last same rfl
      | cons d rest => exact fun same => pair d rest same rfl
    rw [readable_cons_iff quote line slash, ih quotes', backslashes_cons, if_neg (by simp [slash])]
    simp [Ne.symm line]

/-- A name that is no part of a value and does not end the line. -/
def Plain (l : Label) : Prop := '=' ∉ l.name.toList ∧ '\n' ∉ l.name.toList

theorem plain_of_name {name : String} (plain : '=' ∉ name.toList ∧ '\n' ∉ name.toList)
    (value : String) : Plain ⟨name, value⟩ := plain

end Label

namespace LabelSet

/-- The rest of the labels behind the first one. -/
def others (s : LabelSet) : List Char := if s.isEmpty then [] else ',' :: (text s).toList

theorem toList_text_cons (l : Label) (s : LabelSet) :
    (text (l :: s)).toList =
      l.name.toList ++
        '=' :: '"' :: (l.value.toList.flatMap Label.escapeChar ++ '"' :: others s) := by
  rw [text, List.map_cons, others]
  cases s with
  | nil => simp [Label.toList_text]
  | cons d s =>
    rw [String.intercalate_cons_of_ne_nil (by simp)]
    simp [Label.toList_text, text]

theorem text_cons_ne (l : Label) (s : LabelSet) : text (l :: s) ≠ text [] := by
  intro same
  have chars := congrArg String.toList same
  rw [toList_text_cons] at chars
  cases List.append_eq_nil_iff.1 chars |>.2

theorem text_eq_of_others {s s' : LabelSet} (same : others s = others s') : text s = text s' := by
  cases s with
  | nil =>
    cases s' with
    | nil => rfl
    | cons l' s' => cases same
  | cons l s =>
    cases s' with
    | nil => cases same
    | cons l' s' => exact String.toList_inj.1 (List.cons.inj same).2

theorem text_inj {s s' : LabelSet} (plain : ∀ l ∈ s, l.Plain) (plain' : ∀ l ∈ s', l.Plain)
    (same : text s = text s') : s = s' := by
  induction s generalizing s' with
  | nil =>
    cases s' with
    | nil => rfl
    | cons l' s' => exact absurd same.symm (text_cons_ne l' s')
  | cons l s ih =>
    cases s' with
    | nil => exact absurd same (text_cons_ne l s)
    | cons l' s' =>
      obtain ⟨first, plain⟩ := List.forall_mem_cons.1 plain
      obtain ⟨first', plain'⟩ := List.forall_mem_cons.1 plain'
      have chars := congrArg String.toList same
      rw [toList_text_cons, toList_text_cons] at chars
      obtain ⟨name, quoted⟩ := Text.append_cons_inj first.1 first'.1 chars
      obtain ⟨value, rest⟩ := Label.escaped_inj (List.cons.inj quoted).2
      have head : l = l' := by
        cases l
        cases l'
        rw [Label.mk.injEq]
        exact ⟨String.toList_inj.1 name, String.toList_inj.1 value⟩
      rw [head, ih plain plain' (text_eq_of_others rest)]

theorem not_mem_text {s : LabelSet} (plain : ∀ l ∈ s, l.Plain) : '\n' ∉ (text s).toList := by
  induction s with
  | nil => simp [text]
  | cons l s ih =>
    obtain ⟨first, plain⟩ := List.forall_mem_cons.1 plain
    have rest : '\n' ∉ others s := by
      unfold others
      split
      · exact List.not_mem_nil
      · simpa using ih plain
    have value := Label.not_mem_escaped l.value.toList
    rw [toList_text_cons]
    simp only [List.mem_append, List.mem_cons, not_or]
    exact ⟨first.2, by decide, by decide, value, by decide, rest⟩

theorem toList_series (name : String) (s : LabelSet) :
    (series name s).toList =
      name.toList ++ if s.isEmpty then [] else '{' :: ((text s).toList ++ ['}']) := by
  unfold series
  split <;> simp

/-- The name of a series is what its text begins with, up to the brace. -/
theorem takeWhile_series {name : String} (plain : '{' ∉ name.toList) (s : LabelSet) :
    (series name s).toList.takeWhile (· ≠ '{') = name.toList := by
  have whole : ∀ c ∈ name.toList, decide (c ≠ '{') := fun c mem =>
    decide_eq_true fun same => plain (same ▸ mem)
  rw [toList_series, List.takeWhile_append_of_pos whole]
  split <;> simp

theorem series_left_inj {name : String} {s s' : LabelSet} (plain : ∀ l ∈ s, l.Plain)
    (plain' : ∀ l ∈ s', l.Plain) (same : series name s = series name s') : s = s' := by
  have chars := congrArg String.toList same
  rw [toList_series, toList_series, List.append_cancel_left_eq] at chars
  cases s with
  | nil => cases s' <;> simp_all
  | cons l s =>
    cases s' with
    | nil => simp at chars
    | cons l' s' =>
      have texts := (List.cons.inj chars).2
      exact text_inj plain plain' (String.toList_inj.1 (List.append_cancel_right texts))

theorem series_inj {name name' : String} (brace : '{' ∉ name.toList) (brace' : '{' ∉ name'.toList)
    {s s' : LabelSet} (plain : ∀ l ∈ s, l.Plain) (plain' : ∀ l ∈ s', l.Plain)
    (same : series name s = series name' s') : name = name' ∧ s = s' := by
  have named : name = name' := by
    rw [← String.toList_inj, ← takeWhile_series brace s, same, takeWhile_series brace']
  subst named
  exact ⟨rfl, series_left_inj plain plain' same⟩

end LabelSet
end CourtroomGateway.Metrics
