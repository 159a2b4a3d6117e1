import CourtroomGateway.Table

/-! Laws of finite maps that do not concern one operation: what the list of entries says of
`find?`, that maps with the same answers are the same map, that maps which hold the same keys
list them alike, and how the entry of one key stands beside all others. -/

namespace CourtroomGateway.Table
variable {κ α : Type} [Ord κ]

theorem keys_ascending (t : Table κ α) : t.keys.Pairwise fun a b => compare a b = .lt :=
  t.ascending.map _ fun _ _ h => h

variable [Std.LawfulEqOrd κ]

theorem ne_of_lt {a b : κ} (h : compare a b = .lt) : a ≠ b := by
  rintro rfl
  have same : compare a a = .eq := Std.ReflCmp.compare_self
  rw [same] at h
  cases h

theorem nodup_keys (t : Table κ α) : t.keys.Nodup := t.keys_ascending.imp ne_of_lt

theorem entries_eq_of_mem_iff [Std.TransOrd κ] {l m : List (κ × α)}
    (hl : l.Pairwise fun a b => compare a.1 b.1 = .lt)
    (hm : m.Pairwise fun a b => compare a.1 b.1 = .lt)
    (h : ∀ k v, (k, v) ∈ l ↔ (k, v) ∈ m) : l = m := by
  induction l generalizing m with
  | nil =>
    cases m with
    | nil => rfl
    | cons b m => exact absurd ((h b.1 b.2).2 List.mem_cons_self) List.not_mem_nil
  | cons a l ih =>
    cases m with
    | nil => exact absurd ((h a.1 a.2).1 List.mem_cons_self) List.not_mem_nil
    | cons b m =>
      have hl' := List.pairwise_cons.1 hl
      have hm' := List.pairwise_cons.1 hm
      have hab : a = b := by
        rcases List.mem_cons.1 ((h a.1 a.2).1 List.mem_cons_self) with hb | hb
        · exact hb
        rcases List.mem_cons.1 ((h b.1 b.2).2 List.mem_cons_self) with ha | ha
        · exact ha.symm
        · have both := Std.TransCmp.lt_trans (hl'.1 _ ha) (hm'.1 _ hb)
          exact absurd rfl (ne_of_lt both)
      subst hab
      congr 1
      refine ih hl'.2 hm'.2 fun k v => ?_
      have := h k v
      simp only [List.mem_cons] at this
      constructor
      · intro hk
        rcases this.1 (.inr hk) with rfl | hk'
        · exact absurd rfl (ne_of_lt (hl'.1 _ hk))
        · exact hk'
      · intro hk
        rcases this.2 (.inr hk) with rfl | hk'
        · exact absurd rfl (ne_of_lt (hm'.1 _ hk))
        · exact hk'

variable [DecidableEq κ]

theorem mem_entries_iff (t : Table κ α) (k : κ) (v : α) :
    (k, v) ∈ t.entries ↔ t.find? k = some v := by
  rcases t with ⟨l, h⟩
  simp only [find?]
  induction l with
  | nil => simp
  | cons e l ih =>
    rw [List.pairwise_cons] at h
    rw [List.mem_cons, List.find?_cons]
    by_cases he : e.1 = k
    · have later : (k, v) ∉ l := fun hm => ne_of_lt (h.1 _ hm) he
      subst he
      simp [later, Prod.ext_iff, eq_comm]
    · have first : (k, v) ≠ e := fun heq => he (heq ▸ rfl)
      simp [he, first, ih h.2]

theorem mem_keys_iff (t : Table κ α) (k : κ) : k ∈ t.keys ↔ t.contains k := by
  simp only [keys, contains, List.mem_map, Option.isSome_iff_exists, ← mem_entries_iff]
  constructor
  · rintro ⟨e, he, rfl⟩
    exact ⟨e.2, he⟩
  · rintro ⟨v, hv⟩
    exact ⟨_, hv, rfl⟩

theorem keys_eq_of_contains [Std.TransOrd κ] {β : Type} {t : Table κ α} {u : Table κ β}
    (h : ∀ k, t.contains k = u.contains k) : t.keys = u.keys := by
  have perm : t.keys.Perm u.keys :=
    (List.perm_ext_iff_of_nodup t.nodup_keys u.nodup_keys).2 fun k => by
      rw [mem_keys_iff, mem_keys_iff, h]
  refine perm.eq_of_pairwise (fun a b _ _ hab hba => ?_) t.keys_ascending u.keys_ascending
  exact absurd rfl (ne_of_lt (Std.TransCmp.lt_trans hab hba))

theorem ext_find? [Std.TransOrd κ] {t u : Table κ α} (h : ∀ k, t.find? k = u.find? k) : t = u := by
  have same : t.entries = u.entries :=
    entries_eq_of_mem_iff t.ascending u.ascending fun k v => by
      rw [mem_entries_iff, mem_entries_iff, h]
  cases t
  cases u
  cases same
  rfl

theorem insert_comm [Std.TransOrd κ] {k k' : κ} (apart : k ≠ k') (t : Table κ α) (v v' : α) :
    (t.insert k v).insert k' v' = (t.insert k' v').insert k v := by
  refine ext_find? fun i => ?_
  simp only [find?_insert]
  by_cases first : i = k
  · subst first
    simp [apart]
  · simp [first]

theorem insert_insert [Std.TransOrd κ] (t : Table κ α) (k : κ) (v v' : α) :
    (t.insert k v).insert k v' = t.insert k v' := by
  refine ext_find? fun i => ?_
  simp only [find?_insert]
  split <;> rfl

theorem contains_insert [Std.TransOrd κ] (t : Table κ α) (k i : κ) (v : α) :
    (t.insert k v).contains i ↔ i = k ∨ t.contains i := by
  simp only [contains, find?_insert]
  by_cases same : i = k <;> simp [same]

omit [Std.LawfulEqOrd κ] in
theorem contains_erase (t : Table κ α) (k i : κ) :
    (t.erase k).contains i ↔ i ≠ k ∧ t.contains i := by
  simp only [contains, find?_erase]
  by_cases same : i = k <;> simp [same]

theorem isEmpty_iff (t : Table κ α) : t.isEmpty ↔ ∀ k, ¬ t.contains k := by
  simp only [← mem_keys_iff, ← List.eq_nil_iff_forall_not_mem]
  simp [isEmpty, keys]

omit [DecidableEq κ] in
theorem nodup_entries (t : Table κ α) : t.entries.Nodup :=
  t.ascending.imp fun below same => ne_of_lt below (congrArg _ same)

/-- The entry of a key and those of the other keys are all entries. -/
theorem perm_entries {t : Table κ α} {k : κ} {v : α} (found : t.find? k = some v) :
    t.entries.Perm ((k, v) :: (t.erase k).entries) := by
  have fresh : (k, v) ∉ (t.erase k).entries := by simp [mem_entries_iff]
  refine (List.perm_ext_iff_of_nodup t.nodup_entries
    (List.nodup_cons.2 ⟨fresh, nodup_entries _⟩)).2 fun ⟨i, u⟩ => ?_
  rw [List.mem_cons, mem_entries_iff, mem_entries_iff, find?_erase]
  by_cases same : i = k
  · subst same
    simp [found, eq_comm]
  · simp [same]

theorem erase_of_missing [Std.TransOrd κ] {t : Table κ α} {k : κ} (missing : t.find? k = none) :
    t.erase k = t := by
  refine ext_find? fun i => ?_
  rw [find?_erase]
  split
  next same => rw [same, missing]
  next => rfl

theorem erase_insert [Std.TransOrd κ] (t : Table κ α) (k : κ) (v : α) :
    (t.insert k v).erase k = t.erase k := by
  refine ext_find? fun i => ?_
  simp only [find?_erase, find?_insert]
  split <;> rfl

theorem perm_entries_insert [Std.TransOrd κ] (t : Table κ α) (k : κ) (v : α) :
    (t.insert k v).entries.Perm ((k, v) :: (t.erase k).entries) := by
  have found : (t.insert k v).find? k = some v := by simp
  exact t.erase_insert k v ▸ perm_entries found

end CourtroomGateway.Table
