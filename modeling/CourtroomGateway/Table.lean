/-! Finite maps as strictly ascending association lists. A map has one representation only, so
equal maps are equal values, and listing the keys in order is reading the list. The lemmas give
`find?` after each operation. -/

namespace CourtroomGateway

structure Table (κ α : Type) [Ord κ] where
  entries : List (κ × α)
  ascending : entries.Pairwise fun a b => compare a.1 b.1 = .lt

namespace Table
variable {κ α β : Type} [Ord κ]

def empty : Table κ α := ⟨[], .nil⟩

instance : EmptyCollection (Table κ α) := ⟨empty⟩

instance : Inhabited (Table κ α) := ⟨empty⟩

instance [DecidableEq κ] [DecidableEq α] : DecidableEq (Table κ α)
  | ⟨a, _⟩, ⟨b, _⟩ =>
    if h : a = b then isTrue (by subst h; rfl) else isFalse (by simpa using h)

def keys (t : Table κ α) : List κ := t.entries.map (·.1)

def size (t : Table κ α) : Nat := t.entries.length

def isEmpty (t : Table κ α) : Bool := t.entries.isEmpty

section Lookup
variable [DecidableEq κ]

def find? (t : Table κ α) (k : κ) : Option α :=
  (t.entries.find? fun e => e.1 = k).map (·.2)

def contains (t : Table κ α) (k : κ) : Bool := (t.find? k).isSome

def erase (t : Table κ α) (k : κ) : Table κ α :=
  ⟨t.entries.filter fun e => e.1 ≠ k, t.ascending.filter _⟩

def modify (t : Table κ α) (k : κ) (f : α → α) : Table κ α :=
  ⟨t.entries.map fun e => (e.1, if e.1 = k then f e.2 else e.2),
    t.ascending.map _ fun _ _ h => h⟩

@[simp] theorem find?_empty (k : κ) : (∅ : Table κ α).find? k = none := rfl

@[simp] theorem find?_erase (t : Table κ α) (k i : κ) :
    (t.erase k).find? i = if i = k then none else t.find? i := by
  simp only [find?, erase, List.find?_filter]
  split
  next h =>
    subst h
    simp only [Option.map_eq_none_iff, List.find?_eq_none]
    simp
  next h =>
    congr 2
    funext e
    by_cases he : e.1 = i <;> simp [he, h]

@[simp] theorem find?_modify (t : Table κ α) (k i : κ) (f : α → α) :
    (t.modify k f).find? i = if i = k then (t.find? i).map f else t.find? i := by
  simp only [find?, modify, List.find?_map, Option.map_map]
  have same : ((fun e : κ × α => decide (e.1 = i)) ∘
      fun e : κ × α => (e.1, if e.1 = k then f e.2 else e.2)) = fun e => decide (e.1 = i) := rfl
  rw [same]
  cases found : t.entries.find? fun e => decide (e.1 = i) with
  | none => simp
  | some e =>
    have he : e.1 = i := by simpa using List.find?_some found
    by_cases h : i = k <;> simp [he, h]

end Lookup

def insertEntry (k : κ) (v : α) : List (κ × α) → List (κ × α)
  | [] => [(k, v)]
  | e :: rest =>
    match compare k e.1 with
    | .lt => (k, v) :: e :: rest
    | .eq => (k, v) :: rest
    | .gt => e :: insertEntry k v rest

theorem mem_of_mem_insertEntry {k : κ} {v : α} {e : κ × α} {l : List (κ × α)}
    (h : e ∈ insertEntry k v l) : e = (k, v) ∨ e ∈ l := by
  induction l with
  | nil => simpa [insertEntry] using h
  | cons d l ih =>
    simp only [insertEntry] at h
    split at h
    · simpa using h
    · rcases List.mem_cons.1 h with h | h
      · exact .inl h
      · exact .inr (List.mem_cons_of_mem _ h)
    · rcases List.mem_cons.1 h with h | h
      · exact .inr (h ▸ List.mem_cons_self)
      · exact (ih h).imp_right (List.mem_cons_of_mem _)

variable [Std.TransOrd κ]

theorem ascending_insertEntry (k : κ) (v : α) {l : List (κ × α)}
    (h : l.Pairwise fun a b => compare a.1 b.1 = .lt) :
    (insertEntry k v l).Pairwise fun a b => compare a.1 b.1 = .lt := by
  induction l with
  | nil => exact List.pairwise_singleton _ _
  | cons e l ih =>
    rw [List.pairwise_cons] at h
    simp only [insertEntry]
    split
    next hc =>
      refine List.pairwise_cons.2 ⟨fun d hd => ?_, List.pairwise_cons.2 h⟩
      rcases List.mem_cons.1 hd with rfl | hd
      · exact hc
      · exact Std.TransCmp.lt_trans hc (h.1 d hd)
    next hc =>
      exact List.pairwise_cons.2 ⟨fun d hd => Std.TransCmp.lt_of_eq_of_lt hc (h.1 d hd), h.2⟩
    next hc =>
      refine List.pairwise_cons.2 ⟨fun d hd => ?_, ih h.2⟩
      rcases mem_of_mem_insertEntry hd with rfl | hd
      · exact Std.OrientedCmp.lt_of_gt hc
      · exact h.1 d hd

def insert (t : Table κ α) (k : κ) (v : α) : Table κ α :=
  ⟨insertEntry k v t.entries, ascending_insertEntry k v t.ascending⟩

variable [DecidableEq κ] [Std.LawfulEqOrd κ]

omit [Std.TransOrd κ] in
theorem find?_insertEntry (k i : κ) (v : α) (l : List (κ × α)) :
    (insertEntry k v l).find? (fun e => e.1 = i) =
      if i = k then some (k, v) else l.find? (fun e => e.1 = i) := by
  induction l with
  | nil => by_cases hk : i = k <;> simp [insertEntry, hk, eq_comm]
  | cons e l ih =>
    simp only [insertEntry]
    split
    next => by_cases hk : i = k <;> simp [List.find?_cons, hk, eq_comm]
    next hc =>
      have he : k = e.1 := Std.LawfulEqCmp.eq_of_compare hc
      by_cases hk : i = k <;> simp [hk, ← he, eq_comm]
    next hc =>
      have hne : e.1 ≠ k := fun he => by
        have same : compare k k = .eq := Std.ReflCmp.compare_self
        rw [he, same] at hc
        cases hc
      rw [List.find?_cons, ih, List.find?_cons]
      by_cases hk : i = k
      · subst hk
        simp [hne]
      · by_cases he : e.1 = i <;> simp [hk, he]

@[simp] theorem find?_insert (t : Table κ α) (k i : κ) (v : α) :
    (t.insert k v).find? i = if i = k then some v else t.find? i := by
  simp only [find?, insert, find?_insertEntry]
  split <;> rfl

end Table
end CourtroomGateway
