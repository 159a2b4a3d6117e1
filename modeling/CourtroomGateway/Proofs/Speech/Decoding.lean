import CourtroomGateway.Proofs.Text.Integer
import CourtroomGateway.Proofs.Text.Split
import CourtroomGateway.Speech.Decoder
import Mathlib.Data.List.Forall2
import Mathlib.Data.List.Nodup

/-! Which arguments can be read as an in-character message, and why the others cannot. A dialect
fits when there is one argument for each of its fields, each of the field's kind; at most one
dialect does, so the order in which dialects are tried does not matter. -/

namespace CourtroomGateway.Speech

/-- What an argument of a kind has to be. -/
def Kind.Admits : Kind → String → Prop
  | .filled, raw => raw ≠ ""
  | .free, _ => True
  | .number, raw | .button, raw => Text.IsInteger raw

theorem Kind.accepts_iff (k : Kind) (raw : String) : k.accepts raw ↔ k.Admits raw := by
  cases k <;> simp [accepts, Admits, Text.isSome_integer?_iff]

/-- The part of a partner field that names the partner. -/
def pairId (raw : String) : String := String.ofList (raw.toList.takeWhile (· ≠ '^'))

theorem splitPair_fst (raw : String) : (splitPair raw).1 = pairId raw := by
  obtain ⟨later, cuts⟩ := Text.splitOn_eq_takeWhile_cons '^' raw.toList
  rw [splitPair, cuts]
  cases later <;> rfl

/-- An order is a piece between two `^` that is not empty. -/
theorem mem_splitOn_of_splitPair {raw order : String} (h : (splitPair raw).2 = some order) :
    order.toList ∈ raw.toList.splitOn '^' ∧ order ≠ "" := by
  unfold splitPair at h
  split at h
  next id piece later cuts =>
    dsimp only at h
    split at h
    · cases h
    next filled =>
      cases h
      rw [← String.toList_inj.ne]
      exact ⟨by simp [cuts], by simpa using filled⟩
  · cases h
  · cases h

namespace Dialect

/-- There is one argument for each field, of the field's kind. -/
def Fits (d : Dialect) (args : List String) : Prop :=
  List.Forall₂ (fun slot raw => slot.2.Admits raw) d.layout args

/-- The argument that stands in the place of a field. -/
def Sends (d : Dialect) (args : List String) (f : Field) (raw : String) : Prop :=
  ∃ (i : Nat) (k : Kind), d.layout[i]? = some (f, k) ∧ args[i]? = some raw

theorem fits_iff (d : Dialect) (args : List String) : d.fits args ↔ d.Fits args := by
  simp only [fits, Fits, List.forall₂_iff_zip, Bool.and_eq_true, decide_eq_true_eq,
    List.all_eq_true, Kind.accepts_iff, Prod.forall]

theorem Fits.unique {d e : Dialect} {args : List String} (hd : d.Fits args) (he : e.Fits args) :
    d = e :=
  length_layout_injective (hd.length_eq.trans he.length_eq.symm)

theorem nodup_fields (d : Dialect) : (d.layout.map (·.1)).Nodup := by
  cases d <;> decide

theorem mem_zip_of_getElem? {layout : Layout} {args : List String} {i : Nat} {slot : Field × Kind}
    {raw : String} (place : layout[i]? = some slot) (arg : args[i]? = some raw) :
    (slot, raw) ∈ layout.zip args :=
  List.mem_iff_getElem?.2 ⟨i, List.getElem?_zip_eq_some.2 ⟨place, arg⟩⟩

/-- A field has one place in a layout, so an argument is found where it stands. -/
theorem argument?_eq_some_iff {d : Dialect} {args : List String} {f : Field} {raw : String} :
    d.argument? f args = some raw ↔ d.Sends args f raw := by
  rw [argument?, Option.map_eq_some_iff]
  constructor
  · rintro ⟨⟨⟨g, k⟩, raw⟩, found, rfl⟩
    obtain ⟨i, place⟩ := List.mem_iff_getElem?.1 (List.mem_of_find?_eq_some found)
    obtain ⟨slot, arg⟩ := List.getElem?_zip_eq_some.1 place
    have same : g = f := by simpa using List.find?_some found
    exact ⟨i, k, same ▸ slot, arg⟩
  · rintro ⟨i, k, slot, arg⟩
    have there : ((f, k), raw) ∈ d.layout.zip args := mem_zip_of_getElem? slot arg
    cases found : (d.layout.zip args).find? fun e => e.1.1 = f with
    | none => exact absurd (List.find?_eq_none.1 found _ there) (by simp)
    | some e =>
      obtain ⟨j, place⟩ := List.mem_iff_getElem?.1 (List.mem_of_find?_eq_some found)
      obtain ⟨slot', arg'⟩ := List.getElem?_zip_eq_some.1 place
      have same : e.1.1 = f := by simpa using List.find?_some found
      have place : i = j := by
        have bound : i < (d.layout.map (·.1)).length := by
          rw [List.length_map]
          exact (List.getElem?_eq_some_iff.1 slot).1
        refine (List.getElem?_inj bound d.nodup_fields).1 ?_
        rw [List.getElem?_map, List.getElem?_map, slot, slot', Option.map_some,
          Option.map_some, same]
      subst place
      exact ⟨e, rfl, Option.some.inj (arg'.symm.trans arg)⟩

theorem Sends.unique {d : Dialect} {args : List String} {f : Field} {raw other : String}
    (sent : d.Sends args f raw) (sent' : d.Sends args f other) : raw = other := by
  rw [← argument?_eq_some_iff] at sent sent'
  exact Option.some.inj (sent.symm.trans sent')

/-- A dialect whose partner field may have an order has that field. -/
theorem Fits.exists_pair {d : Dialect} {args : List String} (h : d.Fits args)
    (orders : d.ordersPair) : ∃ raw, d.Sends args .charidPair raw := by
  have slot : d.layout[16]? = some (.charidPair, .filled) := by
    cases d <;> first | rfl | cases orders
  have long : 16 < args.length := by
    rw [← h.length_eq]
    exact (List.getElem?_eq_some_iff.1 slot).1
  exact ⟨args[16], 16, .filled, slot, List.getElem?_eq_getElem long⟩

theorem badPair?_eq_some_iff {d : Dialect} {args : List String} {raw : String} :
    d.badPair? args = some raw ↔
      d.ordersPair ∧ d.Sends args .charidPair raw ∧ ¬ Text.IsInteger (pairId raw) := by
  unfold badPair?
  split
  next orders =>
    rw [Option.filter_eq_some_iff, argument?_eq_some_iff, splitPair_fst, ← Text.isSome_integer?_iff]
    simp [orders]
  next ordered => simp [ordered]

end Dialect

theorem dialect_read (m : Message) (slot : Field × Kind) (raw : String) :
    (m.read slot raw).dialect = m.dialect := by
  obtain ⟨f, k⟩ := slot
  cases f <;> simp only [Message.read] <;> split <;> rfl

theorem dialect_foldl_read (m : Message) (entries : List ((Field × Kind) × String)) :
    (entries.foldl (fun m e => m.read e.1 e.2) m).dialect = m.dialect := by
  induction entries generalizing m with
  | nil => rfl
  | cons e entries ih => rw [List.foldl_cons, ih, dialect_read]

theorem dialect_decoded (d : Dialect) (args : List String) :
    (Message.readAll d args).clampDing.dialect = d := by
  have read : (Message.readAll d args).dialect = d := dialect_foldl_read _ _
  unfold Message.clampDing
  split
  · exact read
  · exact read

theorem find?_fits {table : List Dialect} (whole : ∀ d, d ∈ table) {d : Dialect}
    {args : List String} (fit : d.Fits args) : table.find? (fun e => e.fits args) = some d := by
  cases found : table.find? (fun e => e.fits args) with
  | none => exact absurd (d.fits_iff args |>.2 fit) (List.find?_eq_none.1 found d (whole d))
  | some e =>
    have fits : e.Fits args := (e.fits_iff args).1 (by simpa using List.find?_some found)
    rw [fits.unique fit]

section Fitting
variable {table : List Dialect} (whole : ∀ d, d ∈ table) {d : Dialect} {args : List String}
include whole

theorem decodeWith_of_read (fit : d.Fits args) (clean : d.badPair? args = none) :
    decodeWith table args = .ok (Message.readAll d args).clampDing := by
  simp only [decodeWith, find?_fits whole fit, clean]

theorem decodeWith_of_refused (fit : d.Fits args) {raw : String}
    (bad : d.badPair? args = some raw) :
    decodeWith table args = .error (.badPairId raw) := by
  simp only [decodeWith, find?_fits whole fit, bad]

end Fitting

theorem decodeWith_of_not_fits {table : List Dialect} {args : List String}
    (misfit : ¬ ∃ d : Dialect, d.Fits args) :
    decodeWith table args = .error (.noDialect args.length) := by
  have none_ : table.find? (fun e => e.fits args) = none :=
    List.find?_eq_none.2 fun d _ h => misfit ⟨d, (d.fits_iff args).1 h⟩
  rw [decodeWith, none_]

namespace Dialect

/-- The arguments fit the dialect, and where the partner field may carry an order its id is a
number. -/
def Reads (d : Dialect) (args : List String) : Prop :=
  d.Fits args ∧ (d.ordersPair → ∃ raw, d.Sends args .charidPair raw ∧ Text.IsInteger (pairId raw))

/-- The arguments fit the dialect, but the partner field does not start with a number. -/
def RefusesPair (d : Dialect) (args : List String) (raw : String) : Prop :=
  d.Fits args ∧ d.ordersPair ∧ d.Sends args .charidPair raw ∧ ¬ Text.IsInteger (pairId raw)

theorem refusesPair_iff {d : Dialect} {args : List String} {raw : String} :
    d.RefusesPair args raw ↔ d.Fits args ∧ d.badPair? args = some raw := by
  rw [RefusesPair, badPair?_eq_some_iff]

theorem reads_iff {d : Dialect} {args : List String} :
    d.Reads args ↔ d.Fits args ∧ d.badPair? args = none := by
  refine and_congr_right fun fit => ?_
  constructor
  · intro named
    rw [Option.eq_none_iff_forall_ne_some]
    intro raw bad
    obtain ⟨orders, sent, refused⟩ := badPair?_eq_some_iff.1 bad
    obtain ⟨other, sent', read⟩ := named orders
    rw [sent.unique sent'] at refused
    exact refused read
  · intro clean orders
    obtain ⟨raw, sent⟩ := fit.exists_pair orders
    refine ⟨raw, sent, ?_⟩
    by_contra refused
    rw [badPair?_eq_some_iff.2 ⟨orders, sent, refused⟩] at clean
    cases clean

end Dialect

theorem decode_ok_iff (args : List String) (m : Message) :
    decode args = .ok m ↔
      m.dialect.Reads args ∧ (Message.readAll m.dialect args).clampDing = m := by
  by_cases fits : ∃ d : Dialect, d.Fits args
  · obtain ⟨d, fit⟩ := fits
    cases bad : d.badPair? args with
    | none =>
      rw [decode, decodeWith_of_read Dialect.mem_all fit bad, Except.ok.injEq]
      constructor
      · rintro rfl
        rw [dialect_decoded]
        exact ⟨Dialect.reads_iff.2 ⟨fit, bad⟩, rfl⟩
      · rintro ⟨⟨other, -⟩, decoded⟩
        rw [fit.unique other, decoded]
    | some raw =>
      rw [decode, decodeWith_of_refused Dialect.mem_all fit bad]
      refine iff_of_false nofun ?_
      rintro ⟨reads, -⟩
      obtain ⟨other, clean⟩ := Dialect.reads_iff.1 reads
      rw [← fit.unique other, bad] at clean
      cases clean
  · rw [decode, decodeWith_of_not_fits fits]
    exact iff_of_false nofun fun h => fits ⟨_, h.1.1⟩

theorem decode_badPairId_iff (args : List String) (raw : String) :
    decode args = .error (.badPairId raw) ↔ ∃ d : Dialect, d.RefusesPair args raw := by
  constructor
  · intro decoded
    by_cases fits : ∃ d : Dialect, d.Fits args
    · obtain ⟨d, fit⟩ := fits
      refine ⟨d, Dialect.refusesPair_iff.2 ⟨fit, ?_⟩⟩
      cases bad : d.badPair? args with
      | none =>
        rw [decode, decodeWith_of_read Dialect.mem_all fit bad] at decoded
        cases decoded
      | some other =>
        rw [decode, decodeWith_of_refused Dialect.mem_all fit bad] at decoded
        cases decoded
        rfl
    · rw [decode, decodeWith_of_not_fits fits] at decoded
      cases decoded
  · rintro ⟨d, refuses⟩
    obtain ⟨fit, bad⟩ := Dialect.refusesPair_iff.1 refuses
    exact decodeWith_of_refused Dialect.mem_all fit bad

theorem decode_noDialect_iff (args : List String) (n : Nat) :
    decode args = .error (.noDialect n) ↔ n = args.length ∧ ¬ ∃ d : Dialect, d.Fits args := by
  by_cases fits : ∃ d : Dialect, d.Fits args
  · obtain ⟨d, fit⟩ := fits
    refine iff_of_false ?_ fun h => h.2 ⟨d, fit⟩
    cases bad : d.badPair? args with
    | none =>
      rw [decode, decodeWith_of_read Dialect.mem_all fit bad]
      nofun
    | some raw =>
      rw [decode, decodeWith_of_refused Dialect.mem_all fit bad]
      nofun
  · rw [decode, decodeWith_of_not_fits fits]
    simp only [Except.error.injEq, DecodeError.noDialect.injEq, fits, not_false_eq_true,
      and_true, eq_comm]

/-- A dialect that fits either reads the arguments or refuses their partner field. -/
theorem exists_fits_iff (args : List String) :
    (∃ d : Dialect, d.Fits args) ↔
      (∃ d : Dialect, d.Reads args) ∨ ∃ (d : Dialect) (raw : String), d.RefusesPair args raw := by
  constructor
  · rintro ⟨d, fit⟩
    cases bad : d.badPair? args with
    | none => exact .inl ⟨d, Dialect.reads_iff.2 ⟨fit, bad⟩⟩
    | some raw => exact .inr ⟨d, raw, Dialect.refusesPair_iff.2 ⟨fit, bad⟩⟩
  · rintro (⟨d, reads⟩ | ⟨d, raw, refuses⟩)
    · exact ⟨d, reads.1⟩
    · exact ⟨d, refuses.1⟩

/-- Only which dialects are tried matters, not in which order. -/
theorem decodeWith_perm {table : List Dialect} (same : table.Perm Dialect.all)
    (args : List String) : decodeWith table args = decode args := by
  have whole : ∀ d, d ∈ table := fun d => same.mem_iff.2 d.mem_all
  by_cases fits : ∃ d : Dialect, d.Fits args
  · obtain ⟨d, fit⟩ := fits
    rw [decode, decodeWith, decodeWith, find?_fits whole fit, find?_fits Dialect.mem_all fit]
  · rw [decode, decodeWith_of_not_fits fits, decodeWith_of_not_fits fits]

/-- What the decoder answers to every argument list: a message of the one dialect that reads the
arguments, the partner field that alone is at fault, or the number of arguments. -/
theorem decode_classified (args : List String) :
    ((∃ m, decode args = .ok m) ↔ ∃ d : Dialect, d.Reads args) ∧
      (∀ raw, decode args = .error (.badPairId raw) ↔ ∃ d : Dialect, d.RefusesPair args raw) ∧
      (∀ n, decode args = .error (.noDialect n) ↔
        n = args.length ∧ (¬ ∃ d : Dialect, d.Reads args) ∧
          ¬ ∃ (d : Dialect) (raw : String), d.RefusesPair args raw) ∧
      (∀ m, decode args = .ok m →
        m.dialect.Reads args ∧ ∀ d : Dialect, d.Fits args → d = m.dialect) ∧
      ∀ table : List Dialect, table.Perm Dialect.all → decodeWith table args = decode args := by
  refine ⟨⟨?_, ?_⟩, decode_badPairId_iff args, ?_, ?_, ?_⟩
  · rintro ⟨m, decoded⟩
    exact ⟨m.dialect, ((decode_ok_iff args m).1 decoded).1⟩
  · rintro ⟨d, reads⟩
    have same := dialect_decoded d args
    refine ⟨(Message.readAll d args).clampDing, (decode_ok_iff args _).2 ?_⟩
    rw [same]
    exact ⟨reads, rfl⟩
  · intro n
    rw [decode_noDialect_iff, exists_fits_iff, not_or]
  · intro m decoded
    obtain ⟨reads, -⟩ := (decode_ok_iff args m).1 decoded
    exact ⟨reads, fun d other => other.unique reads.1⟩
  · intro table same
    exact decodeWith_perm same args

end CourtroomGateway.Speech
