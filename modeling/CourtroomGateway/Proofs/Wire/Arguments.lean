import CourtroomGateway.Proofs.Text.Recovery
import CourtroomGateway.Proofs.Wire.Messages

/-! Where damaged bytes are felt. A message is cut at its number signs whether that is done before
decoding or after it, so that an argument is the decoding of the bytes between two of them. Bytes
that belong to no character are missed in this argument, and nowhere else. -/

namespace CourtroomGateway.Wire

open Text.Utf8

theorem decodeChars_intercalate (segments : List (List UInt8)) :
    decodeChars ([hash].intercalate segments) = ['#'].intercalate (segments.map decodeChars) := by
  induction segments with
  | nil => rfl
  | cons s segments ih =>
    cases segments with
    | nil => simp
    | cons t segments =>
      have sign : ('#').toNat < 128 := by decide
      rw [List.intercalate_cons_cons, List.append_assoc, List.map_cons, List.map_cons,
        List.intercalate_cons_cons, ← List.map_cons, ← ih, List.append_assoc]
      exact decodeFrom_append_cons sign underway_none s _

theorem splitOn_decodeChars (raw : List UInt8) :
    (decodeChars raw).splitOn '#' = (raw.splitOn hash).map decodeChars := by
  have whole : [hash].intercalate (raw.splitOn hash) = raw := List.intercalate_splitOn hash
  have plain : ∀ piece ∈ (raw.splitOn hash).map decodeChars, '#' ∉ piece := by
    intro piece mem inside
    obtain ⟨segment, listed, rfl⟩ := List.mem_map.1 mem
    exact Text.not_mem_of_mem_splitOn listed
      (byte_mem_of_mem_decodeFrom (by decide) underway_none inside)
  have filled : (raw.splitOn hash).map decodeChars ≠ [] :=
    mt List.map_eq_nil_iff.1 (List.splitOn_ne_nil hash raw)
  conv_lhs => rw [← whole, decodeChars_intercalate]
  exact List.splitOn_intercalate '#' plain filled

theorem splitOn_decode (raw : List UInt8) :
    (decode raw).toList.splitOn '#' = (raw.splitOn hash).map decodeChars := by
  rw [decode, String.toList_ofList, splitOn_decodeChars]

/-- The segments of a message are a head, with the command, and one segment for each argument. With
the same head and other segments behind it, each of these is an argument. -/
theorem exists_segments_of_parse {raw : List UInt8} {p : Packet}
    (parsed : Packet.parse? (decode raw) = some p) :
    ∃ head args, raw.splitOn hash = head ++ args ∧ p.args = args.map decode ∧
      ∀ others : List (List UInt8), (∀ s ∈ others, hash ∉ s) →
        Packet.parse? (decode ([hash].intercalate (head ++ others))) =
          some { p with args := others.map decode } := by
  obtain ⟨first, pieces, cuts, filled, listed, again⟩ := exists_head_of_parse parsed
  rw [splitOn_decode] at cuts
  obtain ⟨head, args, segments, rfl, rfl⟩ := List.map_eq_append_iff.1 cuts
  refine ⟨head, args, segments, by rw [listed, List.map_map]; rfl, fun others plain => ?_⟩
  have own : ∀ s ∈ head ++ args, hash ∉ s :=
    segments ▸ fun s listed => Text.not_mem_of_mem_splitOn listed
  obtain ⟨before, -⟩ := List.forall_mem_append.1 own
  have parts : ([hash].intercalate (head ++ others)).splitOn hash = head ++ others :=
    List.splitOn_intercalate hash (List.forall_mem_append.2 ⟨before, plain⟩) (by simp_all)
  rw [again _ (others.map decodeChars) (by rw [splitOn_decode, parts, List.map_append]),
    List.map_map]
  rfl

/-- A text is read unharmed among any bytes, and these as if it were not there; what is read of them
encodes to themselves, less those that are left out. The text of a message is cut where its bytes
are, and an argument that is changed or damaged changes neither the number of arguments nor the text
of another one. -/
theorem decode_isolates_damage (x y : String) (bytes raw : List UInt8) :
    decode (encode x ++ bytes ++ encode y) = x ++ decode bytes ++ y ∧
      decode (encode x) = x ∧
      (encode (decode bytes)).Sublist bytes ∧
      (decode raw).toList.splitOn '#' = (raw.splitOn hash).map (fun s => (decode s).toList) ∧
      ∀ p, Packet.parse? (decode raw) = some p →
        ∃ head args, raw.splitOn hash = head ++ args ∧ p.args = args.map decode ∧
          ∀ (i : Nat) (s : List UInt8), hash ∉ s →
            Packet.parse? (decode ([hash].intercalate (head ++ args.set i s))) =
              some { p with args := p.args.set i (decode s) } := by
  refine ⟨decode_between x y bytes, ?_, encode_decode_sublist bytes, ?_, fun p parsed => ?_⟩
  · rw [encode, decode_encodeChars, String.ofList_toList]
  · rw [splitOn_decode]
    simp only [decode, String.toList_ofList]
  · obtain ⟨head, args, segments, listed, again⟩ := exists_segments_of_parse parsed
    refine ⟨head, args, segments, listed, fun i s plain => ?_⟩
    have own : ∀ t ∈ head ++ args, hash ∉ t :=
      segments ▸ fun t listed => Text.not_mem_of_mem_splitOn listed
    have others : ∀ t ∈ args.set i s, hash ∉ t := by
      intro t mem
      rcases List.mem_or_eq_of_mem_set mem with kept | rfl
      · exact own t (List.mem_append_right _ kept)
      · exact plain
    rw [again _ others, List.map_set, listed]

/-- The first argument is a cut-off euro sign, right before a number sign. -/
def cutOff : List UInt8 := [77, 83, hash, 0xE2, 0x82, hash, 0xC3, 0xA9]

theorem decode_isolates_damage_cutOff :
    Packet.parse? (decode cutOff) = some ⟨"MS", ["", "é"]⟩ ∧ hash ∉ [0xE2, 0x82, 0xAC] ∧
      ∃ head args, cutOff.splitOn hash = head ++ args ∧ args.map decode = ["", "é"] ∧
        Packet.parse? (decode ([hash].intercalate (head ++ args.set 0 [0xE2, 0x82, 0xAC]))) =
          some ⟨"MS", ["€", "é"]⟩ := by
  have parsed : Packet.parse? (decode cutOff) = some ⟨"MS", ["", "é"]⟩ := by decide
  have plain : hash ∉ ([0xE2, 0x82, 0xAC] : List UInt8) := by decide
  have sign : decode [0xE2, 0x82, 0xAC] = "€" := by decide
  obtain ⟨-, -, -, -, kept⟩ := decode_isolates_damage "" "" [] cutOff
  obtain ⟨head, args, segments, listed, repaired⟩ := kept _ parsed
  have whole := repaired 0 [0xE2, 0x82, 0xAC] plain
  rw [sign] at whole
  exact ⟨parsed, plain, head, args, segments, listed.symm, whole⟩

end CourtroomGateway.Wire
