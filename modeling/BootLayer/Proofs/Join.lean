import Mathlib.Algebra.Order.Ring.Nat
import Mathlib.Data.List.Forall2
import Mathlib.Data.List.Induction
import BootLayer.Host
import BootLayer.Proofs.Latin1
import BootLayer.Proofs.Text

/-!
What a join gives.  `Joins` lists the parts that can be joined, with their bytes, and `Spoils` lists
all others, with the fault of each at its index.

* `joinFrom_append`: parts that can be joined are appended, and the loop goes on behind them.
* `join_eq_error_iff`: a join fails exactly with the fault of the first part that cannot be joined.
* `joins_iff`: the bytes of a part are its codes, each up to `0xFF`.
* `join_is_homomorphism`: a join of two lists is the one after the other, whatever is joined first.
-/

namespace BootLayer.Host

/-- The part has these bytes: bytes as they are, and narrow text with one byte a character. -/
inductive Joins : Value → Bytes → Prop where
  | bytes (data : Bytes) : Joins (.bytes data) data
  | text {text : String} (narrow : Text.Latin1.Narrow text.toList) :
      Joins (.str text) (text.toList.map Text.Latin1.byte)

/-- The part at this index cannot be joined, with this fault: it is neither bytes nor text, or it is
text with a first wide character. -/
inductive Spoils (index : Nat) : Value → TypeFault → Prop where
  | kind {v : Value} (h : v.kind ∉ [Kind.bytes, Kind.str]) :
      Spoils index v (.joinPart index v.kind)
  | wide {text : String} {before after : List Char} {c : Char}
      (htext : text.toList = before ++ c :: after) (narrow : Text.Latin1.Narrow before)
      (hc : 0xFF < c.toNat) :
      Spoils index (.str text) (.wideCharacter ⟨c, before.length⟩)

/-- The first of the parts that cannot be joined has this fault. -/
def SpoiledBy (parts : List Value) (fault : TypeFault) : Prop :=
  ∃ good pieces v rest, parts = good ++ v :: rest ∧ List.Forall₂ Joins good pieces ∧
    Spoils good.length v fault

/-- Every part can be joined or cannot. -/
lemma joins_or_spoils (index : Nat) (v : Value) :
    (∃ data, Joins v data) ∨ ∃ fault, Spoils index v fault := by
  by_cases hkind : v.kind ∈ [Kind.bytes, Kind.str]
  · cases v with
    | bytes data => exact .inl ⟨data, .bytes data⟩
    | str text =>
        rcases Text.Latin1.narrow_or_wide text.toList with narrow | ⟨_, _, _, htext, narrow, hc⟩
        · exact .inl ⟨_, .text narrow⟩
        · exact .inr ⟨_, .wide htext narrow hc⟩
    | _ => simp [Value.kind] at hkind
  · exact .inr ⟨_, .kind hkind⟩

/-! ### The loop -/

/-- One step of the loop: the bytes of the part are appended. -/
lemma joinFrom_of_joins {v : Value} {data : Bytes} (h : Joins v data) (index : Nat)
    (buffer : Bytes) (rest : List Value) :
    joinFrom index buffer (v :: rest) = joinFrom (index + 1) (buffer ++ data) rest := by
  cases h with
  | bytes => rw [joinFrom]
  | text narrow => rw [joinFrom, Text.Latin1.encodeInto_narrow buffer narrow]

/-- A part that cannot be joined ends the loop, whatever follows it. -/
lemma joinFrom_of_spoils {v : Value} {fault : TypeFault} {index : Nat} (h : Spoils index v fault)
    (buffer : Bytes) (rest : List Value) :
    joinFrom index buffer (v :: rest) = .error fault := by
  cases h with
  | kind hkind => cases v <;> first | rfl | simp [Value.kind] at hkind
  | wide htext narrow hc => rw [joinFrom, Text.Latin1.encodeInto_wide buffer htext narrow hc]

/-- The loop over parts that can be joined. -/
lemma joinFrom_append {parts : List Value} {pieces : List Bytes}
    (h : List.Forall₂ Joins parts pieces) (index : Nat) (buffer : Bytes) (rest : List Value) :
    joinFrom index buffer (parts ++ rest) =
      joinFrom (index + parts.length) (buffer ++ pieces.flatten) rest := by
  induction h generalizing index buffer with
  | nil => simp
  | @cons v data parts pieces hv _ ih =>
      rw [List.cons_append, joinFrom_of_joins hv, ih, List.length_cons, List.flatten_cons,
        List.append_assoc, Nat.add_assoc, Nat.add_comm 1]

/-! ### The join -/

lemma join_of_joins {parts : List Value} {pieces : List Bytes}
    (h : List.Forall₂ Joins parts pieces) : join parts = .ok pieces.flatten := by
  have hloop := joinFrom_append h 0 [] []
  rwa [List.append_nil] at hloop

lemma join_of_spoiledBy {parts : List Value} {fault : TypeFault} (h : SpoiledBy parts fault) :
    join parts = .error fault := by
  obtain ⟨good, pieces, v, rest, rfl, hgood, hv⟩ := h
  rw [join, joinFrom_append hgood, Nat.zero_add, joinFrom_of_spoils hv]

/-- All parts can be joined, or there is a first one that cannot. -/
lemma joins_or_spoiledBy (parts : List Value) :
    (∃ pieces, List.Forall₂ Joins parts pieces) ∨ ∃ fault, SpoiledBy parts fault := by
  -- from the end, so that the index of a part is known once all parts before it are good
  induction parts using List.reverseRecOn with
  | nil => exact .inl ⟨[], .nil⟩
  | append_singleton parts v ih =>
      rcases ih with ⟨pieces, hgood⟩ | ⟨fault, good, pieces, w, rest, rfl, hgood, hw⟩
      · rcases joins_or_spoils parts.length v with ⟨data, hv⟩ | ⟨fault, hv⟩
        · exact .inl ⟨pieces ++ [data], List.rel_append hgood (.cons hv .nil)⟩
        · exact .inr ⟨fault, parts, pieces, v, [], rfl, hgood, hv⟩
      · exact .inr ⟨fault, good, pieces, w, rest ++ [v], by simp, hgood, hw⟩

/-- **A join fails exactly with the fault of the first part that cannot be joined.** -/
lemma join_eq_error_iff {parts : List Value} {fault : TypeFault} :
    join parts = .error fault ↔ SpoiledBy parts fault := by
  refine ⟨fun h => ?_, join_of_spoiledBy⟩
  rcases joins_or_spoiledBy parts with ⟨pieces, hgood⟩ | ⟨fault', hspoiled⟩
  · rw [join_of_joins hgood] at h
    cases h
  · rw [join_of_spoiledBy hspoiled] at h
    cases h
    exact hspoiled

/-- A join succeeds exactly with the bytes of its parts, in their order. -/
lemma join_eq_ok_iff {parts : List Value} {data : Bytes} :
    join parts = .ok data ↔ ∃ pieces, List.Forall₂ Joins parts pieces ∧ data = pieces.flatten := by
  constructor
  · intro h
    rcases joins_or_spoiledBy parts with ⟨pieces, hgood⟩ | ⟨fault, hspoiled⟩
    · rw [join_of_joins hgood] at h
      exact ⟨pieces, hgood, (Except.ok.inj h).symm⟩
    · rw [join_of_spoiledBy hspoiled] at h
      cases h
  · rintro ⟨pieces, hgood, rfl⟩
    exact join_of_joins hgood

/-! ### Codes -/

/-- The part is bytes, or text without a character above U+00FF. -/
def Joinable : Value → Prop
  | .bytes _ => True
  | .str text => Text.Latin1.Narrow text.toList
  | _ => False

/-- The codes of the bytes or of the characters of a part. -/
def codes : Value → List Nat
  | .bytes data => data.map UInt8.toNat
  | .str text => text.toList.map Char.toNat
  | _ => []

/-- The number of bytes or of characters of a part. -/
def extent : Value → Nat
  | .bytes data => data.length
  | .str text => text.length
  | _ => 0

lemma length_codes (v : Value) : (codes v).length = extent v := by
  cases v <;> simp [codes, extent, String.length_toList]

/-- **The bytes of a part that can be joined are its codes.** -/
lemma joins_iff {v : Value} {data : Bytes} :
    Joins v data ↔ Joinable v ∧ data.map UInt8.toNat = codes v := by
  constructor
  · rintro (_ | ⟨narrow⟩)
    · exact ⟨trivial, rfl⟩
    · exact ⟨narrow, Text.Latin1.map_toNat_map_byte narrow⟩
  · rintro ⟨hv, hcodes⟩
    cases v with
    | bytes data' =>
        rw [Text.map_toNat_injective hcodes]
        exact .bytes data'
    | str text =>
        have hbytes := Text.Latin1.map_toNat_map_byte hv
        rw [Text.map_toNat_injective (hcodes.trans hbytes.symm)]
        exact .text hv
    | _ => cases hv

lemma joinable_iff {v : Value} : Joinable v ↔ ∃ data, Joins v data := by
  constructor
  · intro hv
    cases v with
    | bytes data => exact ⟨data, .bytes data⟩
    | str text => exact ⟨_, .text hv⟩
    | _ => cases hv
  · rintro ⟨data, h⟩
    exact (joins_iff.1 h).1

/-- Parts that can all be joined have their pieces. -/
lemma exists_pieces_iff {parts : List Value} :
    (∃ pieces, List.Forall₂ Joins parts pieces) ↔ ∀ v ∈ parts, Joinable v := by
  induction parts with
  | nil => simp
  | cons v parts ih =>
      rw [List.forall_mem_cons, ← ih, joinable_iff]
      constructor
      · rintro ⟨_, ⟨⟩ | ⟨hv, hparts⟩⟩
        exact ⟨⟨_, hv⟩, _, hparts⟩
      · rintro ⟨⟨data, hv⟩, pieces, hparts⟩
        exact ⟨data :: pieces, .cons hv hparts⟩

lemma map_toNat_flatten {parts : List Value} {pieces : List Bytes}
    (h : List.Forall₂ Joins parts pieces) :
    pieces.flatten.map UInt8.toNat = parts.flatMap codes := by
  induction h with
  | nil => rfl
  | cons hv _ ih =>
      rw [List.flatten_cons, List.map_append, List.flatMap_cons, (joins_iff.1 hv).2, ih]

/-! ### The primitive -/

lemma primitives_join_eq_ok_iff {parts : List Value} {data : Bytes} {world : World} :
    primitives.join parts world = (.ok data, world) ↔
      ∃ pieces, List.Forall₂ Joins parts pieces ∧ data = pieces.flatten := by
  rw [← join_eq_ok_iff]
  show ((join parts).mapError Error.type, world) = _ ↔ _
  cases join parts <;> simp [Except.mapError]

lemma primitives_join_eq_error_iff {parts : List Value} {e : Error} {world : World} :
    primitives.join parts world = (.error e, world) ↔
      ∃ fault, SpoiledBy parts fault ∧ e = .type fault := by
  simp only [← join_eq_error_iff]
  show ((join parts).mapError Error.type, world) = _ ↔ _
  cases join parts <;> simp [Except.mapError, eq_comm]

/-- **A join is a homomorphism that reports the first bad part.**  It succeeds exactly if each part
is bytes or narrow text, with the codes of all parts one after the other; of lists that can be
joined the joined bytes are appended, and bytes joined before may stand for the parts that they
came from.  It fails exactly with the fault of the first part that cannot be joined, which counts
the parts before it, or the characters before its first wide one, and nothing after it. -/
theorem join_is_homomorphism (world : World) :
    (∀ parts, (∃ data, primitives.join parts world = (.ok data, world)) ↔
      ∀ v ∈ parts, Joinable v) ∧
    (∀ parts data, primitives.join parts world = (.ok data, world) →
      data.map UInt8.toNat = parts.flatMap codes ∧ data.length = (parts.map extent).sum) ∧
    (∀ xs ys a b, primitives.join xs world = (.ok a, world) →
      primitives.join ys world = (.ok b, world) →
      primitives.join (xs ++ ys) world = (.ok (a ++ b), world) ∧
      primitives.join ([.bytes a] ++ ys) world = (.ok (a ++ b), world)) ∧
    (∀ parts e, primitives.join parts world = (.error e, world) ↔
      ∃ good v rest fault, parts = good ++ v :: rest ∧ (∀ w ∈ good, Joinable w) ∧
        Spoils good.length v fault ∧ e = .type fault) := by
  refine ⟨fun parts => ?_, fun parts data h => ?_, fun xs ys a b hxs hys => ?_, fun parts e => ?_⟩
  · simp only [primitives_join_eq_ok_iff, ← exists_pieces_iff]
    exact ⟨fun ⟨_, pieces, hgood, _⟩ => ⟨pieces, hgood⟩,
      fun ⟨pieces, hgood⟩ => ⟨_, pieces, hgood, rfl⟩⟩
  · obtain ⟨pieces, hgood, rfl⟩ := primitives_join_eq_ok_iff.1 h
    have hcodes := map_toNat_flatten hgood
    refine ⟨hcodes, ?_⟩
    calc pieces.flatten.length = (parts.flatMap codes).length := by
          rw [← hcodes, List.length_map]
      _ = (parts.map extent).sum := by
          simp only [List.length_flatMap, length_codes]
  · obtain ⟨as, has, rfl⟩ := primitives_join_eq_ok_iff.1 hxs
    obtain ⟨bs, hbs, rfl⟩ := primitives_join_eq_ok_iff.1 hys
    rw [primitives_join_eq_ok_iff, primitives_join_eq_ok_iff]
    exact ⟨⟨as ++ bs, List.rel_append has hbs, List.flatten_append.symm⟩,
      ⟨as.flatten :: bs, .cons (.bytes _) hbs, rfl⟩⟩
  · simp only [primitives_join_eq_error_iff, SpoiledBy, ← exists_pieces_iff]
    constructor
    · rintro ⟨fault, ⟨good, pieces, v, rest, rfl, hgood, hv⟩, rfl⟩
      exact ⟨good, v, rest, fault, rfl, ⟨pieces, hgood⟩, hv, rfl⟩
    · rintro ⟨good, v, rest, fault, rfl, ⟨pieces, hgood⟩, hv, rfl⟩
      exact ⟨fault, ⟨good, pieces, v, rest, rfl, hgood, hv⟩, rfl⟩

/-- Text and bytes joined in one go and in two, and a part with a wide character before a part that
is neither bytes nor text. -/
theorem accents_and_bytes_join :
    let world : World := { tree := .emptyDir }
    let front : List Value := [.str "aé", .bytes [0, 0xFF]]
    let back : List Value := [.str "", .str "ÿ"]
    let spoiled : List Value := [.str "é", .str "b€€", .int 1]
    primitives.join front world = (.ok [0x61, 0xE9, 0, 0xFF], world) ∧
    primitives.join back world = (.ok [0xFF], world) ∧
    primitives.join (front ++ back) world = (.ok [0x61, 0xE9, 0, 0xFF, 0xFF], world) ∧
    primitives.join ([.bytes [0x61, 0xE9, 0, 0xFF]] ++ back) world =
      (.ok [0x61, 0xE9, 0, 0xFF, 0xFF], world) ∧
    ([0x61, 0xE9, 0, 0xFF] : Bytes).length = (front.map extent).sum ∧
    primitives.join spoiled world = (.error (.type (.wideCharacter ⟨'€', 1⟩)), world) := by
  intro world front back spoiled
  obtain ⟨-, hcodes, happend, herror⟩ := join_is_homomorphism world
  have hfront : primitives.join front world = (.ok [0x61, 0xE9, 0, 0xFF], world) := rfl
  have hback : primitives.join back world = (.ok [0xFF], world) := rfl
  obtain ⟨hboth, hbytes⟩ := happend front back _ _ hfront hback
  refine ⟨hfront, hback, hboth, hbytes, (hcodes front _ hfront).2, (herror spoiled _).2 ?_⟩
  have hwide : "b€€".toList = ['b'] ++ '€' :: ['€'] := rfl
  refine ⟨[.str "é"], .str "b€€", [.int 1], _, rfl, ?_, .wide hwide ?_ ?_, rfl⟩
  · simp [Joinable, Text.Latin1.Narrow]
  · simp [Text.Latin1.Narrow]
  · decide

end BootLayer.Host
