import Mathlib.Tactic.Common
import BootLayer.Proofs.Hex
import BootLayer.Proofs.NumberText
import BootLayer.Proofs.Packing
import BootLayer.Proofs.Process

/-!
A printed double is read back bit by bit.

* `number_display_float`: the display text of a double that is no NaN is a number, namely that
  double.
* `number_display_nan`: the display text of a NaN is a number, and again a NaN.
* `prints_funpack_iff`, `prints_fpack_iff`: what the program prints for the digits of eight bytes,
  and for the text of a double.
* `printed_double_reads_back`: all of this together, also across two runs of the program.
-/

namespace BootLayer

/-! ### The primitive -/

/-- The display text of a double that is no NaN is that double. -/
lemma Host.number_display_float {x : Double} (h : x.isNaN = false) (world : World) :
    primitives.number (.str (Value.float x).display) world = (.ok x, world) := by
  obtain ⟨numeral, hread, hx⟩ := Double.read_text h
  show ((readNumber x.text).mapError Error.parse, world) = _
  rw [readNumber_text hread, hx]
  rfl

/-- The display text of a NaN is a number, and again a NaN. -/
lemma Host.number_display_nan {x : Double} (h : x.isNaN = true) (world : World) :
    primitives.number (.str (Value.float x).display) world = (.ok (Double.nan false), world) := by
  have htext : x.text = "NaN" := if_pos h
  have hread : Numeral.read x.text.toList = some (.nan false) := by
    rw [htext]
    decide
  show ((readNumber x.text).mapError Error.parse, world) = _
  rw [readNumber_text hread]
  rfl

/-! ### The program -/

namespace CommandLine

/-- Written bytes do not start with a hyphen. -/
lemma head?_encode_ne_hyphen (bytes : Bytes) : (Text.Hex.encode bytes).toList.head? ≠ some '-' :=
  fun h => Text.Hex.hyphen_not_mem_encode bytes (List.mem_of_mem_head? h)

/-- The program prints the double that eight bytes spell. -/
lemma prints_funpack_iff {bytes : Bytes} (h : bytes.length = 8) (world : World) (line : String) :
    Prints world ["funpack", Text.Hex.encode bytes] line ↔
      HostReady world ∧ line = (Value.float (Double.ofBytes bytes)).display := by
  refine prints_iff (readArguments_funpack (head?_encode_ne_hyphen bytes)) ?_ line
  have hrequest : requestOf (.funpack (Text.Hex.encode bytes)) = .ok (.funpack bytes) := by
    rw [requestOf, decodeHex, Text.Hex.decode_encode]
    rfl
  have hfunpack : Host.funpack bytes = .ok (Double.ofBytes bytes) := by
    rw [Host.funpack, Double.unpack?_of_length h]
  have hanswer : ∀ s, (Handle.host : Handle Unit).object.perform (.funpack bytes) s =
      (.ok (.float (Double.ofBytes bytes)), s) := by
    intro s
    rw [Primitives.perform_eq]
    show (Except.map Value.float (Host.funpack bytes), _) = _
    rw [hfunpack]
    rfl
  rw [run, hrequest]
  simp only [hanswer, render]

/-- The program prints the bytes of the double that a text denotes. -/
lemma prints_fpack_iff {text : String} {numeral : Numeral}
    (hread : Numeral.read text.toList = some numeral) (world : World) (line : String) :
    Prints world ["fpack", "--", text] line ↔
      HostReady world ∧ line = Text.Hex.encode numeral.toDouble.pack.toList :=
  prints_iff (readArguments_fpack hread) rfl line

end CommandLine

open CommandLine (Prints HostReady)

/-- **A printed double is read back bit by bit.**  The display text of every double but a NaN is a
number, and that number has the very bits of the double; that of a NaN is a number and a NaN.  So
what `funpack` prints for eight bytes, `fpack` turns into the same eight bytes again, in every
world; and `funpack` prints something wherever the host is selected. -/
theorem printed_double_reads_back :
    (∀ (x : Double) (world : World), x.isNaN = false →
      Host.primitives.number (.str (Value.float x).display) world = (.ok x, world)) ∧
    (∀ (bytes : Bytes) (world : World) (text : String),
      bytes.length = 8 → (Double.ofBytes bytes).isNaN = false →
      Prints world ["funpack", Text.Hex.encode bytes] text →
      Prints world ["fpack", "--", text] (Text.Hex.encode bytes)) ∧
    (∀ (bytes : Bytes) (world : World), bytes.length = 8 → HostReady world →
      ∃ text, Prints world ["funpack", Text.Hex.encode bytes] text) ∧
    (∀ (x : Double) (world : World), x.isNaN = true →
      ∃ y, Host.primitives.number (.str (Value.float x).display) world = (.ok y, world) ∧
        y.isNaN = true) := by
  refine ⟨fun x world h => Host.number_display_float h world, ?_, ?_, ?_⟩
  · intro bytes world text hlength hnan hprints
    obtain ⟨hready, rfl⟩ := (CommandLine.prints_funpack_iff hlength world text).1 hprints
    obtain ⟨numeral, hread, hx⟩ := Double.read_text hnan
    refine (CommandLine.prints_fpack_iff hread world _).2 ⟨hready, ?_⟩
    rw [hx, Double.toList_pack_ofBytes hlength]
  · intro bytes world hlength hready
    exact ⟨_, (CommandLine.prints_funpack_iff hlength world _).2 ⟨hready, rfl⟩⟩
  · intro x world h
    exact ⟨Double.nan false, Host.number_display_nan h world, by decide⟩

/-- The negative double nearest to zero, and a NaN with a payload. -/
theorem least_subnormal_reads_back :
    let world : World := { tree := .emptyDir }
    (⟨0x8000000000000001⟩ : Double).isNaN = false ∧
    Host.primitives.number (.str (Value.float ⟨0x8000000000000001⟩).display) world =
      (.ok ⟨0x8000000000000001⟩, world) ∧
    (∃ text, Prints world ["funpack", "0100000000000080"] text ∧
      Prints world ["fpack", "--", text] "0100000000000080") ∧
    ∃ y, Host.primitives.number (.str (Value.float ⟨0x7FF0000000000001⟩).display) world =
        (.ok y, world) ∧ y.isNaN = true := by
  intro world
  obtain ⟨hnumber, hprints, hready, hnan⟩ := printed_double_reads_back
  have hhost : HostReady world := ⟨none, {}, by decide +kernel, by decide⟩
  have hbytes : Text.Hex.encode [1, 0, 0, 0, 0, 0, 0, 0x80] = "0100000000000080" := by decide
  obtain ⟨text, htext⟩ := hready [1, 0, 0, 0, 0, 0, 0, 0x80] world rfl hhost
  have hback := hprints _ world text rfl (by decide) htext
  rw [hbytes] at htext hback
  exact ⟨by decide, hnumber _ world (by decide), ⟨text, htext, hback⟩, hnan _ world (by decide)⟩

end BootLayer
