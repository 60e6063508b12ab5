import Mathlib.Data.Nat.Digits.Lemmas
import BootLayer.Proofs.Failures
import BootLayer.Proofs.Packing
import BootLayer.Proofs.Store

/-!
Packing and unpacking on the host are inverse to each other.

* `ofDigits_pack`: the bytes of a packed double are the digits of its bits in base 256, the least
  significant first.
* `funpack_pack`, `funpack_eq_ok_iff`: what is packed is unpacked, and bytes unpack to a double
  exactly if they are its packed form.
* `call_fpack`, `call_funpack`: the same for calls by name, with the numbers that values stand for.
* `packing_is_bijection`: all of this together, with the error for every other number of bytes.
-/

namespace BootLayer

namespace Double

/-- Bytes spell the number of which they are the digits. -/
lemma ofDigits_map_toNat (bytes : Bytes) :
    Nat.ofDigits 256 (bytes.map UInt8.toNat) = spelled bytes := by
  induction bytes with
  | nil => rfl
  | cons b rest ih => rw [List.map_cons, Nat.ofDigits_cons, ih, spelled]

/-- **The bytes of a packed double are the digits of its bits**, the least significant first. -/
lemma ofDigits_pack (x : Double) :
    Nat.ofDigits 256 (x.pack.toList.map UInt8.toNat) = x.bits.toNat := by
  rw [ofDigits_map_toNat, spelled_pack]

end Double

/-! ### The primitives -/

namespace Host

lemma funpack_pack (x : Double) : funpack x.pack.toList = .ok x := by
  rw [funpack, Double.unpack?_pack]

/-- **Bytes unpack to a double exactly if they are its packed form.** -/
lemma funpack_eq_ok_iff {data : Bytes} {x : Double} :
    funpack data = .ok x ↔ data = x.pack.toList := by
  constructor
  · intro h
    have hlength : data.length = 8 := by
      by_contra hne
      rw [funpack_eq_error_iff.2 ⟨hne, rfl⟩] at h
      cases h
    rw [funpack, Double.unpack?_of_length hlength] at h
    cases h
    exact (Double.toList_pack_ofBytes hlength).symm
  · rintro rfl
    exact funpack_pack x

/-- There are as many bytes as a packed double has exactly if they unpack to one. -/
lemma exists_funpack_iff {data : Bytes} : (∃ x, funpack data = .ok x) ↔ data.length = 8 := by
  constructor
  · rintro ⟨x, hx⟩
    rw [funpack_eq_ok_iff.1 hx]
    exact Vector.length_toList
  · intro h
    exact ⟨Double.ofBytes data, funpack_eq_ok_iff.2 (Double.toList_pack_ofBytes h).symm⟩

end Host

/-! ### Calls by name -/

section

variable {ι : Type}

/-- A value that stands for a number is packed as that number. -/
lemma accepts_fpack {v : Value} {x : Double} (h : v.number? = some x) :
    Request.Accepts "fpack" [v] (.fpack x) := by
  cases v with
  | int n =>
      cases h
      exact .fpackInt n
  | float =>
      cases h
      exact .fpackFloat x
  | bool b =>
      cases h
      exact .fpackBool b
  | _ => cases h

lemma call_fpack {v : Value} {x : Double} (h : v.number? = some x) (world : World) (i : ι) :
    Handle.host.call "fpack" [v] (world, i) = (.ok (.bytes x.pack.toList), (world, i)) := by
  have hcall : Call.on ⟨"fpack", [v]⟩ (world, i) = _ := Call.on_of_accepts (accepts_fpack h) world i
  exact hcall

lemma call_funpack (data : Bytes) (world : World) (i : ι) :
    Handle.host.call "funpack" [.bytes data] (world, i) =
      ((Host.funpack data).map Value.float, (world, i)) := by
  have hcall : Call.on ⟨"funpack", [.bytes data]⟩ (world, i) = _ :=
    Call.on_of_accepts (.funpack data) world i
  exact hcall

end

/-- **Packing is a bijection between doubles and strings of eight bytes.**  Every double, NaNs with
their signs and payloads included, is packed into the eight digits of its bits in base 256, the
least significant first, and unpacked bit by bit.  Bytes unpack exactly if there are eight of them,
and are then packed into themselves; otherwise the error tells that eight were expected and how many
there are.  A call packs an integer, a double or a truth value as the double that it stands for, and
a call unpacks that double again. -/
theorem packing_is_bijection {ι : Type} (world : World) (i : ι) :
    (∀ x : Double, ∃ packed : Vector UInt8 8,
      Host.primitives.fpack x world = (.ok packed, world) ∧
      Nat.ofDigits 256 (packed.toList.map UInt8.toNat) = x.bits.toNat ∧
      Host.primitives.funpack packed.toList world = (.ok x, world)) ∧
    (∀ data : Bytes,
      ((∃ x, Host.primitives.funpack data world = (.ok x, world)) ↔ data.length = 8) ∧
      (∀ x, (Host.primitives.funpack data world).1 = .ok x →
        ∃ packed, Host.primitives.fpack x world = (.ok packed, world) ∧ packed.toList = data) ∧
      (data.length ≠ 8 →
        Host.primitives.funpack data world = (.error (.size 8 data.length), world))) ∧
    ∀ v : Value, v.kind ∈ [Kind.int, Kind.float, Kind.bool] →
      ∃ x data, v.number? = some x ∧
        Handle.host.call "fpack" [v] (world, i) = (.ok (.bytes data), (world, i)) ∧
        Handle.host.call "funpack" [.bytes data] (world, i) = (.ok (.float x), (world, i)) := by
  have hfunpack : ∀ data, Host.primitives.funpack data world = (Host.funpack data, world) :=
    fun _ => rfl
  refine ⟨fun x => ?_, fun data => ⟨?_, ?_, ?_⟩, ?_⟩
  · refine ⟨x.pack, rfl, x.ofDigits_pack, ?_⟩
    rw [hfunpack, Host.funpack_pack]
  · simp only [hfunpack, Prod.mk.injEq, and_true]
    exact Host.exists_funpack_iff
  · intro x hx
    exact ⟨x.pack, rfl, (Host.funpack_eq_ok_iff.1 hx).symm⟩
  · intro hlength
    rw [hfunpack, Host.funpack_eq_error_iff.2 ⟨hlength, rfl⟩]
  · intro v hkind
    cases hx : v.number? with
    | none => exact absurd hkind (Value.number?_eq_none.1 hx)
    | some x =>
        refine ⟨x, x.pack.toList, rfl, call_fpack hx world i, ?_⟩
        rw [call_funpack, Host.funpack_pack]
        rfl

/-- A negative NaN with a payload, seven bytes, and the true value. -/
theorem signed_nan_short_bytes_and_truth :
    let world : World := { tree := .emptyDir }
    let nan : Bytes := [0x01, 0, 0, 0, 0, 0, 0xF0, 0xFF]
    (∃ packed, Host.primitives.fpack ⟨0xFFF0000000000001⟩ world = (.ok packed, world) ∧
      packed.toList = nan) ∧
    Host.primitives.funpack nan world = (.ok ⟨0xFFF0000000000001⟩, world) ∧
    [0, 0, 0, 0, 0, 0xF0, 0xFF].length ≠ 8 ∧
    Host.primitives.funpack [0, 0, 0, 0, 0, 0xF0, 0xFF] world = (.error (.size 8 7), world) ∧
    (Value.bool true).kind ∈ [Kind.int, Kind.float, Kind.bool] ∧
    ∃ x data, (Value.bool true).number? = some x ∧
      Handle.host.call "fpack" [.bool true] (world, ()) = (.ok (.bytes data), (world, ())) ∧
      Handle.host.call "funpack" [.bytes data] (world, ()) = (.ok (.float x), (world, ())) := by
  intro world nan
  obtain ⟨hpacks, hbytes, hcalls⟩ := packing_is_bijection world ()
  have hnan : (Double.pack ⟨0xFFF0000000000001⟩).toList = nan := by decide
  obtain ⟨packed, hpacked, -, hback⟩ := hpacks ⟨0xFFF0000000000001⟩
  cases hpacked
  rw [hnan] at hback
  exact ⟨⟨_, rfl, hnan⟩, hback, by decide, (hbytes _).2.2 (by decide), by decide,
    hcalls _ (by decide)⟩

end BootLayer
