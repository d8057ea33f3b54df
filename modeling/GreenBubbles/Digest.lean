import GreenBubbles.Basic
import GreenBubbles.Library.Sha256

/-! # Digests

The identities of the components are SHA-256 digests in lowercase hexadecimal.
-/
namespace GreenBubbles

open Library

theorem isAsciiHexDigit_hexDigit : ∀ value < 16, isAsciiHexDigit (Bytes.hexDigit value) = true := by
  decide

theorem utf8Size_hexDigit : ∀ value < 16, (Bytes.hexDigit value).utf8Size = 1 := by decide

theorem utf8ByteSize_ofList {text : List Char} (h : ∀ c ∈ text, c.utf8Size = 1) :
    (String.ofList text).utf8ByteSize = text.length := by
  induction text with
  | nil => rfl
  | cons c text ih =>
    have htext := ih fun d hd => h d (List.mem_cons_of_mem c hd)
    have hc := h c List.mem_cons_self
    have hcons : String.ofList (c :: text) = String.singleton c ++ String.ofList text := by
      apply String.toList_injective
      simp
    rw [hcons, String.utf8ByteSize_append, htext, String.utf8ByteSize_singleton, hc,
      List.length_cons, Nat.add_comm]

theorem isSha256_replicate {c : Char} (hdigit : isAsciiHexDigit c = true) (hsize : c.utf8Size = 1) :
    isSha256 (String.ofList (List.replicate 64 c)) = true := by
  have hall : ∀ d ∈ List.replicate 64 c, d = c := fun d hd => List.eq_of_mem_replicate hd
  rw [isSha256, utf8ByteSize_ofList fun d hd => by rw [hall d hd, hsize], List.length_replicate,
    String.toList_ofList, Bool.and_eq_true, List.all_eq_true]
  exact ⟨rfl, fun d hd => by rw [hall d hd, hdigit]⟩

theorem length_hexDigest (message : List UInt8) : (Sha256.hexDigest message).length = 64 := by
  rw [← String.length_toList]
  simp [Sha256.hexDigest, Bytes.encode, Sha256.length_hash]

theorem hexDigits_encode {bytes : List UInt8} {c : Char} (hc : c ∈ (Bytes.encode bytes).toList) :
    ∃ value < 16, c = Bytes.hexDigit value := by
  rw [Bytes.encode, String.toList_ofList, List.mem_flatMap] at hc
  obtain ⟨byte, -, hc⟩ := hc
  have hbyte : byte.toNat < 256 := byte.toNat_lt
  simp only [List.mem_cons, List.not_mem_nil, or_false] at hc
  rcases hc with rfl | rfl
  · exact ⟨byte.toNat / 16, by omega, rfl⟩
  · exact ⟨byte.toNat % 16, by omega, rfl⟩

theorem utf8ByteSize_encode (bytes : List UInt8) :
    (Bytes.encode bytes).utf8ByteSize = 2 * bytes.length := by
  have hlength : (Bytes.encode bytes).toList.length = 2 * bytes.length := by
    simp [Bytes.encode, Nat.mul_comm]
  rw [← String.ofList_toList (s := Bytes.encode bytes), utf8ByteSize_ofList, hlength]
  intro c hc
  obtain ⟨value, hvalue, rfl⟩ := hexDigits_encode hc
  exact utf8Size_hexDigit value hvalue

theorem all_isAsciiHexDigit_encode (bytes : List UInt8) :
    (Bytes.encode bytes).toList.all isAsciiHexDigit = true := by
  rw [List.all_eq_true]
  intro c hc
  obtain ⟨value, hvalue, rfl⟩ := hexDigits_encode hc
  exact isAsciiHexDigit_hexDigit value hvalue

theorem isSha256_hexDigest (message : List UInt8) :
    isSha256 (Sha256.hexDigest message) = true := by
  rw [isSha256, Sha256.hexDigest, utf8ByteSize_encode, Sha256.length_hash,
    all_isAsciiHexDigit_encode]
  rfl

theorem utf8ByteSize_of_isSha256 {value : String} (h : isSha256 value = true) :
    value.utf8ByteSize = 64 := by
  rw [isSha256, Bool.and_eq_true, beq_iff_eq] at h
  exact h.1

/-- A digest contains no zero character. -/
theorem nul_notMem_of_isSha256 {value : String} (h : isSha256 value = true) :
    '\x00' ∉ value.toList := by
  intro hmem
  rw [isSha256, Bool.and_eq_true, List.all_eq_true] at h
  exact absurd (h.2 _ hmem) (by decide)

theorem zero_notMem_of_isSha256 {value : String} (h : isSha256 value = true) :
    0 ∉ Bytes.utf8 value := by
  rw [isSha256, Bool.and_eq_true, List.all_eq_true] at h
  apply Bytes.zero_notMem_utf8
  intro c hc
  have hdigit := h.2 c hc
  simp only [isAsciiHexDigit, Bool.or_eq_true, Bool.and_eq_true, decide_eq_true_eq,
    Char.le_def, UInt32.le_iff_toNat_le] at hdigit
  change 32 ≤ c.val.toNat
  rcases hdigit with (⟨hlow, -⟩ | ⟨hlow, -⟩) | ⟨hlow, -⟩ <;>
    exact Nat.le_trans (by decide) hlow

end GreenBubbles
