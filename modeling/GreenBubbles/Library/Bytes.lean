import Mathlib.Data.List.Basic
import Mathlib.Data.String.Basic

/-! # Bytes of text and of machine integers

UTF-8 text and little-endian integers as byte lists, and how fields that end in
a separator are read back from their concatenation.
-/
namespace GreenBubbles.Library.Bytes

def utf8 (text : String) : List UInt8 := text.toByteArray.data.toList

@[simp] theorem utf8_append (first second : String) :
    utf8 (first ++ second) = utf8 first ++ utf8 second := by
  simp [utf8, String.toByteArray_append]

theorem utf8_injective : Function.Injective utf8 := by
  intro first second h
  apply String.toByteArray_inj.mp
  apply ByteArray.ext
  exact Array.toList_inj.mp h

@[simp] theorem length_utf8 (text : String) : (utf8 text).length = text.utf8ByteSize := rfl

theorem utf8_ofList (text : List Char) :
    utf8 (String.ofList text) = text.flatMap String.utf8EncodeChar := by
  rw [utf8, String.toByteArray_ofList, List.utf8Encode, List.data_toByteArray]

/-- Control characters are the only ones whose bytes are control characters. -/
theorem printable_utf8EncodeChar {c : Char} (h : 32 ≤ c.toNat) {byte : UInt8}
    (hbyte : byte ∈ String.utf8EncodeChar c) : 32 ≤ byte.toNat := by
  have hval : 32 ≤ c.val.toNat := h
  have hsize : c.val.toNat < 1114112 := by
    rcases c.valid with hlow | hhigh
    · exact Nat.lt_trans hlow (by decide)
    · exact hhigh.2
  unfold String.utf8EncodeChar at hbyte
  simp only at hbyte
  split_ifs at hbyte
  all_goals
    simp only [List.mem_cons, List.not_mem_nil, or_false] at hbyte
    rcases hbyte with rfl | rfl | rfl | rfl <;> simp only [UInt8.toNat_ofNat'] <;> omega

theorem zero_notMem_utf8 {text : String} (h : ∀ c ∈ text.toList, 32 ≤ c.toNat) :
    (0 : UInt8) ∉ utf8 text := by
  intro hmem
  rw [← String.ofList_toList (s := text), utf8_ofList, List.mem_flatMap] at hmem
  obtain ⟨c, hc, hbyte⟩ := hmem
  exact absurd (printable_utf8EncodeChar (h c hc) hbyte) (by decide)

def hexDigit (value : ℕ) : Char := "0123456789abcdef".toList.getD value '0'

/-- Two lowercase hexadecimal digits a byte. -/
def encode (bytes : List UInt8) : String :=
  String.ofList (bytes.flatMap fun byte => [hexDigit (byte.toNat / 16), hexDigit (byte.toNat % 16)])

theorem hexDigit_inj : ∀ left < 16, ∀ right < 16, hexDigit left = hexDigit right →
    left = right := by
  decide

theorem encode_injective : Function.Injective encode := by
  intro left right h
  replace h := String.ofList_injective h
  induction left generalizing right with
  | nil =>
    cases right with
    | nil => rfl
    | cons byte right => cases h
  | cons byte left ih =>
    cases right with
    | nil => cases h
    | cons byte' right =>
      simp only [List.flatMap_cons, List.cons_append, List.nil_append, List.cons.injEq] at h
      have hbyte := byte.toNat_lt
      have hbyte' := byte'.toNat_lt
      have hhigh := hexDigit_inj _ (by omega) _ (by omega) h.1
      have hlow := hexDigit_inj _ (by omega) _ (by omega) h.2.1
      have hsame : byte = byte' := UInt8.toNat_inj.mp (by omega)
      rw [hsame, ih h.2.2]

/-- Sixteen bytes, the least significant one first. -/
def leBytes (value : BitVec 128) : List UInt8 :=
  (List.range 16).map fun place => UInt8.ofBitVec ((value >>> (8 * place)).setWidth 8)

@[simp] theorem length_leBytes (value : BitVec 128) : (leBytes value).length = 16 := by
  simp [leBytes]

theorem leBytes_injective : Function.Injective leBytes := by
  intro first second h
  apply BitVec.eq_of_getLsbD_eq
  intro i hi
  have hplace : i / 8 ∈ List.range 16 := List.mem_range.mpr (by omega)
  have hbyte := List.map_inj_left.mp h (i / 8) hplace
  have hbits : (first >>> (8 * (i / 8))).setWidth 8 = (second >>> (8 * (i / 8))).setWidth 8 :=
    congrArg UInt8.toBitVec hbyte
  have hbit := congrArg (BitVec.getLsbD · (i % 8)) hbits
  have hlt : i % 8 < 8 := Nat.mod_lt i (by omega)
  have hsum : 8 * (i / 8) + i % 8 = i := Nat.div_add_mod i 8
  simpa [BitVec.getLsbD_setWidth, BitVec.getLsbD_ushiftRight, hlt, hsum] using hbit

section Separators

variable {α : Type*}

/-- A field that does not contain the separator is read up to the first one. -/
theorem cut_at_first {separator : α} {field field' rest rest' : List α}
    (hfield : separator ∉ field) (hfield' : separator ∉ field')
    (h : field ++ separator :: rest = field' ++ separator :: rest') :
    field = field' ∧ rest = rest' := by
  induction field generalizing field' with
  | nil =>
    cases field' with
    | nil => exact ⟨rfl, (List.cons.inj h).2⟩
    | cons a field' =>
      have ha := (List.cons.inj h).1
      exact absurd (ha ▸ List.mem_cons_self) hfield'
  | cons a field ih =>
    cases field' with
    | nil =>
      have ha := (List.cons.inj h).1
      exact absurd (ha ▸ List.mem_cons_self) hfield
    | cons b field' =>
      have hab := List.cons.inj h
      have hrest := ih (fun hmem => hfield (List.mem_cons_of_mem a hmem))
        (fun hmem => hfield' (List.mem_cons_of_mem b hmem)) hab.2
      exact ⟨by rw [hab.1, hrest.1], hrest.2⟩

/-- A field that does not contain the separator is read back from the last one. -/
theorem cut_at_last {separator : α} {field field' rest rest' : List α}
    (hfield : separator ∉ field) (hfield' : separator ∉ field')
    (h : rest ++ separator :: field = rest' ++ separator :: field') :
    rest = rest' ∧ field = field' := by
  have hreverse := congrArg List.reverse h
  simp only [List.reverse_append, List.reverse_cons, List.append_assoc,
    List.singleton_append] at hreverse
  have hcut := cut_at_first (List.mem_reverse.not.mpr hfield) (List.mem_reverse.not.mpr hfield')
    hreverse
  exact ⟨List.reverse_injective hcut.2, List.reverse_injective hcut.1⟩

end Separators

end GreenBubbles.Library.Bytes
