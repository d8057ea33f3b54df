import Mathlib.Data.Bool.AllAny
import Mathlib.Data.List.Nodup
import Mathlib.Data.String.Basic

/-! # Base64

In the alphabet of URLs without padding, and in the standard alphabet with
padding.
-/

namespace GreenBubbles.Library.Base64

def alphabet : String := "ABCDEFGHIJKLMNOPQRSTUVWXYZabcdefghijklmnopqrstuvwxyz0123456789-_"

def symbol (value : ℕ) : Char := alphabet.toList.getD value 'A'

/-- Six bits at a time, the last group filled up with zeros. -/
def sextets : List UInt8 → List ℕ
  | first :: second :: third :: rest =>
    first.toNat / 4 :: (first.toNat % 4 * 16 + second.toNat / 16) ::
      (second.toNat % 16 * 4 + third.toNat / 64) :: third.toNat % 64 :: sextets rest
  | [first, second] =>
    [first.toNat / 4, first.toNat % 4 * 16 + second.toNat / 16, second.toNat % 16 * 4]
  | [first] => [first.toNat / 4, first.toNat % 4 * 16]
  | [] => []

def encode (bytes : List UInt8) : String := String.ofList ((sextets bytes).map symbol)

def symbolValue (c : Char) : Option ℕ := alphabet.toList.idxOf? c

/-- The bytes behind the values of the symbols. The bits that fill up the last group are zero. -/
def octets : List ℕ → Option (List UInt8)
  | first :: second :: third :: fourth :: rest =>
    (octets rest).map fun bytes =>
      .ofNat (first * 4 + second / 16) :: .ofNat (second % 16 * 16 + third / 4) ::
        .ofNat (third % 4 * 64 + fourth) :: bytes
  | [first, second, third] =>
    if third % 4 = 0 then
      some [.ofNat (first * 4 + second / 16), .ofNat (second % 16 * 16 + third / 4)]
    else none
  | [first, second] => if second % 16 = 0 then some [.ofNat (first * 4 + second / 16)] else none
  | [_] => none
  | [] => some []

def decode (text : String) : Option (List UInt8) := (text.toList.mapM symbolValue).bind octets

theorem sextets_lt (bytes : List UInt8) : ∀ value ∈ sextets bytes, value < 64 := by
  fun_induction sextets bytes with
  | case1 first second third rest ih =>
    have hfirst := first.toNat_lt
    have hsecond := second.toNat_lt
    have hthird := third.toNat_lt
    simp only [List.forall_mem_cons]
    refine ⟨?_, ?_, ?_, ?_, ih⟩ <;> omega
  | case2 first second =>
    have hfirst := first.toNat_lt
    have hsecond := second.toNat_lt
    simp only [List.forall_mem_cons, List.not_mem_nil, false_imp_iff, implies_true, and_true]
    refine ⟨?_, ?_, ?_⟩ <;> omega
  | case3 first =>
    have hfirst := first.toNat_lt
    simp only [List.forall_mem_cons, List.not_mem_nil, false_imp_iff, implies_true, and_true]
    constructor <;> omega
  | case4 => simp

theorem sextets_injective : Function.Injective sextets := by
  intro left
  fun_induction sextets left with
  | case1 first second third rest ih =>
    intro right h
    match right with
    | first' :: second' :: third' :: rest' =>
      simp only [sextets, List.cons.injEq] at h
      have hfirst := first.toNat_lt
      have hsecond := second.toNat_lt
      have hthird := third.toNat_lt
      have hfirst' := first'.toNat_lt
      have hsecond' := second'.toNat_lt
      have hthird' := third'.toNat_lt
      have h₁ : first = first' := UInt8.toNat_inj.mp (by omega)
      have h₂ : second = second' := UInt8.toNat_inj.mp (by omega)
      have h₃ : third = third' := UInt8.toNat_inj.mp (by omega)
      rw [h₁, h₂, h₃, ih h.2.2.2.2]
    | [_, _] => simp [sextets] at h
    | [_] => simp [sextets] at h
    | [] => simp [sextets] at h
  | case2 first second =>
    intro right h
    match right with
    | _ :: _ :: _ :: _ => simp [sextets] at h
    | [first', second'] =>
      simp only [sextets, List.cons.injEq, and_true] at h
      have hfirst := first.toNat_lt
      have hsecond := second.toNat_lt
      have hfirst' := first'.toNat_lt
      have hsecond' := second'.toNat_lt
      have h₁ : first = first' := UInt8.toNat_inj.mp (by omega)
      have h₂ : second = second' := UInt8.toNat_inj.mp (by omega)
      rw [h₁, h₂]
    | [_] => simp [sextets] at h
    | [] => simp [sextets] at h
  | case3 first =>
    intro right h
    match right with
    | _ :: _ :: _ :: _ => simp [sextets] at h
    | [_, _] => simp [sextets] at h
    | [first'] =>
      simp only [sextets, List.cons.injEq, and_true] at h
      have hfirst := first.toNat_lt
      have hfirst' := first'.toNat_lt
      rw [UInt8.toNat_inj.mp (by omega : first.toNat = first'.toNat)]
    | [] => simp [sextets] at h
  | case4 =>
    intro right h
    match right with
    | _ :: _ :: _ :: _ => simp [sextets] at h
    | [_, _] => simp [sextets] at h
    | [_] => simp [sextets] at h
    | [] => rfl

theorem alphabet_toList : alphabet.toList =
    ['A', 'B', 'C', 'D', 'E', 'F', 'G', 'H', 'I', 'J', 'K', 'L', 'M', 'N', 'O', 'P', 'Q', 'R', 'S',
      'T', 'U', 'V', 'W', 'X', 'Y', 'Z', 'a', 'b', 'c', 'd', 'e', 'f', 'g', 'h', 'i', 'j', 'k', 'l',
      'm', 'n', 'o', 'p', 'q', 'r', 's', 't', 'u', 'v', 'w', 'x', 'y', 'z', '0', '1', '2', '3', '4',
      '5', '6', '7', '8', '9', '-', '_'] := by
  simp [alphabet]

theorem alphabet_length : alphabet.toList.length = 64 := by rw [alphabet_toList]; rfl

theorem alphabet_nodup : alphabet.toList.Nodup := by
  rw [alphabet_toList]
  decide +kernel

theorem symbol_eq {value : ℕ} (h : value < alphabet.toList.length) :
    symbol value = alphabet.toList[value] := by
  rw [symbol, List.getD_eq_getElem?_getD, List.getElem?_eq_getElem h, Option.getD_some]

theorem symbol_mem {value : ℕ} (h : value < 64) : symbol value ∈ alphabet.toList := by
  rw [symbol_eq (by rwa [alphabet_length])]
  exact List.getElem_mem _

theorem symbol_inj {left right : ℕ} (hleft : left < 64) (hright : right < 64)
    (h : symbol left = symbol right) : left = right := by
  rw [← alphabet_length] at hleft hright
  rw [symbol_eq hleft, symbol_eq hright] at h
  exact (List.Nodup.getElem_inj_iff alphabet_nodup).mp h

theorem utf8Size_alphabet : ∀ c ∈ alphabet.toList, c.utf8Size = 1 := by
  rw [alphabet_toList, ← List.all_iff_forall_prop]
  decide +kernel

theorem utf8Size_symbol : ∀ value < 64, (symbol value).utf8Size = 1 :=
  fun _ h => utf8Size_alphabet _ (symbol_mem h)

theorem encode_injective : Function.Injective encode := by
  intro left right h
  apply sextets_injective
  have hsymbols := String.ofList_injective h
  have hlength := congrArg List.length hsymbols
  rw [List.length_map, List.length_map] at hlength
  apply List.ext_getElem hlength
  intro place hplace hplace'
  apply symbol_inj (sextets_lt left _ (List.getElem_mem hplace))
    (sextets_lt right _ (List.getElem_mem hplace'))
  have hat := congrArg (·[place]?) hsymbols
  simpa [List.getElem?_map, List.getElem?_eq_getElem, hplace, hplace'] using hat

/-- Four symbols stand for three bytes. -/
theorem length_encode (bytes : List UInt8) :
    (encode bytes).toList.length = (4 * bytes.length + 2) / 3 := by
  rw [encode, String.toList_ofList, List.length_map]
  fun_induction sextets bytes with
  | case1 first second third rest ih =>
    simp only [List.length_cons, ih]
    omega
  | case2 => simp only [List.length_cons, List.length_nil]
  | case3 => simp only [List.length_cons, List.length_nil]
  | case4 => rfl

theorem octets_sextets (bytes : List UInt8) : octets (sextets bytes) = some bytes := by
  fun_induction sextets bytes with
  | case1 first second third rest ih =>
    have hfirst := first.toNat_lt
    have hsecond := second.toNat_lt
    have hthird := third.toNat_lt
    have h₁ : first.toNat / 4 * 4 + (first.toNat % 4 * 16 + second.toNat / 16) / 16 =
      first.toNat := by omega
    have h₂ : (first.toNat % 4 * 16 + second.toNat / 16) % 16 * 16 +
      (second.toNat % 16 * 4 + third.toNat / 64) / 4 = second.toNat := by omega
    have h₃ : (second.toNat % 16 * 4 + third.toNat / 64) % 4 * 64 + third.toNat % 64 =
      third.toNat := by omega
    simp only [octets, ih, Option.map_some, h₁, h₂, h₃, UInt8.ofNat_toNat]
  | case2 first second =>
    have hfirst := first.toNat_lt
    have hsecond := second.toNat_lt
    have h₁ : first.toNat / 4 * 4 + (first.toNat % 4 * 16 + second.toNat / 16) / 16 =
      first.toNat := by omega
    have h₂ : (first.toNat % 4 * 16 + second.toNat / 16) % 16 * 16 +
      second.toNat % 16 * 4 / 4 = second.toNat := by omega
    have hfill : second.toNat % 16 * 4 % 4 = 0 := by omega
    simp only [octets, hfill, if_true, h₁, h₂, UInt8.ofNat_toNat]
  | case3 first =>
    have hfirst := first.toNat_lt
    have h₁ : first.toNat / 4 * 4 + first.toNat % 4 * 16 / 16 = first.toNat := by omega
    have hfill : first.toNat % 4 * 16 % 16 = 0 := by omega
    simp only [octets, hfill, if_true, h₁, UInt8.ofNat_toNat]
  | case4 => rfl

theorem symbolValue_symbol : ∀ value < 64, symbolValue (symbol value) = some value := by
  intro value h
  rw [← alphabet_length] at h
  rw [symbolValue, List.idxOf?_eq_some_iff]
  refine ⟨h, (symbol_eq h).symm, fun earlier hearlier hsame => ?_⟩
  rw [symbol_eq h] at hsame
  have hindex := (List.Nodup.getElem_inj_iff alphabet_nodup).mp hsame
  omega

theorem mapM_symbolValue {values : List ℕ} (h : ∀ value ∈ values, value < 64) :
    (values.map symbol).mapM symbolValue = some values := by
  induction values with
  | nil => rfl
  | cons value values ih =>
    rw [List.forall_mem_cons] at h
    simp [List.mapM_cons, symbolValue_symbol value h.1, ih h.2]

@[simp] theorem decode_encode (bytes : List UInt8) : decode (encode bytes) = some bytes := by
  rw [decode, encode, String.toList_ofList, mapM_symbolValue (sextets_lt bytes), Option.bind_some,
    octets_sextets]

/-! What is decoded was written so -/

theorem symbolValue_some {c : Char} {value : ℕ} (h : symbolValue c = some value) :
    value < 64 ∧ symbol value = c := by
  rw [symbolValue, List.idxOf?_eq_some_iff] at h
  obtain ⟨hlt, hat, -⟩ := h
  have hlength := alphabet_length
  exact ⟨by omega, by simp [symbol, List.getD_eq_getElem?_getD, List.getElem?_eq_getElem hlt, hat]⟩

theorem mapM_symbolValue_some {text : List Char} {values : List ℕ}
    (h : text.mapM symbolValue = some values) :
    (∀ value ∈ values, value < 64) ∧ values.map symbol = text := by
  induction text generalizing values with
  | nil =>
    rw [List.mapM_nil] at h
    obtain rfl := Option.some.inj h
    exact ⟨nofun, rfl⟩
  | cons c text ih =>
    rw [List.mapM_cons] at h
    simp only [Option.bind_eq_bind, Option.bind_eq_some_iff, Option.pure_def, Option.some_inj] at h
    obtain ⟨value, hvalue, rest, hrest, rfl⟩ := h
    have hfirst := symbolValue_some hvalue
    have hothers := ih hrest
    exact ⟨List.forall_mem_cons.mpr ⟨hfirst.1, hothers.1⟩,
      by rw [List.map_cons, hfirst.2, hothers.2]⟩

theorem sextets_octets {values : List ℕ} {bytes : List UInt8} (hlt : ∀ value ∈ values, value < 64)
    (h : octets values = some bytes) : sextets bytes = values := by
  fun_induction octets values generalizing bytes with
  | case1 first second third fourth rest ih =>
    simp only [List.forall_mem_cons] at hlt
    obtain ⟨hfirst, hsecond, hthird, hfourth, hrest⟩ := hlt
    obtain ⟨others, hothers, rfl⟩ := Option.map_eq_some_iff.mp h
    have h₁ : (first * 4 + second / 16) % 256 / 4 = first := by omega
    have h₂ : (first * 4 + second / 16) % 256 % 4 * 16 +
      (second % 16 * 16 + third / 4) % 256 / 16 = second := by omega
    have h₃ : (second % 16 * 16 + third / 4) % 256 % 16 * 4 +
      (third % 4 * 64 + fourth) % 256 / 64 = third := by omega
    have h₄ : (third % 4 * 64 + fourth) % 256 % 64 = fourth := by omega
    simp only [sextets, UInt8.toNat_ofNat', Nat.reducePow, h₁, h₂, h₃, h₄, ih hrest hothers]
  | case2 first second third hfill =>
    simp only [List.forall_mem_cons] at hlt
    obtain ⟨hfirst, hsecond, hthird, -⟩ := hlt
    obtain rfl := Option.some.inj h
    have h₁ : (first * 4 + second / 16) % 256 / 4 = first := by omega
    have h₂ : (first * 4 + second / 16) % 256 % 4 * 16 +
      (second % 16 * 16 + third / 4) % 256 / 16 = second := by omega
    have h₃ : (second % 16 * 16 + third / 4) % 256 % 16 * 4 = third := by omega
    simp only [sextets, UInt8.toNat_ofNat', Nat.reducePow, h₁, h₂, h₃]
  | case3 => cases h
  | case4 first second hfill =>
    simp only [List.forall_mem_cons] at hlt
    obtain ⟨hfirst, hsecond, -⟩ := hlt
    obtain rfl := Option.some.inj h
    have h₁ : (first * 4 + second / 16) % 256 / 4 = first := by omega
    have h₂ : (first * 4 + second / 16) % 256 % 4 * 16 = second := by omega
    simp only [sextets, UInt8.toNat_ofNat', Nat.reducePow, h₁, h₂]
  | case5 => cases h
  | case6 => cases h
  | case7 =>
    obtain rfl := Option.some.inj h
    rfl

/-- A text is decoded to bytes just if it is what the encoder makes of them. -/
theorem decode_eq_some {text : String} {bytes : List UInt8} :
    decode text = some bytes ↔ text = encode bytes := by
  constructor
  · intro h
    obtain ⟨values, hvalues, hbytes⟩ := Option.bind_eq_some_iff.mp h
    have hsymbols := mapM_symbolValue_some hvalues
    rw [encode, sextets_octets hsymbols.1 hbytes, hsymbols.2, String.ofList_toList]
  · rintro rfl
    exact decode_encode bytes

/-! The standard alphabet -/

def standardSymbol (c : Char) : Char := if c = '-' then '+' else if c = '_' then '/' else c

def urlSymbol (c : Char) : Char := if c = '+' then '-' else if c = '/' then '_' else c

def encodeStandard (bytes : List UInt8) : String :=
  String.ofList ((encode bytes).toList.map standardSymbol ++
    List.replicate ((3 - bytes.length % 3) % 3) '=')

/-- The strict decoder takes what the encoder writes and nothing else. -/
def decodeStandard (text : String) : Option (List UInt8) :=
  (decode (String.ofList ((text.toList.takeWhile (· ≠ '=')).map urlSymbol))).filter
    (encodeStandard · = text)

theorem printable_standardSymbol : ∀ c ∈ alphabet.toList, 32 ≤ (standardSymbol c).toNat := by
  rw [alphabet_toList, ← List.all_iff_forall_prop]
  decide +kernel

/-- No control character is in a text that is decoded. -/
theorem printable_of_decodeStandard {text : String} {bytes : List UInt8}
    (h : decodeStandard text = some bytes) {c : Char} (hc : c ∈ text.toList) : 32 ≤ c.toNat := by
  have htext : encodeStandard bytes = text := by simpa using (Option.filter_eq_some_iff.mp h).2
  rw [← htext, encodeStandard, String.toList_ofList, List.mem_append, List.mem_map] at hc
  rcases hc with ⟨d, hd, rfl⟩ | hc
  · rw [encode, String.toList_ofList, List.mem_map] at hd
    obtain ⟨value, hvalue, rfl⟩ := hd
    exact printable_standardSymbol _ (symbol_mem (sextets_lt bytes value hvalue))
  · rw [List.eq_of_mem_replicate hc]
    decide

end GreenBubbles.Library.Base64
