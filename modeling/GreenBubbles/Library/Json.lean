import Mathlib.Data.List.Basic
import Mathlib.Data.String.Basic
import Mathlib.Tactic.IntervalCases
import GreenBubbles.Library.Bytes

/-! # Compact JSON text

Values with integer numbers and ordered members, and the compact text a
serializer writes for them. The text of a value ends by itself: what follows it
can be told apart from it, so equal texts come from equal values.
-/
namespace GreenBubbles.Library

inductive Json where
  | null
  | bool (value : Bool)
  | int (value : ℤ)
  | str (value : String)
  | arr (elements : List Json)
  | obj (members : List (String × Json))

namespace Json

open Bytes

/-- Quotes, backslashes and control characters are escaped; all else is itself. -/
def escape (c : Char) : List Char :=
  if c = '"' then ['\\', '"']
  else if c = '\\' then ['\\', '\\']
  else if c = '\x08' then ['\\', 'b']
  else if c = '\t' then ['\\', 't']
  else if c = '\n' then ['\\', 'n']
  else if c = '\x0c' then ['\\', 'f']
  else if c = '\r' then ['\\', 'r']
  else if c.toNat < 32 then
    ['\\', 'u', '0', '0', hexDigit (c.toNat / 16), hexDigit (c.toNat % 16)]
  else [c]

def renderString (text : String) : List Char := '"' :: (text.toList.flatMap escape ++ ['"'])

def renderInt : ℤ → List Char
  | .ofNat n => Nat.toDigits 10 n
  | .negSucc n => '-' :: Nat.toDigits 10 (n + 1)

mutual

def render : Json → List Char
  | .null => "null".toList
  | .bool true => "true".toList
  | .bool false => "false".toList
  | .int value => renderInt value
  | .str value => renderString value
  | .arr [] => ['[', ']']
  | .arr (element :: elements) => '[' :: (render element ++ renderElements elements)
  | .obj [] => ['{', '}']
  | .obj ((name, value) :: members) =>
    '{' :: (renderString name ++ ':' :: (render value ++ renderMembers members))

/-- The elements after the first one. -/
def renderElements : List Json → List Char
  | [] => [']']
  | element :: elements => ',' :: (render element ++ renderElements elements)

/-- The members after the first one. -/
def renderMembers : List (String × Json) → List Char
  | [] => ['}']
  | (name, value) :: members =>
    ',' :: (renderString name ++ ':' :: (render value ++ renderMembers members))

end

def toText (value : Json) : String := String.ofList (render value)

/-! Strings -/

def hexValue (c : Char) : ℕ := "0123456789abcdef".toList.idxOf c

/-- The first character of an escaped text, and what follows its escape. -/
def unescape : List Char → Option (Char × List Char)
  | '\\' :: '"' :: rest => some ('"', rest)
  | '\\' :: '\\' :: rest => some ('\\', rest)
  | '\\' :: 'b' :: rest => some ('\x08', rest)
  | '\\' :: 't' :: rest => some ('\t', rest)
  | '\\' :: 'n' :: rest => some ('\n', rest)
  | '\\' :: 'f' :: rest => some ('\x0c', rest)
  | '\\' :: 'r' :: rest => some ('\r', rest)
  | '\\' :: 'u' :: '0' :: '0' :: high :: low :: rest =>
    some (Char.ofNat (16 * hexValue high + hexValue low), rest)
  | c :: rest => some (c, rest)
  | [] => none

theorem hexValue_hexDigit : ∀ value < 16, hexValue (hexDigit value) = value := by decide

theorem unescape_escape (c : Char) (rest : List Char) :
    unescape (escape c ++ rest) = some (c, rest) := by
  unfold escape
  split_ifs with hquote hslash hb ht hn hf hr hcontrol
  · subst c; rfl
  · subst c; rfl
  · subst c; rfl
  · subst c; rfl
  · subst c; rfl
  · subst c; rfl
  · subst c; rfl
  · have hhigh := hexValue_hexDigit (c.toNat / 16) (by omega)
    have hlow := hexValue_hexDigit (c.toNat % 16) (by omega)
    have hsum : 16 * (c.toNat / 16) + c.toNat % 16 = c.toNat := Nat.div_add_mod c.toNat 16
    simp only [List.cons_append, List.nil_append, unescape, hhigh, hlow, hsum]
    rw [Char.ofNat_toNat]
  · rw [List.cons_append, List.nil_append, unescape.eq_def]
    split <;> simp_all

/-- No escape starts with the quote that ends a string. -/
theorem head_escape (c : Char) : ∃ first rest, escape c = first :: rest ∧ first ≠ '"' := by
  unfold escape
  split_ifs with hquote
  all_goals exact ⟨_, _, rfl, by first | decide | assumption⟩

theorem escaped_inj {text text' : List Char} {s t : List Char}
    (h : text.flatMap escape ++ '"' :: s = text'.flatMap escape ++ '"' :: t) :
    text = text' ∧ s = t := by
  induction text generalizing text' with
  | nil =>
    cases text' with
    | nil => exact ⟨rfl, (List.cons.inj h).2⟩
    | cons d text' =>
      obtain ⟨first, rest, hd, hne⟩ := head_escape d
      rw [List.flatMap_cons, hd] at h
      exact absurd (List.cons.inj h).1.symm hne
  | cons c text ih =>
    cases text' with
    | nil =>
      obtain ⟨first, rest, hc, hne⟩ := head_escape c
      rw [List.flatMap_cons, hc] at h
      exact absurd (List.cons.inj h).1 hne
    | cons d text' =>
      simp only [List.flatMap_cons, List.append_assoc] at h
      have hread := congrArg unescape h
      rw [unescape_escape, unescape_escape] at hread
      have hpair := Prod.mk.inj (Option.some.inj hread)
      have hrest := ih hpair.2
      exact ⟨by rw [hpair.1, hrest.1], hrest.2⟩

theorem renderString_inj {text text' : String} {s t : List Char}
    (h : renderString text ++ s = renderString text' ++ t) : text = text' ∧ s = t := by
  simp only [renderString, List.cons_append, List.append_assoc, List.nil_append] at h
  have hescaped := escaped_inj (List.cons.inj h).2
  exact ⟨String.toList_injective hescaped.1, hescaped.2⟩

/-! Numbers -/

/-- What follows a number does not continue it. -/
def Delimited (rest : List Char) : Prop := ∀ c ∈ rest.head?, c.isDigit = false

theorem delimited_cons {c : Char} {rest : List Char} (h : c.isDigit = false) :
    Delimited (c :: rest) := by
  intro d hd
  rw [List.head?_cons, Option.mem_some_iff] at hd
  rwa [← hd]

theorem delimited_nil : Delimited [] := by
  intro c hc
  exact absurd hc (Option.not_mem_none c)

theorem digits_inj {m n : ℕ} {s t : List Char} (hs : Delimited s) (ht : Delimited t)
    (h : Nat.toDigits 10 m ++ s = Nat.toDigits 10 n ++ t) : m = n ∧ s = t := by
  have hspan : ∀ (k : ℕ) (r : List Char), Delimited r →
      (Nat.toDigits 10 k ++ r).takeWhile Char.isDigit = Nat.toDigits 10 k := by
    intro k r hr
    rw [List.takeWhile_append_of_pos fun c hc =>
      Nat.isDigit_of_mem_toDigits (by decide) (by decide) hc]
    cases r with
    | nil => simp
    | cons c r => rw [List.takeWhile_cons_of_neg (by simp [hr c rfl]), List.append_nil]
  have hdigits : Nat.toDigits 10 m = Nat.toDigits 10 n := by
    rw [← hspan m s hs, h, hspan n t ht]
  have hmn : m = n := by
    rw [← Nat.ofDigitChars_ten_toDigits (n := m), hdigits, Nat.ofDigitChars_ten_toDigits]
  rw [hdigits] at h
  exact ⟨hmn, List.append_cancel_left h⟩

theorem head_digits (n : ℕ) : ∃ c rest, Nat.toDigits 10 n = c :: rest ∧ c.isDigit = true := by
  cases h : Nat.toDigits 10 n with
  | nil => exact absurd h Nat.toDigits_ne_nil
  | cons c rest =>
    have hc : c ∈ Nat.toDigits 10 n := h ▸ List.mem_cons_self
    exact ⟨c, rest, rfl, Nat.isDigit_of_mem_toDigits (by decide) (by decide) hc⟩

theorem renderInt_inj {m n : ℤ} {s t : List Char} (hs : Delimited s) (ht : Delimited t)
    (h : renderInt m ++ s = renderInt n ++ t) : m = n ∧ s = t := by
  cases m with
  | ofNat m =>
    cases n with
    | ofNat n =>
      have hmn := digits_inj hs ht h
      exact ⟨congrArg Int.ofNat hmn.1, hmn.2⟩
    | negSucc n =>
      obtain ⟨c, rest, hm, hc⟩ := head_digits m
      rw [renderInt, renderInt, hm] at h
      have hminus : c = '-' := (List.cons.inj h).1
      rw [hminus] at hc
      exact absurd hc (by decide)
  | negSucc m =>
    cases n with
    | ofNat n =>
      obtain ⟨c, rest, hn, hc⟩ := head_digits n
      rw [renderInt, renderInt, hn] at h
      have hminus : '-' = c := (List.cons.inj h).1
      rw [← hminus] at hc
      exact absurd hc (by decide)
    | negSucc n =>
      have hmn := digits_inj hs ht (List.cons.inj h).2
      exact ⟨congrArg Int.negSucc (Nat.succ.inj hmn.1), hmn.2⟩

/-! Values -/

/-- The constructor of a value. -/
def tag : Json → ℕ
  | .null => 0
  | .bool _ => 1
  | .int _ => 2
  | .str _ => 3
  | .arr _ => 4
  | .obj _ => 5

def tagOfHead (c : Char) : ℕ :=
  if c = 'n' then 0
  else if c = 't' ∨ c = 'f' then 1
  else if c = '"' then 3
  else if c = '[' then 4
  else if c = '{' then 5
  else 2

theorem tagOfHead_digit {c : Char} (h : c.isDigit = true) : tagOfHead c = 2 := by
  unfold tagOfHead
  split_ifs with hn hb hs ha ho
  · subst c; exact absurd h (by decide)
  · rcases hb with rfl | rfl <;> exact absurd h (by decide)
  · subst c; exact absurd h (by decide)
  · subst c; exact absurd h (by decide)
  · subst c; exact absurd h (by decide)
  · rfl

theorem render_head (value : Json) :
    ∃ c rest, render value = c :: rest ∧ tagOfHead c = value.tag ∧ c ≠ ']' := by
  cases value with
  | null => exact ⟨'n', _, rfl, rfl, by decide⟩
  | bool value => cases value <;> exact ⟨_, _, rfl, rfl, by decide⟩
  | int value =>
    cases value with
    | ofNat n =>
      obtain ⟨c, rest, hn, hc⟩ := head_digits n
      refine ⟨c, rest, by rw [render, renderInt, hn], tagOfHead_digit hc, ?_⟩
      rintro rfl
      exact absurd hc (by decide)
    | negSucc n => exact ⟨'-', _, by rw [render, renderInt], rfl, by decide⟩
  | str value => exact ⟨'"', _, by rw [render, renderString], rfl, by decide⟩
  | arr elements => cases elements <;> exact ⟨'[', _, rfl, rfl, by decide⟩
  | obj members => cases members <;> exact ⟨'{', _, rfl, rfl, by decide⟩

theorem tag_eq_of_render {v w : Json} {s t : List Char} (h : render v ++ s = render w ++ t) :
    v.tag = w.tag := by
  obtain ⟨c, rest, hv, hc, -⟩ := render_head v
  obtain ⟨d, rest', hw, hd, -⟩ := render_head w
  rw [hv, hw] at h
  rw [← hc, ← hd, (List.cons.inj h).1]

theorem delimited_elements (elements : List Json) (s : List Char) :
    Delimited (renderElements elements ++ s) := by
  cases elements <;> exact delimited_cons (by decide)

theorem delimited_members (members : List (String × Json)) (s : List Char) :
    Delimited (renderMembers members ++ s) := by
  cases members with
  | nil => exact delimited_cons (by decide)
  | cons member members => exact delimited_cons (by decide)

theorem closing_ne_render {v : Json} {s t : List Char} : ']' :: s ≠ render v ++ t := by
  obtain ⟨c, rest, hv, -, hc⟩ := render_head v
  rw [hv]
  intro h
  exact hc (List.cons.inj h).1.symm

mutual

/-- The text of a value tells the value and where it ends. -/
theorem render_inj : ∀ (v w : Json) (s t : List Char), Delimited s → Delimited t →
    render v ++ s = render w ++ t → v = w ∧ s = t
  | .null, w, s, t, _, _, h => by
    have htag := tag_eq_of_render h
    cases w <;> simp [tag] at htag
    simpa [render] using h
  | .bool v, w, s, t, _, _, h => by
    have htag := tag_eq_of_render h
    cases w <;> simp [tag] at htag
    rename_i w
    cases v <;> cases w <;> simp_all [render]
  | .int v, w, s, t, hs, ht, h => by
    have htag := tag_eq_of_render h
    cases w <;> simp [tag] at htag
    rw [render, render] at h
    have hvw := renderInt_inj hs ht h
    exact ⟨congrArg Json.int hvw.1, hvw.2⟩
  | .str v, w, s, t, _, _, h => by
    have htag := tag_eq_of_render h
    cases w <;> simp [tag] at htag
    rw [render, render] at h
    have hvw := renderString_inj h
    exact ⟨congrArg Json.str hvw.1, hvw.2⟩
  | .arr [], w, s, t, _, _, h => by
    have htag := tag_eq_of_render h
    cases w <;> simp [tag] at htag
    rename_i elements
    cases elements with
    | nil => simpa [render] using h
    | cons element elements =>
      simp only [render, List.cons_append, List.append_assoc] at h
      exact absurd (List.cons.inj h).2 closing_ne_render
  | .arr (element :: elements), w, s, t, hs, ht, h => by
    have htag := tag_eq_of_render h
    cases w <;> simp [tag] at htag
    rename_i elements'
    cases elements' with
    | nil =>
      simp only [render, List.cons_append, List.append_assoc] at h
      exact absurd (List.cons.inj h).2.symm closing_ne_render
    | cons element' elements' =>
      rw [render, render, List.cons_append, List.cons_append, List.append_assoc,
        List.append_assoc] at h
      have hhead := render_inj element element' _ _ (delimited_elements elements s)
        (delimited_elements elements' t) (List.cons.inj h).2
      have hrest := renderElements_inj elements elements' s t hs ht hhead.2
      exact ⟨by rw [hhead.1, hrest.1], hrest.2⟩
  | .obj [], w, s, t, _, _, h => by
    have htag := tag_eq_of_render h
    cases w <;> simp [tag] at htag
    rename_i members
    cases members with
    | nil => simpa [render] using h
    | cons member members => simp [render, renderString] at h
  | .obj ((name, value) :: members), w, s, t, hs, ht, h => by
    have htag := tag_eq_of_render h
    cases w <;> simp [tag] at htag
    rename_i members'
    cases members' with
    | nil => simp [render, renderString] at h
    | cons member' members' =>
      obtain ⟨name', value'⟩ := member'
      simp only [render, List.cons_append, List.append_assoc] at h
      have hname := renderString_inj (List.cons.inj h).2
      have hvalue := render_inj value value' _ _ (delimited_members members s)
        (delimited_members members' t) (List.cons.inj hname.2).2
      have hrest := renderMembers_inj members members' s t hs ht hvalue.2
      exact ⟨by rw [hname.1, hvalue.1, hrest.1], hrest.2⟩

theorem renderElements_inj : ∀ (elements elements' : List Json) (s t : List Char),
    Delimited s → Delimited t →
    renderElements elements ++ s = renderElements elements' ++ t →
    elements = elements' ∧ s = t
  | [], elements', s, t, _, _, h => by
    cases elements' <;> simp_all [renderElements]
  | element :: elements, elements', s, t, hs, ht, h => by
    cases elements' with
    | nil => simp [renderElements] at h
    | cons element' elements' =>
      simp only [renderElements, List.cons_append, List.append_assoc] at h
      have hhead := render_inj element element' _ _ (delimited_elements elements s)
        (delimited_elements elements' t) (List.cons.inj h).2
      have hrest := renderElements_inj elements elements' s t hs ht hhead.2
      exact ⟨by rw [hhead.1, hrest.1], hrest.2⟩

theorem renderMembers_inj : ∀ (members members' : List (String × Json)) (s t : List Char),
    Delimited s → Delimited t →
    renderMembers members ++ s = renderMembers members' ++ t → members = members' ∧ s = t
  | [], members', s, t, _, _, h => by
    cases members' <;> simp_all [renderMembers]
  | (name, value) :: members, members', s, t, hs, ht, h => by
    cases members' with
    | nil => simp [renderMembers] at h
    | cons member' members' =>
      obtain ⟨name', value'⟩ := member'
      simp only [renderMembers, List.cons_append, List.append_assoc] at h
      have hname := renderString_inj (List.cons.inj h).2
      have hvalue := render_inj value value' _ _ (delimited_members members s)
        (delimited_members members' t) (List.cons.inj hname.2).2
      have hrest := renderMembers_inj members members' s t hs ht hvalue.2
      exact ⟨by rw [hname.1, hvalue.1, hrest.1], hrest.2⟩

end

/-! Control characters never occur in a text, so they can separate texts. -/

theorem printable_of_all {text : List Char} (h : text.all (32 ≤ ·.toNat) = true) {d : Char}
    (hd : d ∈ text) : 32 ≤ d.toNat :=
  of_decide_eq_true (List.all_eq_true.mp h d hd)

theorem printable_escape {c d : Char} (h : d ∈ escape c) : 32 ≤ d.toNat := by
  unfold escape at h
  split_ifs at h with hquote hslash hb ht hn hf hr hcontrol
  · exact printable_of_all (by decide) h
  · exact printable_of_all (by decide) h
  · exact printable_of_all (by decide) h
  · exact printable_of_all (by decide) h
  · exact printable_of_all (by decide) h
  · exact printable_of_all (by decide) h
  · exact printable_of_all (by decide) h
  · have hdigit : ∀ k < 16, 32 ≤ (hexDigit k).toNat := by decide
    have hhigh := hdigit (c.toNat / 16) (by omega)
    have hlow := hdigit (c.toNat % 16) (by omega)
    simp only [List.mem_cons, List.not_mem_nil, or_false] at h
    rcases h with rfl | rfl | rfl | rfl | rfl | rfl
    · decide
    · decide
    · decide
    · decide
    · exact hhigh
    · exact hlow
  · rw [List.mem_singleton] at h
    subst d
    omega

theorem printable_renderString {text : String} {d : Char} (h : d ∈ renderString text) :
    32 ≤ d.toNat := by
  simp only [renderString, List.mem_cons, List.mem_append, List.mem_flatMap, List.not_mem_nil,
    or_false] at h
  rcases h with rfl | ⟨c, -, hd⟩ | rfl
  · decide
  · exact printable_escape hd
  · decide

theorem printable_digit {n : ℕ} {d : Char} (h : d ∈ Nat.toDigits 10 n) : 32 ≤ d.toNat := by
  have hdigit := Nat.isDigit_of_mem_toDigits (by decide) (by decide) h
  simp only [Char.isDigit, Bool.and_eq_true, decide_eq_true_eq] at hdigit
  have hlow : '0'.toNat ≤ d.toNat := hdigit.1
  exact le_trans (by decide) hlow

mutual

theorem printable_render : ∀ (value : Json) (d : Char), d ∈ render value → 32 ≤ d.toNat
  | .null, d, h => printable_of_all (by decide) h
  | .bool true, d, h => printable_of_all (by decide) h
  | .bool false, d, h => printable_of_all (by decide) h
  | .int (.ofNat _), _, h => printable_digit h
  | .int (.negSucc _), d, h => by
    rcases List.mem_cons.mp h with rfl | h
    · decide
    · exact printable_digit h
  | .str _, _, h => printable_renderString h
  | .arr [], d, h => printable_of_all (by decide) h
  | .arr (element :: elements), d, h => by
    rw [render, List.mem_cons, List.mem_append] at h
    rcases h with rfl | h | h
    · decide
    · exact printable_render element d h
    · exact printable_renderElements elements d h
  | .obj [], d, h => printable_of_all (by decide) h
  | .obj ((name, value) :: members), d, h => by
    rw [render, List.mem_cons, List.mem_append, List.mem_cons, List.mem_append] at h
    rcases h with rfl | h | rfl | h | h
    · decide
    · exact printable_renderString h
    · decide
    · exact printable_render value d h
    · exact printable_renderMembers members d h

theorem printable_renderElements : ∀ (elements : List Json) (d : Char),
    d ∈ renderElements elements → 32 ≤ d.toNat
  | [], d, h => printable_of_all (by decide) h
  | element :: elements, d, h => by
    rw [renderElements, List.mem_cons, List.mem_append] at h
    rcases h with rfl | h | h
    · decide
    · exact printable_render element d h
    · exact printable_renderElements elements d h

theorem printable_renderMembers : ∀ (members : List (String × Json)) (d : Char),
    d ∈ renderMembers members → 32 ≤ d.toNat
  | [], d, h => printable_of_all (by decide) h
  | (name, value) :: members, d, h => by
    rw [renderMembers, List.mem_cons, List.mem_append, List.mem_cons, List.mem_append] at h
    rcases h with rfl | h | rfl | h | h
    · decide
    · exact printable_renderString h
    · decide
    · exact printable_render value d h
    · exact printable_renderMembers members d h

end

/-! How many bytes a text can take -/

mutual

def textBound : Json → ℕ
  | .null => 4
  | .bool _ => 5
  | .int value => (renderInt value).length
  | .str value => 6 * value.utf8ByteSize + 2
  | .arr elements => elementsBound elements + 2
  | .obj members => membersBound members + 2

def elementsBound : List Json → ℕ
  | [] => 0
  | element :: elements => textBound element + elementsBound elements + 1

def membersBound : List (String × Json) → ℕ
  | [] => 0
  | (name, value) :: members =>
    6 * name.utf8ByteSize + 4 + textBound value + membersBound members

end

/-- The number of bytes of a text. -/
def byteCount (text : List Char) : ℕ := (text.flatMap String.utf8EncodeChar).length

@[simp] theorem byteCount_nil : byteCount [] = 0 := rfl

@[simp] theorem byteCount_cons (c : Char) (text : List Char) :
    byteCount (c :: text) = c.utf8Size + byteCount text := by
  simp [byteCount]

@[simp] theorem byteCount_append (first second : List Char) :
    byteCount (first ++ second) = byteCount first + byteCount second := by
  simp [byteCount]

theorem byteCount_toList (text : String) : byteCount text.toList = text.utf8ByteSize := by
  rw [byteCount, ← utf8_ofList, String.ofList_toList, length_utf8]

theorem byteCount_digits {text : List Char} (h : ∀ c ∈ text, c.isDigit = true) :
    byteCount text = text.length := by
  induction text with
  | nil => rfl
  | cons c text ih =>
    have hc := h c List.mem_cons_self
    simp only [Char.isDigit, Bool.and_eq_true, decide_eq_true_eq] at hc
    have hnine : ('9' : Char).val ≤ 0x7f := by decide
    have hsmall : c.val ≤ 0x7f := UInt32.le_trans hc.2 hnine
    have hone : c.utf8Size = 1 := by simp [Char.utf8Size, hsmall]
    rw [byteCount_cons, hone, ih fun d hd => h d (List.mem_cons_of_mem c hd), List.length_cons,
      Nat.add_comm]

theorem byteCount_renderInt (value : ℤ) : byteCount (renderInt value) = (renderInt value).length := by
  have hdigits := fun n c (h : c ∈ Nat.toDigits 10 n) =>
    Nat.isDigit_of_mem_toDigits (by decide) (by decide) h
  cases value with
  | ofNat n => exact byteCount_digits (hdigits n)
  | negSucc n =>
    have hminus : '-'.utf8Size = 1 := by decide
    rw [renderInt, byteCount_cons, byteCount_digits (hdigits (n + 1)), hminus, List.length_cons,
      Nat.add_comm]

theorem byteCount_escape (c : Char) : byteCount (escape c) ≤ 6 * c.utf8Size := by
  have hpos := c.utf8Size_pos
  have hhex : ∀ value, (hexDigit value).utf8Size = 1 := by
    intro value
    by_cases hvalue : value < 16
    · exact (by decide : ∀ value < 16, (hexDigit value).utf8Size = 1) value hvalue
    · have hlength : "0123456789abcdef".toList.length ≤ value := by
        have hsixteen : "0123456789abcdef".toList.length = 16 := by decide
        omega
      rw [hexDigit, List.getD_eq_getElem?_getD, List.getElem?_eq_none hlength]
      decide
  have hascii : ∀ d ∈ ['"', '\\', 'b', 't', 'n', 'f', 'r', 'u', '0'], d.utf8Size = 1 := by
    simp only [List.forall_mem_cons, List.not_mem_nil, false_implies, implies_true, and_true]
    decide
  simp only [List.forall_mem_cons] at hascii
  unfold escape
  split_ifs <;> simp only [byteCount_cons, byteCount_nil, hascii, hhex] <;> omega

theorem byteCount_renderString (text : String) :
    byteCount (renderString text) ≤ 6 * text.utf8ByteSize + 2 := by
  have hflat : ∀ chars : List Char, byteCount (chars.flatMap escape) ≤ 6 * byteCount chars := by
    intro chars
    induction chars with
    | nil => simp
    | cons c chars ih =>
      have hc := byteCount_escape c
      rw [List.flatMap_cons, byteCount_append, byteCount_cons]
      omega
  have htext := hflat text.toList
  rw [byteCount_toList] at htext
  have hquote : '"'.utf8Size = 1 := by decide
  simp only [renderString, byteCount_cons, byteCount_append, byteCount_nil, hquote]
  omega

mutual

theorem byteCount_render : ∀ value : Json, byteCount (render value) ≤ textBound value
  | .null => by decide
  | .bool true => by decide
  | .bool false => by decide
  | .int value => (byteCount_renderInt value).le
  | .str value => byteCount_renderString value
  | .arr [] => by decide
  | .arr (element :: elements) => by
    have hhead := byteCount_render element
    have hrest := byteCount_renderElements elements
    have hopen : '['.utf8Size = 1 := by decide
    simp only [render, textBound, elementsBound, byteCount_cons, byteCount_append, hopen]
    omega
  | .obj [] => by decide
  | .obj ((name, value) :: members) => by
    have hname := byteCount_renderString name
    have hvalue := byteCount_render value
    have hrest := byteCount_renderMembers members
    have hopen : '{'.utf8Size = 1 := by decide
    have hcolon : ':'.utf8Size = 1 := by decide
    simp only [render, textBound, membersBound, byteCount_cons, byteCount_append, hopen, hcolon]
    omega

theorem byteCount_renderElements : ∀ elements : List Json,
    byteCount (renderElements elements) ≤ elementsBound elements + 1
  | [] => by decide
  | element :: elements => by
    have hhead := byteCount_render element
    have hrest := byteCount_renderElements elements
    have hcomma : ','.utf8Size = 1 := by decide
    simp only [renderElements, elementsBound, byteCount_cons, byteCount_append, hcomma]
    omega

theorem byteCount_renderMembers : ∀ members : List (String × Json),
    byteCount (renderMembers members) ≤ membersBound members + 1
  | [] => by decide
  | (name, value) :: members => by
    have hname := byteCount_renderString name
    have hvalue := byteCount_render value
    have hrest := byteCount_renderMembers members
    have hcomma : ','.utf8Size = 1 := by decide
    have hcolon : ':'.utf8Size = 1 := by decide
    simp only [renderMembers, membersBound, byteCount_cons, byteCount_append, hcomma, hcolon]
    omega

end

theorem byteCount_toText (value : Json) : (utf8 value.toText).length = byteCount (render value) := by
  rw [toText, utf8_ofList, byteCount]

theorem length_utf8_toText (value : Json) : (utf8 value.toText).length ≤ textBound value := by
  rw [byteCount_toText]
  exact byteCount_render value

/-! The exact size of a text -/

/-- A character that stands for itself in a string. -/
def plain (c : Char) : Bool := c != '"' && c != '\\' && 32 ≤ c.toNat

/-- The bytes of a string between its quotes. -/
def escapedSize (text : String) : ℕ := byteCount (text.toList.flatMap escape)

theorem byteCount_renderString_eq (text : String) :
    byteCount (renderString text) = escapedSize text + 2 := by
  have hquote : '"'.utf8Size = 1 := by decide
  simp only [renderString, escapedSize, byteCount_cons, byteCount_append, byteCount_nil, hquote]
  omega

theorem escape_plain {c : Char} (h : plain c = true) : escape c = [c] := by
  simp only [plain, Bool.and_eq_true, bne_iff_ne, ne_eq, decide_eq_true_eq] at h
  have hcontrol : ∀ d : Char, d.toNat < 32 → c ≠ d := by
    rintro d hd rfl
    omega
  have hsmall : ¬ c.toNat < 32 := by omega
  rw [escape, if_neg h.1.1, if_neg h.1.2, if_neg (hcontrol _ (by decide)),
    if_neg (hcontrol _ (by decide)), if_neg (hcontrol _ (by decide)),
    if_neg (hcontrol _ (by decide)), if_neg (hcontrol _ (by decide)), if_neg hsmall]

theorem escapedSize_plain {text : String} (h : text.toList.all plain = true) :
    escapedSize text = text.utf8ByteSize := by
  have hself : ∀ chars : List Char, chars.all plain = true → chars.flatMap escape = chars := by
    intro chars
    induction chars with
    | nil => simp
    | cons c chars ih =>
      intro hchars
      rw [List.all_cons, Bool.and_eq_true] at hchars
      rw [List.flatMap_cons, escape_plain hchars.1, ih hchars.2, List.singleton_append]
  rw [escapedSize, hself _ h, byteCount_toList]

theorem utf8Size_le_escape (c : Char) : c.utf8Size ≤ byteCount (escape c) := by
  unfold escape
  split_ifs with hquote hslash hb ht hn hf hr hcontrol
  all_goals first
    | (subst c; decide)
    | skip
  · have hone : c.utf8Size = 1 := by
      have hsmall : c.val ≤ 0x7f := by
        rw [UInt32.le_iff_toNat_le]
        exact Nat.le_of_lt (Nat.lt_of_lt_of_le hcontrol (by decide))
      simp [Char.utf8Size, hsmall]
    have hu := Char.utf8Size_pos '\\'
    simp only [byteCount_cons]
    omega
  · rw [byteCount_cons, byteCount_nil, Nat.add_zero]

theorem utf8ByteSize_le_escapedSize (text : String) : text.utf8ByteSize ≤ escapedSize text := by
  have hchars : ∀ chars : List Char, byteCount chars ≤ byteCount (chars.flatMap escape) := by
    intro chars
    induction chars with
    | nil => simp
    | cons c chars ih =>
      have hc := utf8Size_le_escape c
      rw [List.flatMap_cons, byteCount_append, byteCount_cons]
      omega
  rw [← byteCount_toList, escapedSize]
  exact hchars text.toList

/-- A member takes its quotes, its colon and the comma or brace before it. -/
def memberSize (member : String × Json) : ℕ :=
  escapedSize member.1 + byteCount (render member.2) + 4

theorem byteCount_renderMembers_eq (members : List (String × Json)) :
    byteCount (renderMembers members) = (members.map memberSize).sum + 1 := by
  induction members with
  | nil => decide
  | cons member members ih =>
    have hcomma : ','.utf8Size = 1 := by decide
    have hcolon : ':'.utf8Size = 1 := by decide
    simp only [renderMembers, byteCount_cons, byteCount_append, byteCount_renderString_eq, ih,
      hcomma, hcolon, List.map_cons, List.sum_cons, memberSize]
    omega

theorem byteCount_obj (member : String × Json) (members : List (String × Json)) :
    byteCount (render (.obj (member :: members))) = ((member :: members).map memberSize).sum + 1 := by
  have hopen : '{'.utf8Size = 1 := by decide
  have hcolon : ':'.utf8Size = 1 := by decide
  simp only [render, byteCount_cons, byteCount_append, byteCount_renderString_eq,
    byteCount_renderMembers_eq, hopen, hcolon, List.map_cons, List.sum_cons, memberSize]
  omega

/-- Later members make an object longer. -/
theorem byteCount_renderMembers_append (first second : List (String × Json)) :
    byteCount (renderMembers first) ≤ byteCount (renderMembers (first ++ second)) := by
  induction first with
  | nil =>
    cases second with
    | nil => rfl
    | cons member second =>
      have hclose : '}'.utf8Size = 1 := by decide
      have hcomma : ','.utf8Size = 1 := by decide
      simp only [List.nil_append, renderMembers, byteCount_cons, byteCount_nil, hclose, hcomma]
      omega
  | cons member first ih =>
    simp only [List.cons_append, renderMembers, byteCount_cons, byteCount_append]
    omega

/-- The bytes of a text hold no control character, newlines among them. -/
theorem printable_toText {value : Json} {byte : UInt8} (h : byte ∈ utf8 value.toText) :
    32 ≤ byte.toNat := by
  rw [toText, utf8_ofList, List.mem_flatMap] at h
  obtain ⟨c, hc, hbyte⟩ := h
  exact printable_utf8EncodeChar (printable_render value c hc) hbyte

theorem utf8_toText_ne_nil (value : Json) : utf8 value.toText ≠ [] := by
  obtain ⟨c, rest, hvalue, -, -⟩ := render_head value
  rw [toText, utf8_ofList, hvalue, List.flatMap_cons]
  intro h
  have hlength := congrArg List.length (List.append_eq_nil_iff.mp h).1
  rw [String.length_utf8EncodeChar, List.length_nil] at hlength
  exact absurd hlength (Nat.ne_of_gt c.utf8Size_pos)

theorem toText_inj {v w : Json} (h : v.toText = w.toText) : v = w := by
  have htext := String.ofList_injective h
  have hvw := render_inj v w [] [] delimited_nil delimited_nil (by rw [htext])
  exact hvw.1

end Json

end GreenBubbles.Library
