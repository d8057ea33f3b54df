import Mathlib.Data.List.Induction
import Std.Data.String.ToInt
import Std.Data.String.ToNat
import GreenBubbles.Library.Bytes

/-! # Concatenations that determine their parts

Fields that each end in a terminator no field contains or stand behind a mark
that no field contains, blocks of one length and decimal numbers.
-/
namespace GreenBubbles.Library.Framing

open Bytes

variable {α β : Type*}

def terminated (terminator : α) (fields : List (List α)) : List α :=
  fields.flatMap fun field => field ++ [terminator]

theorem terminated_inj {terminator : α} {fields fields' : List (List α)}
    (hfields : ∀ field ∈ fields, terminator ∉ field)
    (hfields' : ∀ field ∈ fields', terminator ∉ field)
    (h : terminated terminator fields = terminated terminator fields') : fields = fields' := by
  induction fields generalizing fields' with
  | nil =>
    cases fields' with
    | nil => rfl
    | cons field fields' => simp [terminated] at h
  | cons field fields ih =>
    cases fields' with
    | nil => simp [terminated] at h
    | cons field' fields' =>
      simp only [terminated, List.flatMap_cons, List.append_assoc, List.singleton_append] at h
      rcases cut_at_first (hfields field List.mem_cons_self) (hfields' field' List.mem_cons_self) h
        with ⟨hfield, hrest⟩
      rw [hfield, ih (fun other hother => hfields other (List.mem_cons_of_mem _ hother))
        (fun other hother => hfields' other (List.mem_cons_of_mem _ hother)) hrest]

/-- Each field behind a mark. -/
def marked (mark : α) (fields : List (List α)) : List α :=
  fields.flatMap fun field => mark :: field

theorem marked_append (mark : α) (fields fields' : List (List α)) :
    marked mark (fields ++ fields') = marked mark fields ++ marked mark fields' := by
  simp [marked]

theorem marked_eq_terminated (mark : α) (fields : List (List α)) :
    marked mark fields ++ [mark] = mark :: terminated mark fields := by
  induction fields with
  | nil => rfl
  | cons field fields ih =>
    simp only [marked, terminated, List.flatMap_cons, List.append_assoc, List.cons_append] at ih ⊢
    rw [ih, List.nil_append]

theorem marked_inj {mark : α} {fields fields' : List (List α)}
    (hfields : ∀ field ∈ fields, mark ∉ field) (hfields' : ∀ field ∈ fields', mark ∉ field)
    (h : marked mark fields = marked mark fields') : fields = fields' := by
  apply terminated_inj hfields hfields'
  have hends := congrArg (· ++ [mark]) h
  simp only [marked_eq_terminated] at hends
  exact (List.cons.inj hends).2

/-- Behind a head without a mark the last fields are read off first: what another reading
takes for its head begins with that head and goes on with whole fields. -/
theorem marked_suffix {mark : α} {head head' : List α} {fields fields' : List (List α)}
    (hhead : mark ∉ head) (hfields : ∀ field ∈ fields, mark ∉ field)
    (hfields' : ∀ field ∈ fields', mark ∉ field)
    (h : head ++ marked mark fields = head' ++ marked mark fields') :
    ∃ extra, fields = extra ++ fields' ∧ head' = head ++ marked mark extra := by
  induction fields' using List.reverseRecOn generalizing fields with
  | nil => exact ⟨fields, by simp, by simpa [marked] using h.symm⟩
  | append_singleton init' last' ih =>
    cases fields using List.reverseRecOn with
    | nil =>
      refine absurd ?_ hhead
      have hmem : mark ∈ head' ++ marked mark (init' ++ [last']) := by simp [marked]
      rwa [← h, show marked mark [] = [] from rfl, List.append_nil] at hmem
    | append_singleton init last =>
      have hlast : marked mark [last] = mark :: last := by simp [marked]
      have hlast' : marked mark [last'] = mark :: last' := by simp [marked]
      rw [marked_append, marked_append, ← List.append_assoc, ← List.append_assoc, hlast,
        hlast'] at h
      have hcut := cut_at_last (hfields last (by simp)) (hfields' last' (by simp)) h
      obtain ⟨extra, hextra, hhead'⟩ := ih
        (fun field hfield => hfields field (List.mem_append_left _ hfield))
        (fun field hfield => hfields' field (List.mem_append_left _ hfield)) hcut.1
      exact ⟨extra, by rw [hextra, hcut.2, List.append_assoc], hhead'⟩

/-- Blocks of one positive length are read off one after the other. -/
theorem flatMap_injOn {f : β → List α} {length : ℕ} {blocks blocks' : List β}
    (hlength : ∀ b, (f b).length = length + 1)
    (hf : ∀ b ∈ blocks, ∀ b' ∈ blocks', f b = f b' → b = b')
    (h : blocks.flatMap f = blocks'.flatMap f) : blocks = blocks' := by
  induction blocks generalizing blocks' with
  | nil =>
    cases blocks' with
    | nil => rfl
    | cons block' blocks' =>
      have hempty := congrArg List.length h
      simp only [List.flatMap_nil, List.flatMap_cons, List.length_append, hlength,
        List.length_nil] at hempty
      omega
  | cons block blocks ih =>
    cases blocks' with
    | nil =>
      have hempty := congrArg List.length h
      simp only [List.flatMap_nil, List.flatMap_cons, List.length_append, hlength,
        List.length_nil] at hempty
      omega
    | cons block' blocks' =>
      rw [List.flatMap_cons, List.flatMap_cons] at h
      rcases List.append_inj h (by rw [hlength, hlength]) with ⟨hblock, hrest⟩
      rw [hf block List.mem_cons_self block' List.mem_cons_self hblock,
        ih (fun b hb b' hb' => hf b (List.mem_cons_of_mem _ hb) b' (List.mem_cons_of_mem _ hb'))
          hrest]

theorem flatMap_injective {f : β → List α} {length : ℕ} (hf : Function.Injective f)
    (hlength : ∀ b, (f b).length = length + 1) : Function.Injective (List.flatMap f) :=
  fun _ _ h => flatMap_injOn hlength (fun _ _ _ _ hblock => hf hblock) h

/-- Parts that can each be cut off the front are read off one after the other. -/
theorem flatMap_inj_of_cut {f : β → List α} {parts parts' : List β} (hne : ∀ b, f b ≠ [])
    (hcut : ∀ b ∈ parts, ∀ b' ∈ parts', ∀ rest rest', f b ++ rest = f b' ++ rest' →
      b = b' ∧ rest = rest')
    (h : parts.flatMap f = parts'.flatMap f) : parts = parts' := by
  induction parts generalizing parts' with
  | nil =>
    cases parts' with
    | nil => rfl
    | cons part' parts' => simp [hne] at h
  | cons part parts ih =>
    cases parts' with
    | nil => simp [hne] at h
    | cons part' parts' =>
      rw [List.flatMap_cons, List.flatMap_cons] at h
      obtain ⟨hpart, hrest⟩ := hcut part List.mem_cons_self part' List.mem_cons_self _ _ h
      rw [hpart, ih (fun b hb b' hb' => hcut b (List.mem_cons_of_mem _ hb) b'
        (List.mem_cons_of_mem _ hb')) hrest]

/-- Where the blocks of one list end the blocks of another, the list ends the other. -/
theorem flatMap_suffix {f : β → List α} {length : ℕ} {blocks blocks' : List β} {extra : List α}
    (hlength : ∀ b, (f b).length = length + 1)
    (hf : ∀ b ∈ blocks, ∀ b' ∈ blocks', f b = f b' → b = b')
    (h : blocks.flatMap f = extra ++ blocks'.flatMap f) : ∃ front, blocks = front ++ blocks' := by
  induction blocks' using List.reverseRecOn generalizing blocks with
  | nil => exact ⟨blocks, (List.append_nil blocks).symm⟩
  | append_singleton init' last' ih =>
    cases blocks using List.reverseRecOn with
    | nil =>
      have hempty := congrArg List.length h
      simp only [List.flatMap_nil, List.flatMap_append, List.flatMap_cons, List.length_append,
        List.length_nil, hlength] at hempty
      omega
    | append_singleton init last =>
      simp only [List.flatMap_append, List.flatMap_cons, List.flatMap_nil, List.append_nil,
        ← List.append_assoc] at h
      obtain ⟨hinit, hlast⟩ := List.append_inj' h (by rw [hlength, hlength])
      obtain ⟨front, hfront⟩ := ih
        (fun b hb b' hb' => hf b (List.mem_append_left _ hb) b' (List.mem_append_left _ hb')) hinit
      exact ⟨front, by rw [hfront, hf last (by simp) last' (by simp) hlast, List.append_assoc]⟩

/-- What is appended behind the last separator extends the last part only. -/
theorem splitOn_append [BEq α] {separator : α} (text : List α) {more : List α}
    (hmore : ∀ a ∈ more, (a == separator) = false) :
    ∃ init last, text.splitOn separator = init ++ [last] ∧
      (text ++ more).splitOn separator = init ++ [last ++ more] := by
  simp only [List.splitOn]
  induction text with
  | nil =>
    refine ⟨[], [], rfl, ?_⟩
    induction more with
    | nil => rfl
    | cons a more ih =>
      have hrest := ih fun b hb => hmore b (List.mem_cons_of_mem _ hb)
      rw [List.nil_append] at hrest ⊢
      rw [List.splitOnP_cons_eq_if_modifyHead, hmore a List.mem_cons_self, hrest]
      rfl
  | cons a text ih =>
    obtain ⟨init, last, htext, happend⟩ := ih
    simp only [List.cons_append, List.splitOnP_cons_eq_if_modifyHead, htext, happend]
    by_cases ha : (a == separator) = true
    · exact ⟨[] :: init, last, by simp [ha], by simp [ha]⟩
    · cases init with
      | nil => exact ⟨[], a :: last, by simp [ha], by simp [ha]⟩
      | cons first init => exact ⟨(a :: first) :: init, last, by simp [ha], by simp [ha]⟩

/-- The decimal text of a number. -/
theorem decimal_inj {left right : ℕ} : toString left = toString right ↔ left = right :=
  Nat.repr_inj

theorem integer_inj {left right : ℤ} : toString left = toString right ↔ left = right := by
  rw [Int.toString_eq_repr, Int.toString_eq_repr, Int.repr_inj]

end GreenBubbles.Library.Framing
