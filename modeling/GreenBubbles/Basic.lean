import Mathlib.Algebra.Ring.Nat

/-! # Words shared by the components

Saturating machine arithmetic, digests in hexadecimal and the error type every
fallible operation returns.
-/
namespace GreenBubbles

def saturatingAdd (bits a b : ℕ) : ℕ := min (a + b) (2 ^ bits - 1)

theorem saturatingAdd_of_lt {bits a b : ℕ} (h : a + b < 2 ^ bits) :
    saturatingAdd bits a b = a + b := by
  unfold saturatingAdd
  omega

/-- Release builds wrap an addition that overflows. -/
def wrappingAdd (bits a b : ℕ) : ℕ := (a + b) % 2 ^ bits

def wrappingSum (bits : ℕ) (values : List ℕ) : ℕ := values.foldl (wrappingAdd bits) 0

theorem wrappingSum_eq (bits : ℕ) (values : List ℕ) :
    wrappingSum bits values = values.sum % 2 ^ bits := by
  have h : ∀ start, values.foldl (wrappingAdd bits) (start % 2 ^ bits) =
      (start + values.sum) % 2 ^ bits := by
    induction values with
    | nil => simp
    | cons value values ih =>
      intro start
      rw [List.foldl_cons, wrappingAdd, Nat.mod_add_mod, ih, List.sum_cons, Nat.add_assoc]
  simpa [wrappingSum] using h 0

def isAsciiHexDigit (c : Char) : Bool :=
  ('0' ≤ c && c ≤ '9') || ('a' ≤ c && c ≤ 'f') || ('A' ≤ c && c ≤ 'F')

/-- Sixty-four ASCII hexadecimal digits, in either case. -/
def isSha256 (value : String) : Bool :=
  value.utf8ByteSize == 64 && value.toList.all isAsciiHexDigit

inductive RestoreError where
  | manifest (message : String)
  | unsafePath (path : String)
  | integrity (message : String)
  | io (message : String)
  | json (message : String)
  | sqlite (message : String)
  /-- Not an error of the source: the thread panics. -/
  | panicked (message : String)
  deriving DecidableEq

theorem bind_ok {ε α β : Type} {x : Except ε α} {f : α → Except ε β} {b : β} :
    x >>= f = .ok b ↔ ∃ a, x = .ok a ∧ f a = .ok b := by
  cases x with
  | error error => simp [bind, Except.bind]
  | ok a => simp [bind, Except.bind]

theorem check_bind_ok {ε β : Type} {x : Except ε Unit} {f : Unit → Except ε β} {b : β} :
    x >>= f = .ok b ↔ x = .ok () ∧ f () = .ok b := by
  rw [bind_ok]
  constructor
  · rintro ⟨⟨⟩, hx, hf⟩
    exact ⟨hx, hf⟩
  · rintro ⟨hx, hf⟩
    exact ⟨(), hx, hf⟩

/-- A check of the source that returns an integrity error when it fails. -/
def require (condition : Bool) (message : String) : Except RestoreError Unit :=
  if condition then .ok () else .error (.integrity message)

@[simp] theorem require_ok {condition : Bool} {message : String} :
    require condition message = .ok () ↔ condition = true := by
  cases condition <;> simp [require]

theorem forM_ok {ε α : Type} {check : α → Except ε Unit} {values : List α} :
    values.forM check = .ok () ↔ ∀ a ∈ values, check a = .ok () := by
  induction values with
  | nil => simp [pure, Except.pure]
  | cons a values ih =>
    rw [List.forM, check_bind_ok, List.forall_mem_cons, ih]

/-- A map that preserves a view preserves the list of views. -/
theorem mapM_ok_map {ε α β γ : Type} {f : α → Except ε β} {view : α → γ} {view' : β → γ}
    (hf : ∀ a b, f a = .ok b → view' b = view a) {values : List α} {results : List β}
    (h : values.mapM f = .ok results) : results.map view' = values.map view := by
  induction values generalizing results with
  | nil =>
    rw [List.mapM_nil] at h
    obtain rfl := Except.ok.inj h
    rfl
  | cons a values ih =>
    rw [List.mapM_cons] at h
    obtain ⟨b, hb, h⟩ := bind_ok.mp h
    obtain ⟨rest, hrest, h⟩ := bind_ok.mp h
    obtain rfl := Except.ok.inj h
    rw [List.map_cons, List.map_cons, hf a b hb, ih hrest]

end GreenBubbles
