import Mathlib.Data.Set.Basic

/-! # Ideal sealing

Authenticated encryption at its best: under a key, a nonce and associated data
it opens what was sealed under them, and nothing else.
-/
namespace GreenBubbles.Library.Sealing

variable {κ ν α μ γ : Type*}

/-- A message and what it was sealed under. -/
structure Box (κ ν α μ : Type*) where
  key : κ
  nonce : ν
  associated : α
  message : μ

variable {encrypt : κ → ν → α → μ → γ} {decrypt : κ → ν → α → γ → Option μ}

def Box.sealed (encrypt : κ → ν → α → μ → γ) (box : Box κ ν α μ) : γ :=
  encrypt box.key box.nonce box.associated box.message

/-- The boxes are all that was ever sealed. -/
structure Ideal (encrypt : κ → ν → α → μ → γ) (decrypt : κ → ν → α → γ → Option μ)
    (boxes : Set (Box κ ν α μ)) : Prop where
  opens : ∀ box ∈ boxes,
    decrypt box.key box.nonce box.associated (box.sealed encrypt) = some box.message
  authentic : ∀ key nonce associated ciphertext message,
    decrypt key nonce associated ciphertext = some message →
      ⟨key, nonce, associated, message⟩ ∈ boxes ∧
        ciphertext = encrypt key nonce associated message

theorem Ideal.decrypt_eq_some {boxes : Set (Box κ ν α μ)} (h : Ideal encrypt decrypt boxes)
    {key : κ} {nonce : ν} {associated : α} {ciphertext : γ} {message : μ} :
    decrypt key nonce associated ciphertext = some message ↔
      ∃ box ∈ boxes, box.key = key ∧ box.nonce = nonce ∧ box.associated = associated ∧
        box.message = message ∧ box.sealed encrypt = ciphertext := by
  constructor
  · intro hopen
    obtain ⟨hbox, hciphertext⟩ := h.authentic _ _ _ _ _ hopen
    exact ⟨_, hbox, rfl, rfl, rfl, rfl, hciphertext.symm⟩
  · rintro ⟨box, hbox, rfl, rfl, rfl, rfl, rfl⟩
    exact h.opens box hbox

end GreenBubbles.Library.Sealing
