import Mathlib.Tactic.Ring
import GreenBubbles.Library.Json

/-! # Indented JSON text

The layout of a serializer that puts every element and member on a line of its
own, two spaces deeper than the value that holds it.
-/
namespace GreenBubbles.Library.Json

def newline (depth : ℕ) : List Char := '\n' :: List.replicate (2 * depth) ' '

mutual

def pretty (depth : ℕ) : Json → List Char
  | .null => "null".toList
  | .bool true => "true".toList
  | .bool false => "false".toList
  | .int value => renderInt value
  | .str value => renderString value
  | .arr [] => ['[', ']']
  | .arr (element :: elements) =>
    '[' :: (newline (depth + 1) ++ pretty (depth + 1) element ++ prettyElements depth elements)
  | .obj [] => ['{', '}']
  | .obj ((name, value) :: members) =>
    '{' :: (newline (depth + 1) ++ renderString name ++ [':', ' '] ++
      pretty (depth + 1) value ++ prettyMembers depth members)

/-- The elements after the first one. -/
def prettyElements (depth : ℕ) : List Json → List Char
  | [] => newline depth ++ [']']
  | element :: elements =>
    ',' :: (newline (depth + 1) ++ pretty (depth + 1) element ++ prettyElements depth elements)

/-- The members after the first one. -/
def prettyMembers (depth : ℕ) : List (String × Json) → List Char
  | [] => newline depth ++ ['}']
  | (name, value) :: members =>
    ',' :: (newline (depth + 1) ++ renderString name ++ [':', ' '] ++
      pretty (depth + 1) value ++ prettyMembers depth members)

end

theorem byteCount_replicate (count : ℕ) (c : Char) :
    byteCount (List.replicate count c) = count * c.utf8Size := by
  induction count with
  | zero => simp
  | succ count ih =>
    rw [List.replicate_succ, byteCount_cons, ih]
    ring

theorem byteCount_member (depth : ℕ) (name : String) (value : Json)
    (members : List (String × Json)) :
    byteCount (prettyMembers depth ((name, value) :: members)) =
      byteCount (',' :: (newline (depth + 1) ++ renderString name ++ [':', ' '])) +
        byteCount (pretty (depth + 1) value) + byteCount (prettyMembers depth members) := by
  simp only [prettyMembers, byteCount_cons, byteCount_append]
  omega

end GreenBubbles.Library.Json
