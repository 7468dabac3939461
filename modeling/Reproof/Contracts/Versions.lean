import Reproof.Library.Texts

/-! The scalar rules that the components share. -/

namespace Reproof.Contracts

open Library

/-- `[a-z][a-z0-9_-]{0,63}`. -/
def isIdentifier (value : String) : Prop :=
  match value.toList with
  | [] => False
  | first :: rest => first.isLower ∧ rest.length ≤ 63 ∧
      ∀ c ∈ rest, c.isLower ∨ c.isDigit ∨ c = '_' ∨ c = '-'

/-- A check of each character of a text looks at these characters only. -/
instance (priority := high) decidableChars (p : Char → Prop) [DecidablePred p] (chars : List Char) :
    Decidable (∀ c ∈ chars, p c) := List.decidableBAll p chars

/-- What a text says of its first character and of the others. -/
def decidableFirst (text : String) (p : Char → List Char → Prop) [∀ first rest, Decidable (p first rest)] :
    Decidable (match text.toList with | [] => False | first :: rest => p first rest) :=
  have : ∀ chars, Decidable (match chars with | [] => False | first :: rest => p first rest)
    | [] => instDecidableFalse
    | first :: rest => inferInstanceAs (Decidable (p first rest))
  decidableText text fun chars => match chars with | [] => False | first :: rest => p first rest

instance : DecidablePred isIdentifier := fun value => decidableFirst value _

instance lawfulBEqPair : LawfulBEq (String × String) := inferInstance

/-- `[0-9a-f]{64}`. -/
def isDigest (value : String) : Prop :=
  value.length = 64 ∧ ∀ c ∈ value.toList, c.isDigit ∨ 'a' ≤ c ∧ c ≤ 'f'

instance : DecidablePred isDigest := fun value =>
  have := decidableText value fun chars => chars.length = 64 ∧ ∀ c ∈ chars, c.isDigit ∨ 'a' ≤ c ∧ c ≤ 'f'
  decidable_of_iff (value.toList.length = 64 ∧ _) (by rw [String.length_toList, isDigest])

/-- `[A-Za-z0-9_-]{1,128}`. -/
def isName (value : String) : Prop :=
  1 ≤ value.length ∧ value.length ≤ 128 ∧
    ∀ c ∈ value.toList, c.isAlphanum ∨ c = '_' ∨ c = '-'

instance : DecidablePred isName := fun value =>
  have := decidableText value fun chars => 1 ≤ chars.length ∧ chars.length ≤ 128 ∧
    ∀ c ∈ chars, c.isAlphanum ∨ c = '_' ∨ c = '-'
  decidable_of_iff (1 ≤ value.toList.length ∧ value.toList.length ≤ 128 ∧ _)
    (by rw [String.length_toList, isName])

end Reproof.Contracts
