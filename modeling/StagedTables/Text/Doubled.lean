/-! # Doubled quotes

Quoted text in which a quote is written twice. -/
set_option autoImplicit false
namespace StagedTables.Text

/-- What follows an opening quote: the body up to the closing quote, a doubled quote standing for
one, and the number of characters read. -/
def quotedBody? : List Char → Option (List Char × Nat)
  | [] => none
  | '\'' :: '\'' :: rest => (quotedBody? rest).map fun (body, length) => ('\'' :: body, length + 2)
  | '\'' :: _ => some ([], 1)
  | c :: rest => (quotedBody? rest).map fun (body, length) => (c :: body, length + 1)

theorem quotedBody?_cons {c : Char} (unquoted : c ≠ '\'') (rest : List Char) :
    quotedBody? (c :: rest) =
      (quotedBody? rest).map fun (body, length) => (c :: body, length + 1) := by
  conv => lhs; unfold quotedBody?
  split
  · next shape => cases shape
  · next shape => exact absurd (List.cons.inj shape).1 unquoted
  · next shape => exact absurd (List.cons.inj shape).1 unquoted
  · next shape =>
    obtain ⟨rfl, rfl⟩ := List.cons.inj shape
    rfl

theorem quotedBody?_quote {rest : List Char} (ends : ∀ c ∈ rest.head?, c ≠ '\'') :
    quotedBody? ('\'' :: rest) = some ([], 1) := by
  cases rest with
  | nil => rfl
  | cons c rest =>
    unfold quotedBody?
    split
    · next shape => cases shape
    · next shape =>
      obtain ⟨rfl, -⟩ := List.cons.inj (List.cons.inj shape).2
      exact absurd rfl (ends '\'' rfl)
    · rfl
    · next other shape => exact (other (List.cons.inj shape).1.symm).elim

end StagedTables.Text
