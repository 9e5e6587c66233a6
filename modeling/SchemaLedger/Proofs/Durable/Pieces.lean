import SchemaLedger.Proofs.Durable.AllOrNothing

namespace SchemaLedger

section Pieces

variable {α : Type} {size : Nat} {list piece : List α}

end Pieces

/-- The statement has a question mark for each subject of a piece and nowhere else, and its values
are the subjects of the piece. -/
def Statement.Puts (statement : Statement) (piece : List String) : Prop :=
  ∃ text : String, statement.wording? = some ⟨text, piece⟩ ∧ text.toList.count '?' = piece.length

namespace Statement

end Statement

end SchemaLedger
