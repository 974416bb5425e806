/-!
# Correlation

The records of one task carry one correlation identifier: one that the task was given, or one that
is generated when it is first needed.  Generated identifiers are told apart by their number.
-/

namespace SqlDialect

/-- An identifier that ties the records of a task together. -/
inductive CorrelationId
  | given (token : String)
  | generated (serial : Nat)
  deriving DecidableEq, Repr

/-- The identifier of a task, and how many have been generated. -/
structure Correlation where
  current : Option CorrelationId := none
  generated : Nat := 0
  deriving DecidableEq, Repr

namespace Correlation

/-- Sets the identifier to a token; without one, to a new identifier. -/
def set (c : Correlation) (token : Option String) : Correlation × CorrelationId :=
  match token with
  | none | some "" =>
    (⟨some (.generated c.generated), c.generated + 1⟩, .generated c.generated)
  | some token => ({ c with current := some (.given token) }, .given token)

/-- The identifier, generated if there is none. -/
def get (c : Correlation) : Correlation × CorrelationId :=
  match c.current with
  | some id => (c, id)
  | none => c.set none

end Correlation

end SqlDialect
