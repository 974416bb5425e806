import SqlDialect.Node.Fields
import SqlDialect.Value.Equality

/-!
# Equality of nodes

Two nodes are equal when they are of one kind and their fields are equal as values; a bare base
equals only itself.  `Value.setSize?` is the number of members of the set of two values, which
exists only when both have a hash.  A set takes two values for one member if they have the same hash
and are equal.
-/

namespace SqlDialect

/-- The size of the set of two values. -/
def Value.setSize? (a b : Value) : Option Nat :=
  if a.isHashable && b.isHashable then
    some (if a.hashParts = b.hashParts && a.sameAs b then 1 else 2)
  else none

namespace Node

/-- Equality of nodes. -/
def sameAs (a b : Node) : Bool :=
  a.toValue.sameAs b.toValue

/-- The size of the set of two nodes. -/
def setSize? (a b : Node) : Option Nat :=
  a.toValue.setSize? b.toValue

end Node

end SqlDialect
