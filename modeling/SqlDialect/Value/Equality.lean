import SqlDialect.Value.Basic

/-!
# Equality of values

`Value.sameAs` is equality across the kinds of numbers: `true`, `1` and `1.0` are the same value,
and so are lists, records and nodes whose parts are.  `Value.isHashable` says which values may be
members of a set, and `Value.hashParts` what the hash of such a value is made from.  Equal times of
day with offsets may still have different hashes, since equality drops what an offset has beyond its
whole seconds (`TimeOfDay.key`) and the hash does not (`TimeOfDay.hashKey`).
-/

namespace SqlDialect

/-! ### Numbers -/

/-- What a number of any kind amounts to. -/
inductive Number
  | finite (q : Rat)
  | infinite (negative : Bool)
  deriving DecidableEq, Repr

/-- Only zero counts as false. -/
def Number.isTrue : Number → Bool
  | .finite q => q != 0
  | .infinite _ => true

/-- The number that a floating point number is; a NaN is none. -/
def Binary64.number? : Binary64 → Option Number
  | .nan => none
  | .infinite negative => some (.infinite negative)
  | .finite negative m e => (ratio? (.finite negative m e)).map fun (n, d) => .finite (mkRat n d)

/-- The number that a decimal number is; a NaN is none. -/
def Decimal.number? (d : Decimal) : Option Number :=
  let signed (n : Nat) : Int := if d.negative then -(n : Int) else n
  match d.magnitude with
  | .finite c e =>
    some (.finite (if 0 ≤ e then mkRat (signed (c * Nat.pow 10 e.toNat)) 1
      else mkRat (signed c) (Nat.pow 10 (-e).toNat)))
  | .infinite => some (.infinite d.negative)
  | .nan _ _ => none

namespace Value

/-- The number that a value is; truth values count as one and zero. -/
def number? : Value → Option Number
  | .bool b => some (.finite (if b then 1 else 0))
  | .int n => some (.finite n)
  | .float x => x.number?
  | .decimal d => d.number?
  | _ => none

/-- Whether two values are numbers, and the same one. -/
def sameNumber (v w : Value) : Bool :=
  match v.number?, w.number? with
  | some a, some b => a = b
  | _, _ => false

/-! ### Equality -/

mutual

/-- Equality of values: truth values and numbers of any kind are compared as numbers, times by their
keys, lists and records by their items, nodes by their kind and fields, and bare bases by which
object they are. -/
def sameAs : Value → Value → Bool
  | .null, .null => true
  | .text s, .text t => s == t
  | .text s, .sqlType t => s == t.sqlText
  | .sqlType t, .text s => s == t.sqlText
  | .sqlType t, .sqlType u => t == u
  | .list xs, .list ys => sameItems xs ys
  | .tuple xs, .tuple ys => sameItems xs ys
  | .record xs, .record ys => xs.length == ys.length && sameEntries xs ys
  | .bytes _ a, .bytes _ b => a == b
  | .date d, .date e => d == e
  | .time t, .time u => t.key = u.key
  | .dateTime t, .dateTime u => t.key = u.key
  | .hostType t, .hostType u => t == u
  | .node k xs, .node l ys => k == l && sameFields xs ys
  | .bare k i, .bare l j => k == l && i == j
  | v, w => sameNumber v w
termination_by structural v => v

/-- Equality of lists, item by item. -/
def sameItems : List Value → List Value → Bool
  | [], [] => true
  | v :: vs, w :: ws => sameAs v w && sameItems vs ws
  | _, _ => false
termination_by structural vs => vs

/-- Whether every entry of the first record has an equal one in the second. -/
def sameEntries : List (String × Value) → List (String × Value) → Bool
  | [], _ => true
  | (key, v) :: vs, ws =>
    (match ws.lookup key with
      | some w => sameAs v w
      | none => false) && sameEntries vs ws
termination_by structural vs => vs

/-- Equality of the fields of nodes, one by one in order. -/
def sameFields : List (String × Value) → List (String × Value) → Bool
  | [], [] => true
  | (f, v) :: vs, (g, w) :: ws => f == g && sameAs v w && sameFields vs ws
  | _, _ => false
termination_by structural vs => vs

end

/-! ### Hashing -/

mutual

/-- Whether a value may be a member of a set: no list, record, byte array or signaling NaN is in
it. -/
def isHashable : Value → Bool
  | .list _ => false
  | .record _ => false
  | .bytes .byteArray _ => false
  | .decimal ⟨_, .nan true _⟩ => false
  | .tuple items => allHashable items
  | .node _ fields => allFieldsHashable fields
  | _ => true
termination_by structural v => v

/-- Whether every value of a list may be a member of a set. -/
def allHashable : List Value → Bool
  | [] => true
  | v :: rest => isHashable v && allHashable rest
termination_by structural vs => vs

/-- Whether every field may be a member of a set. -/
def allFieldsHashable : List (String × Value) → Bool
  | [] => true
  | (_, v) :: rest => isHashable v && allFieldsHashable rest
termination_by structural vs => vs

end

/-- One of the parts that the hash of a value is made from. -/
inductive HashPart
  | nothing
  | number (n : Number)
  | notANumber
  | text (s : String)
  | bytes (data : List UInt8)
  | date (d : Date)
  | time (key : Clock ⊕ Int)
  | dateTime (key : (Date × Clock) ⊕ Int)
  | hostType (t : HostType)
  /-- A bare base is hashed by which object it is. -/
  | object (kind : NodeKind) (serial : Nat)
  /-- The items of a list begin. -/
  | opening
  /-- The items of a list end. -/
  | closing
  deriving DecidableEq, Repr

mutual

/-- What the hash of a value is made from: numbers of every kind are hashed as the number they are,
times of day by their hash keys, and a node as the list of its fields.  Lists and records have no
hash. -/
def hashParts : Value → List HashPart
  | .null => [.nothing]
  | .text s => [.text s]
  | .sqlType t => [.text t.sqlText]
  | .list _ => []
  | .tuple items => .opening :: (itemParts items ++ [.closing])
  | .record _ => []
  | .bytes _ data => [.bytes data]
  | .date d => [.date d]
  | .time t => [.time t.hashKey]
  | .dateTime t => [.dateTime t.key]
  | .hostType t => [.hostType t]
  | .node _ fields => .opening :: (fieldParts fields ++ [.closing])
  | .bare kind serial => [.object kind serial]
  | v => match v.number? with
    | some n => [.number n]
    | none => [.notANumber]
termination_by structural v => v

/-- What the hashes of the values of a list are made from. -/
def itemParts : List Value → List HashPart
  | [] => []
  | v :: rest => hashParts v ++ itemParts rest
termination_by structural vs => vs

/-- What the hashes of the fields of a node are made from. -/
def fieldParts : List (String × Value) → List HashPart
  | [] => []
  | (_, v) :: rest => hashParts v ++ fieldParts rest
termination_by structural vs => vs

end

end Value

end SqlDialect
