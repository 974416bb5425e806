import SqlDialect.Text.Numeral
import SqlDialect.Value.Shown

/-!
# Engine versions

A version is a list of components.  Two versions are compared component by component, a missing one
counting as zero, so that `9.1` comes before `10` and `10` equals `10.0`; `canonical` is the list
that equal versions share.  `Version.parse` reads a version from any value's text: between its dots
stand integer numerals that are not negative.
-/

namespace SqlDialect

/-- A version of an engine. -/
structure Version where
  parts : List Nat
  deriving DecidableEq, Repr

/-- Why an engine or a version is refused. -/
inductive DialectError
  /-- A value whose text is no version. -/
  | invalidVersion (given : Value)
  /-- A value in which there is an integer of too many digits to be written. -/
  | unwritable
  /-- A version that the engine does not know. -/
  | unknownVersion (engine : String) (given : Value) (known : List Version)
  /-- A name of no engine. -/
  | unknownEngine (name : String) (available : List String)
  /-- An engine name that is no text. -/
  | engineNotText
  deriving Repr

namespace Version

/-- Compares component by component, with zeros in place of missing components. -/
def compareParts : List Nat → List Nat → Ordering
  | [], ys => if ys.all (· = 0) then .eq else .lt
  | x :: xs, ys =>
    if x < ys.headD 0 then .lt
    else if ys.headD 0 < x then .gt
    else compareParts xs ys.tail

/-- The order of two versions. -/
def compare (v w : Version) : Ordering :=
  compareParts v.parts w.parts

/-- Whether a version comes before another. -/
def before (v w : Version) : Bool :=
  v.compare w = .lt

/-- Whether two versions are equal as versions. -/
def same (v w : Version) : Bool :=
  v.compare w = .eq

/-- Whether a version comes before another or equals it. -/
def upTo (v w : Version) : Bool :=
  v.before w || v.same w

/-- Whether a version comes after another: neither before it nor equal to it. -/
def after (v w : Version) : Bool :=
  !v.before w && !v.same w

/-- Whether a version does not come before another. -/
def atLeast (v w : Version) : Bool :=
  !v.before w

/-- The components without trailing zeros; the first one stays. -/
def canonical (v : Version) : List Nat :=
  match v.parts with
  | [] => []
  | p :: rest => p :: (rest.reverse.dropWhile (· = 0)).reverse

/-- The components up to a position; a negative one counts from the end. -/
def truncate (v : Version) (length : Int) : Version :=
  if 0 ≤ length then ⟨v.parts.take length.toNat⟩
  else ⟨v.parts.take ((v.parts.length : Int) + length).toNat⟩

/-- The first component. -/
def major? (v : Version) : Option Nat :=
  v.parts.head?

/-- A version with dots between its components. -/
def text (v : Version) : String :=
  String.intercalate "." (v.parts.map Nat.repr)

/-- Reads one component. -/
def readPart? (s : List Char) : Option Nat :=
  match Text.readInteger s with
  | .ok (.ofNat n) => some n
  | _ => none

/-- Reads the components of a version from a text. -/
def readParts? (s : List Char) : Option (List Nat) :=
  ((Text.trimBy Text.isSpace s).splitOn '.').mapM readPart?

/-- Reads a version from the text of a value. -/
def parse (v : Value) : Except DialectError Version :=
  match v.toText? with
  | none => .error .unwritable
  | some text =>
    match readParts? text.toList with
    | some parts => .ok ⟨parts⟩
    | none => .error (.invalidVersion v)

end Version

/-- The text of a refusal, unless the value that is refused cannot be written. -/
def DialectError.message? : DialectError → Option String
  | .invalidVersion given => given.shown?.map ("Invalid version string " ++ ·)
  | .unwritable => some Text.unwritableMessage
  | .unknownVersion engine given known =>
    given.toText?.map fun text => "Unknown " ++ engine ++ " version " ++ text ++
      "; known versions: " ++ String.intercalate ", " (known.map Version.text)
  | .unknownEngine name available =>
    some ("Unknown engine " ++ Text.quoted name ++ "; available engines: " ++
      String.intercalate ", " available)
  | .engineNotText => some "the name of an engine is a text"

end SqlDialect
