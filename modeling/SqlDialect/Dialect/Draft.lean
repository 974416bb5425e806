import SqlDialect.Dialect.Layer
import SqlDialect.Format.Strategy
import SqlDialect.Value.Shown

/-!
# Drafts

A draft is what rendering a node amounts to, before anything is formatted or refused: a list of
steps, each of which emits a piece of SQL, leaves out what the target cannot express, rejects a
malformed node, or announces a destructive statement.  Drafts are joined by appending.

`Draft.read` follows a draft in one of two modes.  Strict reading stops at the first omission;
lenient reading records it and goes on; both stop at the first rejection.  So the mode, the letter
case and the quoting never reach the rules that write drafts.
-/

namespace SqlDialect

/-- What is rendered: a node, or by mistake some other value. -/
inductive Subject
  | node (n : Node)
  | plain (v : Value)
  deriving Repr

/-- The name of the type of a subject. -/
def Subject.typeName : Subject → String
  | .node n => n.kind.name
  | .plain v => v.typeName

/-! ### Malformed nodes -/

/-- The lists of names that must hold a name. -/
inductive NameList
  | droppedTables | primaryKeyColumns | uniqueColumns | foreignKeyColumns | referencedColumns
  | actionColumns
  deriving DecidableEq, Repr

/-- The text that refuses an empty list of names. -/
def NameList.emptyMessage : NameList → String
  | .droppedTables => "At least one table must be specified in DROP TABLE"
  | .primaryKeyColumns => "At least one column must be specified in PRIMARY KEY"
  | .uniqueColumns => "At least one column must be specified in UNIQUE"
  | .foreignKeyColumns => "At least one column must be specified in FOREIGN KEY"
  | .referencedColumns => "At least one foreign column must be specified in FOREIGN KEY"
  | .actionColumns => "Referential action columns must not be empty"

/-- Why a node is malformed, whatever the target. -/
inductive DefectCause
  /-- A list of names is empty. -/
  | noName (names : NameList)
  /-- A name is no text, or a blank one. -/
  | blankName (given : Value)
  /-- A node of this type cannot stand at the position. -/
  | misplaced (position : Position)
  deriving Repr

/-- A malformed node. -/
structure Defect where
  construct : Subject
  cause : DefectCause
  deriving Repr

/-- The text of a defect, unless the name that is refused cannot be written. -/
def Defect.message? (d : Defect) : Option String :=
  match d.cause with
  | .noName names => some names.emptyMessage
  | .blankName given =>
    given.shown?.map fun shown => "Blank identifier " ++ shown ++ " in " ++ d.construct.typeName
  | .misplaced position => some (misplacedMessage d.construct.typeName position)

/-! ### What a target cannot express -/

/-- What a target lacks: a feature, or any form of a construct. -/
inductive Gap
  | feature (f : Feature)
  | form (slot : Slot)
  deriving DecidableEq, Repr

/-- What messages call a gap. -/
def Gap.description : Gap → String
  | .feature f => f.description
  | .form slot => slot.description

/-- A part of a tree that the target cannot express. -/
structure Omission where
  construct : Node
  gap : Gap
  engine : String
  version : Version
  /-- The first later version that can express it. -/
  since : Option Version
  deriving Repr

/-- What a caller is told about an unsupported part. -/
structure Unsupported where
  message : String
  construct : Option Node := none
  feature : Option String := none
  engine : Option String := none
  version : Option String := none
  since : Option String := none
  deriving Repr

namespace Unsupported

/-- A missing text in a sentence. -/
def orNone (s : Option String) : String :=
  s.getD "None"

/-- Whether a text is there and not empty. -/
def isGiven (s : Option String) : Bool :=
  s.getD "" != ""

/-- One sentence on what is missing and where it is available. -/
def describe (u : Unsupported) : String :=
  let target := if isGiven u.engine then orNone u.engine ++ " " ++ orNone u.version
    else "target dialect"
  if isGiven u.since then
    orNone u.feature ++ " requires " ++ orNone u.engine ++ " " ++ orNone u.since ++
      " or later (target: " ++ target ++ ")"
  else orNone u.feature ++ " is not supported by " ++ target

end Unsupported

namespace Omission

/-- The text of an omission. -/
def message (o : Omission) : String :=
  o.gap.description ++ " is not supported by " ++ o.engine ++ " " ++ o.version.text

/-- What a caller is told about an omission. -/
def notice (o : Omission) : Unsupported where
  message := o.message
  construct := some o.construct
  feature := some o.gap.description
  engine := some o.engine
  version := some o.version.text
  since := o.since.map Version.text

end Omission

/-! ### Drafts -/

/-- One step of a draft. -/
inductive Step
  /-- Emits a piece of SQL. -/
  | emit (s : Segment)
  /-- Emits a default that is no text, so that the pieces cannot be joined. -/
  | emitValue (v : Value)
  /-- Leaves out what the target cannot express. -/
  | leaveOut (o : Omission)
  /-- Rejects a malformed node. -/
  | reject (d : Defect)
  /-- Announces that tables will be dropped. -/
  | announceDrop (tables : List String)
  /-- Joins pieces that cannot be joined. -/
  | failJoin
  deriving Repr

/-- The steps that render a node. -/
abbrev Draft := List Step

namespace Draft

/-- A keyword. -/
def keyword (text : String) : Draft :=
  [.emit (.keyword text)]

/-- An identifier. -/
def identifier (name : String) : Draft :=
  [.emit (.identifier name)]

/-- A text as it is. -/
def verbatim (text : String) : Draft :=
  [.emit (.verbatim text)]

/-- What separates the items of a list. -/
def comma : Draft :=
  verbatim ", "

/-- Identifiers with commas between them. -/
def names : List String → Draft
  | [] => []
  | [name] => identifier name
  | name :: rest => identifier name ++ comma ++ names rest

/-- Whether a step adds nothing to the text. -/
def isSilent : Step → Bool
  | .emit (.keyword text) => text = ""
  | .emit (.identifier name) => name = ""
  | .emit (.verbatim text) => text = ""
  | .emitValue _ => false
  | _ => true

/-- Whether a draft has no text. -/
def isEmptyText (d : Draft) : Bool :=
  d.all isSilent

/-- Whether a draft emits something that is no text. -/
def emitsValue (d : Draft) : Bool :=
  d.any fun
    | .emitValue _ => true
    | _ => false

/-- A draft whose text is needed at once: joining it fails if something in it is no text. -/
def fragment (d : Draft) : Draft :=
  if emitsValue d then d ++ [.failJoin] else d

/-- Fragments with commas between those that have a text; `started` says whether one came before. -/
def commaSeparated (started : Bool) : List Draft → Draft
  | [] => []
  | d :: rest =>
    if isEmptyText d then d ++ commaSeparated started rest
    else (if started then comma else []) ++ d ++ commaSeparated true rest

/-! ### Reading a draft -/

/-- How reading a draft ended. -/
inductive End
  /-- At the end of the draft. -/
  | complete
  /-- At an omission, in strict mode. -/
  | unsupported (o : Omission)
  /-- At a malformed node. -/
  | malformed (d : Defect)
  /-- At pieces that cannot be joined. -/
  | unjoinable
  deriving Repr

/-- What reading notes down for the log. -/
inductive Note
  | omitted (o : Omission)
  | dropping (tables : List String)
  deriving Repr

/-- What reading a draft gives. -/
structure Reading where
  /-- The pieces of SQL, in order. -/
  segments : List Segment := []
  /-- Whether all the pieces are texts. -/
  joinable : Bool := true
  /-- What was left out, in order. -/
  omitted : List Omission := []
  /-- What the log is told, in order. -/
  notes : List Note := []
  ending : End := .complete
  deriving Repr

/-- Follows a draft to its end or to the first step that stops it. -/
def read (lenient : Bool) : Draft → Reading
  | [] => {}
  | .emit s :: rest =>
    let r := read lenient rest
    { r with segments := s :: r.segments }
  | .emitValue _ :: rest => { read lenient rest with joinable := false }
  | .leaveOut o :: rest =>
    if lenient then
      let r := read lenient rest
      { r with omitted := o :: r.omitted, notes := .omitted o :: r.notes }
    else { ending := .unsupported o }
  | .reject d :: _ => { ending := .malformed d }
  | .announceDrop tables :: rest =>
    let r := read lenient rest
    { r with notes := .dropping tables :: r.notes }
  | .failJoin :: _ => { ending := .unjoinable }

end Draft

end SqlDialect
