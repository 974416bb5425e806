import SqlDialect.Dialect.Construct
import SqlDialect.Log

/-!
# Rendering

A visitor renders nodes for a target in a strategy: it reads the draft of the node in the mode of
the strategy and formats the pieces.  A rendering is a SQL text with the list of what was left out,
or a failure: a malformed node, or, in strict mode, a part that the target cannot express.  Every
rendering leaves its records in the log.

Two kinds of nodes have no result at all: one whose column default is no text, and one with a name
that is refused although its refusal cannot be written.
-/

namespace SqlDialect

/-- What rendering a node comes to. -/
inductive Outcome
  | rendered (sql : String) (omitted : List Omission)
  | malformed (d : Defect)
  | unsupported (o : Omission)
  /-- A column default that is no text could not be joined with the rest. -/
  | unjoinable
  /-- A name that is refused holds an integer of too many digits to be written. -/
  | unwritable
  deriving Repr

/-- What rendering a malformed node comes to. -/
def Outcome.ofDefect (d : Defect) : Outcome :=
  if d.message?.isSome then .malformed d else .unwritable

/-- An outcome and the log records on the way to it. -/
structure Rendering where
  outcome : Outcome
  log : List LogRecord
  deriving Repr

/-- Renders nodes for a target in a strategy. -/
structure Visitor where
  target : Target
  strategy : Strategy

namespace Visitor

/-- The visitor of an engine at a version. -/
def find (engine version : Value) (strategy : Strategy) : Except DialectError Visitor :=
  match Target.find engine version with
  | .ok target => .ok ⟨target, strategy⟩
  | .error cause => .error cause

/-- An engine and a version as messages name the target. -/
def targetText (v : Visitor) : String :=
  v.target.engine.name ++ " " ++ v.target.version.text

/-- How messages show a visitor. -/
def shown (v : Visitor) : String :=
  "DialectVisitor(" ++ Text.quoted v.target.engine.name ++ ", " ++
    Text.quoted v.target.version.text ++ ")"

/-- A record of the renderer. -/
def record (level : LogLevel) (message : String) : LogRecord :=
  { level, logger := loggerName "dialects", message }

/-- The record of a note. -/
def noteRecord : Draft.Note → LogRecord
  | .omitted o =>
    record .warning
      ("Omitting unsupported fragment: " ++ o.gap.description ++ " (" ++ o.engine ++ " " ++
        o.version.text ++ ")")
  | .dropping tables =>
    { level := .warning, logger := loggerName "dialects.standard"
      message := "DROP TABLE rendered for " ++ String.intercalate ", " tables ++
        "; confirm destructive migration before applying." }

/-- The record of a rendering that came to an end. -/
def successRecord (v : Visitor) (s : Subject) : LogRecord :=
  record .debug ("Rendered " ++ s.typeName ++ " for " ++ v.targetText)

/-- The record of a rendering that failed. -/
def failureRecord (v : Visitor) (s : Subject) (message : String) : LogRecord :=
  record .debug
    ("Render of " ++ s.typeName ++ " for " ++ v.targetText ++ " failed: " ++ message)

/-- The outcome of a draft that was read, and the last records. -/
def conclude (v : Visitor) (s : Subject) (r : Draft.Reading) : Outcome × List LogRecord :=
  match r.ending with
  | .complete =>
    (if r.joinable then
        .rendered (v.strategy.formatAll (some v.target.engine.quote) r.segments) r.omitted
      else .unjoinable,
      [v.successRecord s])
  | .malformed d => (.ofDefect d, (d.message?.map (v.failureRecord s)).toList)
  | .unsupported o => (.unsupported o, [v.failureRecord s o.message])
  | .unjoinable => (.unjoinable, [])

/-- Renders a subject at a position. -/
def renderSubject (v : Visitor) (s : Subject) (position : Position) : Rendering :=
  let r := (v.target.draftSubject s position).read v.strategy.skipUnsupported
  let (outcome, last) := v.conclude s r
  { outcome, log := r.notes.map noteRecord ++ last }

/-- Renders a node at a position. -/
def render (v : Visitor) (n : Node) (position : Position) : Rendering :=
  v.renderSubject (.node n) position

/-- Renders subjects in turn, up to the first that has no result. -/
def renderAll (v : Visitor) : List (Subject × Position) → List Rendering
  | [] => []
  | (s, position) :: rest =>
    let r := v.renderSubject s position
    match r.outcome with
    | .unjoinable | .unwritable => [r]
    | _ => r :: renderAll v rest

end Visitor

end SqlDialect
