import SqlDialect.Example.Books
import SqlDialect.Render

/-!
# Which targets can hold the books

The schema is rendered strictly for an old and a new PostgreSQL and for SQLite.  The report says for
each of them whether the schema can be expressed, or why not; the listing shows the statements.
-/

namespace SqlDialect

/-- The text of a rendering that succeeded. -/
def Outcome.sql? : Outcome → Option String
  | .rendered sql _ => some sql
  | _ => none

/-- Why a rendering failed. -/
def Outcome.failure? : Outcome → Option String
  | .rendered _ _ => none
  | .malformed d => d.message?
  | .unsupported o => some o.message
  | .unjoinable => some "a default is no text"
  | .unwritable => some Text.unwritableMessage

/-- Why a rendering failed, and which version it takes. -/
def Outcome.explanation? : Outcome → Option String
  | .unsupported o => some o.notice.describe
  | o => o.failure?

namespace Books

/-- The targets of the report. -/
def targets : List Target :=
  [⟨.postgresql, ⟨[9, 1]⟩⟩, ⟨.postgresql, ⟨[15]⟩⟩, ⟨.sqlite, ⟨[3]⟩⟩]

/-- Renders every statement of the schema. -/
def renderSchema (v : Visitor) : List Rendering :=
  schema.map fun n => v.render n .statement

/-- The renderings of the schema for a target, strictly. -/
def strictRenderings (t : Target) : List Rendering :=
  renderSchema ⟨t, {}⟩

/-- A target as the report names it. -/
def targetName (t : Target) : String :=
  t.engine.name ++ " " ++ t.version.text

/-- For each target, that the schema can be expressed, or why not. -/
def report : List (String × String) :=
  targets.map fun t =>
    (targetName t,
      ((strictRenderings t).findSome? fun r => r.outcome.explanation?).getD "ok")

/-- The records that the report leaves. -/
def reportLog : List LogRecord :=
  targets.flatMap fun t => (strictRenderings t).flatMap Rendering.log

/-- The statements for a target under its name, or why there are none. -/
def listingFor (t : Target) : List String :=
  match (strictRenderings t).findSome? fun r => r.outcome.failure? with
  | some why => ["-- " ++ targetName t ++ ": " ++ why]
  | none =>
    (strictRenderings t).filterMap fun r =>
      r.outcome.sql?.map fun sql => "-- " ++ targetName t ++ "\n" ++ sql ++ ";"

/-- The statements for every target, each entry on lines of its own. -/
def listing : String :=
  String.join ((targets.flatMap listingFor).map fun entry => entry ++ "\n")

end Books

end SqlDialect
