import SqlDialect.Node.Kind
import SqlDialect.Platform

/-!
# Declared support

The registry documents which platforms accept a field of a construct.  Renderers do not read it.
A field without any entry counts as accepted everywhere; otherwise a version is accepted when it is,
cut to the length of an entry's version, that version.  `Registry.matrix` lists the declarations,
one row for each engine of each field.
-/

namespace SqlDialect

/-- One platform that accepts a field. -/
structure PlatformSupport where
  platform : Platform
  since : String
  note : String
  deriving DecidableEq, Repr

/-- The declarations, by construct and field, in the order in which the fields were declared. -/
structure Registry where
  entries : List ((NodeKind × String) × List PlatformSupport)
  deriving Repr

namespace Registry

/-- The declarations of a field. -/
def find (r : Registry) (kind : NodeKind) (field : String) : List PlatformSupport :=
  (r.entries.lookup (kind, field)).getD []

/-- Adds declarations to those of a field. -/
def add (r : Registry) (kind : NodeKind) (field : String) (supports : List PlatformSupport) :
    Registry :=
  if r.entries.any (·.1 = (kind, field)) then
    ⟨r.entries.map fun (key, old) => if key = (kind, field) then (key, old ++ supports)
      else (key, old)⟩
  else ⟨r.entries ++ [((kind, field), supports)]⟩

/-- Declares that some platforms accept a field of a construct; a construct without that field
refuses. -/
def declare? (r : Registry) (kind : NodeKind) (field : String) (platforms : List Platform)
    (since note : String) : Option Registry :=
  if kind.fieldNames.contains field then
    some (r.add kind field (platforms.map fun p => ⟨p, since, note⟩))
  else none

/-- The text of a refused declaration. -/
def noSuchField (kind : NodeKind) (field : String) : String :=
  kind.name ++ " has no field '" ++ field ++ "'"

/-- Whether an entry covers an engine at a version. -/
def covers (s : PlatformSupport) (engine : String) (target : Version) : Bool :=
  s.platform.engine = engine &&
    s.platform.version.same (target.truncate s.platform.version.parts.length)

/-- Whether a field is declared for an engine at a version.  The version is read only when there are
declarations to compare it with. -/
def isSupported (r : Registry) (kind : NodeKind) (field : String) (engine : String)
    (version : Value) : Except DialectError Bool :=
  match r.find kind field with
  | [] => .ok true
  | supports =>
    match Version.parse version with
    | .ok target => .ok (supports.any fun s => covers s engine target)
    | .error e => .error e

/-- The declarations of the built-in constructs. -/
def builtin : Registry :=
  let on (platforms : List Platform) (since note : String) : List PlatformSupport :=
    platforms.map fun p => ⟨p, since, note⟩
  ⟨[((.referentialAction, "columns"),
      on Platform.postgresqlPlatforms "9.1" "column subset only for SET NULL and SET DEFAULT"),
    ((.unique, "nulls_distinct"),
      on (Platform.since Platform.postgresqlPlatforms ⟨[15]⟩) "15"
        "nulls_distinct=False renders NULLS NOT DISTINCT"),
    ((.createTable, "if_not_exists"), on Platform.all "" ""),
    ((.dropTable, "table_names"),
      on Platform.postgresqlPlatforms ""
        "more than one table per statement; a single table is accepted everywhere"),
    ((.dropTable, "if_exists"), on Platform.sqlitePlatforms "" "")]⟩

/-! ### The support matrix -/

/-- One row of the matrix. -/
structure Row where
  construct : String
  field : String
  engine : String
  versions : List Version
  since : String
  note : String
  deriving Repr

/-- The engines of some declarations, in order of their first mention. -/
def engines (supports : List PlatformSupport) : List String :=
  (supports.map (·.platform.engine)).foldl
    (fun seen e => if seen.contains e then seen else seen ++ [e]) []

/-- The row of one engine of a field. -/
def row (kind : NodeKind) (field : String) (supports : List PlatformSupport) (engine : String) :
    Row :=
  let mine := supports.filter (·.platform.engine = engine)
  let versions := (mine.map (·.platform.version)).mergeSort fun v w => !w.before v
  let first := mine.head?
  let since := (first.map (·.since)).getD ""
  { construct := kind.name, field, engine, versions
    since := if since = "" then ((versions.head?).map Version.text).getD "" else since
    note := (first.map (·.note)).getD "" }

/-- The declarations sorted by construct and field. -/
def sorted (r : Registry) : List ((NodeKind × String) × List PlatformSupport) :=
  r.entries.mergeSort fun a b =>
    a.1.1.name < b.1.1.name || (a.1.1.name = b.1.1.name && a.1.2 ≤ b.1.2)

/-- The support matrix. -/
def matrix (r : Registry) : List Row :=
  r.sorted.flatMap fun ((kind, field), supports) =>
    (engines supports).map (row kind field supports)

/-- The support matrix as a table of text lines. -/
def formatMatrix (r : Registry) : String :=
  String.intercalate "\n"
    (["| Construct | Field | Engine | Since | Note |", "|---|---|---|---|---|"] ++
      r.matrix.map fun m =>
        "| " ++ String.intercalate " | " [m.construct, m.field, m.engine, m.since, m.note] ++ " |")

end Registry

end SqlDialect
