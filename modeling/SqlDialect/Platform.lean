import SqlDialect.Version

/-!
# Platforms

A platform is an engine at one of its known versions.  The known ones are the major releases of
PostgreSQL from 9.1 on and SQLite 3.
-/

namespace SqlDialect

/-- An engine at a version. -/
structure Platform where
  engine : String
  version : Version
  deriving DecidableEq, Repr

namespace Platform

/-- The name of the PostgreSQL engine. -/
def postgresql : String := "postgresql"

/-- The name of the SQLite engine. -/
def sqlite : String := "sqlite"

/-- A platform as messages name it. -/
def text (p : Platform) : String :=
  p.engine ++ " " ++ p.version.text

/-- A platform whose version is read from a value. -/
def of (engine : String) (version : Value) : Except DialectError Platform :=
  match Version.parse version with
  | .ok v => .ok ⟨engine, v⟩
  | .error e => .error e

/-- The known PostgreSQL versions. -/
def postgresqlVersions : List Version :=
  [⟨[9, 1]⟩, ⟨[9, 2]⟩, ⟨[9, 3]⟩, ⟨[9, 4]⟩, ⟨[9, 5]⟩, ⟨[9, 6]⟩, ⟨[10]⟩, ⟨[11]⟩, ⟨[12]⟩, ⟨[13]⟩, ⟨[14]⟩,
    ⟨[15]⟩, ⟨[16]⟩, ⟨[17]⟩]

/-- The known SQLite versions. -/
def sqliteVersions : List Version :=
  [⟨[3]⟩]

/-- The known PostgreSQL platforms. -/
def postgresqlPlatforms : List Platform :=
  postgresqlVersions.map fun v => ⟨postgresql, v⟩

/-- The known SQLite platforms. -/
def sqlitePlatforms : List Platform :=
  sqliteVersions.map fun v => ⟨sqlite, v⟩

/-- Every known platform. -/
def all : List Platform :=
  postgresqlPlatforms ++ sqlitePlatforms

/-- The platforms whose version is at least a given one. -/
def since (platforms : List Platform) (floor : Version) : List Platform :=
  platforms.filter fun p => floor.upTo p.version

end Platform

end SqlDialect
