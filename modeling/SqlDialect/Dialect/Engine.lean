import SqlDialect.Dialect.Layer
import SqlDialect.Format.Strategy
import SqlDialect.Platform

/-!
# Engines

An engine is a chain of layers, from the common forms to those of its newest versions, with the
versions it knows and the way it quotes identifiers.  `Engine.release?` cuts a version to the
components that tell the engine's releases apart and accepts the known ones; `Engine.normalize` does
so with a version that is read from a value.  A `Target` is an engine at such a version:
`Target.form?` is the newest applicable form of a slot, and `Target.since?` the first later version
whose layer has a property.
-/

namespace SqlDialect

/-- A database engine. -/
structure Engine where
  name : String
  layers : List Layer
  /-- The known versions. -/
  versions : List Version
  quote : QuoteStyle
  /-- How many components of a version tell the releases apart. -/
  precision : Version → Int

namespace Engine

/-- The known version that a version is a release of, if there is one. -/
def release? (e : Engine) (v : Version) : Option Version :=
  let cut := v.truncate (e.precision v)
  if e.versions.any cut.same then some cut else none

/-- The known version that a value names. -/
def normalize (e : Engine) (given : Value) : Except DialectError Version :=
  match Version.parse given with
  | .error cause => .error cause
  | .ok v =>
    match e.release? v with
    | some known => .ok known
    | none => .error (.unknownVersion e.name given e.versions)

/-- The layers that apply to a version, in order of declaration. -/
def layersFor (e : Engine) (v : Version) : List Layer :=
  e.layers.filter (·.appliesTo v)

/-- The first layer version after a version whose layer has a property. -/
def since? (e : Engine) (v : Version) (p : Layer → Bool) : Option Version :=
  e.layers.findSome? fun l =>
    match l.version with
    | some w => if v.before w && p l then some w else none
    | none => none

/-- PostgreSQL: releases before 10 are told apart by two components, later ones by one. -/
def postgresql : Engine where
  name := Platform.postgresql
  layers := [.standard, .postgresql91, .postgresql15]
  versions := Platform.postgresqlVersions
  quote := .double
  precision v := if v.major?.getD 0 < 10 then 2 else 1

/-- SQLite: releases are told apart by one component. -/
def sqlite : Engine where
  name := Platform.sqlite
  layers := [.standard, .sqlite3]
  versions := Platform.sqliteVersions
  quote := .double
  precision _ := 1

/-- The built-in engines. -/
def builtin : List Engine :=
  [postgresql, sqlite]

/-- Other names of the built-in engines. -/
def aliases : List (String × String) :=
  [("postgres", Platform.postgresql), ("pg", Platform.postgresql), ("sqlite3", Platform.sqlite)]

/-- The names of the built-in engines, sorted. -/
def available : List String :=
  (builtin.map (·.name)).mergeSort fun a b => a ≤ b

/-- The built-in engine of a name, in any letter case and with any white space around it. -/
def find (given : Value) : Except DialectError Engine :=
  match given.text? with
  | none => .error .engineNotText
  | some name =>
    let word := normalizeWord name
    let key := (aliases.lookup word).getD word
    match builtin.find? (·.name = key) with
    | some e => .ok e
    | none => .error (.unknownEngine name available)

/-- How messages show an engine. -/
def shown (e : Engine) : String :=
  "Engine(" ++ Text.quoted e.name ++ ")"

end Engine

/-- An engine at one of its versions. -/
structure Target where
  engine : Engine
  version : Version

namespace Target

/-- The target that a value names as a version of an engine. -/
def of (e : Engine) (version : Value) : Except DialectError Target :=
  match e.normalize version with
  | .ok v => .ok ⟨e, v⟩
  | .error cause => .error cause

/-- The target that a name and a value name. -/
def find (engine version : Value) : Except DialectError Target :=
  match Engine.find engine with
  | .ok e => of e version
  | .error cause => .error cause

/-- The layers that apply, the most specific first. -/
def layers (t : Target) : List Layer :=
  (t.engine.layersFor t.version).reverse

/-- The form in which a target renders a slot: that of the most specific layer that has one. -/
def form? (t : Target) (slot : Slot) : Option (Form slot) :=
  t.layers.findSome? (·.find? slot)

/-- The first later version whose layer has a property. -/
def since? (t : Target) (p : Layer → Bool) : Option Version :=
  t.engine.since? t.version p

end Target

end SqlDialect
