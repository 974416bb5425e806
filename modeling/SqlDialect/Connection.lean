import SqlDialect.Dsn
import SqlDialect.Format.Strategy
import SqlDialect.Number.Literal
import SqlDialect.Value.Equality

/-!
# Connection configurations

A `ConnectionConfig` says which database to open and how.  It is made from settings alone
(`ofSettings`), from a data source name (`ofDsn`) or from a variable that holds one
(`ofEnvironment`).  The query of a data source name may set `autocommit` and `timeout`; its other
settings are options of the driver.  Settings given beside the name win over its query.  Settings
keep the values they are given; `autocommit` of a data source name becomes a truth value, and its
options a record.
-/

namespace SqlDialect

/-- Settings by name. -/
abbrev Settings := List (String × Value)

/-- What a configuration knows of its address: the parts that were read from it, or whatever was
given in their place. -/
inductive AddressParts
  | read (dsn : Dsn)
  | given (v : Value)
  deriving Repr

/-- Which database to open and how. -/
structure ConnectionConfig where
  url : String
  autocommit : Value := .bool false
  timeout : Value := .null
  options : Value := .null
  parts : AddressParts := .given .null
  source : Value := .null
  deriving Repr

/-- Why settings make no configuration. -/
inductive SettingsError
  /-- The data source name cannot be read. -/
  | address (cause : DsnError)
  /-- A setting of the query that is no truth value. -/
  | notBoolean (name given : String)
  /-- A setting of the query that is no number. -/
  | notNumber (name given : String)
  /-- A variable that holds no integer. -/
  | notInteger (name given : String)
  /-- A variable that is not set, or to nothing. -/
  | variableNotSet (name : String)
  /-- A setting that there is not, or that is given twice. -/
  | unknownSetting (name : String)
  /-- Driver options that are no record. -/
  | optionsNotRecord
  /-- An item among the driver options that is no pair. -/
  | optionNotPair (index length : Nat)
  /-- Something that is no data source name in place of one. -/
  | noAddressParts
  /-- The name of an option or of a source holds an integer of too many digits to be written. -/
  | unwritable
  deriving DecidableEq, Repr

/-- The text of refused settings. -/
def SettingsError.message : SettingsError → String
  | .address cause => cause.message
  | .notBoolean name given =>
    "Invalid boolean value for '" ++ name ++ "': " ++ Text.quoted given
  | .notNumber name given =>
    "Invalid float value for '" ++ name ++ "': " ++ Text.quoted given
  | .notInteger name given =>
    "Invalid integer value for '" ++ name ++ "': " ++ Text.quoted given
  | .variableNotSet name => "Environment variable " ++ name ++ " is not set"
  | .unknownSetting name => "unexpected setting " ++ Text.quoted name
  | .optionsNotRecord => "options are no record"
  | .optionNotPair index length =>
    "dictionary update sequence element #" ++ Nat.repr index ++ " has length " ++
      Nat.repr length ++ "; 2 is required"
  | .noAddressParts => "the address has no parts"
  | .unwritable => Text.unwritableMessage

namespace ConnectionConfig

/-- The settings of a configuration besides its address. -/
def settingNames : List String :=
  ["autocommit", "timeout", "options", "dsn", "source"]

/-- Refuses settings that there are not. -/
def checkSettings (given : Settings) : Except SettingsError Unit :=
  match given.find? fun s => !settingNames.contains s.1 with
  | some s => .error (.unknownSetting s.1)
  | none => .ok ()

/-- Refuses a setting. -/
def forbid (name : String) (given : Settings) : Except SettingsError Unit :=
  if given.any fun s => s.1 = name then .error (.unknownSetting name) else .ok ()

/-- The configuration of an address with settings as they are given. -/
def ofSettings (url : String) (given : Settings) : Except SettingsError ConnectionConfig := do
  checkSettings given
  return {
    url
    autocommit := (given.lookup "autocommit").getD (.bool false)
    timeout := (given.lookup "timeout").getD .null
    options := (given.lookup "options").getD .null
    parts := .given ((given.lookup "dsn").getD .null)
    source := (given.lookup "source").getD .null }

/-- The truth value that a query sets `autocommit` to. -/
def queryAutocommit (query : List (String × String)) : Except SettingsError (Option Bool) :=
  match query.lookup "autocommit" with
  | none => .ok none
  | some given =>
    match readFlag? given with
    | some b => .ok (some b)
    | none => .error (.notBoolean "autocommit" (normalizeWord given))

/-- The number that a query sets `timeout` to. -/
def queryTimeout (query : List (String × String)) : Except SettingsError (Option Binary64) :=
  match query.lookup "timeout" with
  | none => .ok none
  | some given =>
    match Binary64.read? given.toList with
    | some x => .ok (some x)
    | none => .error (.notNumber "timeout" given)

/-- The settings of a query that are options of the driver. -/
def queryOptions (query : List (String × String)) : Settings :=
  (query.filter fun s => s.1 ≠ "autocommit" && s.1 ≠ "timeout").map fun s => (s.1, .text s.2)

/-- Sets an entry of a record. -/
def setEntry (entries : Settings) (e : String × Value) : Settings :=
  if entries.any fun f => f.1 = e.1 then entries.map fun f => if f.1 = e.1 then e else f
  else entries ++ [e]

/-- The entry that an item of a list stands for: the first of two parts is its name. -/
def readEntry (index : Nat) (item : Value) : Except SettingsError (String × Value) :=
  match item.items? with
  | some [name, v] =>
    if name.isHashable then
      match name.toText? with
      | some text => .ok (text, v)
      | none => .error .unwritable
    else .error .optionsNotRecord
  | some parts => .error (.optionNotPair index parts.length)
  | none => .error .optionsNotRecord

/-- The entries of a record, which may be written as a list of pairs; a false value has none. -/
def recordEntries (v : Value) : Except SettingsError Settings :=
  if !v.isTrue then .ok []
  else
    match v with
    | .record entries => .ok entries
    | v =>
      match v.items? with
      | none => .error .optionsNotRecord
      | some items => do
        let entries ← (items.mapIdx readEntry).mapM id
        return entries.foldl setEntry []

/-- The configuration of an address that was read, with the settings given beside it. -/
def ofAddress (url : String) (given : Settings) (dsn : Dsn) :
    Except SettingsError ConnectionConfig := do
  let autocommit ← queryAutocommit dsn.query
  let timeout ← queryTimeout dsn.query
  let overrides ← recordEntries ((given.lookup "options").getD .null)
  checkSettings given
  let options := overrides.foldl setEntry (queryOptions dsn.query)
  return {
    url
    autocommit :=
      .bool (((given.lookup "autocommit").map Value.isTrue).getD (autocommit.getD false))
    timeout := (given.lookup "timeout").getD ((timeout.map Value.float).getD .null)
    options := if options.isEmpty then .null else .record options
    parts := .read dsn
    source := (given.lookup "source").getD .null }

/-- The configuration of a data source name with the settings given beside it. -/
def ofDsn (text : String) (given : Settings) : Except SettingsError ConnectionConfig := do
  forbid "dsn" given
  ofAddress text given (← (Dsn.read text).mapError .address)

/-- The configuration of the data source name in a variable, which becomes its source. -/
def ofEnvironment (name : String) (env : Environment) (given : Settings) :
    Except SettingsError ConnectionConfig := do
  forbid "env_var" given
  match env.value? name with
  | none => throw (.variableNotSet name)
  | some text =>
    forbid "source" given
    ofDsn text (given ++ [("source", .text name)])

/-- Whether a configuration knows anything of its address but its text. -/
def hasParts (c : ConnectionConfig) : Bool :=
  match c.parts with
  | .read _ => true
  | .given v => !v.isNull

/-- The address as it may be shown: a data source name with its password masked. -/
def shownUrl (c : ConnectionConfig) : Except SettingsError String :=
  match c.parts with
  | .read dsn => .ok dsn.redacted
  | .given v => if v.isTrue then .error .noAddressParts else .ok c.url

/-- The address as it may be shown, after its source if there is one. -/
def label (c : ConnectionConfig) : Except SettingsError String :=
  c.shownUrl.bind fun url =>
    if c.source.isTrue then
      match c.source.toText? with
      | some source => .ok (source ++ " (" ++ url ++ ")")
      | none => .error .unwritable
    else .ok url

end ConnectionConfig

/-! ### The threshold of slow statements -/

/-- The variable that holds the threshold. -/
def slowVariable : String := "MAKERU_SLOW_QUERY_MS"

/-- From how many milliseconds on a statement is slow: as given, as the variable says, or a
default. -/
def slowThreshold (default given : Value) (env : Environment) : Except SettingsError Value :=
  if !given.isNull then .ok given
  else
    match env.value? slowVariable with
    | none => .ok default
    | some text =>
      match Text.readInteger text.toList with
      | .ok ms => .ok (.int ms)
      | .error _ => .error (.notInteger slowVariable text)

end SqlDialect
