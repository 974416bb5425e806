import SqlDialect.Text.Blank
import SqlDialect.Text.CaseMap
import SqlDialect.Text.Quoted

/-!
# Formatting strategies

A strategy says how SQL is written: the letter case of keywords, whether identifiers are quoted, and
whether what a target cannot express is left out or refused.  A `Segment` is a piece of SQL before
it is formatted: keywords follow the letter case, identifiers the quoting, and everything else is
verbatim.  `Strategy.ofEnvironment` reads a strategy from variables; `readFlag?` is how they and the
parameters of an address write truth values.
-/

namespace SqlDialect

/-- The letter case of keywords. -/
inductive KeywordCase
  | lower | upper
  deriving DecidableEq, Repr

/-- The name of a letter case. -/
def KeywordCase.name : KeywordCase → String
  | .lower => "lower"
  | .upper => "upper"

/-- How identifiers are quoted. -/
inductive QuoteStyle
  /-- Between double quotes, which are doubled inside. -/
  | double
  /-- Between square brackets. -/
  | bracket
  /-- Between angle brackets. -/
  | angle
  /-- Not at all. -/
  | same
  deriving DecidableEq, Repr

/-- The name of a way to quote. -/
def QuoteStyle.name : QuoteStyle → String
  | .double => "double"
  | .bracket => "bracket"
  | .angle => "angle"
  | .same => "same"

/-- The way to quote of a name. -/
def QuoteStyle.ofName? (s : String) : Option QuoteStyle :=
  [QuoteStyle.double, .bracket, .angle, .same].find? fun q => q.name = s

/-- The characters of a quoted identifier, each double quote written twice. -/
def doubleQuotes : List Char → List Char
  | [] => []
  | c :: rest => if c = '"' then '"' :: '"' :: doubleQuotes rest else c :: doubleQuotes rest

/-- An identifier in quotes. -/
def QuoteStyle.quote : QuoteStyle → String → String
  | .double, name => String.ofList ('"' :: doubleQuotes name.toList ++ ['"'])
  | .bracket, name => "[" ++ name ++ "]"
  | .angle, name => "<" ++ name ++ ">"
  | .same, name => name

/-- How SQL is written. -/
structure Strategy where
  /-- Whether what the target cannot express is left out. -/
  skipUnsupported : Bool := false
  keywordCase : KeywordCase := .lower
  quoteIdentifiers : Bool := false
  deriving DecidableEq, Repr

/-- A piece of SQL before it is formatted. -/
inductive Segment
  | keyword (text : String)
  | identifier (name : String)
  | verbatim (text : String)
  deriving DecidableEq, Repr

namespace Strategy

/-- A keyword in the letter case of the strategy. -/
def formatKeyword (s : Strategy) (text : String) : String :=
  match s.keywordCase with
  | .lower => Text.lower text
  | .upper => Text.upper text

/-- An identifier, quoted if the strategy says so and a way to quote is known. -/
def formatIdentifier (s : Strategy) (quote? : Option QuoteStyle) (name : String) : String :=
  match quote? with
  | some quote => if s.quoteIdentifiers then quote.quote name else name
  | none => name

/-- The text of a piece of SQL. -/
def format (s : Strategy) (quote? : Option QuoteStyle) : Segment → String
  | .keyword text => s.formatKeyword text
  | .identifier name => s.formatIdentifier quote? name
  | .verbatim text => text

/-- The text of pieces of SQL in a row. -/
def formatAll (s : Strategy) (quote? : Option QuoteStyle) (segments : List Segment) : String :=
  String.join (segments.map (s.format quote?))

end Strategy

/-! ### Strategies from variables -/

/-- Variables and their values. -/
abbrev Environment := List (String × String)

/-- A variable that is set, to something. -/
def Environment.value? (env : Environment) (key : String) : Option String :=
  match env.lookup key with
  | some "" => none
  | v => v

/-- Why a variable makes no strategy. -/
inductive ConfigurationError
  | notBoolean (key given : String)
  | notKeywordCase (key given : String)
  deriving DecidableEq, Repr

/-- The text of a refused variable. -/
def ConfigurationError.message : ConfigurationError → String
  | .notBoolean key given =>
    "Invalid boolean value for '" ++ key ++ "': " ++ Text.quoted given
  | .notKeywordCase key given =>
    "Invalid keyword case for '" ++ key ++ "': " ++ Text.quoted given

/-- A word without the white space around it, in lower case. -/
def normalizeWord (s : String) : String :=
  Text.lower (Text.strip s)

/-- The truth value that a word names. -/
def readFlag? (s : String) : Option Bool :=
  let word := normalizeWord s
  if ["1", "true", "yes", "on"].contains word then some true
  else if ["0", "false", "no", "off"].contains word then some false
  else none

/-- The letter case that a word names. -/
def readKeywordCase? (s : String) : Option KeywordCase :=
  let word := normalizeWord s
  if word = "lower" then some .lower else if word = "upper" then some .upper else none

/-- A setting read from a variable; one that is not set keeps its default. -/
def readSetting {α : Type} (env : Environment) (key : String) (default : α)
    (read? : String → Option α) (refuse : String → String → ConfigurationError) :
    Except ConfigurationError α :=
  match env.value? key with
  | none => .ok default
  | some given =>
    match read? given with
    | some a => .ok a
    | none => .error (refuse key given)

/-- The strategy that variables with a common start of their names describe. -/
def Strategy.ofEnvironment (start : String) (env : Environment) :
    Except ConfigurationError Strategy := do
  let skipUnsupported ←
    readSetting env (start ++ "SKIP_UNSUPPORTED") false readFlag? .notBoolean
  let keywordCase ←
    readSetting env (start ++ "KEYWORD_CASE") .lower readKeywordCase? .notKeywordCase
  let quoteIdentifiers ←
    readSetting env (start ++ "QUOTE_IDENTIFIERS") false readFlag? .notBoolean
  return { skipUnsupported, keywordCase, quoteIdentifiers }

end SqlDialect
