import SqlDialect.Format.Strategy
import SqlDialect.Value.Shown

/-!
# Writers

A writer collects pieces of SQL one after another and shows their text.  What is written is a value:
a text, or for a list of names or fragments its items.  Brackets turn any value into a text; what is
no text otherwise is a fault.
-/

namespace SqlDialect

/-- What is written by one call. -/
inductive WriterCall
  /-- A text as it is. -/
  | raw
  /-- A keyword. -/
  | keyword
  /-- An identifier. -/
  | identifier
  /-- Identifiers, separated by commas. -/
  | delimited
  /-- The fragments that are not empty, separated by commas. -/
  | fragments
  deriving DecidableEq, Repr

namespace WriterCall

/-- Every call. -/
def all : List WriterCall :=
  [.raw, .keyword, .identifier, .delimited, .fragments]

/-- The name of a call. -/
def name : WriterCall → String
  | .raw => "write"
  | .keyword => "write_keyword"
  | .identifier => "write_identifier"
  | .delimited => "write_delimited"
  | .fragments => "write_fragments"

/-- The call of a name. -/
def ofName? (s : String) : Option WriterCall :=
  all.find? fun c => c.name = s

end WriterCall

/-- Why a value cannot be written. -/
inductive WriterFault
  /-- The value, or an item of it, is no text or no list. -/
  | wrongType
  /-- A keyword or a quoted identifier that is no text has no letter case and no quotes. -/
  | noTextOperation
  /-- A quoted identifier holds an integer of too many digits to be written. -/
  | unwritable
  deriving DecidableEq, Repr

/-! ### Formatting values -/

/-- The fault of a value that is asked for its letter case. -/
def Value.letterCaseFault : Value → WriterFault
  | .bytes .bytes _ => .wrongType
  | .bytes .byteArray _ => .wrongType
  | _ => .noTextOperation

/-- The fault of a value in which quotes should be doubled. -/
def Value.doublingFault : Value → WriterFault
  | .date _ => .wrongType
  | .time _ => .wrongType
  | .dateTime _ => .wrongType
  | v => v.letterCaseFault

/-- The text of a value in quotes. -/
def QuoteStyle.quoteText (q : QuoteStyle) (text? : Option String) (fault : WriterFault) :
    Except WriterFault Value :=
  match text? with
  | some s => .ok (.text (q.quote s))
  | none => .error fault

/-- A value in quotes; those that are doubled inside of it are looked for in texts only. -/
def QuoteStyle.quoteValue (q : QuoteStyle) (v : Value) : Except WriterFault Value :=
  match q with
  | .double => q.quoteText v.text? v.doublingFault
  | .bracket | .angle => q.quoteText v.toText? .unwritable
  | .same => .ok v

namespace Strategy

/-- A value as a keyword. -/
def keywordValue (s : Strategy) (v : Value) : Except WriterFault String :=
  match v.text? with
  | some text => .ok (s.formatKeyword text)
  | none => .error v.letterCaseFault

/-- A value as an identifier: as it is, unless it is quoted. -/
def identifierValue (s : Strategy) (quote? : Option QuoteStyle) (v : Value) :
    Except WriterFault Value :=
  match quote? with
  | some q => if s.quoteIdentifiers then q.quoteValue v else .ok v
  | none => .ok v

end Strategy

/-! ### Writing -/

/-- A writer: its strategy, how it quotes, and what it holds. -/
structure Writer where
  strategy : Strategy
  quote? : Option QuoteStyle
  segments : List Segment := []
  deriving Repr

namespace Writer

/-- What stands between the items of a list. -/
def separator : String := ", "

/-- Pieces with the separator between them. -/
def separated (segments : List Segment) : List Segment :=
  segments.intersperse (.verbatim separator)

/-- The text of everything written. -/
def text (w : Writer) : String :=
  w.strategy.formatAll w.quote? w.segments

/-- A value that has to be a text. -/
def requireText (v : Value) : Except WriterFault String :=
  match v.text? with
  | some s => .ok s
  | none => .error .wrongType

/-- The items of a list. -/
def itemsOf (v : Value) : Except WriterFault (List Value) :=
  match v.items? with
  | some items => .ok items
  | none => .error .wrongType

/-- A keyword. -/
def keywordPiece (w : Writer) (v : Value) : Except WriterFault Segment :=
  match v.text? with
  | some s => .ok (.keyword s)
  | none => (w.strategy.keywordValue v).map .verbatim

/-- An identifier. -/
def identifierPiece (w : Writer) (v : Value) : Except WriterFault Segment :=
  match v with
  | .text s => .ok (.identifier s)
  | v => do
    let quoted ← w.strategy.identifierValue w.quote? v
    return .verbatim (← requireText quoted)

/-- The pieces that a call writes. -/
def pieces (w : Writer) (call : WriterCall) (v : Value) : Except WriterFault (List Segment) :=
  match call with
  | .raw => (requireText v).map fun s => [.verbatim s]
  | .keyword => (w.keywordPiece v).map fun s => [s]
  | .identifier => (w.identifierPiece v).map fun s => [s]
  | .delimited => do
    return separated (← (← itemsOf v).mapM w.identifierPiece)
  | .fragments => do
    let texts ← ((← itemsOf v).filter Value.isTrue).mapM requireText
    return separated (texts.map .verbatim)

/-- The writer after a call. -/
def write (w : Writer) (call : WriterCall) (v : Value) : Except WriterFault Writer :=
  (w.pieces call v).map fun more => { w with segments := w.segments ++ more }

end Writer

end SqlDialect
