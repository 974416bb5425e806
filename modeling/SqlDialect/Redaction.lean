import SqlDialect.Text.CaseMap
import SqlDialect.Text.Cut
import SqlDialect.Text.Utf8
import SqlDialect.Value.Basic

/-!
# Redaction of parameters

Parameters are logged with `***` in place of those that look like a secret: a text that holds one of
the sensitive words in any letter case, or a byte string whose readable part does.  Bytes that are
ill formed as UTF-8 are passed over, so that they cannot break a word apart.
-/

namespace SqlDialect.Redaction

/-- Words that a secret is likely to hold. -/
def sensitiveWords : List String :=
  ["password", "passwd", "secret", "token", "apikey", "api_key", "private_key", "bearer"]

/-- Whether a text looks like a secret. -/
def isSensitive (s : List Char) : Bool :=
  let lowered := Text.lowerAfter [] s
  sensitiveWords.any fun word => Text.contains word.toList lowered

/-- What stands in place of a secret. -/
def mask : Value := .text "***"

/-- Whether a parameter looks like a secret. -/
def isSecret : Value → Bool
  | .text s => isSensitive s.toList
  | .sqlType t => isSensitive t.sqlText.toList
  | .bytes _ data => isSensitive (Text.Utf8.decodeIgnoring data)
  | _ => false

/-- A parameter as it is logged. -/
def redact (v : Value) : Value :=
  if isSecret v then mask else v

/-- Parameters as they are logged. -/
def redactAll (params : List Value) : List Value :=
  params.map redact

end SqlDialect.Redaction
