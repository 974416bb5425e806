import SqlDialect.Example.Installation
import SqlDialect.Format.Writer
import SqlDialect.Log.Channel
import SqlDialect.Log.Correlation
import SqlDialect.Node.Build
import SqlDialect.Node.Equality
import SqlDialect.Number.Literal
import SqlDialect.Statement
import SqlDialect.Support
import SqlDialect.Proofs.Reading
import SqlDialect.Proofs.Strictness
import SqlDialect.Proofs.Builtin
import SqlDialect.Proofs.Hurdles
import SqlDialect.Proofs.Malformed
import SqlDialect.Proofs.Acceptance
import SqlDialect.Proofs.Pruning
import SqlDialect.Proofs.Releases
import SqlDialect.Proofs.Declared
import SqlDialect.Proofs.Template
import SqlDialect.Proofs.Upgrade
import SqlDialect.Proofs.Omissions
import SqlDialect.Proofs.MinimumVersion
import SqlDialect.Proofs.Composition
import SqlDialect.Proofs.Trimming
import SqlDialect.Proofs.Skipping
import SqlDialect.Proofs.Decoding
import SqlDialect.Proofs.Runs
import SqlDialect.Proofs.Reconnection
import SqlDialect.Proofs.Transactions
import SqlDialect.Proofs.Preparation
import SqlDialect.Proofs.RowHistory
import SqlDialect.Proofs.Atomicity
import SqlDialect.Proofs.Masking
import SqlDialect.Proofs.ConnectionLog
import SqlDialect.Proofs.Closing
import SqlDialect.Proofs.Interference
import SqlDialect.Proofs.Rereading
import SqlDialect.Proofs.VersionOrder
import SqlDialect.Proofs.DayCount
import SqlDialect.Proofs.Joining
import SqlDialect.Proofs.TimeOrder
import SqlDialect.Proofs.LetterCase
import SqlDialect.Proofs.MissingForms
import SqlDialect.Proofs.Placeholders
import SqlDialect.Proofs.OpenedPath
import SqlDialect.Proofs.RenderLog
import SqlDialect.Proofs.Comparison
import SqlDialect.Proofs.LoggedParameters
import SqlDialect.Proofs.EqualValues
import SqlDialect.Proofs.Interchange
import SqlDialect.Proofs.Derivations
import SqlDialect.Proofs.Numerals
import SqlDialect.Proofs.VersionTexts
