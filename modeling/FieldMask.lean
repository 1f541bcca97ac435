import FieldMask.Exchange
import FieldMask.Main
import FieldMask.Pattern.Flags
import FieldMask.Proofs.Walk
import FieldMask.Proofs.Json.Cursor
import FieldMask.Proofs.Json.NumberSpelling
import FieldMask.Proofs.Record.Order
import FieldMask.Proofs.Json.StringSpelling
import FieldMask.Proofs.Json.Reader
import FieldMask.Proofs.Json.WellFormed
import FieldMask.Proofs.Json.Settle
import FieldMask.Proofs.Json.Spelling
import FieldMask.Proofs.Json.RoundTrip
import FieldMask.Proofs.Json.Soundness
import FieldMask.Proofs.Document
import FieldMask.Proofs.Coverage
import FieldMask.Proofs.Mask
import FieldMask.Proofs.Disclosure
import FieldMask.Proofs.Outcome
import FieldMask.Proofs.Idempotence
import FieldMask.Proofs.FailureMode
import FieldMask.Proofs.Text.Digits
import FieldMask.Proofs.Stream
import FieldMask.Proofs.PassThrough
import FieldMask.Proofs.Cli.Args
import FieldMask.Proofs.Cli.Run
import FieldMask.Proofs.Json.Numbers
import FieldMask.Proofs.Exchange.Hooks
import FieldMask.Proofs.Exchange.Agreement
import FieldMask.Proofs.Exchange.Report
import FieldMask.Proofs.Config.Comments
import FieldMask.Proofs.Config.Schema
import FieldMask.Proofs.Config.Reading
import FieldMask.Proofs.Config.Acceptance
import FieldMask.Proofs.Unicode.CaseTable
import FieldMask.Proofs.Pattern.Letter
import FieldMask.Proofs.Tally
import FieldMask.Proofs.Counting
import FieldMask.Proofs.Registration
import FieldMask.Proofs.Pattern.Matcher
import FieldMask.Proofs.Json.Rename
import FieldMask.Proofs.Renaming
import FieldMask.Proofs.Text.AsciiCase
import FieldMask.Proofs.FieldCase
import FieldMask.Proofs.FieldPadding
import FieldMask.Proofs.Text.LowerCase
import FieldMask.Proofs.Allowlist
import FieldMask.Proofs.Reconfiguration
import FieldMask.Proofs.Precedence
import FieldMask.Proofs.FieldSources
import FieldMask.Proofs.Cli.Grammar
import FieldMask.Proofs.NamedPath
import FieldMask.Proofs.DefaultFields
import FieldMask.Proofs.MaskedName
import FieldMask.Proofs.Text.Surroundings
import FieldMask.Proofs.ContainedText
import FieldMask.Proofs.Config.Rejection
import FieldMask.Proofs.Config.TwoPasses
