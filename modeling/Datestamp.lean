import Datestamp.Arguments
import Datestamp.Calendar
import Datestamp.ClockOffset
import Datestamp.Decimal
import Datestamp.Directive
import Datestamp.Event
import Datestamp.EventFilter
import Datestamp.Failure
import Datestamp.Field
import Datestamp.Format
import Datestamp.Format.Expansion
import Datestamp.Format.Reading
import Datestamp.Help
import Datestamp.Host
import Datestamp.LocalTime
import Datestamp.LocalTime.Resolve
import Datestamp.Main
import Datestamp.Placeholder
import Datestamp.ProgramName
import Datestamp.Run
import Datestamp.Stamp
import Datestamp.Template
import Datestamp.Text
import Datestamp.Text.Blank
import Datestamp.Text.CharClass
import Datestamp.Text.Printable
import Datestamp.Text.Quoted
import Datestamp.Zone
import Datestamp.Zone.Observed
import Datestamp.Proofs.Calendar.Dates
import Datestamp.Proofs.Host.Promises
import Datestamp.Proofs.Host.Known
import Datestamp.Proofs.Placeholder.Spelling
import Datestamp.Proofs.Template.Outcome
import Datestamp.Proofs.Directive.Recognition
import Datestamp.Proofs.Format.Pieces
import Datestamp.Proofs.Format.Meaning
import Datestamp.Proofs.Zone.InEffect
import Datestamp.Proofs.Field.Families
import Datestamp.Proofs.Format.Tokenization
import Datestamp.Proofs.Format.Steps
import Datestamp.Proofs.Format.DefaultLine
import Datestamp.Proofs.Stamp.Distinct
import Datestamp.Proofs.Zone.Split
import Datestamp.Proofs.Placeholder.Order
import Datestamp.Proofs.Zone.Unknown
import Datestamp.Proofs.Stamp.Sorted
import Datestamp.Proofs.Arguments.Spelling
import Datestamp.Proofs.Run.Outcome
import Datestamp.Proofs.Text.OneLine
import Datestamp.Proofs.Run.Logging
import Datestamp.Proofs.Calendar.Counting
import Datestamp.Proofs.LocalTime.Resolved
import Datestamp.Proofs.LocalTime.Years
import Datestamp.Proofs.Zone.Seasons
import Datestamp.Proofs.Zone.Block
import Datestamp.Proofs.ProgramName.Source
import Datestamp.Proofs.Directive.Grammar
import Datestamp.Proofs.Placeholder.Width
import Datestamp.Proofs.Format.Quoting
import Datestamp.Proofs.Format.Concatenation
import Datestamp.Proofs.Template.Concatenation
import Datestamp.Proofs.Placeholder.Parts
import Datestamp.Proofs.ClockOffset.Seconds
import Datestamp.Proofs.Stamp.Decoding
import Datestamp.Proofs.EventFilter.Reading
import Datestamp.Proofs.EventFilter.RoundTrip
import Datestamp.Proofs.Arguments.Precedence
import Datestamp.Proofs.EventFilter.Acceptance
