import Datasheet.Dataset.Import
import Datasheet.Lexicon.Json
import Datasheet.Log.Directive
import Datasheet.Log.Trace
import Datasheet.Proofs.Calendar.Days
import Datasheet.Proofs.Calendar.Moments
import Datasheet.Proofs.Calendar.Normalizing
import Datasheet.Proofs.Calendar.Notations
import Datasheet.Proofs.Calendar.Openings
import Datasheet.Proofs.Calendar.Readers
import Datasheet.Proofs.Calendar.Written
import Datasheet.Proofs.Dataset.Exchange
import Datasheet.Proofs.Dataset.Removals
import Datasheet.Proofs.Lexicon.Exchange
import Datasheet.Proofs.Log.History
import Datasheet.Proofs.Number.Rounding
import Datasheet.Proofs.Profile.Readings
import Datasheet.Proofs.Profile.Scanning
import Datasheet.Proofs.Schema.Lifecycle
import Datasheet.Proofs.Schema.Wordings
import Datasheet.Proofs.Selection.Meaning
import Datasheet.Proofs.Selection.Operators
import Datasheet.Proofs.Selection.Widening
import Datasheet.Proofs.Settings.Exchange
import Datasheet.Proofs.Sheet.Footers
import Datasheet.Proofs.Sheet.Paging
import Datasheet.Proofs.Sql.Accepting
import Datasheet.Proofs.Sql.Admitting
import Datasheet.Proofs.Sql.Agreement
import Datasheet.Proofs.Sql.CaseRule
import Datasheet.Proofs.Sql.Dating
import Datasheet.Proofs.Sql.Days
import Datasheet.Proofs.Sql.Distinct
import Datasheet.Proofs.Sql.Extremes
import Datasheet.Proofs.Sql.Frequency
import Datasheet.Proofs.Sql.Hosting
import Datasheet.Proofs.Sql.LetterCase
import Datasheet.Proofs.Sql.Offering
import Datasheet.Proofs.Sql.Paging
import Datasheet.Proofs.Sql.Refusing
import Datasheet.Proofs.Sql.Rejecting
import Datasheet.Proofs.Sql.Running
import Datasheet.Proofs.Sql.Seconds
import Datasheet.Proofs.Sql.Spelling
import Datasheet.Proofs.Sql.Stamps
import Datasheet.Proofs.Sql.Template
import Datasheet.Proofs.Sql.Wildcards
import Datasheet.Settings.Text
import Datasheet.Sheet.Boxed
import Datasheet.Sheet.Export
import Datasheet.Sql.Engine
import Datasheet.Sql.Script
