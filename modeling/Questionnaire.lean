import Questionnaire.Client.Session
import Questionnaire.Main
import Questionnaire.Selector.Printer
import Questionnaire.Selector.Query
import Questionnaire.Proofs.Form.Fillable
import Questionnaire.Proofs.Form.NameMap
import Questionnaire.Proofs.Form.Translation
import Questionnaire.Proofs.Text.ByteOrder
import Questionnaire.Proofs.Client.Submission
import Questionnaire.Proofs.Selector.Descent
import Questionnaire.Proofs.Text.Runs
import Questionnaire.Proofs.Selector.Grammar
import Questionnaire.Proofs.FirstFailure
import Questionnaire.Proofs.Selector.Reading
import Questionnaire.Proofs.Selector.Fault
import Questionnaire.Proofs.Selector.Characters
import Questionnaire.Proofs.Selector.RoundTrip
import Questionnaire.Proofs.Selector.Query
import Questionnaire.Proofs.Selector.FirstMatch
import Questionnaire.Proofs.Form.Body
import Questionnaire.Proofs.Form.Verdict
import Questionnaire.Proofs.Extraction.Wrapper
import Questionnaire.Proofs.CommandLine.Report
import Questionnaire.Proofs.Dictionary.Merging
import Questionnaire.Proofs.Json.Stored
import Questionnaire.Proofs.Options.Detour
import Questionnaire.Proofs.Client.Settings
import Questionnaire.Proofs.Markup.Control
import Questionnaire.Proofs.Number.Numeral
import Questionnaire.Proofs.Number.Rounding
import Questionnaire.Proofs.Number.Numeric
import Questionnaire.Proofs.Text.CharacterSet
import Questionnaire.Proofs.Pattern.Match
import Questionnaire.Proofs.Email
import Questionnaire.Proofs.Extraction.Lookups
import Questionnaire.Proofs.Extraction.WellFormed
import Questionnaire.Proofs.Extraction.Outline
import Questionnaire.Proofs.Extraction.Noise
import Questionnaire.Proofs.Selector.Appending
import Questionnaire.Proofs.Selector.Rereading
