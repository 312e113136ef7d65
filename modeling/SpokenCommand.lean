import SpokenCommand.Text.Alphanumeric
import SpokenCommand.Text.Blank
import SpokenCommand.Text.Case
import SpokenCommand.Text.Quoted
import SpokenCommand.Text.Utf8
import SpokenCommand.Numeral.Nearest
import SpokenCommand.Numeral.Read
import SpokenCommand.Numeral.Shortest
import SpokenCommand.Text.Span
import SpokenCommand.Phrase
import SpokenCommand.Sentence
import SpokenCommand.Grammar
import SpokenCommand.Match
import SpokenCommand.Json.Lexical
import SpokenCommand.Json.Skip
import SpokenCommand.Json.Schema
import SpokenCommand.Json.Text
import SpokenCommand.Recognition.Config
import SpokenCommand.Recognition.Event
import SpokenCommand.Recognition.Recognizer
import SpokenCommand.Recognition.Reducer
import SpokenCommand.Recognition.Session
import SpokenCommand.Failure
import SpokenCommand.Options
import SpokenCommand.Host.Config
import SpokenCommand.Host.Program
import SpokenCommand.Main
import SpokenCommand.Proofs.Tokens
import SpokenCommand.Proofs.Meaning
import SpokenCommand.Proofs.Assembly
import SpokenCommand.Proofs.Derivations
import SpokenCommand.Proofs.Language
import SpokenCommand.Proofs.FirstMatch
import SpokenCommand.Proofs.Phases
import SpokenCommand.Proofs.SessionRuns
import SpokenCommand.Proofs.Delivery
import SpokenCommand.Proofs.Reading
import SpokenCommand.Proofs.SentencePrinting
import SpokenCommand.Proofs.PhrasePrinting
import SpokenCommand.Proofs.JsonScalars
import SpokenCommand.Proofs.JsonSchemas
import SpokenCommand.Proofs.HandshakeFraming
import SpokenCommand.Proofs.HandshakeStream
import SpokenCommand.Proofs.StepIds
import SpokenCommand.Proofs.ListingIndependence
import SpokenCommand.Proofs.ResultStream
import SpokenCommand.Proofs.RecognizerRuns
import SpokenCommand.Proofs.StepOrders
import SpokenCommand.Proofs.Serving
import SpokenCommand.Proofs.Dispatching
import SpokenCommand.Proofs.PhraseEnumeration
import SpokenCommand.Proofs.SentenceEnumeration
import SpokenCommand.Proofs.Cutting
import SpokenCommand.Proofs.SentenceScanning
import SpokenCommand.Proofs.PhraseScanning
import SpokenCommand.Proofs.NormalSpacing
import SpokenCommand.Proofs.VocabularyRuns
import SpokenCommand.Proofs.CompiledSteps
import SpokenCommand.Proofs.AddedSentences
import SpokenCommand.Proofs.FixedExpansions
import SpokenCommand.Proofs.LowerCase
import SpokenCommand.Proofs.SaidAgain
import SpokenCommand.Proofs.StepIdSyntax
import SpokenCommand.Proofs.Reduction
import SpokenCommand.Proofs.GroupSyntax
import SpokenCommand.Proofs.UnspokenKeys
import SpokenCommand.Proofs.CursorReading
