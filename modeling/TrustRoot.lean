import TrustRoot.Approval.Quorum
import TrustRoot.Approval.Rotation
import TrustRoot.AsIdentifier
import TrustRoot.Audit
import TrustRoot.Bytes
import TrustRoot.Decimal.Shortest
import TrustRoot.Dict
import TrustRoot.Digest
import TrustRoot.Document.Basic
import TrustRoot.Document.Projection
import TrustRoot.Document.Reading
import TrustRoot.Document.Signing
import TrustRoot.Document.SigningInput
import TrustRoot.Ed25519.Curve
import TrustRoot.Ed25519.Signature
import TrustRoot.Envelope
import TrustRoot.Error
import TrustRoot.FrameLibrary
import TrustRoot.Json.Basic
import TrustRoot.Json.Fault
import TrustRoot.Json.Number
import TrustRoot.Json.Reader
import TrustRoot.Json.Token
import TrustRoot.Json.Writer
import TrustRoot.Logging.Directive
import TrustRoot.Logging.Field
import TrustRoot.Logging.Filter
import TrustRoot.Logging.Line
import TrustRoot.Logging.Pattern
import TrustRoot.Logging.Settings
import TrustRoot.Main
import TrustRoot.Power
import TrustRoot.Proofs.Approval.Authorities
import TrustRoot.Proofs.Approval.Chain
import TrustRoot.Proofs.Approval.Completeness
import TrustRoot.Proofs.Approval.Decision
import TrustRoot.Proofs.Approval.Dependence
import TrustRoot.Proofs.Approval.Events
import TrustRoot.Proofs.Approval.Evidence
import TrustRoot.Proofs.Approval.Locality
import TrustRoot.Proofs.Approval.Precedence
import TrustRoot.Proofs.Approval.Rotation
import TrustRoot.Proofs.Approval.Tally
import TrustRoot.Proofs.AsIdentifier.Grammar
import TrustRoot.Proofs.AsIdentifier.Notation
import TrustRoot.Proofs.Audit
import TrustRoot.Proofs.Dict
import TrustRoot.Proofs.Document.Acceptance
import TrustRoot.Proofs.Document.CanonicalText
import TrustRoot.Proofs.Document.Collection
import TrustRoot.Proofs.Document.Construction
import TrustRoot.Proofs.Document.Coverage
import TrustRoot.Proofs.Document.Encoding
import TrustRoot.Proofs.Document.NormalForm
import TrustRoot.Proofs.Document.Projection
import TrustRoot.Proofs.Document.Reachable
import TrustRoot.Proofs.Document.Reading
import TrustRoot.Proofs.Document.Refusal
import TrustRoot.Proofs.Document.Representation
import TrustRoot.Proofs.Document.Rereading
import TrustRoot.Proofs.Document.RoundTrip
import TrustRoot.Proofs.Document.Slots
import TrustRoot.Proofs.Envelope
import TrustRoot.Proofs.FirstFailure
import TrustRoot.Proofs.FrameLibrary
import TrustRoot.Proofs.Json.Compact
import TrustRoot.Proofs.Json.Extent
import TrustRoot.Proofs.Json.NumeralGrammar
import TrustRoot.Proofs.Json.Numerals
import TrustRoot.Proofs.Json.Ordered
import TrustRoot.Proofs.Json.Reading
import TrustRoot.Proofs.Json.Refusal
import TrustRoot.Proofs.Json.Shape
import TrustRoot.Proofs.Json.Spelling
import TrustRoot.Proofs.Json.Strings
import TrustRoot.Proofs.Json.Tree
import TrustRoot.Proofs.Json.Writing
import TrustRoot.Proofs.Store.Isolation
import TrustRoot.Proofs.Store.Origin
import TrustRoot.Proofs.Store.Sharing
import TrustRoot.Proofs.Text.Base64
import TrustRoot.Proofs.Text.Base64Spelling
import TrustRoot.Proofs.Text.Hex
import TrustRoot.Proofs.Text.Numeral
import TrustRoot.Proofs.Text.Order
import TrustRoot.Proofs.Text.Positional
import TrustRoot.Proofs.Text.Separated
import TrustRoot.Proofs.Text.Utf8
import TrustRoot.Proofs.Tool.Continuation
import TrustRoot.Proofs.Tool.Report
import TrustRoot.Proofs.Tool.Seed
import TrustRoot.Proofs.Tool.Turns
import TrustRoot.Proofs.Tool.Verdicts
import TrustRoot.Proofs.Wire.CoreKeys
import TrustRoot.Proofs.Zstandard.Blocks
import TrustRoot.Proofs.Zstandard.RoundTrip
import TrustRoot.Scheme
import TrustRoot.Service
import TrustRoot.Store
import TrustRoot.Text.Alphanumeric
import TrustRoot.Text.Base64
import TrustRoot.Text.Blank
import TrustRoot.Text.Hex
import TrustRoot.Text.Numeral
import TrustRoot.Text.Quoted
import TrustRoot.Text.Unprintable
import TrustRoot.Tool.Arguments
import TrustRoot.Tool.Command
import TrustRoot.Tool.Failure
import TrustRoot.Tool.Help
import TrustRoot.Tool.Parameter
import TrustRoot.Tool.Program
import TrustRoot.Wire.CoreKeys
import TrustRoot.Wire.Field
import TrustRoot.Wire.Value
import TrustRoot.Zstandard.Automaton
import TrustRoot.Zstandard.Basic
import TrustRoot.Zstandard.BitString
import TrustRoot.Zstandard.CodeRange
import TrustRoot.Zstandard.Coded
import TrustRoot.Zstandard.Decoder
import TrustRoot.Zstandard.Frame
import TrustRoot.Zstandard.Library
import TrustRoot.Zstandard.Literals
import TrustRoot.Zstandard.Matching
import TrustRoot.Zstandard.PrefixCode
import TrustRoot.Zstandard.Sequence
import TrustRoot.Zstandard.SequenceCode
import TrustRoot.Zstandard.Writer
