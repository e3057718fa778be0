import Remit.Address
import Remit.Address.Base58
import Remit.Author.Collaborators
import Remit.Author.Draft
import Remit.Author.MinusFee
import Remit.Author.Service
import Remit.Bytes
import Remit.Digest
import Remit.Digest.Sha256
import Remit.Failure
import Remit.Funding.Change
import Remit.Funding.Coin
import Remit.Funding.Cursor
import Remit.Hex
import Remit.Log.Conversion
import Remit.Log.Format
import Remit.Log.Logger
import Remit.Log.Record
import Remit.Number.Binary64
import Remit.Number.Digits
import Remit.Number.Shortest
import Remit.Policy.Fee
import Remit.Policy.Size
import Remit.Proofs.Address.Acceptance
import Remit.Proofs.Address.Base58
import Remit.Proofs.Address.Denotation
import Remit.Proofs.Author.Conclusion
import Remit.Proofs.Author.Configured
import Remit.Proofs.Author.Conservation
import Remit.Proofs.Author.CursorOutcome
import Remit.Proofs.Author.Editing
import Remit.Proofs.Author.Encodable
import Remit.Proofs.Author.Ending
import Remit.Proofs.Author.FeeCover
import Remit.Proofs.Author.Protocol
import Remit.Proofs.Author.Rate
import Remit.Proofs.Author.Service
import Remit.Proofs.Author.Session
import Remit.Proofs.Execution
import Remit.Proofs.Funding.History
import Remit.Proofs.Funding.Reach
import Remit.Proofs.Hex
import Remit.Proofs.Log.History
import Remit.Proofs.Log.Refusal
import Remit.Proofs.Policy.Dust
import Remit.Proofs.Policy.Fee
import Remit.Proofs.Policy.Growth
import Remit.Proofs.Policy.Size
import Remit.Proofs.Policy.Splitting
import Remit.Proofs.Script.Push
import Remit.Proofs.Script.Template
import Remit.Proofs.Settings.Disk
import Remit.Proofs.Settings.Environment
import Remit.Proofs.Settings.EnvironmentFirst
import Remit.Proofs.Settings.Fields
import Remit.Proofs.Settings.FileInfluence
import Remit.Proofs.Settings.Outline
import Remit.Proofs.Settings.Passing
import Remit.Proofs.Settings.Precedence
import Remit.Proofs.Settings.Spelling
import Remit.Proofs.Settings.Yaml
import Remit.Proofs.Text.Lower
import Remit.Proofs.Wire.Attempts
import Remit.Proofs.Wire.Canonical
import Remit.Proofs.Wire.Checked
import Remit.Proofs.Wire.Ending
import Remit.Proofs.Wire.Field
import Remit.Proofs.Wire.Layout
import Remit.Proofs.Wire.OutPoint
import Remit.Proofs.Wire.Reads
import Remit.Proofs.Wire.Recognition
import Remit.Proofs.Wire.Refusal
import Remit.Proofs.Wire.RoundTrip
import Remit.Proofs.Wire.Sizes
import Remit.Proofs.Wire.Spelling
import Remit.Script.Push
import Remit.Script.Template
import Remit.Settings.Check
import Remit.Settings.Environment
import Remit.Settings.Files
import Remit.Settings.Json
import Remit.Settings.Load
import Remit.Settings.Moment
import Remit.Settings.Numeral
import Remit.Settings.Value
import Remit.Settings.Yaml
import Remit.Settings.Yaml.Literal
import Remit.Settings.Yaml.Node
import Remit.Settings.Yaml.Plain
import Remit.Settings.Yaml.Property
import Remit.Settings.Yaml.Quoted
import Remit.Settings.Yaml.Scalar
import Remit.Settings.Yaml.Source
import Remit.Settings.Yaml.Tag
import Remit.Settings.Yaml.Timestamp
import Remit.Settings.Yaml.Token
import Remit.Sum
import Remit.Text.Cased
import Remit.Text.Lower
import Remit.Text.Printable
import Remit.Text.Quoted
import Remit.Text.Ranges
import Remit.Text.Surrogate
import Remit.Text.Word
import Remit.Wire.CompactSize
import Remit.Wire.Decoding
import Remit.Wire.Editing
import Remit.Wire.Encoding
import Remit.Wire.OutPoint
import Remit.Wire.Stream
import Remit.Wire.Transaction
