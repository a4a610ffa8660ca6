import SealedDrop.Calendar.Date
import SealedDrop.Calendar.Moment
import SealedDrop.Calendar.Reading
import SealedDrop.Client.Answer
import SealedDrop.Client.Operation
import SealedDrop.Client.Session
import SealedDrop.Codec
import SealedDrop.Command.Invocation
import SealedDrop.Command.Line
import SealedDrop.Command.Run
import SealedDrop.Command.Session
import SealedDrop.Config
import SealedDrop.Crypto.Aes
import SealedDrop.Crypto.Ed25519
import SealedDrop.Crypto.Gcm
import SealedDrop.Crypto.Sha256
import SealedDrop.Crypto.Sha512
import SealedDrop.Directory
import SealedDrop.Envelope
import SealedDrop.Form.Problem
import SealedDrop.Form.Reading
import SealedDrop.Form.Request
import SealedDrop.Form.Whole
import SealedDrop.Http.Address
import SealedDrop.Http.Label
import SealedDrop.Http.Message
import SealedDrop.Journal.Entry
import SealedDrop.Journal.Escape
import SealedDrop.Journal.Line
import SealedDrop.Journal.Registry
import SealedDrop.Journal.Template
import SealedDrop.Json.Basic
import SealedDrop.Json.Encoding
import SealedDrop.Json.Parser
import SealedDrop.Json.Printer
import SealedDrop.Link
import SealedDrop.Main
import SealedDrop.Number.Double
import SealedDrop.Server.Account
import SealedDrop.Server.Banner
import SealedDrop.Server.Cors
import SealedDrop.Server.Endpoint
import SealedDrop.Server.Failure
import SealedDrop.Server.Identifier
import SealedDrop.Server.RateLimit
import SealedDrop.Server.Route
import SealedDrop.Server.Service
import SealedDrop.Server.Unwrap
import SealedDrop.Signature
import SealedDrop.Store.Address
import SealedDrop.Store.Driver
import SealedDrop.Store.Operation
import SealedDrop.Store.Row
import SealedDrop.Store.Tamper
import SealedDrop.Text.Basic
import SealedDrop.Text.Composition
import SealedDrop.Text.Direction
import SealedDrop.Text.Joining
import SealedDrop.Text.Mark
import SealedDrop.Text.Numeral
import SealedDrop.Text.Percent
import SealedDrop.Text.Printable
import SealedDrop.Text.Punycode
import SealedDrop.Text.Ranges
import SealedDrop.Text.Utf8
import SealedDrop.Text.Word
import SealedDrop.Toml.Basic
import SealedDrop.Toml.Document
import SealedDrop.Toml.Scalar
import SealedDrop.Proofs.Calendar.Column
import SealedDrop.Proofs.Calendar.Date
import SealedDrop.Proofs.Calendar.Reading
import SealedDrop.Proofs.Calendar.Utc
import SealedDrop.Proofs.Client.Agreement
import SealedDrop.Proofs.Client.Answer
import SealedDrop.Proofs.Client.Blindness
import SealedDrop.Proofs.Client.Fetching
import SealedDrop.Proofs.Client.Sealing
import SealedDrop.Proofs.Client.Sharing
import SealedDrop.Proofs.Client.Signer
import SealedDrop.Proofs.Client.Signing
import SealedDrop.Proofs.Client.Twin
import SealedDrop.Proofs.Codec.Base64
import SealedDrop.Proofs.Command.KeyFile
import SealedDrop.Proofs.Command.Step
import SealedDrop.Proofs.Config.Loading
import SealedDrop.Proofs.Config.Validation
import SealedDrop.Proofs.Directory
import SealedDrop.Proofs.Envelope
import SealedDrop.Proofs.Form.Names
import SealedDrop.Proofs.Form.Request
import SealedDrop.Proofs.Http.Address
import SealedDrop.Proofs.Http.Escape
import SealedDrop.Proofs.Journal.Outlets
import SealedDrop.Proofs.Json.Flat
import SealedDrop.Proofs.Json.Strings
import SealedDrop.Proofs.Json.Tree
import SealedDrop.Proofs.Link
import SealedDrop.Proofs.Result
import SealedDrop.Proofs.Server.Account
import SealedDrop.Proofs.Server.Anonymity
import SealedDrop.Proofs.Server.Breakdown
import SealedDrop.Proofs.Server.Effect
import SealedDrop.Proofs.Server.Enrolment
import SealedDrop.Proofs.Server.Failure
import SealedDrop.Proofs.Server.History
import SealedDrop.Proofs.Server.Identifier
import SealedDrop.Proofs.Server.Independence
import SealedDrop.Proofs.Server.Lane
import SealedDrop.Proofs.Server.Lifetime
import SealedDrop.Proofs.Server.Ownership
import SealedDrop.Proofs.Server.RateLimit
import SealedDrop.Proofs.Server.Redirect
import SealedDrop.Proofs.Server.Registration
import SealedDrop.Proofs.Server.Separation
import SealedDrop.Proofs.Server.Trust
import SealedDrop.Proofs.Server.Twin
import SealedDrop.Proofs.Server.Window
import SealedDrop.Proofs.Signature
import SealedDrop.Proofs.Store.Blindness
import SealedDrop.Proofs.Store.Creation
import SealedDrop.Proofs.Store.Evolution
import SealedDrop.Proofs.Store.Expiry
import SealedDrop.Proofs.Store.Finality
import SealedDrop.Proofs.Store.Interleaving
import SealedDrop.Proofs.Store.Likeness
import SealedDrop.Proofs.Store.Listing
import SealedDrop.Proofs.Store.Operation
import SealedDrop.Proofs.Store.Owners
import SealedDrop.Proofs.Store.Purge
import SealedDrop.Proofs.Store.Run
import SealedDrop.Proofs.Store.SingleUse
import SealedDrop.Proofs.Store.Table
import SealedDrop.Proofs.Store.Tamper
import SealedDrop.Proofs.Store.Twin
import SealedDrop.Proofs.Store.View
import SealedDrop.Proofs.Text.Digits
import SealedDrop.Proofs.Text.Literal
import SealedDrop.Proofs.Text.Percent
import SealedDrop.Proofs.Text.Utf8
import SealedDrop.Proofs.Toml.Table
