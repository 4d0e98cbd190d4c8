import SecondFactor.Bytes
import SecondFactor.Bytes.Base64
import SecondFactor.Bytes.Hex
import SecondFactor.Certificate
import SecondFactor.Certificate.Date
import SecondFactor.Certificate.Element
import SecondFactor.Certificate.Issuer
import SecondFactor.Client.Agent
import SecondFactor.Client.Inquiry
import SecondFactor.Curve
import SecondFactor.Dialogue
import SecondFactor.Failure
import SecondFactor.Hash.Hmac
import SecondFactor.Hash.Padding
import SecondFactor.Hash.Sha1
import SecondFactor.Hash.Sha256
import SecondFactor.Hash.Sha512
import SecondFactor.Json.Bounded
import SecondFactor.Json.Reader
import SecondFactor.Json.Value
import SecondFactor.Json.Writer
import SecondFactor.KeyPair
import SecondFactor.Origin.Address
import SecondFactor.Origin.DomainName
import SecondFactor.Origin.Label
import SecondFactor.Origin.Mapping
import SecondFactor.Origin.Punycode
import SecondFactor.Origin.Registry
import SecondFactor.Origin.Rule
import SecondFactor.Origin.Url
import SecondFactor.Proofs.Bytes.Base64
import SecondFactor.Proofs.Certificate
import SecondFactor.Proofs.Client.Binding
import SecondFactor.Proofs.Client.Questions
import SecondFactor.Proofs.Dialogue
import SecondFactor.Proofs.Except
import SecondFactor.Proofs.Exchange
import SecondFactor.Proofs.Json.Numerals
import SecondFactor.Proofs.Json.RoundTrip
import SecondFactor.Proofs.Json.Strings
import SecondFactor.Proofs.Origin.Sites
import SecondFactor.Proofs.Positional
import SecondFactor.Proofs.PublicKey
import SecondFactor.Proofs.Raw.Body
import SecondFactor.Proofs.Raw.Commands
import SecondFactor.Proofs.Raw.Framing
import SecondFactor.Proofs.Raw.RoundTrip
import SecondFactor.Proofs.Raw.SignedBytes
import SecondFactor.Proofs.RelyingParty.Acceptance
import SecondFactor.Proofs.RelyingParty.Challenges
import SecondFactor.Proofs.RelyingParty.Commuting
import SecondFactor.Proofs.RelyingParty.Counters
import SecondFactor.Proofs.RelyingParty.Criteria
import SecondFactor.Proofs.RelyingParty.Duplicates
import SecondFactor.Proofs.RelyingParty.History
import SecondFactor.Proofs.RelyingParty.Interleaving
import SecondFactor.Proofs.RelyingParty.Isolation
import SecondFactor.Proofs.RelyingParty.Issue
import SecondFactor.Proofs.RelyingParty.KeyLog
import SecondFactor.Proofs.RelyingParty.Keys
import SecondFactor.Proofs.RelyingParty.Progress
import SecondFactor.Proofs.RelyingParty.RecordedCertificates
import SecondFactor.Proofs.RelyingParty.Serial
import SecondFactor.Proofs.RelyingParty.Sessions
import SecondFactor.Proofs.RelyingParty.SignatureData
import SecondFactor.Proofs.RelyingParty.SignatureRequests
import SecondFactor.Proofs.RelyingParty.Stages
import SecondFactor.Proofs.RelyingParty.Traffic
import SecondFactor.Proofs.RelyingParty.Trust
import SecondFactor.Proofs.RelyingParty.TrustAnchors
import SecondFactor.Proofs.RelyingParty.Usable
import SecondFactor.Proofs.RelyingParty.Verdict
import SecondFactor.Proofs.Run
import SecondFactor.Proofs.Scene
import SecondFactor.Proofs.Scene.Authentication
import SecondFactor.Proofs.Scene.EnrolmentOrigin
import SecondFactor.Proofs.Scene.HonestRun
import SecondFactor.Proofs.Scene.Makings
import SecondFactor.Proofs.Scene.Registration
import SecondFactor.Proofs.Scene.Rehearsed
import SecondFactor.Proofs.Scene.SignatureOrigin
import SecondFactor.Proofs.Scene.Visit
import SecondFactor.Proofs.Signature
import SecondFactor.Proofs.Table
import SecondFactor.Proofs.Text.Utf8
import SecondFactor.Proofs.Token.Answers
import SecondFactor.Proofs.Token.Calls
import SecondFactor.Proofs.Token.Counting
import SecondFactor.Proofs.Token.Handles
import SecondFactor.Proofs.Token.Outcome
import SecondFactor.Proofs.Token.ReadBack
import SecondFactor.Proofs.Token.Requests
import SecondFactor.Proofs.Token.Secrecy
import SecondFactor.Proofs.Web.ClientData
import SecondFactor.Proofs.Web.Field
import SecondFactor.Proofs.Web.Message
import SecondFactor.PublicKey
import SecondFactor.Raw.Authentication
import SecondFactor.Raw.Command
import SecondFactor.Raw.Presence
import SecondFactor.Raw.PublicKey
import SecondFactor.Raw.Registration
import SecondFactor.Raw.Scan
import SecondFactor.Raw.SignatureFrame
import SecondFactor.Raw.Status
import SecondFactor.Rehearsal.Faults
import SecondFactor.Rehearsal.Setup
import SecondFactor.Rehearsal.Step
import SecondFactor.Rehearsal.Visit
import SecondFactor.Rehearsal.World
import SecondFactor.RelyingParty.AccountStore
import SecondFactor.RelyingParty.Inquiry
import SecondFactor.RelyingParty.Memory
import SecondFactor.RelyingParty.Service
import SecondFactor.RelyingParty.TrustAnchors
import SecondFactor.Residue
import SecondFactor.Signature.Ecdsa
import SecondFactor.Signature.Ed25519
import SecondFactor.Signature.Integers
import SecondFactor.Signature.Rsa
import SecondFactor.Suite
import SecondFactor.Surroundings
import SecondFactor.Table
import SecondFactor.Tape
import SecondFactor.Text.CombiningClass
import SecondFactor.Text.Composed
import SecondFactor.Text.Composite
import SecondFactor.Text.Direction
import SecondFactor.Text.Joining
import SecondFactor.Text.Mark
import SecondFactor.Text.Percent
import SecondFactor.Text.Printable
import SecondFactor.Text.Quoted
import SecondFactor.Text.RunTable
import SecondFactor.Text.Utf8
import SecondFactor.Token.Attestation
import SecondFactor.Token.Device
import SecondFactor.Token.Inquiry
import SecondFactor.Token.KeyRing
import SecondFactor.Token.Memory
import SecondFactor.Warning
import SecondFactor.Web.Account
import SecondFactor.Web.ClientData
import SecondFactor.Web.Field
import SecondFactor.Web.Message
