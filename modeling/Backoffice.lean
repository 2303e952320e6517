import Backoffice.Json.Value
import Backoffice.Decimal.Binary64
import Backoffice.Decimal.Shortest
import Backoffice.Json.Error
import Backoffice.Json.Scan
import Backoffice.Json.Reader
import Backoffice.Text.RangeTable
import Backoffice.Text.Unprintable
import Backoffice.Text.GraphemeExtend
import Backoffice.Text.Quoted
import Backoffice.Json.Writer
import Backoffice.Json.Record
import Backoffice.Crypto.Sha256
import Backoffice.Crypto.Hmac
import Backoffice.Codec.Base64
import Backoffice.Token.Error
import Backoffice.Token.Claims
import Backoffice.Token.Policy
import Backoffice.Token.Compact
import Backoffice.Token.Issue
import Backoffice.Token.Bearer
import Backoffice.Http.Response
import Backoffice.Store.Fault
import Backoffice.App.Error
import Backoffice.Text.Integer
import Backoffice.Text.WhiteSpace
import Backoffice.Text.Utf8
import Backoffice.Net.Address
import Backoffice.Net.Url
import Backoffice.Host.Files
import Backoffice.Store.Connect
import Backoffice.App.Config
import Backoffice.App.Startup
import Backoffice.Time.DateTime
import Backoffice.Ident.Uuid
import Backoffice.User.Profile
import Backoffice.Text.RangeMap
import Backoffice.Idna.Rule
import Backoffice.Text.BidiClass
import Backoffice.Text.JoiningType
import Backoffice.Idna.MappingTable
import Backoffice.Text.CombiningClassTable
import Backoffice.Text.DecompositionTable
import Backoffice.Text.BidiClassTable
import Backoffice.Text.JoiningTypeTable
import Backoffice.Text.MarkTable
import Backoffice.Text.Nfc
import Backoffice.Idna.Punycode
import Backoffice.Idna.Domain
import Backoffice.Mail.Address
import Backoffice.Crypto.Blowfish
import Backoffice.Crypto.Bcrypt
import Backoffice.User.Store
import Backoffice.Text.CaseRule
import Backoffice.Text.CasingTables
import Backoffice.Text.Lowercase
import Backoffice.User.Accounts
import Backoffice.Http.Request
import Backoffice.Http.MediaType
import Backoffice.Api.Route
import Backoffice.Api.Payload
import Backoffice.Api.Envelope
import Backoffice.Api.Service
import Backoffice.Main
import Backoffice.Proofs.Octets
import Backoffice.Proofs.Base64Canonical
import Backoffice.Proofs.JsonRoundTrip
import Backoffice.Proofs.ClaimSet
import Backoffice.Proofs.ClaimSchema
import Backoffice.Proofs.TokenVerification
import Backoffice.Proofs.SignedTokens
import Backoffice.Proofs.Refresh
import Backoffice.Proofs.BearerHeader
import Backoffice.Proofs.BearerGate
import Backoffice.Proofs.StatelessTokens
import Backoffice.Proofs.DistinctUsers
import Backoffice.Proofs.AccountChecks
import Backoffice.Proofs.FixtureWrites
import Backoffice.Proofs.BcryptHash
import Backoffice.Proofs.LiveUsers
import Backoffice.Proofs.SharedAddresses
import Backoffice.Proofs.StartupChecks
import Backoffice.Proofs.ErrorAnswers
