import Gatehouse.Base64
import Gatehouse.Config.Environment
import Gatehouse.Config.Load
import Gatehouse.Config.Setting
import Gatehouse.Config.Settings
import Gatehouse.Database.Roles
import Gatehouse.Database.Statement
import Gatehouse.Database.Users
import Gatehouse.Decimal.Binary64
import Gatehouse.Decimal.Integer
import Gatehouse.Decimal.Shortest
import Gatehouse.Federation.Binding
import Gatehouse.Federation.Error
import Gatehouse.Federation.Profile
import Gatehouse.Federation.Provider
import Gatehouse.Federation.SignIn
import Gatehouse.Filter.Basic
import Gatehouse.Filter.CodeSet
import Gatehouse.Filter.Compile
import Gatehouse.Filter.Sql
import Gatehouse.Hash.Blake2b
import Gatehouse.Hash.Mixing
import Gatehouse.Hash.Sha256
import Gatehouse.Http.Address
import Gatehouse.Http.Cookie
import Gatehouse.Http.MediaType
import Gatehouse.Http.Message
import Gatehouse.Http.Problem
import Gatehouse.Http.Service
import Gatehouse.Id
import Gatehouse.Json.Basic
import Gatehouse.Json.Decode
import Gatehouse.Json.Number
import Gatehouse.Json.Printer
import Gatehouse.Json.Reader
import Gatehouse.Json.Text
import Gatehouse.OpenId.Client
import Gatehouse.OpenId.IdTokenCheck
import Gatehouse.OpenId.KeySet
import Gatehouse.OpenId.Settings
import Gatehouse.OpenId.Transport
import Gatehouse.Password.Argon2
import Gatehouse.Password.Digest
import Gatehouse.Password.Error
import Gatehouse.Password.Hasher
import Gatehouse.Permission.Authorizer
import Gatehouse.Permission.Basic
import Gatehouse.Permission.Record
import Gatehouse.Permission.Store
import Gatehouse.Proofs.Base64
import Gatehouse.Proofs.Config.Credential
import Gatehouse.Proofs.Config.Environment
import Gatehouse.Proofs.Config.Tree
import Gatehouse.Proofs.Database.Agreement
import Gatehouse.Proofs.Database.Race
import Gatehouse.Proofs.Database.Roles
import Gatehouse.Proofs.Database.SameUsers
import Gatehouse.Proofs.Database.Table
import Gatehouse.Proofs.Decimal.Digits
import Gatehouse.Proofs.Decimal.Numeral
import Gatehouse.Proofs.Federation.Binding
import Gatehouse.Proofs.Federation.Profile
import Gatehouse.Proofs.Federation.Roles
import Gatehouse.Proofs.Federation.Scene
import Gatehouse.Proofs.Filter.Admission
import Gatehouse.Proofs.Filter.Canonical
import Gatehouse.Proofs.Filter.Membership
import Gatehouse.Proofs.Filter.Rendering
import Gatehouse.Proofs.Filter.Shape
import Gatehouse.Proofs.Http.Callback
import Gatehouse.Proofs.Http.Clearing
import Gatehouse.Proofs.Http.Cookie
import Gatehouse.Proofs.Http.Login
import Gatehouse.Proofs.Http.SignIn
import Gatehouse.Proofs.Id
import Gatehouse.Proofs.Json.Members
import Gatehouse.Proofs.Json.Number
import Gatehouse.Proofs.Json.Outcome
import Gatehouse.Proofs.Json.Passing
import Gatehouse.Proofs.Json.Record
import Gatehouse.Proofs.Json.Steps
import Gatehouse.Proofs.Json.Text
import Gatehouse.Proofs.Json.Typed
import Gatehouse.Proofs.Json.Value
import Gatehouse.Proofs.OpenId.AuthUrl
import Gatehouse.Proofs.OpenId.Scopes
import Gatehouse.Proofs.Password.Digest
import Gatehouse.Proofs.Password.Hasher
import Gatehouse.Proofs.Permission.History
import Gatehouse.Proofs.Permission.Listing
import Gatehouse.Proofs.Permission.Record
import Gatehouse.Proofs.Permission.Union
import Gatehouse.Proofs.Session.Caller
import Gatehouse.Proofs.Session.Deactivation
import Gatehouse.Proofs.Session.Effect
import Gatehouse.Proofs.Session.Failure
import Gatehouse.Proofs.Session.History
import Gatehouse.Proofs.Session.LastWrite
import Gatehouse.Proofs.Session.Lineage
import Gatehouse.Proofs.Session.Outage
import Gatehouse.Proofs.Session.Outstanding
import Gatehouse.Proofs.Session.Pending
import Gatehouse.Proofs.Session.Pool
import Gatehouse.Proofs.Session.Revocation
import Gatehouse.Proofs.Session.Written
import Gatehouse.Proofs.Sql.Condition
import Gatehouse.Proofs.Sql.Fragment
import Gatehouse.Proofs.Sql.Token
import Gatehouse.Proofs.Text.Cut
import Gatehouse.Proofs.Text.Form
import Gatehouse.Proofs.Text.Order
import Gatehouse.Proofs.Text.Trim
import Gatehouse.Proofs.Text.Utf8
import Gatehouse.Proofs.Token.Claims
import Gatehouse.Proofs.Token.Envelope
import Gatehouse.Proofs.Token.Lifetime
import Gatehouse.Proofs.Token.Nodes
import Gatehouse.Proofs.Token.Parts
import Gatehouse.Proofs.Token.Soundness
import Gatehouse.Proofs.Url.Query
import Gatehouse.Proofs.User.Directory
import Gatehouse.Proofs.User.Frame
import Gatehouse.Proofs.User.Names
import Gatehouse.Proofs.User.Numbers
import Gatehouse.Scope
import Gatehouse.Session.Authenticator
import Gatehouse.Session.Error
import Gatehouse.Session.Service
import Gatehouse.StoreError
import Gatehouse.Text.Blank
import Gatehouse.Text.Form
import Gatehouse.Text.Printable
import Gatehouse.Text.Punycode
import Gatehouse.Text.Quoted
import Gatehouse.Text.Utf8
import Gatehouse.Time.Moment
import Gatehouse.Token.Claims
import Gatehouse.Token.Codec
import Gatehouse.Token.Envelope
import Gatehouse.Token.Error
import Gatehouse.Token.Settings
import Gatehouse.Toml.Lexical
import Gatehouse.Toml.Reader
import Gatehouse.Toml.Scalar
import Gatehouse.Toml.Table
import Gatehouse.Url.Basic
import Gatehouse.Url.Domain
import Gatehouse.Url.Host
import Gatehouse.User.Basic
import Gatehouse.User.Directory
import Gatehouse.User.Record
import Gatehouse.User.Store
