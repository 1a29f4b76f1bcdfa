import Sdwan.Text.Quoted
import Sdwan.Text.Utf8
import Sdwan.Net.Coded
import Sdwan.Validation.Check
import Sdwan.Version.Constraint
import Sdwan.Url.Parse
import Sdwan.Http.Agent
import Sdwan.Api.Envelope
import Sdwan.Api.Endpoint
import Sdwan.Api.Query
import Sdwan.Api.Retry
import Sdwan.Api.Id
import Sdwan.Api.Wire
import Sdwan.Api.Client
import Sdwan.Policy.Builder
import Sdwan.Policy.Client
import Sdwan.Files
import Sdwan.Platform
import Sdwan.Stock
import Sdwan.Tenant.Client
import Sdwan.Feature.Client
import Sdwan.Feature.Interface.Basic
import Sdwan.Http.Script
import Sdwan.Proofs.Api.Attempts
import Sdwan.Proofs.Feature.Place
import Sdwan.Proofs.Feature.Tabular
import Sdwan.Proofs.Json.Members
import Sdwan.Proofs.Feature.Lossless
import Sdwan.Proofs.Feature.Interface
import Sdwan.Proofs.Feature.Kinds
import Sdwan.Proofs.Api.Requests
import Sdwan.Proofs.Feature.Client
import Sdwan.Proofs.Json.Draft
import Sdwan.Proofs.Json.Faithful
import Sdwan.Proofs.Net.Address
import Sdwan.Proofs.Net.Coded
import Sdwan.Proofs.Models
import Sdwan.Proofs.Submission
import Sdwan.Proofs.Version.Order
import Sdwan.Proofs.Url.Form
import Sdwan.Proofs.Url.Parse
import Sdwan.Proofs.Api.Building
import Sdwan.Proofs.Api.Calls
import Sdwan.Proofs.Api.Config
import Sdwan.Proofs.Api.Gate
import Sdwan.Proofs.Api.Sessions
import Sdwan.Proofs.RoundTrip
import Sdwan.Proofs.Policy.Entrywise
import Sdwan.Proofs.Feature.Requirements
import Sdwan.Proofs.Policy.Parts
import Sdwan.Proofs.Url.Pairs
import Sdwan.Proofs.Url.Reference
import Sdwan.Proofs.Api.Origin
import Sdwan.Proofs.Tenant.Token
import Sdwan.Proofs.Policy.Requests
import Sdwan.Proofs.Api.Login
import Sdwan.Proofs.Api.Secrecy
import Sdwan.Proofs.Policy.Positions
import Sdwan.Proofs.Api.Templates
import Sdwan.Proofs.Version.Lexicographic
import Sdwan.Proofs.Version.Reading
import Sdwan.Proofs.Version.Constraints
import Sdwan.Proofs.Policy.EntryTexts
import Sdwan.Proofs.Policy.Rules
import Sdwan.Proofs.Policy.Fallback
import Sdwan.Proofs.Policy.Filling
import Sdwan.Proofs.Policy.FirstEntry
import Sdwan.Proofs.Api.Backoff
import Sdwan.Proofs.Api.Transient
import Sdwan.Proofs.Json.Brackets
import Sdwan.Proofs.Api.Diagnostics
import Sdwan.Proofs.Feature.Concord
import Sdwan.Proofs.Feature.Composed
import Sdwan.Proofs.Url.Punycode
import Sdwan.Proofs.Url.Percent
import Sdwan.Proofs.Url.Authority
import Sdwan.Proofs.Url.Host
import Sdwan.Proofs.Stock.Names
import Sdwan.Proofs.Url.Written
import Sdwan.Proofs.Url.Slash
import Sdwan.Proofs.Api.Addresses
import Sdwan.Proofs.Tenant.TokenAddress
import Sdwan.Proofs.Feature.Recovery
import Sdwan.Proofs.Validation.Integers
import Sdwan.Proofs.Feature.Hardware
