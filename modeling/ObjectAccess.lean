import ObjectAccess.Access.Backend
import ObjectAccess.Access.Client
import ObjectAccess.Access.Operation
import ObjectAccess.Access.Registry
import ObjectAccess.Access.Resolver
import ObjectAccess.CommandLine.Arguments
import ObjectAccess.CommandLine.FileTree
import ObjectAccess.CommandLine.Help
import ObjectAccess.CommandLine.LogFilter
import ObjectAccess.CommandLine.Run
import ObjectAccess.Config
import ObjectAccess.Digest.Blocks
import ObjectAccess.Digest.Hmac
import ObjectAccess.Digest.Md5
import ObjectAccess.Digest.Sha256
import ObjectAccess.Directory
import ObjectAccess.Fault
import ObjectAccess.Idna.Direction
import ObjectAccess.Idna.Domain
import ObjectAccess.Idna.Joining
import ObjectAccess.Idna.Mapping
import ObjectAccess.Idna.Punycode
import ObjectAccess.Json.Container
import ObjectAccess.Json.Failure
import ObjectAccess.Json.Lexeme
import ObjectAccess.Json.Printer
import ObjectAccess.Json.Reader
import ObjectAccess.Json.Record
import ObjectAccess.Json.Skip
import ObjectAccess.Json.Value
import ObjectAccess.Listing
import ObjectAccess.Main
import ObjectAccess.Naming.BucketName
import ObjectAccess.Naming.ObjectKey
import ObjectAccess.Percent
import ObjectAccess.Policy.Action
import ObjectAccess.Policy.Combination
import ObjectAccess.Policy.Compiler
import ObjectAccess.Policy.Document
import ObjectAccess.Policy.Group
import ObjectAccess.Policy.Resource
import ObjectAccess.Policy.Specification
import ObjectAccess.Proofs.Percent
import ObjectAccess.Proofs.Text.Decimal
import ObjectAccess.Proofs.Text.Pieces
import ObjectAccess.Proofs.Text.Utf8
import ObjectAccess.Proofs.Time.Calendar
import ObjectAccess.Proofs.Time.Stamp
import ObjectAccess.Regex.CharacterSet
import ObjectAccess.Regex.Complaint
import ObjectAccess.Regex.Cursor
import ObjectAccess.Regex.Escape
import ObjectAccess.Regex.Nesting
import ObjectAccess.Regex.Place
import ObjectAccess.Regex.Reader
import ObjectAccess.Regex.Support
import ObjectAccess.Regex.Tree
import ObjectAccess.Signing.CanonicalRequest
import ObjectAccess.Signing.Credentials
import ObjectAccess.Signing.Error
import ObjectAccess.Signing.Presign
import ObjectAccess.Signing.Signature
import ObjectAccess.Signing.Verify
import ObjectAccess.Store.Basic
import ObjectAccess.Store.Bucket
import ObjectAccess.Store.Operation
import ObjectAccess.Text.Alphanumeric
import ObjectAccess.Text.Blank
import ObjectAccess.Text.Casing
import ObjectAccess.Text.CombiningClass
import ObjectAccess.Text.Composed
import ObjectAccess.Text.Composition
import ObjectAccess.Text.Concealed
import ObjectAccess.Text.Decimal
import ObjectAccess.Text.Hex
import ObjectAccess.Text.Mark
import ObjectAccess.Text.Pieces
import ObjectAccess.Text.Quoted
import ObjectAccess.Text.Ranges
import ObjectAccess.Text.Shortest
import ObjectAccess.Text.Table
import ObjectAccess.Text.Utf8
import ObjectAccess.Time.Calendar
import ObjectAccess.Time.Instant
import ObjectAccess.Time.Lifetime
import ObjectAccess.Time.Stamp
import ObjectAccess.Url.Endpoint
import ObjectAccess.Url.Error
import ObjectAccess.Url.FilePath
import ObjectAccess.Url.Host
import ObjectAccess.Url.Ipv4
import ObjectAccess.Url.Ipv6
import ObjectAccess.Url.Path
import ObjectAccess.Url.RequestTarget
import ObjectAccess.Url.Scheme
import ObjectAccess.Proofs.Signing.CanonicalRequest
import ObjectAccess.Proofs.Policy.Listing
import ObjectAccess.Proofs.Signing.Parameters
import ObjectAccess.Proofs.Signing.Expiry
import ObjectAccess.Proofs.Idna.Domain
import ObjectAccess.Proofs.Url.Host
import ObjectAccess.Proofs.Url.Endpoint
import ObjectAccess.Proofs.Url.RequestTarget
import ObjectAccess.Proofs.Signing.Presign
import ObjectAccess.Proofs.Signing.RoundTrip
import ObjectAccess.Proofs.Store.Contents
import ObjectAccess.Proofs.Store.History
import ObjectAccess.Proofs.Access.Normalised
import ObjectAccess.Proofs.Store.Pages
import ObjectAccess.Proofs.Access.Pages
import ObjectAccess.Proofs.Policy.Statements
import ObjectAccess.Proofs.Access.WellFormed
import ObjectAccess.Proofs.Access.Atomicity
import ObjectAccess.Proofs.Access.Resolver
import ObjectAccess.Proofs.Access.PublicPaths
import ObjectAccess.Proofs.Access.Validity
import ObjectAccess.Proofs.Json.Reading
import ObjectAccess.Proofs.Json.Value
import ObjectAccess.Proofs.Policy.Document
import ObjectAccess.Proofs.Access.Permissions
import ObjectAccess.Proofs.Signing.Window
import ObjectAccess.Proofs.Signing.ReadBack
import ObjectAccess.Proofs.Policy.Grants
import ObjectAccess.Proofs.Store.Heads
import ObjectAccess.Proofs.Store.Lifecycle
import ObjectAccess.Proofs.Store.Footprint
import ObjectAccess.Proofs.Store.Commutation
import ObjectAccess.Proofs.Store.Secrecy
import ObjectAccess.Proofs.Access.Secrecy
import ObjectAccess.Proofs.Access.DefaultBucket
import ObjectAccess.Proofs.Text.Casing
import ObjectAccess.Proofs.Text.Template
import ObjectAccess.Proofs.Signing.QueryOrder
import ObjectAccess.Proofs.Signing.Restated
import ObjectAccess.Proofs.Signing.ScopeDate
import ObjectAccess.Proofs.Signing.SignedHeaders
import ObjectAccess.Proofs.Text.Lossy
import ObjectAccess.Proofs.Decoding
import ObjectAccess.Proofs.Signing.CanonicalPath
import ObjectAccess.Proofs.Store.PlainUrl
import ObjectAccess.Proofs.Time.Lifetime
import ObjectAccess.Proofs.Access.Lifetime
import ObjectAccess.Proofs.Store.Continuation
import ObjectAccess.Proofs.Access.Deletion
import ObjectAccess.Proofs.Policy.Parts
import ObjectAccess.Proofs.Policy.Classification
import ObjectAccess.Proofs.Naming.MadeKeys
import ObjectAccess.Proofs.Access.MadeKeys
import ObjectAccess.Proofs.Naming.BucketName
import ObjectAccess.Proofs.Naming.Extension
import ObjectAccess.Proofs.Access.Storing
import ObjectAccess.Proofs.Access.Uploads
