import WarehouseAccess.Calendar
import WarehouseAccess.Calendar.Instant
import WarehouseAccess.Calendar.Reading
import WarehouseAccess.Calendar.Zone
import WarehouseAccess.CommandLine.Invocation
import WarehouseAccess.CommandLine.Options
import WarehouseAccess.CommandLine.Program
import WarehouseAccess.Connection.Basic
import WarehouseAccess.Connection.Error
import WarehouseAccess.Connection.Lifecycle
import WarehouseAccess.Connection.Manager
import WarehouseAccess.Connection.Query
import WarehouseAccess.Connection.Script
import WarehouseAccess.Connection.Session
import WarehouseAccess.ControlPlane.Client
import WarehouseAccess.ControlPlane.Error
import WarehouseAccess.ControlPlane.Exchange
import WarehouseAccess.ControlPlane.Operation
import WarehouseAccess.ControlPlane.Script
import WarehouseAccess.ControlPlane.Snapshot
import WarehouseAccess.Driver.Backend
import WarehouseAccess.Driver.Basic
import WarehouseAccess.Driver.ConnectionString
import WarehouseAccess.Driver.Document
import WarehouseAccess.Driver.Registry
import WarehouseAccess.Driver.Script
import WarehouseAccess.Driver.Timestamp
import WarehouseAccess.Driver.TokenBuffer
import WarehouseAccess.Duration.Document
import WarehouseAccess.Http
import WarehouseAccess.Json.Basic
import WarehouseAccess.Json.Fields
import WarehouseAccess.Json.Record
import WarehouseAccess.Json.Syntax
import WarehouseAccess.Main
import WarehouseAccess.Number.Binary64
import WarehouseAccess.Number.Digits
import WarehouseAccess.Profile.Basic
import WarehouseAccess.Profile.Choices
import WarehouseAccess.Profile.Document
import WarehouseAccess.Profile.Error
import WarehouseAccess.Profile.Field
import WarehouseAccess.Profile.Reading
import WarehouseAccess.Proofs.Calendar.IsoText
import WarehouseAccess.Proofs.Connection.Alike
import WarehouseAccess.Proofs.Connection.Asks
import WarehouseAccess.Proofs.Connection.Attempts
import WarehouseAccess.Proofs.Connection.Boundary
import WarehouseAccess.Proofs.Connection.Collecting
import WarehouseAccess.Proofs.Connection.Connecting
import WarehouseAccess.Proofs.Connection.Credentials
import WarehouseAccess.Proofs.Connection.Detached
import WarehouseAccess.Proofs.Connection.Disclosure
import WarehouseAccess.Proofs.Connection.Display
import WarehouseAccess.Proofs.Connection.Handles
import WarehouseAccess.Proofs.Connection.Logins
import WarehouseAccess.Proofs.Connection.Mechanisms
import WarehouseAccess.Proofs.Connection.Memory
import WarehouseAccess.Proofs.Connection.Openings
import WarehouseAccess.Proofs.Connection.Queries
import WarehouseAccess.Proofs.Connection.Retry
import WarehouseAccess.Proofs.Connection.RunEnd
import WarehouseAccess.Proofs.Connection.RunOnce
import WarehouseAccess.Proofs.Connection.Statements
import WarehouseAccess.Proofs.Connection.Views
import WarehouseAccess.Proofs.Connection.Workplace
import WarehouseAccess.Proofs.ControlPlane.Creation
import WarehouseAccess.Proofs.ControlPlane.Exchange
import WarehouseAccess.Proofs.ControlPlane.Handles
import WarehouseAccess.Proofs.ControlPlane.Identifiers
import WarehouseAccess.Proofs.ControlPlane.Orchestration
import WarehouseAccess.Proofs.ControlPlane.Polling
import WarehouseAccess.Proofs.ControlPlane.Requests
import WarehouseAccess.Proofs.ControlPlane.Snapshots
import WarehouseAccess.Proofs.ControlPlane.Transcript
import WarehouseAccess.Proofs.Driver.ConnectionFields
import WarehouseAccess.Proofs.Driver.CursorCalls
import WarehouseAccess.Proofs.Driver.FieldGrammar
import WarehouseAccess.Proofs.Driver.Parameters
import WarehouseAccess.Proofs.Driver.Record
import WarehouseAccess.Proofs.Driver.Resolution
import WarehouseAccess.Proofs.Driver.Timestamp
import WarehouseAccess.Proofs.Driver.TokenBuffer
import WarehouseAccess.Proofs.Driver.TokenPadding
import WarehouseAccess.Proofs.Json.Entries
import WarehouseAccess.Proofs.Number.Integer
import WarehouseAccess.Proofs.Number.Words
import WarehouseAccess.Proofs.Profile.Checks
import WarehouseAccess.Proofs.Profile.Entries
import WarehouseAccess.Proofs.Profile.Modes
import WarehouseAccess.Proofs.Profile.Rereading
import WarehouseAccess.Proofs.Profile.Saving
import WarehouseAccess.Proofs.RunResults
import WarehouseAccess.Proofs.Text.LetterCase
import WarehouseAccess.Proofs.Text.Substitute
import WarehouseAccess.Proofs.Token.Cache
import WarehouseAccess.Proofs.Token.Chain
import WarehouseAccess.Proofs.Token.Expiry
import WarehouseAccess.Proofs.Token.Issuer
import WarehouseAccess.Proofs.Token.Record
import WarehouseAccess.Proofs.Toml.Lines
import WarehouseAccess.Proofs.Toml.Strings
import WarehouseAccess.Proofs.Toml.Values
import WarehouseAccess.RunResults
import WarehouseAccess.Text.CaseTable
import WarehouseAccess.Text.Editing
import WarehouseAccess.Text.Lowercase
import WarehouseAccess.Text.Quoted
import WarehouseAccess.Text.Utf8
import WarehouseAccess.Token.Authority
import WarehouseAccess.Token.Basic
import WarehouseAccess.Token.ClientSecret
import WarehouseAccess.Token.CommandLineLogin
import WarehouseAccess.Token.Provider
import WarehouseAccess.Token.Script
import WarehouseAccess.Toml.Document
import WarehouseAccess.Toml.Printer
import WarehouseAccess.Toml.Reader
