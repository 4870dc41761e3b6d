import Handover.Action
import Handover.Bytes
import Handover.Calendar
import Handover.CommandLine.Command
import Handover.CommandLine.Options
import Handover.CommandLine.Places
import Handover.CommandLine.Program
import Handover.CommandLine.Report
import Handover.Configuration.File
import Handover.Configuration.Manager
import Handover.Configuration.Schema
import Handover.Console.Line
import Handover.Console.Markup
import Handover.Console.Table
import Handover.Consumer
import Handover.Fault
import Handover.Files.Host
import Handover.Files.Path
import Handover.Files.Tree
import Handover.Json.Reader
import Handover.Json.Writer
import Handover.LegacyStore
import Handover.Lookup
import Handover.Main
import Handover.Number.Binary64
import Handover.Number.Integer
import Handover.Number.Rounded
import Handover.Number.Shortest
import Handover.Number.Text
import Handover.Outcome
import Handover.Parcel
import Handover.Record.AccessPoint
import Handover.Record.Basic
import Handover.Record.Field
import Handover.Record.Json
import Handover.Record.Network
import Handover.Record.Rule
import Handover.Settings.Device
import Handover.Settings.KeyValueStore
import Handover.Settings.Provider
import Handover.Settings.Setting
import Handover.Settings.Unavailable
import Handover.Snapshot.Argument
import Handover.Snapshot.Config
import Handover.Snapshot.Settings
import Handover.Source
import Handover.Text.Base64
import Handover.Text.Basic
import Handover.Text.Blank
import Handover.Text.Digit
import Handover.Text.Encoding
import Handover.Text.File
import Handover.Text.Printable
import Handover.Text.Quoted
import Handover.Text.Range
import Handover.Text.Similarity
import Handover.Text.Utf8
import Handover.Text.Width
import Handover.Transfer.File
import Handover.Transfer.Framing
import Handover.Transfer.Malformed
import Handover.Transfer.Payload
import Handover.Value.Basic
import Handover.Value.Display
import Handover.Value.Order
import Handover.Yaml.Cursor
import Handover.Yaml.Document
import Handover.Yaml.Fault
import Handover.Yaml.Input
import Handover.Yaml.Lexeme.Block
import Handover.Yaml.Lexeme.Name
import Handover.Yaml.Lexeme.Plain
import Handover.Yaml.Lexeme.Quoted
import Handover.Yaml.Node
import Handover.Yaml.Node.Reader
import Handover.Yaml.Node.Value
import Handover.Yaml.Page
import Handover.Yaml.Printer.Document
import Handover.Yaml.Printer.Scalar
import Handover.Yaml.Scalar
import Handover.Yaml.Tag
import Handover.Yaml.Token
import Handover.Yaml.Token.Lexer
import Handover.Proofs.Json.Written
import Handover.Proofs.Record.Written
import Handover.Proofs.Parcel.Layout
import Handover.Proofs.Transfer.Reading
import Handover.Proofs.Transfer.SettingsPayload
import Handover.Proofs.Transfer.ConfigPayload
import Handover.Proofs.Action
import Handover.Proofs.CommandLine.Export
import Handover.Proofs.CommandLine.ExportLoss
import Handover.Proofs.Value.Order
import Handover.Proofs.Consumer.Claim
import Handover.Proofs.Consumer.Boots
import Handover.Proofs.LegacyStore.Removal
import Handover.Proofs.LegacyStore.Faults
import Handover.Proofs.Transfer.Delimited
import Handover.Proofs.Consumer.Receive
import Handover.Proofs.Consumer.Delivery
import Handover.Proofs.CommandLine.TakeOver
import Handover.Proofs.Transfer.AllOrNothing
import Handover.Proofs.LegacyStore.HandOver
import Handover.Proofs.LegacyStore.OneVersion
import Handover.Proofs.Parcel.Channel
import Handover.Proofs.Parcel.Calls
import Handover.Proofs.Parcel.Position
import Handover.Proofs.Transfer.Envelope
import Handover.Proofs.LegacyStore.Contents
import Handover.Proofs.LegacyStore.Settings
import Handover.Proofs.Settings.KeyValueStore
import Handover.Proofs.Record.Entering
import Handover.Proofs.Snapshot.Form
import Handover.Proofs.Snapshot.Builders
import Handover.Proofs.Text.Trim
import Handover.Proofs.Number.Numeral
import Handover.Proofs.Settings.Puts
import Handover.Proofs.Settings.DeviceCalls
import Handover.Proofs.Settings.Agreement
import Handover.Proofs.Files.Path
import Handover.Proofs.Configuration.Document
import Handover.Proofs.Configuration.Loading
import Handover.Proofs.Configuration.Whole
import Handover.Proofs.Yaml.Printed
import Handover.Proofs.Configuration.Dump
import Handover.Proofs.Configuration.Starting
import Handover.Proofs.Configuration.Saving
import Handover.Proofs.Parcel.Failing
import Handover.Proofs.CommandLine.Failure
import Handover.Proofs.Transfer.Writable
import Handover.Proofs.CommandLine.SettingsFile
