import Telemetry.Cache.Basic
import Telemetry.Cache.Concurrent
import Telemetry.Command.Arguments
import Telemetry.Command.Basic
import Telemetry.Command.Capture
import Telemetry.Command.Decode
import Telemetry.Command.Ingest
import Telemetry.Command.Inspect
import Telemetry.Command.Run
import Telemetry.Config.Document
import Telemetry.Config.Settings
import Telemetry.Files
import Telemetry.Ingest.Basic
import Telemetry.Ingest.Exposition
import Telemetry.Ingest.Metrics
import Telemetry.Ingest.Record
import Telemetry.Json.Parser
import Telemetry.Json.Shape
import Telemetry.Json.Value
import Telemetry.Main
import Telemetry.Measurement.Basic
import Telemetry.Measurement.Document
import Telemetry.Measurement.Value
import Telemetry.Number.Binary
import Telemetry.Number.Numeral
import Telemetry.Number.Scan
import Telemetry.Number.Shortest
import Telemetry.Proofs.Cache.Advance
import Telemetry.Proofs.Cache.Expiry
import Telemetry.Proofs.Cache.Freshness
import Telemetry.Proofs.Cache.Overtaking
import Telemetry.Proofs.Cache.Step
import Telemetry.Proofs.Cache.Validity
import Telemetry.Proofs.Command.Agreement
import Telemetry.Proofs.Command.Outline
import Telemetry.Proofs.Command.Printed
import Telemetry.Proofs.Command.Publication
import Telemetry.Proofs.Command.Spelling
import Telemetry.Proofs.Config.Choice
import Telemetry.Proofs.Config.Range
import Telemetry.Proofs.Ingest.Accounting
import Telemetry.Proofs.Ingest.Announcement
import Telemetry.Proofs.Ingest.Counting
import Telemetry.Proofs.Ingest.Exit
import Telemetry.Proofs.Ingest.Failure
import Telemetry.Proofs.Ingest.ReadBack
import Telemetry.Proofs.Ingest.Reconciliation
import Telemetry.Proofs.Ingest.Size
import Telemetry.Proofs.Json.Pretty
import Telemetry.Proofs.Json.Quoted
import Telemetry.Proofs.Json.RoundTrip
import Telemetry.Proofs.Json.Shape
import Telemetry.Proofs.Measurement.Coercion
import Telemetry.Proofs.Measurement.Compatibility
import Telemetry.Proofs.Measurement.Envelope
import Telemetry.Proofs.Measurement.RoundTrip
import Telemetry.Proofs.Measurement.Splitting
import Telemetry.Proofs.Number.Closeness
import Telemetry.Proofs.Number.Decimal
import Telemetry.Proofs.Number.Layout
import Telemetry.Proofs.Number.Powers
import Telemetry.Proofs.Number.ReadBack
import Telemetry.Proofs.Number.Reading
import Telemetry.Proofs.Number.Rounding
import Telemetry.Proofs.Number.Shortest
import Telemetry.Proofs.Resolution.Classes
import Telemetry.Proofs.Resolution.Conservation
import Telemetry.Proofs.Resolution.Dependence
import Telemetry.Proofs.Resolution.ReadBack
import Telemetry.Proofs.Resolution.Refusal
import Telemetry.Proofs.Resolution.Size
import Telemetry.Proofs.Resolution.Splitting
import Telemetry.Proofs.Resolution.Truncation
import Telemetry.Proofs.Schema.Directory
import Telemetry.Proofs.Schema.Lookup
import Telemetry.Proofs.Schema.Repetition
import Telemetry.Proofs.Schema.RoundTrip
import Telemetry.Proofs.Schema.Validity
import Telemetry.Proofs.Text.Hex
import Telemetry.Proofs.Text.Utf8
import Telemetry.Proofs.Time.Calendar
import Telemetry.Proofs.Time.RoundTrip
import Telemetry.Proofs.Toml.Range
import Telemetry.Proofs.Wire.Canonical
import Telemetry.Proofs.Wire.Concatenation
import Telemetry.Proofs.Wire.Defects
import Telemetry.Proofs.Wire.Embedded
import Telemetry.Proofs.Wire.Grammar
import Telemetry.Proofs.Wire.ReadBack
import Telemetry.Proofs.Wire.Shortest
import Telemetry.Proofs.Wire.Stream
import Telemetry.Proofs.Wire.Truncation
import Telemetry.Proofs.Wire.Varint
import Telemetry.Proofs.Wire.Writer
import Telemetry.Proofs.Wire.Zigzag
import Telemetry.Resolution.Basic
import Telemetry.Resolution.Document
import Telemetry.Schema.Basic
import Telemetry.Schema.Document
import Telemetry.Schema.Entry
import Telemetry.Schema.Store
import Telemetry.Table
import Telemetry.Text.Character
import Telemetry.Text.Hex
import Telemetry.Text.Quoted
import Telemetry.Text.Utf8
import Telemetry.Time.Calendar
import Telemetry.Time.Instant
import Telemetry.Time.Rfc3339
import Telemetry.Toml.Parser
import Telemetry.Toml.Value
import Telemetry.Wire.Decode
import Telemetry.Wire.DecodeError
import Telemetry.Wire.Field
import Telemetry.Wire.Item
import Telemetry.Wire.Varint
import Telemetry.Wire.View
