import MediaTelemetry.Ledger.Json
import MediaTelemetry.Timeline
import MediaTelemetry.Proofs.KeyMap
import MediaTelemetry.Proofs.Sample
import MediaTelemetry.Proofs.Acceptance
import MediaTelemetry.Proofs.Edges
import MediaTelemetry.Proofs.Records
import MediaTelemetry.Proofs.Listing
import MediaTelemetry.Proofs.Packets
import MediaTelemetry.Proofs.Complete
import MediaTelemetry.Proofs.LostSamples
import MediaTelemetry.Proofs.Marks
import MediaTelemetry.Proofs.Windows
import MediaTelemetry.Proofs.ClockSteps
import MediaTelemetry.Proofs.Expectations
import MediaTelemetry.Proofs.Interleaving
import MediaTelemetry.Proofs.Delivery
import MediaTelemetry.Proofs.Notices
import MediaTelemetry.Proofs.Verdicts
import MediaTelemetry.Proofs.Requests
import MediaTelemetry.Proofs.Separation
import MediaTelemetry.Proofs.WindowSamples
import MediaTelemetry.Proofs.Appearances
import MediaTelemetry.Proofs.Classes
import MediaTelemetry.Proofs.Reading
import MediaTelemetry.Proofs.Litter
import MediaTelemetry.Proofs.Layers
import MediaTelemetry.Proofs.Figures
import MediaTelemetry.Proofs.ReportOrder
import MediaTelemetry.Proofs.SelectedPath
import MediaTelemetry.Proofs.Membership
import MediaTelemetry.Proofs.CounterFigures
import MediaTelemetry.Proofs.Watching
import MediaTelemetry.Proofs.Silences
import MediaTelemetry.Proofs.StaleLines
import MediaTelemetry.Proofs.BufferDelay
import MediaTelemetry.Proofs.LossIndicator
import MediaTelemetry.Proofs.LayerSize
import MediaTelemetry.Proofs.TimedRuns
import MediaTelemetry.Proofs.Turns
import MediaTelemetry.Proofs.Playing
import MediaTelemetry.Proofs.Cues
import MediaTelemetry.Proofs.Dictionaries
import MediaTelemetry.Proofs.Grammar
import MediaTelemetry.Proofs.WholeDoubles
import MediaTelemetry.Proofs.RoundTrip
import MediaTelemetry.Proofs.Ratios
import MediaTelemetry.Proofs.LineTexts
