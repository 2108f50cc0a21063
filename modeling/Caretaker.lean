import Caretaker.Program.Runs
import Caretaker.Stamp
import Caretaker.Text.Quoted
import Caretaker.Text.Column
import Caretaker.Text.Utf8
import Caretaker.Decimal.Layout
import Caretaker.Json.Skip
import Caretaker.Json.Number
import Caretaker.Json.Record
import Caretaker.Json.Value
import Caretaker.Policy.Codec
import Caretaker.Lamp
import Caretaker.Reset
import Caretaker.Release
import Caretaker.Log.Console
import Caretaker.Log.Journal
import Caretaker.Attempt
import Caretaker.Provision
import Caretaker.Evidence
import Caretaker.Site
import Caretaker.Liveness.Registry
import Caretaker.Liveness.Canary
import Caretaker.Liveness.Patrol
import Caretaker.Cycle
import Caretaker.Bench
import Caretaker.Firmware
import Caretaker.Schedule
import Caretaker.Rehearsal
import Caretaker.Device.Store
import Caretaker.Device.Radio
import Caretaker.Device.Server
import Caretaker.Device.Pins
import Caretaker.Device.Trial
import Caretaker.Main
import Caretaker.Proofs.Program.Paths
import Caretaker.Proofs.Program.Alike
import Caretaker.Proofs.Provision.Credentials
import Caretaker.Proofs.Cycle.Steps
import Caretaker.Proofs.Cycle.Course
import Caretaker.Proofs.Cycle.Rounds
import Caretaker.Proofs.Cycle.Attempts
import Caretaker.Proofs.Cycle.Failures
import Caretaker.Proofs.Cycle.Gate
import Caretaker.Proofs.Cycle.Restart
import Caretaker.Proofs.Cycle.Turns
import Caretaker.Proofs.Log.Ring
import Caretaker.Proofs.Evidence.Acts
import Caretaker.Proofs.Evidence.Filing
import Caretaker.Proofs.Cycle.Indifference
import Caretaker.Proofs.Device.Calls
import Caretaker.Proofs.Device.Attempts
import Caretaker.Proofs.Device.Fetching
import Caretaker.Proofs.Device.Image
import Caretaker.Proofs.Device.Staging
import Caretaker.Proofs.Liveness.Steps
import Caretaker.Proofs.Liveness.History
import Caretaker.Proofs.Liveness.Enrollment
import Caretaker.Proofs.Liveness.Overdue
import Caretaker.Proofs.Liveness.Passes
import Caretaker.Proofs.Evidence.Deposits
import Caretaker.Proofs.Evidence.Chronicle
import Caretaker.Proofs.Evidence.Batches
import Caretaker.Proofs.Evidence.Archive
import Caretaker.Proofs.Liveness.Promptness
import Caretaker.Proofs.Liveness.Escalation
import Caretaker.Proofs.Json.Grammar
import Caretaker.Proofs.Json.Reading
import Caretaker.Proofs.Json.Texts
import Caretaker.Proofs.Json.Skipping
import Caretaker.Proofs.Json.Scalars
import Caretaker.Proofs.Json.Records
import Caretaker.Proofs.Json.Rendering
import Caretaker.Proofs.Policy.Settings
import Caretaker.Proofs.Policy.Overlay
import Caretaker.Proofs.Policy.RoundTrip
import Caretaker.Proofs.Reset.Marker
import Caretaker.Proofs.Device.Flash
import Caretaker.Proofs.Device.Delivery
import Caretaker.Proofs.Program.Veil
import Caretaker.Proofs.Schedule.Twins
import Caretaker.Proofs.Cycle.Parts
import Caretaker.Proofs.Cycle.Secrecy
import Caretaker.Proofs.Device.Veil
import Caretaker.Proofs.Device.Secrecy
import Caretaker.Proofs.Device.Manifest
import Caretaker.Proofs.Device.Looking
import Caretaker.Proofs.Device.Transfer
import Caretaker.Proofs.Device.Admission
import Caretaker.Proofs.Device.Consumption
import Caretaker.Proofs.Cycle.Colors
import Caretaker.Proofs.Device.Recovery
import Caretaker.Proofs.Device.Wiring
import Caretaker.Proofs.Device.Escalation
import Caretaker.Proofs.Attempt.Pairing
import Caretaker.Proofs.Liveness.Visits
import Caretaker.Proofs.Liveness.Blocking
import Caretaker.Proofs.Json.Values
import Caretaker.Proofs.Evidence.Export
import Caretaker.Proofs.Log.Console
import Caretaker.Proofs.Provision.Overrides
import Caretaker.Proofs.Text.Column
import Caretaker.Proofs.Device.Overrides
import Caretaker.Proofs.Cycle.Turnout
import Caretaker.Proofs.Rehearsal.Scenes
import Caretaker.Proofs.Rehearsal.Play
