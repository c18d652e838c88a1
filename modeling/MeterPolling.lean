import MeterPolling.Text.Columns
import MeterPolling.Plan
import MeterPolling.Modbus.Request
import MeterPolling.Modbus.Response
import MeterPolling.TimeSpan
import MeterPolling.Options.Integer
import MeterPolling.Address
import MeterPolling.Polling
import MeterPolling.Bench
import MeterPolling.Gateway
import MeterPolling.Session.Queue
import MeterPolling.Output.Storage
import MeterPolling.Main
import MeterPolling.Proofs.Cycle.Prefix
import MeterPolling.Proofs.Modbus.Segmentation
import MeterPolling.Proofs.Session.Soundness
import MeterPolling.Proofs.Session.Refinement
import MeterPolling.Proofs.Session.RequestStream
import MeterPolling.Proofs.Session.ForeignFrames
import MeterPolling.Proofs.Polling.Accounting
import MeterPolling.Proofs.Polling.Shutdown
import MeterPolling.Proofs.Session.CycleFailures
import MeterPolling.Proofs.Cycle.Registers
import MeterPolling.Proofs.Probe.Story
import MeterPolling.Proofs.Modbus.Resynchronisation
import MeterPolling.Proofs.Session.QueueOrder
import MeterPolling.Proofs.Polling.Pacing
import MeterPolling.Proofs.Probe.Exit
import MeterPolling.Proofs.Modbus.RequestBuffer
import MeterPolling.Proofs.Session.Retries
import MeterPolling.Proofs.Session.Readings
import MeterPolling.Proofs.Decoder.Outcome
import MeterPolling.Proofs.Decoder.Numbers
import MeterPolling.Proofs.Decoder.Printing
import MeterPolling.Proofs.Output.RoundTrip
import MeterPolling.Proofs.Output.Batches
import MeterPolling.Proofs.Output.ScratchRoom
import MeterPolling.Proofs.Address.Port
import MeterPolling.Proofs.Cycle.Completable
import MeterPolling.Proofs.Polling.PlanChoice
import MeterPolling.Proofs.Probe.Refusal
