import AirUpdate.Bench
import AirUpdate.CommandLine.Reader
import AirUpdate.CommandLine.Run
import AirUpdate.Feed
import AirUpdate.Main
import AirUpdate.Proofs.Coverage
import AirUpdate.Proofs.Delivery
import AirUpdate.Proofs.Histories
import AirUpdate.Proofs.Interruption
import AirUpdate.Proofs.Outstanding
import AirUpdate.Proofs.Quiet
import AirUpdate.Proofs.Resumption
import AirUpdate.Settings.Printer
import AirUpdate.Proofs.Malformed
import AirUpdate.Proofs.Arrivals
import AirUpdate.Proofs.Pauses
import AirUpdate.Proofs.Likeness
import AirUpdate.Proofs.Exchange
import AirUpdate.Proofs.Pacing
import AirUpdate.Proofs.CallLog
import AirUpdate.Proofs.Scanning
import AirUpdate.Proofs.Connections
import AirUpdate.Proofs.Watching
import AirUpdate.Proofs.Course
import AirUpdate.Proofs.Releases
import AirUpdate.Proofs.Laps
import AirUpdate.Proofs.Partition
import AirUpdate.Proofs.Range
import AirUpdate.Proofs.Handshake
import AirUpdate.Proofs.Consumption
import AirUpdate.Proofs.Tidings
import AirUpdate.Proofs.Forwarding
import AirUpdate.Proofs.Loading
import AirUpdate.Proofs.Reports
import AirUpdate.Proofs.Padding
import AirUpdate.Proofs.Destinations
import AirUpdate.Proofs.Pursuit
import AirUpdate.Proofs.Provenance
