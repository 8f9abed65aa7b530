import SharedGateway.Api.Client
import SharedGateway.Controller
import SharedGateway.Json.Parser
import SharedGateway.Json.Printer
import SharedGateway.Main
import SharedGateway.Probe
import SharedGateway.Proofs.Attestation
import SharedGateway.Proofs.Bookkeeping
import SharedGateway.Proofs.BoundedRetry
import SharedGateway.Proofs.Codec.Canonical
import SharedGateway.Proofs.Contention
import SharedGateway.Proofs.Departure
import SharedGateway.Proofs.Failure
import SharedGateway.Proofs.Footprint
import SharedGateway.Proofs.Lineage
import SharedGateway.Proofs.Listing
import SharedGateway.Proofs.Loading
import SharedGateway.Proofs.Publication
import SharedGateway.Proofs.Redelivery
import SharedGateway.Proofs.Repetition
import SharedGateway.Proofs.Undisturbed
import SharedGateway.Proofs.Versions
import SharedGateway.Proofs.WriteAhead
import SharedGateway.Startup
import SharedGateway.Proofs.Json.Nested
import SharedGateway.Proofs.Json.Merging
import SharedGateway.Proofs.Json.Applying
import SharedGateway.Proofs.Acceptance
