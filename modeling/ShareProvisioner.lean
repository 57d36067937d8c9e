import ShareProvisioner.Failure.Custom
import ShareProvisioner.Json.Writer
import ShareProvisioner.Lifecycle
import ShareProvisioner.Main
import ShareProvisioner.Proofs.Cluster.Address
import ShareProvisioner.Proofs.Cluster.Answers
import ShareProvisioner.Proofs.Cluster.Malformed
import ShareProvisioner.Proofs.CommandLine.Collection
import ShareProvisioner.Proofs.CommandLine.Override
import ShareProvisioner.Proofs.CommandLine.Preflight
import ShareProvisioner.Proofs.Lifecycle.Freshness
import ShareProvisioner.Proofs.Lifecycle.Ownership
import ShareProvisioner.Proofs.Lifecycle.Removal
import ShareProvisioner.Proofs.Lifecycle.Reversal
import ShareProvisioner.Proofs.Lifecycle.Secrets
import ShareProvisioner.Proofs.Parameters.Acceptance
import ShareProvisioner.Proofs.Parameters.Monitors
import ShareProvisioner.Proofs.Provisioner.Content
import ShareProvisioner.Proofs.Provisioner.Decision
import ShareProvisioner.Proofs.Provisioner.Fault
import ShareProvisioner.Proofs.Provisioner.Outcome
import ShareProvisioner.Proofs.Provisioner.Retrieval
import ShareProvisioner.Proofs.Provisioner.Sequence
import ShareProvisioner.Proofs.Provisioner.Survival
import ShareProvisioner.Proofs.Secret.Selection
import ShareProvisioner.Proofs.Service.Acceptance
import ShareProvisioner.Proofs.Service.Malformed
import ShareProvisioner.Proofs.Service.Refinement
import ShareProvisioner.Proofs.Service.Secrecy
import ShareProvisioner.Proofs.Service.Target
import ShareProvisioner.Proofs.Volume.Rendering
import ShareProvisioner.Proofs.Volume.RoundTrip
import ShareProvisioner.Server.Start
import ShareProvisioner.Service.Api
import ShareProvisioner.Proofs.CommandLine.Collection
