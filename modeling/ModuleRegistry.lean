import ModuleRegistry.Http.Reception
import ModuleRegistry.Main
import ModuleRegistry.Session.Basic
import ModuleRegistry.Proofs.Exchanges
import ModuleRegistry.Proofs.Operations
import ModuleRegistry.Proofs.Addresses
import ModuleRegistry.Proofs.DotSegments
import ModuleRegistry.Proofs.Accounting
import ModuleRegistry.Proofs.Grammar
import ModuleRegistry.Proofs.Runs
import ModuleRegistry.Proofs.Concurrency
import ModuleRegistry.Proofs.Errors
import ModuleRegistry.Proofs.Provenance
import ModuleRegistry.Proofs.Telemetry
import ModuleRegistry.Proofs.Verbosity
import ModuleRegistry.Proofs.BaseAddresses
import ModuleRegistry.Proofs.Reconnection
import ModuleRegistry.Proofs.Secrecy
import ModuleRegistry.Proofs.Identifiers
import ModuleRegistry.Proofs.PercentCode
import ModuleRegistry.Proofs.Queries
import ModuleRegistry.Proofs.Records
import ModuleRegistry.Proofs.Handling
import ModuleRegistry.Proofs.Conditions
import ModuleRegistry.Proofs.LogOutput
import ModuleRegistry.Proofs.LogLines
import ModuleRegistry.Proofs.Identification
import ModuleRegistry.Proofs.LastWriter
import ModuleRegistry.Proofs.Stripping
import ModuleRegistry.Proofs.Trimming
import ModuleRegistry.Proofs.HeaderLines
import ModuleRegistry.Proofs.Comparison
import ModuleRegistry.Proofs.Readings
import ModuleRegistry.Proofs.Overrides
