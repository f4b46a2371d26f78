import StakeLedger.Database.Cell
import StakeLedger.Database.Session
import StakeLedger.Expiry.Poller
import StakeLedger.Expiry.Tick
import StakeLedger.Lifecycle.Quorum
import StakeLedger.Main
import StakeLedger.Proofs.Database.Refinement
import StakeLedger.Proofs.Lifecycle.Path
import StakeLedger.Proofs.Lifecycle.Rejection
import StakeLedger.Proofs.Lifecycle.Timelocks
import StakeLedger.Service.Launch
import StakeLedger.Store.Disturbance
import StakeLedger.Store.Memory
import StakeLedger.Proofs.Interleaving.Requests
import StakeLedger.Proofs.Lifecycle.Alone
import StakeLedger.Proofs.Expiry.Settlement
import StakeLedger.Proofs.Quorum.Signatures
import StakeLedger.Proofs.Quorum.Receipts
import StakeLedger.Proofs.Quorum.Members
import StakeLedger.Proofs.Quorum.Transition
import StakeLedger.Proofs.Database.Programs
import StakeLedger.Proofs.Database.Storable
import StakeLedger.Proofs.Database.Unreadable
import StakeLedger.Proofs.Database.Readable
import StakeLedger.Proofs.Database.Blocked
import StakeLedger.Proofs.Lifecycle.Decision
import StakeLedger.Proofs.Lifecycle.Granted
import StakeLedger.Proofs.Lifecycle.Repetition
import StakeLedger.Proofs.Lifecycle.Linearization
import StakeLedger.Proofs.Lifecycle.Shape
import StakeLedger.Proofs.Expiry.Rounds
import StakeLedger.Proofs.Expiry.Interruption
import StakeLedger.Proofs.Params.Registration
import StakeLedger.Proofs.Params.Loading
import StakeLedger.Proofs.Interleaving.Agreement
import StakeLedger.Proofs.Params.Extension
import StakeLedger.Proofs.Expiry.Orphans
import StakeLedger.Proofs.Interleaving.Traces
import StakeLedger.Proofs.Expiry.Advance
import StakeLedger.Proofs.Expiry.Ticks
import StakeLedger.Proofs.Lifecycle.Independence
import StakeLedger.Proofs.Lifecycle.Effects
import StakeLedger.Proofs.Expiry.Exact
import StakeLedger.Proofs.Exchange.Normal
import StakeLedger.Proofs.Lifecycle.Opening
import StakeLedger.Proofs.Database.Queries
import StakeLedger.Proofs.Expiry.Fetching
import StakeLedger.Proofs.Bitcoin.Canonical
import StakeLedger.Proofs.Database.TransactionTexts
import StakeLedger.Proofs.Bitcoin.DisplayBytes
import StakeLedger.Proofs.Database.MarkerOrder
