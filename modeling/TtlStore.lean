import TtlStore.Main
import TtlStore.Proofs.Clearing.Account
import TtlStore.Proofs.Closing
import TtlStore.Proofs.Flat.Refinement
import TtlStore.Proofs.Index.Buckets
import TtlStore.Proofs.Intervals
import TtlStore.Proofs.Ledger.Balance
import TtlStore.Proofs.Session.Commutation
import TtlStore.Proofs.Session.Coverage
import TtlStore.Proofs.Session.Exactness
import TtlStore.Proofs.Session.Overdue
import TtlStore.Proofs.Session.Readings
import TtlStore.Proofs.Session.VisitOrder
import TtlStore.Proofs.Soak.Balance
import TtlStore.Proofs.Soak.CommandLine
import TtlStore.Proofs.Soak.Independence
import TtlStore.Proofs.Soak.Options
import TtlStore.Proofs.Soak.Recurrence
import TtlStore.Proofs.Store.WritePaths
import TtlStore.Proofs.Sweeper.Lateness
import TtlStore.Proofs.Sweeper.Timeline
