import DepositLedger.Json.Codec
import DepositLedger.Json.Reader
import DepositLedger.Json.Writer
import DepositLedger.Memory.Operations
import DepositLedger.Proofs.Acceptance
import DepositLedger.Proofs.Alike
import DepositLedger.Proofs.Backends
import DepositLedger.Proofs.Balance
import DepositLedger.Proofs.Book
import DepositLedger.Proofs.Book.Accounts
import DepositLedger.Proofs.Book.Posting
import DepositLedger.Proofs.Book.Transactions
import DepositLedger.Proofs.Calls
import DepositLedger.Proofs.Chronology
import DepositLedger.Proofs.Codec
import DepositLedger.Proofs.Conditions
import DepositLedger.Proofs.Conduct
import DepositLedger.Proofs.Conservation
import DepositLedger.Proofs.Deposits
import DepositLedger.Proofs.DoubleEntry
import DepositLedger.Proofs.Engine
import DepositLedger.Proofs.Exchanges
import DepositLedger.Proofs.Failures
import DepositLedger.Proofs.Funds
import DepositLedger.Proofs.History
import DepositLedger.Proofs.Independence
import DepositLedger.Proofs.Integrity
import DepositLedger.Proofs.Isolation
import DepositLedger.Proofs.Journal
import DepositLedger.Proofs.Layers
import DepositLedger.Proofs.Loading
import DepositLedger.Proofs.Lookup
import DepositLedger.Proofs.Names
import DepositLedger.Proofs.NewAccounts
import DepositLedger.Proofs.Opening
import DepositLedger.Proofs.Operations
import DepositLedger.Proofs.Overdraft
import DepositLedger.Proofs.Permanence
import DepositLedger.Proofs.Places
import DepositLedger.Proofs.Range
import DepositLedger.Proofs.Reads
import DepositLedger.Proofs.Refusals
import DepositLedger.Proofs.Reversal
import DepositLedger.Proofs.Reversible
import DepositLedger.Proofs.Rows
import DepositLedger.Proofs.Runs
import DepositLedger.Proofs.Script
import DepositLedger.Proofs.Sums
import DepositLedger.Proofs.Undisturbed
import DepositLedger.Proofs.Units
import DepositLedger.Proofs.Validation
import DepositLedger.Proofs.Verdict
import DepositLedger.Proofs.WrittenTimes
import DepositLedger.Relational.Maintenance
import DepositLedger.Settings.Layers
