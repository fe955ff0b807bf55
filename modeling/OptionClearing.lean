import OptionClearing.Checksum.Sha256
import OptionClearing.Dispute.Exhibit
import OptionClearing.ForeignCall
import OptionClearing.Host.Recording
import OptionClearing.Host.Session
import OptionClearing.Proofs.Record.RoundTrip
import OptionClearing.Proofs.Dispute.Agreement
import OptionClearing.Proofs.Settlement.Exact
import OptionClearing.Proofs.Purchase.Decision
import OptionClearing.Proofs.Settlement.Coherence
import OptionClearing.Proofs.Dispute.Guarantee
import OptionClearing.Proofs.Host.Protocol
import OptionClearing.Proofs.Host.History
import OptionClearing.Proofs.Host.FailClosed
import OptionClearing.Proofs.Record.Bytewise
import OptionClearing.Proofs.ForeignCall
import OptionClearing.Proofs.Purchase.Narrowing
import OptionClearing.Proofs.Purchase.Validation
import OptionClearing.Proofs.Checksum.Separation
import OptionClearing.Proofs.Dispute.Neighbours
import OptionClearing.Proofs.Record.Reversal
import OptionClearing.Proofs.Dispute.ForeignOrder
import OptionClearing.Proofs.Dispute.Branches
import OptionClearing.Proofs.Settlement.Accounting
import OptionClearing.Proofs.Settlement.Monotone
import OptionClearing.Proofs.Settlement.Splitting
import OptionClearing.Proofs.Settlement.Parity
import OptionClearing.Proofs.Settlement.Pricing
import OptionClearing.Proofs.Dispute.Localisation
import OptionClearing.Proofs.Settlement.Indifference
import OptionClearing.Proofs.Record.Grammar
import OptionClearing.Proofs.Purchase.Identity
import OptionClearing.Proofs.Purchase.Region
import OptionClearing.Proofs.Checksum.Words
import OptionClearing.Proofs.Record.Placement
import OptionClearing.Proofs.Amount
