import Rebind.Value.Derived
import Rebind.Proofs.DepthBudget
import Rebind.Proofs.Locals
import Rebind.Proofs.CompoundUpdates
import Rebind.Proofs.Renewal
import Rebind.Proofs.AtomicProducts
import Rebind.Proofs.Pointwise
import Rebind.Proofs.ReferenceProducts
import Rebind.Proofs.ViewChains
import Rebind.Proofs.RoutedCalls
import Rebind.Proofs.Flush
import Rebind.Proofs.Spellings
import Rebind.Proofs.Extension
import Rebind.Proofs.Renaming
import Rebind.Proofs.Allocations
import Rebind.Proofs.CanonicalCodes
import Rebind.Proofs.Numbering
