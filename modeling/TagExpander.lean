import TagExpander.Recipe
import TagExpander.ErrorClass
import TagExpander.Library.Methods
import TagExpander.Session
import TagExpander.Settings
import TagExpander.Shelf
import TagExpander.Journal
import TagExpander.Brackets
import TagExpander.OnePass
import TagExpander.Proofs.Isolation
import TagExpander.Proofs.SinglePass
import TagExpander.Proofs.Pairing
import TagExpander.Proofs.CallByValue
import TagExpander.Proofs.Concatenation
import TagExpander.Proofs.Passthrough
import TagExpander.Proofs.Reporting
import TagExpander.Proofs.RoundTrip
import TagExpander.Proofs.Interleaving
import TagExpander.Proofs.Reentry
import TagExpander.Proofs.Splitting
import TagExpander.Proofs.Confinement
import TagExpander.Proofs.Ranging
import TagExpander.Proofs.Rolling
import TagExpander.Proofs.Finishing
import TagExpander.Proofs.Writable
import TagExpander.Proofs.Remembering
import TagExpander.Proofs.Calling
import TagExpander.Proofs.Building
import TagExpander.Proofs.Sharing
import TagExpander.Proofs.Registering
import TagExpander.Proofs.Hiding
