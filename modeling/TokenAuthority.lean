import TokenAuthority.Database.Connection
import TokenAuthority.Database.Script
import TokenAuthority.Google
import TokenAuthority.Http.Route
import TokenAuthority.Proofs.Interleaving.Chains
import TokenAuthority.Proofs.Interleaving.LegalState
import TokenAuthority.Proofs.Redemption.Provenance
import TokenAuthority.Proofs.Refresh.Explained
import TokenAuthority.Proofs.Sequence.Authentication
import TokenAuthority.Proofs.Sequence.Isolation
import TokenAuthority.Proofs.Interleaving.Updates
import TokenAuthority.Proofs.Refresh.Forward
import TokenAuthority.Proofs.Dialogue.Basic
import TokenAuthority.Proofs.Dialogue.Conduct
import TokenAuthority.Proofs.Dialogue.Tolerance
import TokenAuthority.Proofs.Dialogue.Faults
import TokenAuthority.Proofs.Redemption.Delegation
import TokenAuthority.Proofs.Database.Agreement
import TokenAuthority.Proofs.Http.Refinement
import TokenAuthority.Proofs.Store.Indexes
import TokenAuthority.Proofs.Interleaving.Links
import TokenAuthority.Proofs.Interleaving.Issuance
import TokenAuthority.Proofs.Secrecy.Concealment
import TokenAuthority.Proofs.Database.Failures
import TokenAuthority.Proofs.Database.Chaining
import TokenAuthority.Proofs.Alone.Outcome
import TokenAuthority.Proofs.Alone.Login
import TokenAuthority.Proofs.Database.Recovery
import TokenAuthority.Proofs.Alone.Provider
import TokenAuthority.Proofs.Google.Identity
import TokenAuthority.Proofs.Http.Credentials
import TokenAuthority.Proofs.Http.Methods
import TokenAuthority.Proofs.Http.Logout
import TokenAuthority.Proofs.Json.Wire
import TokenAuthority.Proofs.Settings.Lifetimes
import TokenAuthority.Proofs.Password.Agreement
