import TokenAuthority.Failure
import TokenAuthority.Http.Exchange
import TokenAuthority.Profile
import TokenAuthority.Program
import TokenAuthority.Table

/-!
A provider turns one of its own access tokens into a profile of the user who holds the token. The
registry knows one provider for each id.
-/

namespace TokenAuthority

structure Provider where
  id : String
  identify : (accessToken : String) → Program Exchange.Answer (Except Failure Profile)

structure Registry where
  providers : Table Provider

namespace Registry

def empty : Registry := ⟨.empty⟩

/-- Adds a provider, in place of an earlier one with the same id. -/
def register (r : Registry) (p : Provider) : Registry := ⟨r.providers.insert p.id p⟩

def get? (r : Registry) (id : String) : Option Provider := r.providers.get? id

def count (r : Registry) : Nat := r.providers.size

end Registry

end TokenAuthority
