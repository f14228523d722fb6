import GameCatalog.Proofs.Login.Provider
import GameCatalog.Proofs.Web.LoginEndings

/-!
The identity provider, as the gateway reaches it over HTTP.  What is posted to it, what its
responses come to, and the one response of it for which a browser is blamed.
-/

namespace GameCatalog

namespace ProviderClient

variable {client : ProviderClient} {network : ProviderRequest → ProviderExchange}
  {gateway : Gateway} {request : Request} {world : World}

section Refusing

open Gateway

/-- A client whose name would part the fields of a form, if it could. -/
def ampersand : ProviderClient := ⟨"https://idp.example/api/v3/", "game&catalog=1"⟩

def refusing (_ : ProviderRequest) : ProviderExchange := .answered ⟨400, none⟩

end Refusing

end ProviderClient

end GameCatalog
