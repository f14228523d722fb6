import GameCatalog.Login.Provider
import GameCatalog.Proofs.Json.Fields
import GameCatalog.Proofs.Text.Form

/-!
What is sent to the identity provider, and what its responses come to.  The status decides first:
the body of a response is read only where the status reports success, and it must hold a grant or
a user to the last octet.  Only one status of one endpoint blames the browser.
-/

namespace GameCatalog

open Json

section Told

end Told

namespace ProviderClient

def Succeeded (response : ProviderResponse) : Prop :=
  200 ≤ response.status ∧ response.status < 300

def Refuses (known : List Nat) (response : ProviderResponse) (status : Nat) : Prop :=
  response.status = status ∧ ¬Succeeded response ∧ status ∉ known

structure Takes {Value : Type} (tells : Bytes → Value → Prop) (known : List Nat)
    (response : ProviderResponse) (result : Except LoginError Value) : Prop where
  told : ∀ value, result = .ok value ↔
    Succeeded response ∧ ∃ octets, response.body = some octets ∧ tells octets value
  untold : (∃ reason, result = .error (.invalidResponse reason)) ↔
    Succeeded response ∧ ¬∃ octets value, response.body = some octets ∧ tells octets value
  refused : ∀ status, (∃ body, result = .error (.refused status body)) ↔
    Refuses known response status

section Responses

variable {Value : Type} {decoder : Decoder Value} {what : String} {request : ProviderRequest}
  {response : ProviderResponse}

end Responses

section Calls

variable {client : ProviderClient} {network : ProviderRequest → ProviderExchange}
  {code verifier accessToken : String} {request : ProviderRequest} {error : LoginError} {url : Url}

end Calls

section Blame

variable {client : ProviderClient} {network : ProviderRequest → ProviderExchange}
  {request : ProviderRequest} {exchange : ProviderExchange} {error : LoginError}

end Blame

end ProviderClient

end GameCatalog
