import GameCatalog.Proofs.Text.Form
import GameCatalog.Proofs.Web.Aside

/-!
What the steps of a login come to.  A login that begins sends the browser to an address whose
query names the new state and the challenge of the new verifier; a login that ends asks for a
token and then for the user behind it, unless the browser did not begin it.
-/

namespace GameCatalog

open Job

/-- The fields of the query of a URL. -/
def Url.fields (url : Url) : List (String × String) :=
  Form.decode (Utf8.encodeChars (url.query.getD []))

theorem Url.fields_addQuery (url : Url) (pairs : List (String × String)) :
    (url.addQuery (Form.encode pairs)).fields = url.fields ++ pairs := by
  have decoded := Form.decode_encode pairs
  unfold fields addQuery
  cases url.query with
  | none => exact decoded
  | some query =>
      cases query with
      | nil => exact decoded
      | cons character query =>
          have ampersand : String.utf8EncodeChar '&' = [0x26] := rfl
          simp only [Option.getD_some, Utf8.encodeChars_append]
          rw [Utf8.encodeChars_cons '&', ampersand, List.singleton_append, Form.decode_append,
            decoded]

namespace Login

/-- The address names the state, and the challenge of the verifier. -/
def Announces (address state verifier : String) : Prop :=
  ∃ url : Url, address = url.toText ∧ ("state", state) ∈ url.fields ∧
    ("code_challenge", Challenge.derive .s256 verifier) ∈ url.fields

theorem announces_authorizationUrl {base clientId state verifier address : String}
    (built : Challenge.authorizationUrl base clientId (Challenge.derive .s256 verifier) .s256
      state = .ok address) : Announces address state verifier := by
  unfold Challenge.authorizationUrl at built
  dsimp only at built
  split at built
  · rename_i url read
    refine ⟨_, (Except.ok.inj built).symm, ?_, ?_⟩ <;> rw [Url.fields_addQuery] <;>
      simp [Challenge.parameters]
  · exact nomatch built

theorem aside_start (settings : Settings) :
    (start settings).Aside fun begun =>
      Announces begun.1 begun.2.state begun.2.verifier.expose := by
  refine .bind (.drawSymbols _) fun verifier _ => ?_
  refine .bind (.drawSymbols _) fun state _ => ?_
  dsimp only
  split
  · rename_i address built
    exact .pure (announces_authorizationUrl built)
  · exact .throw _

def identityOf (now : Instant) (grant : TokenGrant) : IdentitySession :=
  ⟨⟨grant.accessToken⟩, expiry now grant, grant.refreshToken.map Secret.mk⟩

section Finish

variable {attempt : LoginAttempt} {code : String} {state : Option String} {now : Instant}
  {world : World}

def asked (world : World) (calls : List ProviderCall) : World :=
  { world with calls := world.calls ++ calls }

theorem exec_finish_of_no_attempt :
    exec (finish none code state now) world = (.error .noAttempt, world) := rfl

theorem exec_finish_of_other_state (other : state ≠ some attempt.state) :
    exec (finish (some attempt) code state now) world = (.error .stateMismatch, world) := by
  simp [finish, other]

/-- A login that the browser began is ended with what the identity provider answers. -/
theorem exec_finish_of_same_state :
    exec (finish (some attempt) code (some attempt.state) now) world =
      let exchange := ProviderCall.exchangeCode code attempt.verifier.expose
      match world.provider.exchangeCode code attempt.verifier.expose with
      | .error error => (.error error, asked world [exchange])
      | .ok grant =>
          let after := asked world [exchange, .fetchUser grant.accessToken]
          match world.provider.fetchUser grant.accessToken with
          | .error error => (.error error, after)
          | .ok user => (.ok ⟨identityOf now grant, user⟩, after) := by
  cases exchanged : world.provider.exchangeCode code attempt.verifier.expose with
  | error error => simp [finish, exec_bind, exchanged, asked]
  | ok grant =>
      cases fetched : world.provider.fetchUser grant.accessToken with
      | error error => simp [finish, exec_bind, exchanged, fetched, asked, -bind_pure_comp]
      | ok user => simp [finish, exec_bind, exchanged, fetched, asked, identityOf, -bind_pure_comp]

end Finish

theorem exec_logout (identity : IdentitySession) (world : World) :
    exec (logout (some identity)) world =
      (world.provider.revoke identity.accessToken.expose,
        asked world [.revoke identity.accessToken.expose]) := by
  simp [logout, asked]

end Login

end GameCatalog
