import GameCatalog.Service.World

/-!
The login flow.  `start` makes a verifier and sends the browser to the identity
provider with its challenge; `finish` takes the code that the browser comes back with
and turns it into a session; `logout` ends the session at the identity provider.
-/

namespace GameCatalog

inductive Authentication where
  | valid
  | expired
  | noSession
  deriving DecidableEq, Repr

namespace Authentication

/-- What a session, if there is one, amounts to at an instant. -/
def ofSession (session : Option IdentitySession) (now : Instant) : Authentication :=
  match session with
  | none => .noSession
  | some session => if session.isExpiredAt now then .expired else .valid

def label : Authentication → String
  | .valid => "Valid"
  | .expired => "Expired"
  | .noSession => "NoSession"

end Authentication

namespace Login

/-- Where the identity provider is, and how the gateway is known to it. -/
structure Settings where
  base : String
  clientId : String
  deriving DecidableEq, Repr

/-- How long before its end at the identity provider a token is given up here. -/
def margin : Nat := 5000

/-- When a token is given up that was granted now. -/
def expiry (now : Instant) (grant : TokenGrant) : Instant :=
  (now.later (1000 * grant.expiresIn.toNat)).earlier margin

structure Outcome where
  session : IdentitySession
  user : User
  deriving DecidableEq

/-- Begins a login: the address to send the browser to, and what it has to keep. -/
def start (settings : Settings) : Job LoginError (String × LoginAttempt) := do
  let verifier ← Job.drawSymbols (draw Challenge.verifierLength)
  let state ← Job.drawSymbols (draw Challenge.stateLength)
  let challenge := Challenge.derive .s256 verifier
  match Challenge.authorizationUrl settings.base settings.clientId challenge .s256 state with
  | .ok url => return (url, ⟨.s256, ⟨verifier⟩, state⟩)
  | .error error => throw error
where
  draw (length : Nat) (stream : Stream) : String × Stream :=
    let (characters, stream) := Alphanumeric.draw length stream
    (String.ofList characters, stream)

def finish (attempt : Option LoginAttempt) (code : String) (state : Option String)
    (now : Instant) : Job LoginError Outcome := do
  let some attempt := attempt | throw .noAttempt
  if state ≠ some attempt.state then throw .stateMismatch
  let grant ← Job.call (.exchangeCode code attempt.verifier.expose)
    (·.exchangeCode code attempt.verifier.expose)
  let user ← Job.call (.fetchUser grant.accessToken) (·.fetchUser grant.accessToken)
  return ⟨⟨⟨grant.accessToken⟩, expiry now grant, grant.refreshToken.map Secret.mk⟩, user⟩

def logout (session : Option IdentitySession) : Job LoginError Unit := do
  let some session := session | throw .noSession
  Job.call (.revoke session.accessToken.expose) (·.revoke session.accessToken.expose)

end Login

end GameCatalog
