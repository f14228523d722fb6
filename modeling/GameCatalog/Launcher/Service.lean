import GameCatalog.Launcher.Error
import GameCatalog.Launcher.Format
import GameCatalog.Service.World

/-!
The services for launchers: product keys are issued, listed, switched on and off, and
redeemed for sessions, and sessions are looked up by their tokens.
-/

namespace GameCatalog

/-- The status that a text names; a revoked key is an inactive one. -/
def KeyStatus.parse (text : String) : Except LauncherError KeyStatus :=
  if text = "active" then .ok .active
  else if text = "inactive" ∨ text = "revoked" then .ok .inactive
  else .error (.invalidStatus text)

def Repository.validateSession (repository : Repository) (token : String) (now : Instant) :
    Except LauncherError LauncherAccess :=
  match repository.findLauncherSession token with
  | .error error => .error (.ofStore error)
  | .ok none => .error .invalidToken
  | .ok (some access) =>
      if access.session.isExpiredAt now then .error .expired else .ok access

namespace Launcher

/-- How many keys may be issued at once. -/
def maxKeys : Nat := 1000

def ask {Result : Type} (question : Repository → Except StoreError Result) :
    Job LauncherError Result :=
  (Job.ask question).mapError .ofStore

def drawKeys (createdAt : Instant) : (count : Nat) → Job LauncherError (List ProductKey)
  | 0 => return []
  | count + 1 => do
      let id ← Job.drawIdentifier
      let text ← Job.drawSymbols ProductKeyText.draw
      return ⟨id, ⟨text⟩, .active, createdAt⟩ :: (← drawKeys createdAt count)

def generateKeys (edition : EditionId) (count : Nat) : Job LauncherError (List ProductKey) := do
  if count = 0 ∨ maxKeys < count then throw .invalidKeyNumber
  if (← ask (·.getEdition edition)).isNone then throw (.invalidEdition edition)
  let keys ← drawKeys (← get).clock count
  (Job.mutate .saveProductKeys (·.saveProductKeys edition keys)).mapError .ofStore
  return keys

/-- The keys of an edition, or those with one status. -/
def listKeys (edition : EditionId) (status : Option KeyStatus) :
    Job LauncherError (List ProductKey) := do
  if (← ask (·.getEdition edition)).isNone then throw (.invalidEdition edition)
  let statuses :=
    match status with
    | some status => [status]
    | none => [.active, .inactive]
  ask (·.listProductKeys edition statuses)

/-- Switches a key of an edition; nothing is written when it has the status already. -/
def setStatus (status : KeyStatus) (edition : EditionId) (id : ProductKeyId) :
    Job LauncherError ProductKey := do
  match ← ask (·.getProductKey id) with
  | none => throw (.notFound ("product key " ++ id.toText))
  | some stored =>
      if stored.edition ≠ edition then throw (.notFound ("product key " ++ id.toText))
      if stored.productKey.status = status then return stored.productKey
      (Job.mutate .updateProductKeyStatus (·.updateProductKeyStatus id status)).mapError .ofStore
      return { stored.productKey with status }

def activate : EditionId → ProductKeyId → Job LauncherError ProductKey := setStatus .active

def revoke : EditionId → ProductKeyId → Job LauncherError ProductKey := setStatus .inactive

/-- How long a session lasts: so many seconds, but at least a millisecond. -/
def lifetime (seconds : Nat) : Nat := max 1 (1000 * seconds)

def redeem (seconds : Nat) (text : String) : Job LauncherError LauncherSession := do
  if !ProductKeyText.isValid text then throw .invalidKey
  match ← ask (·.findProductKey text) with
  | none => throw .invalidKey
  | some key =>
      if key.status ≠ .active then throw .invalidKey
      let id ← Job.drawIdentifier
      let token ← Job.drawSymbols AccessToken.draw
      let session : LauncherSession :=
        ⟨id, ⟨token⟩, (← get).clock.later (lifetime seconds)⟩
      (Job.mutate .saveLauncherSession (·.saveLauncherSession key.id session)).mapError .ofStore
      return session

end Launcher

end GameCatalog
