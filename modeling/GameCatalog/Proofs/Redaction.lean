import GameCatalog.Proofs.Store.Document
import GameCatalog.Proofs.Web.SessionCookie

/-!
What becomes of secrets.  A value that holds secrets falls into what is left when they are blotted
out, and the secrets themselves.  The rendering for logs is made from the first part alone, and
the written form from both: values that differ in nothing but their secrets look the same in a log
and are told apart by their JSON.
-/

namespace GameCatalog

class Confidential (Value : Type) where
  /-- The value with the empty text for each of its secrets. -/
  redact : Value → Value
  /-- The secrets, in the order of their fields. -/
  secrets : Value → List Secret

open Confidential

def SameButSecrets {Value : Type} [Confidential Value] (left right : Value) : Prop :=
  redact left = redact right

/-- Redaction takes away the secrets, however many they are, and nothing else. -/
class LawfulConfidential (Value : Type) [Confidential Value] : Prop where
  length_secrets : ∀ {left right : Value}, SameButSecrets left right →
    (secrets left).length = (secrets right).length
  eq_of_secrets : ∀ {left right : Value}, SameButSecrets left right →
    secrets left = secrets right → left = right

section Records

instance : Confidential Secret where
  redact _ := ⟨""⟩
  secrets secret := [secret]

/-- It is no secret whether a value is there. -/
instance {Value : Type} [Confidential Value] : Confidential (Option Value) where
  redact value := value.map redact
  secrets value := (value.map secrets).getD []

instance : Confidential ProductKey where
  redact productKey := { productKey with key := redact productKey.key }
  secrets productKey := secrets productKey.key

instance : Confidential LauncherSession where
  redact session := { session with accessToken := redact session.accessToken }
  secrets session := secrets session.accessToken

instance : Confidential IdentitySession where
  redact session := { session with
    accessToken := redact session.accessToken
    refreshToken := redact session.refreshToken }
  secrets session := secrets session.accessToken ++ secrets session.refreshToken

instance : Confidential LoginAttempt where
  redact attempt := { attempt with verifier := redact attempt.verifier }
  secrets attempt := secrets attempt.verifier

instance : Confidential ClientSession where
  redact session := { session with
    identity := redact session.identity
    attempt := redact session.attempt }
  secrets session := secrets session.identity ++ secrets session.attempt

end Records

section Laws

variable {First Second : Type} [Confidential First] [Confidential Second]
  [LawfulConfidential First] [LawfulConfidential Second]

instance : LawfulConfidential Secret where
  length_secrets _ := rfl
  eq_of_secrets _ same := List.singleton_inj.mp same

instance : LawfulConfidential (Option First) where
  length_secrets := by
    intro left right alike
    cases left <;> cases right
    case none.none => rfl
    case some.some left right =>
      have inside : SameButSecrets left right := Option.some.inj alike
      have counted : (secrets left).length = (secrets right).length :=
        LawfulConfidential.length_secrets inside
      exact counted
    all_goals exact nomatch alike
  eq_of_secrets := by
    intro left right alike same
    cases left <;> cases right
    case none.none => rfl
    case some.some left right =>
      have inside : SameButSecrets left right := Option.some.inj alike
      exact congrArg some (LawfulConfidential.eq_of_secrets inside same)
    all_goals exact nomatch alike

theorem SameButSecrets.length_append {first otherFirst : First} {second otherSecond : Second}
    (alikeFirst : SameButSecrets first otherFirst) (alikeSecond : SameButSecrets second otherSecond) :
    (secrets first ++ secrets second).length = (secrets otherFirst ++ secrets otherSecond).length := by
  rw [List.length_append, List.length_append, LawfulConfidential.length_secrets alikeFirst,
    LawfulConfidential.length_secrets alikeSecond]

theorem SameButSecrets.eq_of_append {first otherFirst : First} {second otherSecond : Second}
    (alikeFirst : SameButSecrets first otherFirst) (alikeSecond : SameButSecrets second otherSecond)
    (same : secrets first ++ secrets second = secrets otherFirst ++ secrets otherSecond) :
    first = otherFirst ∧ second = otherSecond := by
  obtain ⟨sameFirst, sameSecond⟩ :=
    List.append_inj same (LawfulConfidential.length_secrets alikeFirst)
  exact ⟨LawfulConfidential.eq_of_secrets alikeFirst sameFirst,
    LawfulConfidential.eq_of_secrets alikeSecond sameSecond⟩

instance : LawfulConfidential ProductKey where
  length_secrets _ := rfl
  eq_of_secrets := by
    rintro ⟨id, key, status, createdAt⟩ ⟨_, otherKey, _, _⟩ alike same
    obtain ⟨rfl, -, rfl, rfl⟩ := ProductKey.mk.inj alike
    have sameKey : key = otherKey := List.singleton_inj.mp same
    rw [sameKey]

instance : LawfulConfidential LauncherSession where
  length_secrets _ := rfl
  eq_of_secrets := by
    rintro ⟨id, token, expiresAt⟩ ⟨_, otherToken, _⟩ alike same
    obtain ⟨rfl, -, rfl⟩ := LauncherSession.mk.inj alike
    have sameToken : token = otherToken := List.singleton_inj.mp same
    rw [sameToken]

instance : LawfulConfidential LoginAttempt where
  length_secrets _ := rfl
  eq_of_secrets := by
    rintro ⟨method, verifier, state⟩ ⟨_, otherVerifier, _⟩ alike same
    obtain ⟨rfl, -, rfl⟩ := LoginAttempt.mk.inj alike
    have sameVerifier : verifier = otherVerifier := List.singleton_inj.mp same
    rw [sameVerifier]

instance : LawfulConfidential IdentitySession where
  length_secrets := by
    rintro ⟨token, expiresAt, refresh⟩ ⟨otherToken, _, otherRefresh⟩ alike
    obtain ⟨alikeToken, -, alikeRefresh⟩ := IdentitySession.mk.inj alike
    have tokens : SameButSecrets token otherToken := alikeToken
    have refreshes : SameButSecrets refresh otherRefresh := alikeRefresh
    exact tokens.length_append refreshes
  eq_of_secrets := by
    rintro ⟨token, expiresAt, refresh⟩ ⟨otherToken, _, otherRefresh⟩ alike same
    obtain ⟨alikeToken, rfl, alikeRefresh⟩ := IdentitySession.mk.inj alike
    have tokens : SameButSecrets token otherToken := alikeToken
    have refreshes : SameButSecrets refresh otherRefresh := alikeRefresh
    obtain ⟨rfl, rfl⟩ := tokens.eq_of_append refreshes same
    rfl

instance : LawfulConfidential ClientSession where
  length_secrets := by
    rintro ⟨identity, user, attempt⟩ ⟨otherIdentity, _, otherAttempt⟩ alike
    obtain ⟨alikeIdentity, -, alikeAttempt⟩ := ClientSession.mk.inj alike
    have identities : SameButSecrets identity otherIdentity := alikeIdentity
    have attempts : SameButSecrets attempt otherAttempt := alikeAttempt
    exact identities.length_append attempts
  eq_of_secrets := by
    rintro ⟨identity, user, attempt⟩ ⟨otherIdentity, _, otherAttempt⟩ alike same
    obtain ⟨alikeIdentity, rfl, alikeAttempt⟩ := ClientSession.mk.inj alike
    have identities : SameButSecrets identity otherIdentity := alikeIdentity
    have attempts : SameButSecrets attempt otherAttempt := alikeAttempt
    obtain ⟨rfl, rfl⟩ := identities.eq_of_append attempts same
    rfl

end Laws

section Rendering

/-- What is rendered for logs tells nothing of the secrets, and what is written tells all of them. -/
def KeepsSecrets {Value : Type} [Confidential Value] (inspect : Value → String)
    (toJson : Value → Json) : Prop :=
  ∀ left right, SameButSecrets left right →
    inspect left = inspect right ∧
    ((toJson left).compact = (toJson right).compact ↔ secrets left = secrets right) ∧
    ((toJson left).pretty = (toJson right).pretty ↔ secrets left = secrets right)

theorem keepsSecrets_of_recovers {Value : Type} [Confidential Value] [LawfulConfidential Value]
    {inspect : Value → String} {toJson : Value → Json} {decoder : Json.Decoder Value}
    (redacted : ∀ value, inspect (redact value) = inspect value)
    (recovers : Json.Recovers decoder toJson) : KeepsSecrets inspect toJson := by
  intro left right alike
  refine ⟨?_, ?_, ?_⟩
  · rw [← redacted left, ← redacted right, alike]
  · constructor
    · intro same
      rw [recovers.compact_injective same]
    · intro same
      rw [LawfulConfidential.eq_of_secrets alike same]
  · constructor
    · intro same
      rw [recovers.pretty_injective same]
    · intro same
      rw [LawfulConfidential.eq_of_secrets alike same]

theorem inspect_optional_redact {Value : Type} [Confidential Value] {inspect : Value → String}
    (redacted : ∀ value, inspect (redact value) = inspect value) (value : Option Value) :
    Inspect.optional inspect (redact value) = Inspect.optional inspect value := by
  cases value with
  | none => rfl
  | some value => exact congrArg (fun content => "Some(" ++ content ++ ")") (redacted value)

theorem IdentitySession.inspect_redact (session : IdentitySession) :
    (redact session).inspect = session.inspect := by
  have refresh := @inspect_optional_redact Secret _ Secret.display (fun _ => rfl)
    session.refreshToken
  change Inspect.record "IdentitySession" [_, _,
    ("refresh_token", Inspect.optional Secret.display (redact session.refreshToken))] = _
  rw [refresh]
  rfl

theorem ClientSession.inspect_redact (session : ClientSession) :
    (redact session).inspect = session.inspect := by
  have identity := inspect_optional_redact IdentitySession.inspect_redact session.identity
  have attempt := @inspect_optional_redact LoginAttempt _ LoginAttempt.inspect (fun _ => rfl)
    session.attempt
  change Inspect.record "ClientSession"
    [("identity", Inspect.optional IdentitySession.inspect (redact session.identity)), _,
      ("auth_state", Inspect.optional LoginAttempt.inspect (redact session.attempt))] = _
  rw [identity, attempt]
  rfl

end Rendering

/--
Secrets, and the five kinds of records that hold some, are rendered for logs without them and
written with them.  A secret is rendered in one way only, whoever it is shown to.
-/
theorem secrets_kept :
    KeepsSecrets Secret.display (fun secret => .text secret.expose) ∧
    KeepsSecrets ProductKey.inspect ProductKey.toJson ∧
    KeepsSecrets LauncherSession.inspect LauncherSession.toJson ∧
    KeepsSecrets IdentitySession.inspect IdentitySession.toJson ∧
    KeepsSecrets LoginAttempt.inspect LoginAttempt.toJson ∧
    KeepsSecrets ClientSession.inspect ClientSession.toJson := by
  refine ⟨?_, ?_, ?_, ?_, ?_, ?_⟩
  · exact keepsSecrets_of_recovers (fun _ => rfl) Json.recovers_secret
  · exact keepsSecrets_of_recovers (fun _ => rfl) ProductKey.recovers
  · exact keepsSecrets_of_recovers (fun _ => rfl) LauncherSession.recovers
  · exact keepsSecrets_of_recovers IdentitySession.inspect_redact IdentitySession.recovers
  · exact keepsSecrets_of_recovers (fun _ => rfl) LoginAttempt.recovers
  · exact keepsSecrets_of_recovers ClientSession.inspect_redact ClientSession.recovers

theorem secrets_kept_refreshed :
    let session (token refresh verifier : String) : ClientSession := {
      identity := some ⟨⟨token⟩, 60000, some ⟨refresh⟩⟩
      user := some ⟨⟨7⟩, "Åda 🎲"⟩
      attempt := some ⟨.s256, ⟨verifier⟩, "state"⟩ }
    let before := session "first token" "" "verifier \"1\""
    let after := session "second" "refresh" ""
    SameButSecrets before after ∧ before.inspect = after.inspect ∧
      before.toJson.compact ≠ after.toJson.compact := by
  intro session before after
  have alike : SameButSecrets before after := rfl
  obtain ⟨shown, written, -⟩ := secrets_kept.2.2.2.2.2 before after alike
  refine ⟨alike, shown, ?_⟩
  intro same
  exact absurd (written.mp same) (by decide)

end GameCatalog
