/-!
Texts that must not appear in logs.  A secret is compared and stored like any other
text, but every rendering meant for people shows the same placeholder.
-/

namespace GameCatalog

/-- A text that is shown to no one by accident. -/
structure Secret where
  /-- The text itself, for the places that need it. -/
  expose : String
  deriving DecidableEq

namespace Secret

/-- The least length of a secret for signing, in octets. -/
def minLength : Nat := 32

def placeholder : String := "[REDACTED]"

def display (_secret : Secret) : String := placeholder

end Secret

instance : Repr Secret where
  reprPrec secret _ := secret.display

end GameCatalog
