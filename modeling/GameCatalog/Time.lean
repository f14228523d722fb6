/-!
Instants, as milliseconds since the beginning of 1970.  Moving an instant never wraps:
it stops at the last instant in one direction and at the first in the other.
-/

namespace GameCatalog

/-- Milliseconds since the beginning of 1970. -/
abbrev Instant := UInt64

namespace Instant

/-- The last instant. -/
def last : Nat := 0xFFFFFFFFFFFFFFFF

/-- The instant so many milliseconds later, or the last one. -/
def later (instant : Instant) (milliseconds : Nat) : Instant :=
  UInt64.ofNat (min last (instant.toNat + milliseconds))

/-- The instant so many milliseconds earlier, or the first one. -/
def earlier (instant : Instant) (milliseconds : Nat) : Instant :=
  UInt64.ofNat (instant.toNat - milliseconds)

theorem toNat_later (instant : Instant) (milliseconds : Nat) :
    (instant.later milliseconds).toNat = min last (instant.toNat + milliseconds) := by
  unfold later
  rw [UInt64.toNat_ofNat']
  exact Nat.mod_eq_of_lt (by unfold last; omega)

theorem toNat_earlier (instant : Instant) (milliseconds : Nat) :
    (instant.earlier milliseconds).toNat = instant.toNat - milliseconds := by
  have below := instant.toNat_lt
  unfold earlier
  rw [UInt64.toNat_ofNat']
  exact Nat.mod_eq_of_lt (by omega)

/-- A span that is too long for an instant may be cut short before an instant is moved by it. -/
theorem later_min_last (instant : Instant) (milliseconds : Nat) :
    instant.later (min last milliseconds) = instant.later milliseconds := by
  apply UInt64.toNat_inj.mp
  rw [toNat_later, toNat_later]
  omega

theorem lt_later_iff {now instant : Instant} {milliseconds : Nat} :
    now < instant.later milliseconds ↔ now.toNat < min last (instant.toNat + milliseconds) := by
  rw [UInt64.lt_iff_toNat_lt, toNat_later]

end Instant

end GameCatalog
