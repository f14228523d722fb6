import GameCatalog.Random.Alphanumeric
import Mathlib.Data.Int.ModEq
import Mathlib.Tactic.Ring

/-!
The generator never yields a whole block of octets that pick no symbol.  An octet that picks
none is one of the eight greatest, so the state behind it lies in a narrow range.  Weighted with
certain small numbers, the states of a block sum up to half of the modulus, wherever the
generator stands; if all of them lay in the narrow range, their weighted sum would be too small
for that.
-/

namespace GameCatalog.Stream

section Draw

theorem pending_next (stream : Stream) : (next stream).2.pending = stream.pending.drop 1 := by
  obtain ⟨pending, state⟩ := stream
  cases pending with
  | nil => rfl
  | cons octet rest => rfl

theorem pending_draw (count : Nat) (stream : Stream) :
    (draw next count stream).2.pending = stream.pending.drop count := by
  induction count generalizing stream with
  | zero => rfl
  | succ count inductionHypothesis =>
      have drawn : (draw next (count + 1) stream).2 = (draw next count (next stream).2).2 := rfl
      rw [drawn, inductionHypothesis, pending_next, List.drop_drop, Nat.add_comm]

end Draw

section Combination

/-- The place of a state in the range of those that pick no symbol, seen from its middle. -/
def place (state : UInt64) : Int := 2 ^ 64 - 2 ^ 58 - state.toNat

def increment : Int := (6364136223846793005 - 1) * 2 ^ 58 - 1442695040888963407

theorem place_advance (state : UInt64) :
    place (advance state) ≡ 6364136223846793005 * place state + increment [ZMOD 2 ^ 64] := by
  have stepped : ((advance state).toNat : Int) =
      (state.toNat * 6364136223846793005 + 1442695040888963407) % 2 ^ 64 := by
    simp only [advance, UInt64.toNat_add, UInt64.toNat_mul, UInt64.toNat_ofNat]
    push_cast
    simp
  have modular : ((advance state).toNat : Int) ≡
      state.toNat * 6364136223846793005 + 1442695040888963407 [ZMOD 2 ^ 64] := by
    rw [stepped]
    exact Int.mod_modEq _ _
  have turned := Int.ModEq.sub_left (2 ^ 64 - 2 ^ 58) modular
  unfold place
  refine turned.trans (Int.modEq_iff_dvd.mpr ⟨6364136223846793005 - 1, ?_⟩)
  unfold increment
  ring

def weigh : List Int → UInt64 → Int
  | [], _ => 0
  | weight :: weights, state => weight * place state + weigh weights (advance state)

def slope : List Int → Int
  | [] => 0
  | weight :: weights => weight + slope weights * 6364136223846793005

def offset : List Int → Int
  | [] => 0
  | _ :: weights => slope weights * increment + offset weights

theorem weigh_modEq (weights : List Int) (state : UInt64) :
    weigh weights state ≡ slope weights * place state + offset weights [ZMOD 2 ^ 64] := by
  induction weights generalizing state with
  | nil => simp [weigh, slope, offset]
  | cons weight weights inductionHypothesis =>
      have stepped := ((place_advance state).mul_left (slope weights)).add_right (offset weights)
      have summed := ((inductionHypothesis (advance state)).trans stepped).add_left
        (weight * place state)
      have collected : weight * place state +
          (slope weights * (6364136223846793005 * place state + increment) + offset weights) =
          slope (weight :: weights) * place state + offset (weight :: weights) := by
        simp only [slope, offset]
        ring
      rw [collected] at summed
      exact summed

/-- How far a weighted sum of places can be from zero, in units of the greatest place. -/
def norm (weights : List Int) : Nat := (weights.map Int.natAbs).sum

theorem natAbs_place_le {state : UInt64}
    (rejected : Alphanumeric.accepts (state >>> 56).toUInt8 = false) :
    (place state).natAbs ≤ 2 ^ 58 := by
  have large : 248 * 2 ^ 56 ≤ state.toNat := by
    have octet : 248 ≤ (state >>> 56).toUInt8.toNat := by
      simpa [Alphanumeric.accepts, UInt8.le_iff_toNat_le] using rejected
    have shifted : (state >>> 56).toNat = state.toNat / 2 ^ 56 :=
      Nat.shiftRight_eq_div_pow state.toNat 56
    rw [UInt64.toNat_toUInt8, shifted] at octet
    omega
  have bounded := state.toNat_lt
  unfold place
  omega

/-- Places of states that pick no symbol have a small weighted sum. -/
theorem natAbs_weigh_le (weights : List Int) (state : UInt64)
    (rejected : ∀ octet ∈ (draw next weights.length ⟨[], state⟩).1,
      Alphanumeric.accepts octet = false) :
    (weigh weights (advance state)).natAbs ≤ norm weights * 2 ^ 58 := by
  induction weights generalizing state with
  | nil => simp [weigh]
  | cons weight weights inductionHypothesis =>
      simp only [List.length_cons, draw, next, List.mem_cons, forall_eq_or_imp] at rejected
      have first := Nat.mul_le_mul_left weight.natAbs (natAbs_place_le rejected.1)
      have later := inductionHypothesis (advance state) rejected.2
      have total := Int.natAbs_add_le (weight * place (advance state))
        (weigh weights (advance (advance state)))
      rw [Int.natAbs_mul] at total
      simp only [weigh, norm, List.map_cons, List.sum_cons, Nat.add_mul] at later ⊢
      omega

/-- Weights under which the generator, wherever it stands, gives the same sum of places. -/
def weights : List Int :=
  [-1, 1, -1, 0, 1, 0, -1, 0, 1, 0, 1, 0, 0, 0, 0, 0, 1, 1, 0, 1, -1, 1, 1, 0, 0, -1, 0, 0, 1, 1,
    0, 0, -1, 0, 0, 0, -1, 0, -1, 0, 0, 0, 0, -1, 0, 0, 0, 0, -1, -1] ++ List.replicate 14 0

theorem slope_weights : slope weights ≡ 0 [ZMOD 2 ^ 64] := by
  decide +kernel

theorem offset_weights : offset weights ≡ 2 ^ 63 [ZMOD 2 ^ 64] := by
  decide +kernel

theorem exists_accepted (state : UInt64) :
    ∃ octet ∈ (draw next Alphanumeric.blockSize ⟨[], state⟩).1,
      Alphanumeric.accepts octet = true := by
  by_contra none
  push Not at none
  have small := natAbs_weigh_le weights state fun octet membership =>
    Bool.eq_false_iff.mpr (none octet membership)
  have half : weigh weights (advance state) ≡ 2 ^ 63 [ZMOD 2 ^ 64] := by
    have linear := weigh_modEq weights (advance state)
    have constant := (slope_weights.mul_right (place (advance state))).add offset_weights
    rw [Int.zero_mul, Int.zero_add] at constant
    exact linear.trans constant
  have bound : norm weights = 22 := rfl
  rw [bound] at small
  unfold Int.ModEq at half
  omega

end Combination

end GameCatalog.Stream
