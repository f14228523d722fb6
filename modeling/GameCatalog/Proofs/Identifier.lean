import GameCatalog.Identifier
import GameCatalog.Proofs.Text.Ascii
import Mathlib.Algebra.Group.Nat.Defs

/-!
An identifier is read back from its written form.
-/

namespace GameCatalog.Id

open Utf8

theorem length_digits (count number : Nat) : (digits count number).length = count := by
  induction count generalizing number with
  | zero => rfl
  | succ count inductionHypothesis =>
      rw [digits, List.length_append, inductionHypothesis]
      rfl

theorem lt_of_mem_digits {count number digit : Nat} (membership : digit ∈ digits count number) :
    digit < 16 := by
  induction count generalizing number with
  | zero => contradiction
  | succ count inductionHypothesis =>
      rw [digits, List.mem_append, List.mem_singleton] at membership
      rcases membership with earlier | rfl
      · exact inductionHypothesis earlier
      · omega

/-- So many digits are enough for every number below that power of sixteen. -/
theorem ofDigits_digits {count number : Nat} (small : number < 16 ^ count) :
    ofDigits (digits count number) = number := by
  induction count generalizing number with
  | zero =>
      rw [Nat.pow_zero, Nat.lt_one_iff] at small
      rw [small]
      rfl
  | succ count inductionHypothesis =>
      have smaller : number / 16 < 16 ^ count := by omega
      have front := inductionHypothesis smaller
      unfold ofDigits at front ⊢
      rw [digits, List.foldl_append, front]
      simp only [List.foldl_cons, List.foldl_nil]
      omega

def hexOctets (values : List Nat) : Bytes :=
  values.map fun value => UInt8.ofNat (Ascii.hexDigit value).toNat

theorem hexOctets_append (first second : List Nat) :
    hexOctets (first ++ second) = hexOctets first ++ hexOctets second :=
  List.map_append

theorem encodeChars_hexDigits {values : List Nat} (small : ∀ value ∈ values, value < 16) :
    encodeChars (values.map Ascii.hexDigit) = hexOctets values := by
  induction values with
  | nil => rfl
  | cons value values inductionHypothesis =>
      have ascii := Ascii.hexDigit_ascii (small value (by simp))
      rw [List.map_cons, encodeChars_cons, encodeChar_of_ascii ascii,
        inductionHypothesis fun other membership => small other (by simp [membership])]
      rfl

theorem mapM_hexValue? {values : List Nat} (small : ∀ value ∈ values, value < 16) :
    (hexOctets values).mapM Ascii.hexValue? = some values := by
  induction values with
  | nil => rfl
  | cons value values inductionHypothesis =>
      have read := Ascii.hexValue?_hexDigit (small value (by simp))
      have others := inductionHypothesis fun other membership => small other (by simp [membership])
      unfold hexOctets at others ⊢
      simp [read, others]

variable {entity : Entity}

theorem ofPlain?_hexOctets (id : Id entity) :
    ofPlain? (hexOctets (digits 32 id.number.toNat)) = some id := by
  have small : ∀ value ∈ digits 32 id.number.toNat, value < 16 :=
    fun _ membership => lt_of_mem_digits membership
  have bound : id.number.toNat < 16 ^ 32 := id.number.isLt
  have long : (hexOctets (digits 32 id.number.toNat)).length = 32 := by
    rw [hexOctets, List.length_map, length_digits]
  unfold ofPlain?
  rw [if_pos long, mapM_hexValue? small, Option.map_some, ofDigits_digits bound,
    BitVec.ofNat_toNat]
  simp

theorem ungrouped?_joined {a b c d e : Bytes} (lengthA : a.length = 8) (lengthB : b.length = 4)
    (lengthC : c.length = 4) (lengthD : d.length = 4) (lengthE : e.length = 12) :
    ungrouped? (a ++ 0x2D :: (b ++ 0x2D :: (c ++ 0x2D :: (d ++ 0x2D :: e)))) =
      some (a ++ b ++ c ++ d ++ e) := by
  simp [ungrouped?, lengthA, lengthB, lengthC, lengthD, lengthE, List.drop_append,
    List.drop_of_length_le]

theorem append_groups (values : List Nat) :
    values.take 8 ++ (values.drop 8).take 4 ++ (values.drop 12).take 4 ++
      (values.drop 16).take 4 ++ values.drop 20 = values := by
  have group (count more : Nat) :
      values.take count ++ (values.drop count).take more = values.take (count + more) :=
    List.take_add.symm
  rw [group 8 4, group 12 4, group 16 4, List.take_append_drop]

theorem encode_toText (id : Id entity) :
    encode id.toText =
      hexOctets ((digits 32 id.number.toNat).take 8) ++
        0x2D :: (hexOctets (((digits 32 id.number.toNat).drop 8).take 4) ++
          0x2D :: (hexOctets (((digits 32 id.number.toNat).drop 12).take 4) ++
            0x2D :: (hexOctets (((digits 32 id.number.toNat).drop 16).take 4) ++
              0x2D :: hexOctets ((digits 32 id.number.toNat).drop 20)))) := by
  have hyphen : String.utf8EncodeChar '-' = [0x2D] := rfl
  have group {values : List Nat} (part : values.Sublist (digits 32 id.number.toNat)) :
      encodeChars (values.map Ascii.hexDigit) = hexOctets values :=
    encodeChars_hexDigits fun _ membership => lt_of_mem_digits (part.subset membership)
  have dropped (count : Nat) := List.drop_sublist count (digits 32 id.number.toNat)
  unfold toText toChars
  rw [encode_ofList]
  simp only [← List.map_take, ← List.map_drop, encodeChars_append, encodeChars_cons, hyphen,
    group (List.take_sublist _ _), group ((List.take_sublist _ _).trans (dropped _)),
    group (dropped _), List.cons_append, List.nil_append]

theorem ofOctets?_of_grouped {octets : Bytes} (size : octets.length = 36) :
    (ofOctets? octets : Option (Id entity)) = ofGrouped? octets := by
  unfold ofOctets?
  rw [if_neg (by omega), if_pos size]

theorem ungrouped?_toText (id : Id entity) :
    ungrouped? (encode id.toText) = some (hexOctets (digits 32 id.number.toNat)) := by
  have long := length_digits 32 id.number.toNat
  rw [encode_toText, ungrouped?_joined (by simp [hexOctets, long]) (by simp [hexOctets, long])
    (by simp [hexOctets, long]) (by simp [hexOctets, long]) (by simp [hexOctets, long])]
  simp only [← hexOctets_append, append_groups]

theorem length_encode_toText (id : Id entity) : (encode id.toText).length = 36 := by
  rw [encode_toText]
  simp [hexOctets, length_digits]

/-- An identifier is read back from its written form. -/
@[simp]
theorem ofText?_toText (id : Id entity) : ofText? id.toText = some id := by
  unfold ofText?
  rw [ofOctets?_of_grouped (length_encode_toText id), ofGrouped?, ungrouped?_toText,
    Option.bind_some, ofPlain?_hexOctets]

end GameCatalog.Id
