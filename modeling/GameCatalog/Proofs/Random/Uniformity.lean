import GameCatalog.Proofs.Random.Alphanumeric
import Mathlib.Data.Set.Card

/-!
Texts are drawn without bias.  Four octets below 248 pick each symbol, so as many sequences of
accepted octets spell one text as another of the same length.  Together with what is drawn and
when drawing ends, this is all there is to say about the draw of a text.
-/

namespace GameCatalog.Alphanumeric

def picks (character : Char) : Set UInt8 :=
  {octet | octet < 248 ∧ symbol octet = character}

/-- The sequences of octets below 248 that spell a text. -/
def spellings (text : List Char) : Set Bytes :=
  {octets | (∀ octet ∈ octets, octet < 248) ∧ octets.map symbol = text}

section Symbol

variable {octet : UInt8} {place : Nat}

theorem nodup_alphabet : alphabet.Nodup := by decide

theorem symbol_eq_getElem_iff (inside : place < alphabet.length) :
    symbol octet = alphabet[place] ↔ octet.toNat % 62 = place := by
  have small : octet.toNat % 62 < alphabet.length := Nat.mod_lt _ (by decide)
  unfold symbol
  rw [List.getD_eq_getElem _ _ small]
  exact nodup_alphabet.getElem_inj_iff

theorem picks_getElem (inside : place < alphabet.length) :
    picks alphabet[place] =
      (Finset.range 4).image fun turn => UInt8.ofNat (place + 62 * turn) := by
  have few : alphabet.length = 62 := rfl
  ext octet
  simp only [picks, Set.mem_ofPred_eq, symbol_eq_getElem_iff inside, UInt8.lt_iff_toNat_lt,
    Finset.coe_image, Finset.coe_range, Set.mem_image, Set.mem_Iio]
  constructor
  · rintro ⟨below, rfl⟩
    have small : octet.toNat < 248 := below
    refine ⟨octet.toNat / 62, by omega, ?_⟩
    rw [Nat.mod_add_div, UInt8.ofNat_toNat]
  · rintro ⟨turn, isTurn, rfl⟩
    have small : place + 62 * turn < 248 := by omega
    rw [UInt8.toNat_ofNat', Nat.mod_eq_of_lt (by omega)]
    exact ⟨small, by omega⟩

theorem ncard_picks {character : Char} (isSymbol : character ∈ alphabet) :
    (picks character).ncard = 4 := by
  obtain ⟨place, inside, rfl⟩ := List.mem_iff_getElem.mp isSymbol
  have few : alphabet.length = 62 := rfl
  rw [picks_getElem inside, Set.ncard_coe_finset, Finset.card_image_of_injOn, Finset.card_range]
  intro first isFirst second isSecond same
  simp only [Finset.coe_range, Set.mem_Iio] at isFirst isSecond
  have places := congrArg UInt8.toNat same
  simp only [UInt8.toNat_ofNat'] at places
  omega

end Symbol

section Spelling

variable {character : Char} {text : List Char}

theorem spellings_nil : spellings [] = {[]} := by
  ext octets
  simp only [spellings, Set.mem_ofPred_eq, List.map_eq_nil_iff, Set.mem_singleton_iff]
  constructor
  · rintro ⟨-, empty⟩
    exact empty
  · rintro rfl
    exact ⟨fun _ => nofun, rfl⟩

theorem spellings_cons (character : Char) (text : List Char) :
    spellings (character :: text) =
      (fun pair => pair.1 :: pair.2) '' (picks character ×ˢ spellings text) := by
  ext octets
  simp only [spellings, picks, Set.mem_ofPred_eq, Set.mem_image, Set.mem_prod, Prod.exists]
  constructor
  · rintro ⟨small, spelled⟩
    obtain ⟨octet, others, rfl, picked, spelledOthers⟩ := List.map_eq_cons_iff.mp spelled
    obtain ⟨smallFirst, smallOthers⟩ := List.forall_mem_cons.mp small
    exact ⟨octet, others, ⟨⟨smallFirst, picked⟩, smallOthers, spelledOthers⟩, rfl⟩
  · rintro ⟨octet, others, ⟨⟨smallFirst, picked⟩, smallOthers, spelledOthers⟩, rfl⟩
    exact ⟨List.forall_mem_cons.mpr ⟨smallFirst, smallOthers⟩,
      List.map_eq_cons_iff.mpr ⟨octet, others, rfl, picked, spelledOthers⟩⟩

theorem ncard_spellings (allSymbols : ∀ character ∈ text, character ∈ alphabet) :
    (spellings text).ncard = 4 ^ text.length := by
  induction text with
  | nil =>
      rw [spellings_nil, Set.ncard_singleton]
      rfl
  | cons character text inductionHypothesis =>
      obtain ⟨isSymbol, others⟩ := List.forall_mem_cons.mp allSymbols
      have injective : Function.Injective fun pair : UInt8 × Bytes => pair.1 :: pair.2 := by
        rintro ⟨first, firsts⟩ ⟨second, seconds⟩ same
        cases same
        rfl
      rw [spellings_cons, Set.ncard_image_of_injective _ injective, Set.ncard_prod,
        ncard_picks isSymbol, inductionHypothesis others, List.length_cons, Nat.pow_succ']

end Spelling

/--
Drawing a text is rejection sampling from any source of octets.  It ends if the source never stops
yielding octets below 248, and then its text spells the first ones in as many blocks as it takes to
hold enough.  Each text over the alphabet is spelled by the same number of sequences of accepted
octets, and drawing from a stream ends whatever the octets at hand and the state of the generator.
-/
theorem draws_by_rejection (length : Nat) :
    (∀ (Source : Type) (yield : Source → UInt8 × Source) (source : Source),
      (∀ text rest, Draws yield length source text rest ↔
        text.length = length ∧ ∃ blocks, Samples yield length source blocks text rest) ∧
      (Inexhaustible yield source → ∃ text rest, Draws yield length source text rest)) ∧
    (∀ text : List Char, text.length = length → (∀ character ∈ text, character ∈ alphabet) →
      (spellings text).ncard = 4 ^ length) ∧
    ∀ (pending : Bytes) (state : UInt64), Inexhaustible Stream.next ⟨pending, state⟩ ∧
      Draws Stream.next length ⟨pending, state⟩ (draw length ⟨pending, state⟩).1
        (draw length ⟨pending, state⟩).2 := by
  refine ⟨?_, ?_, ?_⟩
  · intro Source yield source
    constructor
    · intro text rest
      rw [draws_iff]
      constructor
      · rintro ⟨blocks, samples⟩
        exact ⟨samples.length_eq, blocks, samples⟩
      · rintro ⟨-, sampled⟩
        exact sampled
    · intro inexhaustible
      exact exists_draws_iff.mpr (inexhaustible.exists_enough length)
  · intro text sameLength allSymbols
    rw [ncard_spellings allSymbols, sameLength]
  · intro pending state
    exact ⟨inexhaustible_next ⟨pending, state⟩, draws_draw length ⟨pending, state⟩⟩

theorem draws_by_rejection_alternating :
    let yield : Bool → UInt8 × Bool := fun rejected => (if rejected then 255 else 61, !rejected)
    Inexhaustible yield true ∧ (∃ text rest, Draws yield 2 true text rest) ∧
      (∀ character ∈ ['7', 'q'], character ∈ alphabet) ∧ (spellings ['7', 'q']).ncard = 16 := by
  intro yield
  have inexhaustible : Inexhaustible yield true := by
    intro count
    cases state : (Stream.draw yield count true).2 with
    | false =>
        refine ⟨count, Nat.le_refl count, ?_⟩
        unfold Stream.octetAfter
        rw [state]
        decide
    | true =>
        refine ⟨count + 1, Nat.le_succ count, ?_⟩
        rw [Stream.octetAfter_add, state]
        decide
  have allSymbols : ∀ character ∈ ['7', 'q'], character ∈ alphabet :=
    List.forall_mem_cons.mpr ⟨by decide, List.forall_mem_singleton.mpr (by decide)⟩
  obtain ⟨anySource, unbiased, -⟩ := draws_by_rejection 2
  exact ⟨inexhaustible, (anySource Bool yield true).2 inexhaustible, allSymbols,
    unbiased ['7', 'q'] rfl allSymbols⟩

end GameCatalog.Alphanumeric
