import GameCatalog.Random.Alphanumeric
import Mathlib.Data.List.GetD
import Mathlib.Data.Nat.Find

/-!
Rejection sampling.  Whatever the source of octets is, a text is drawn from the accepted octets of
the first blocks that hold enough of them, and no further block is drawn.  So a text is drawn
exactly if the source holds enough accepted octets, and one of any length is drawn from a source
that never stops yielding them.
-/

namespace GameCatalog

namespace Stream

variable {Source : Type} (yield : Source → UInt8 × Source)

theorem draw_add (first second : Nat) (source : Source) :
    draw yield (first + second) source =
      ((draw yield first source).1 ++ (draw yield second (draw yield first source).2).1,
        (draw yield second (draw yield first source).2).2) := by
  induction first generalizing source with
  | zero =>
      rw [Nat.zero_add]
      rfl
  | succ first inductionHypothesis =>
      rw [Nat.succ_add]
      simp only [draw, inductionHypothesis, List.cons_append]

def octetAfter (count : Nat) (source : Source) : UInt8 :=
  (yield (draw yield count source).2).1

theorem octetAfter_add (first second : Nat) (source : Source) :
    octetAfter yield (first + second) source =
      octetAfter yield second (draw yield first source).2 := by
  unfold octetAfter
  rw [draw_add]

theorem draw_succ_fst (count : Nat) (source : Source) :
    (draw yield (count + 1) source).1 =
      (draw yield count source).1 ++ [octetAfter yield count source] := by
  rw [draw_add]
  rfl

variable {yield}

theorem mem_draw_iff {octet : UInt8} {count : Nat} {source : Source} :
    octet ∈ (draw yield count source).1 ↔ ∃ place < count, octetAfter yield place source = octet := by
  induction count with
  | zero => simp [draw]
  | succ count inductionHypothesis =>
      rw [draw_succ_fst, List.mem_append, List.mem_singleton, inductionHypothesis]
      constructor
      · rintro (⟨place, before, rfl⟩ | rfl)
        · exact ⟨place, Nat.lt_succ_of_lt before, rfl⟩
        · exact ⟨count, Nat.lt_succ_self count, rfl⟩
      · rintro ⟨place, before, rfl⟩
        rcases Nat.lt_succ_iff_lt_or_eq.mp before with earlier | rfl
        · exact .inl ⟨place, earlier, rfl⟩
        · exact .inr rfl

end Stream

namespace Alphanumeric

section Symbols

theorem symbol_mem (octet : UInt8) : symbol octet ∈ alphabet := by
  have small : octet.toNat % 62 < alphabet.length := Nat.mod_lt _ (by decide)
  unfold symbol
  rw [List.getD_eq_getElem _ _ small]
  exact List.getElem_mem small

theorem length_symbols (missing : Nat) (block : Bytes) :
    (symbols missing block).length = min missing (block.filter accepts).length := by
  unfold symbols
  rw [List.length_map, List.length_take]

end Symbols

variable {Source : Type}

section Specification

variable (yield : Source → UInt8 × Source)

def accepted (blocks : Nat) (source : Source) : Bytes :=
  (Stream.draw yield (blocks * 64) source).1.filter (· < 248)

/--
A text of the given length spells the first accepted octets of so many blocks.  The blocks before
the last one do not hold enough, and what is left of the source follows the last one.
-/
structure Samples (length : Nat) (source : Source) (blocks : Nat) (text : List Char)
    (rest : Source) : Prop where
  enough : length ≤ (accepted yield blocks source).length
  needed : ∀ fewer < blocks, (accepted yield fewer source).length < length
  spelled : text = ((accepted yield blocks source).take length).map symbol
  left : rest = (Stream.draw yield (blocks * 64) source).2

/-- Drawing a text of the given length ends, with this text and this rest of the source. -/
def Draws (length : Nat) (source : Source) (text : List Char) (rest : Source) : Prop :=
  ∃ budget, draw? yield budget length source = some (text, rest)

def Inexhaustible (source : Source) : Prop :=
  ∀ count, ∃ place, count ≤ place ∧ Stream.octetAfter yield place source < 248

end Specification

variable {yield : Source → UInt8 × Source}

section Accepted

theorem accepted_add (first second : Nat) (source : Source) :
    accepted yield (first + second) source =
      accepted yield first source ++
        accepted yield second (Stream.draw yield (first * 64) source).2 := by
  unfold accepted
  rw [Nat.add_mul, Stream.draw_add, List.filter_append]

theorem accepted_succ (blocks : Nat) (source : Source) :
    accepted yield (blocks + 1) source =
      (Stream.draw yield blockSize source).1.filter accepts ++
        accepted yield blocks (Stream.draw yield blockSize source).2 := by
  rw [Nat.add_comm, accepted_add]
  rfl

theorem length_accepted_mono {fewer blocks : Nat} (less : fewer ≤ blocks) (source : Source) :
    (accepted yield fewer source).length ≤ (accepted yield blocks source).length := by
  obtain ⟨more, rfl⟩ := Nat.exists_eq_add_of_le less
  rw [accepted_add, List.length_append]
  exact Nat.le_add_right _ _

end Accepted

section Samples

variable {length missing blocks : Nat} {source rest : Source} {text : List Char}

theorem Samples.length_eq (samples : Samples yield length source blocks text rest) :
    text.length = length := by
  rw [samples.spelled, List.length_map, List.length_take]
  exact Nat.min_eq_left samples.enough

theorem samples_nothing_iff :
    Samples yield 0 source blocks text rest ↔ blocks = 0 ∧ text = [] ∧ rest = source := by
  constructor
  · intro samples
    have noBlocks : blocks = 0 := by
      by_contra someBlocks
      exact Nat.not_lt_zero _ (samples.needed 0 (Nat.pos_of_ne_zero someBlocks))
    subst noBlocks
    exact ⟨rfl, samples.spelled, samples.left⟩
  · rintro ⟨rfl, rfl, rfl⟩
    exact ⟨Nat.zero_le _, fun _ absurdly => absurd absurdly (Nat.not_lt_zero _), rfl, rfl⟩

theorem not_samples_zero : ¬Samples yield (missing + 1) source 0 text rest :=
  fun samples => Nat.not_succ_le_zero missing samples.enough

/-- So many blocks and one more hold enough exactly if the others hold what the first one lacks. -/
theorem le_length_accepted_succ_iff :
    missing ≤ (accepted yield (blocks + 1) source).length ↔
      missing - (symbols missing (Stream.draw yield blockSize source).1).length ≤
        (accepted yield blocks (Stream.draw yield blockSize source).2).length := by
  rw [accepted_succ, List.length_append, length_symbols]
  omega

theorem map_symbol_take_accepted_succ (missing blocks : Nat) (source : Source) :
    ((accepted yield (blocks + 1) source).take missing).map symbol =
      symbols missing (Stream.draw yield blockSize source).1 ++
        ((accepted yield blocks (Stream.draw yield blockSize source).2).take
          (missing - (symbols missing (Stream.draw yield blockSize source).1).length)).map symbol := by
  have lacking :
      missing - ((Stream.draw yield blockSize source).1.filter accepts).length =
        missing - (symbols missing (Stream.draw yield blockSize source).1).length := by
    rw [length_symbols]
    omega
  rw [accepted_succ, List.take_append, List.map_append, lacking]
  rfl

theorem draw_blocks_succ_snd (blocks : Nat) (source : Source) :
    (Stream.draw yield ((blocks + 1) * 64) source).2 =
      (Stream.draw yield (blocks * 64) (Stream.draw yield blockSize source).2).2 := by
  rw [Nat.add_mul, Nat.one_mul, Nat.add_comm, Stream.draw_add]
  rfl

/-- The first block yields what it can, and the rest of the text is sampled from the others. -/
theorem samples_succ_iff :
    Samples yield (missing + 1) source (blocks + 1) text rest ↔
      ∃ later, text = symbols (missing + 1) (Stream.draw yield blockSize source).1 ++ later ∧
        Samples yield
          (missing + 1 - (symbols (missing + 1) (Stream.draw yield blockSize source).1).length)
          (Stream.draw yield blockSize source).2 blocks later rest := by
  constructor
  · intro samples
    refine ⟨_, samples.spelled.trans (map_symbol_take_accepted_succ _ _ _),
      le_length_accepted_succ_iff.mp samples.enough, ?_, rfl,
      samples.left.trans (draw_blocks_succ_snd blocks source)⟩
    intro fewer less
    apply Nat.lt_of_not_le
    intro held
    have needed := samples.needed (fewer + 1) (Nat.succ_lt_succ less)
    exact Nat.not_le_of_lt needed (le_length_accepted_succ_iff.mpr held)
  · rintro ⟨later, rfl, samples⟩
    refine ⟨le_length_accepted_succ_iff.mpr samples.enough, ?_, ?_,
      samples.left.trans (draw_blocks_succ_snd blocks source).symm⟩
    · intro fewer less
      cases fewer with
      | zero => exact Nat.succ_pos missing
      | succ fewer =>
          apply Nat.lt_of_not_le
          intro held
          have needed := samples.needed fewer (Nat.lt_of_succ_lt_succ less)
          exact Nat.not_le_of_lt needed (le_length_accepted_succ_iff.mp held)
    · rw [map_symbol_take_accepted_succ, samples.spelled]

end Samples

section Draw

variable {budget blocks length missing : Nat} {source rest otherRest : Source}
  {text otherText : List Char}

theorem draw?_succ (budget missing : Nat) (source : Source) :
    draw? yield (budget + 1) (missing + 1) source =
      let fresh := symbols (missing + 1) (Stream.draw yield blockSize source).1
      (draw? yield budget (missing + 1 - fresh.length)
        (Stream.draw yield blockSize source).2).map fun drawn => (fresh ++ drawn.1, drawn.2) := by
  rw [draw?]

theorem draw?_nothing_eq_some_iff :
    draw? yield budget 0 source = some (text, rest) ↔
      ∃ blocks ≤ budget, Samples yield 0 source blocks text rest := by
  have nothing : draw? yield budget 0 source = some ([], source) := by
    cases budget <;> rfl
  rw [nothing]
  constructor
  · rintro ⟨⟩
    exact ⟨0, Nat.zero_le budget, samples_nothing_iff.mpr ⟨rfl, rfl, rfl⟩⟩
  · rintro ⟨blocks, -, samples⟩
    obtain ⟨-, rfl, rfl⟩ := samples_nothing_iff.mp samples
    rfl

/-- What is drawn from at most so many blocks is what is sampled from as many of them as needed. -/
theorem draw?_eq_some_iff :
    draw? yield budget length source = some (text, rest) ↔
      ∃ blocks ≤ budget, Samples yield length source blocks text rest := by
  induction budget generalizing length source text with
  | zero =>
      cases length with
      | zero => exact draw?_nothing_eq_some_iff
      | succ missing => simp [draw?, not_samples_zero]
  | succ budget inductionHypothesis =>
      cases length with
      | zero => exact draw?_nothing_eq_some_iff
      | succ missing =>
          rw [draw?_succ, Option.map_eq_some_iff]
          constructor
          · rintro ⟨⟨later, last⟩, drawn, same⟩
            cases same
            obtain ⟨blocks, within, samples⟩ := inductionHypothesis.mp drawn
            exact ⟨blocks + 1, Nat.succ_le_succ within, samples_succ_iff.mpr ⟨later, rfl, samples⟩⟩
          · rintro ⟨blocks, within, samples⟩
            cases blocks with
            | zero => exact absurd samples not_samples_zero
            | succ blocks =>
                obtain ⟨later, rfl, others⟩ := samples_succ_iff.mp samples
                have drawn := inductionHypothesis.mpr ⟨blocks, Nat.le_of_succ_le_succ within, others⟩
                exact ⟨(later, rest), drawn, rfl⟩

theorem exists_samples (enough : length ≤ (accepted yield budget source).length) :
    ∃ blocks ≤ budget, ∃ text rest, Samples yield length source blocks text rest := by
  have eventually : ∃ blocks, length ≤ (accepted yield blocks source).length := ⟨budget, enough⟩
  refine ⟨Nat.find eventually, Nat.find_min' eventually enough, _, _, Nat.find_spec eventually,
    ?_, rfl, rfl⟩
  intro fewer less
  exact Nat.lt_of_not_le (Nat.find_min eventually less)

/-- So many blocks are enough to draw a text exactly if they hold enough accepted octets. -/
theorem isSome_draw?_iff :
    (draw? yield budget length source).isSome = true ↔
      length ≤ (accepted yield budget source).length := by
  rw [Option.isSome_iff_exists]
  constructor
  · rintro ⟨⟨text, rest⟩, drawn⟩
    obtain ⟨blocks, within, samples⟩ := draw?_eq_some_iff.mp drawn
    exact Nat.le_trans samples.enough (length_accepted_mono within source)
  · intro enough
    obtain ⟨blocks, within, text, rest, samples⟩ := exists_samples enough
    exact ⟨(text, rest), draw?_eq_some_iff.mpr ⟨blocks, within, samples⟩⟩

theorem draws_iff :
    Draws yield length source text rest ↔ ∃ blocks, Samples yield length source blocks text rest := by
  constructor
  · rintro ⟨budget, drawn⟩
    obtain ⟨blocks, -, samples⟩ := draw?_eq_some_iff.mp drawn
    exact ⟨blocks, samples⟩
  · rintro ⟨blocks, samples⟩
    exact ⟨blocks, draw?_eq_some_iff.mpr ⟨blocks, Nat.le_refl blocks, samples⟩⟩

theorem Draws.length_eq (draws : Draws yield length source text rest) : text.length = length := by
  obtain ⟨blocks, samples⟩ := draws_iff.mp draws
  exact samples.length_eq

theorem Draws.mem_alphabet (draws : Draws yield length source text rest) :
    ∀ character ∈ text, character ∈ alphabet := by
  obtain ⟨blocks, samples⟩ := draws_iff.mp draws
  rw [samples.spelled]
  intro character membership
  obtain ⟨octet, -, rfl⟩ := List.mem_map.mp membership
  exact symbol_mem octet

theorem exists_draws_iff :
    (∃ text rest, Draws yield length source text rest) ↔
      ∃ blocks, length ≤ (accepted yield blocks source).length := by
  constructor
  · rintro ⟨text, rest, draws⟩
    obtain ⟨blocks, samples⟩ := draws_iff.mp draws
    exact ⟨blocks, samples.enough⟩
  · rintro ⟨budget, enough⟩
    obtain ⟨blocks, -, text, rest, samples⟩ := exists_samples enough
    exact ⟨text, rest, draws_iff.mpr ⟨blocks, samples⟩⟩

end Draw

section Inexhaustible

variable {source : Source}

theorem Inexhaustible.exists_more (inexhaustible : Inexhaustible yield source) (blocks : Nat) :
    ∃ more, (accepted yield blocks source).length < (accepted yield more source).length := by
  obtain ⟨place, beyond, small⟩ := inexhaustible (blocks * 64)
  obtain ⟨distance, rfl⟩ := Nat.exists_eq_add_of_le beyond
  rw [Stream.octetAfter_add] at small
  have inside : Stream.octetAfter yield distance (Stream.draw yield (blocks * 64) source).2 ∈
      accepted yield (distance + 1) (Stream.draw yield (blocks * 64) source).2 := by
    refine List.mem_filter.mpr ⟨?_, decide_eq_true small⟩
    exact Stream.mem_draw_iff.mpr ⟨distance, by omega, rfl⟩
  refine ⟨blocks + (distance + 1), ?_⟩
  rw [accepted_add, List.length_append]
  exact Nat.lt_add_of_pos_right (List.length_pos_of_mem inside)

theorem Inexhaustible.exists_enough (inexhaustible : Inexhaustible yield source) (length : Nat) :
    ∃ blocks, length ≤ (accepted yield blocks source).length := by
  induction length with
  | zero => exact ⟨0, Nat.zero_le _⟩
  | succ length inductionHypothesis =>
      obtain ⟨blocks, enough⟩ := inductionHypothesis
      obtain ⟨more, further⟩ := inexhaustible.exists_more blocks
      exact ⟨more, Nat.succ_le_of_lt (Nat.lt_of_le_of_lt enough further)⟩

end Inexhaustible

end Alphanumeric

end GameCatalog
