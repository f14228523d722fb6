import GameCatalog.Launcher.Format
import GameCatalog.Proofs.Random.Alphanumeric
import GameCatalog.Proofs.Text.Ascii

/-!
How keys and tokens are written.  The test of a key finds the hyphens by their places among the
octets, and the drawing of one counts the characters between them; both describe the same texts,
five groups of five letters or digits joined by hyphens.  A token is 64 letters or digits.
-/

namespace GameCatalog

theorem Alphanumeric.isAlphanum_of_mem_alphabet {character : Char}
    (membership : character ∈ alphabet) : character.isAlphanum = true := by
  have checked : alphabet.all Char.isAlphanum = true := by decide
  exact List.all_eq_true.mp checked character membership

namespace ProductKeyText

section Pattern

variable {place count : Nat} {character : Char} {characters rest : List Char}
  {groups : List (List Char)}

theorem ofNat_eq_hyphen_iff (ascii : character.toNat < 0x80) :
    UInt8.ofNat character.toNat = 0x2D ↔ character = '-' := by
  constructor
  · intro same
    have numbers := congrArg UInt8.toNat same
    rw [UInt8.toNat_ofNat', Nat.mod_eq_of_lt (by omega)] at numbers
    exact Char.toNat_inj.mp numbers
  · rintro rfl
    rfl

theorem followsPattern_cons_iff_of_ascii (ascii : character.toNat < 0x80) :
    followsPattern place (Utf8.encodeChars (character :: rest)) = true ↔
      (if place % 6 = 5 then character = '-' else character.isAlphanum = true) ∧
        followsPattern (place + 1) (Utf8.encodeChars rest) = true := by
  have alphanumeric := @Ascii.isAlphanumeric_encodeChar_iff character
  rw [Utf8.encodeChar_of_ascii ascii, List.forall_mem_singleton] at alphanumeric
  rw [Utf8.encodeChars_cons, Utf8.encodeChar_of_ascii ascii, List.singleton_append,
    followsPattern, Bool.and_eq_true]
  split
  · rw [beq_iff_eq, ofNat_eq_hyphen_iff ascii]
  · rw [alphanumeric]

theorem not_followsPattern_cons (large : 0x80 ≤ character.toNat) :
    ¬followsPattern place (Utf8.encodeChars (character :: rest)) = true := by
  obtain ⟨octet, tail, encoded⟩ := List.exists_cons_of_ne_nil (Utf8.encodeChar_ne_nil character)
  have first : octet ∈ String.utf8EncodeChar character := by
    rw [encoded]
    exact List.mem_cons_self
  have largeOctet : 0x80 ≤ octet.toNat :=
    UInt8.le_iff_toNat_le.mp (Utf8.le_of_mem_encodeChar large first)
  have notHyphen : octet ≠ 0x2D := by
    rintro rfl
    exact absurd largeOctet (by decide)
  have notAlphanumeric : ¬Ascii.isAlphanumeric octet = true := by
    rw [Ascii.isAlphanumeric_iff]
    omega
  rw [Utf8.encodeChars_cons, encoded, List.cons_append, followsPattern, Bool.and_eq_true]
  rintro ⟨allowed, -⟩
  split at allowed
  · exact notHyphen (beq_iff_eq.mp allowed)
  · exact notAlphanumeric allowed

theorem ascii_of_allowed
    (allowed : if place % 6 = 5 then character = '-' else character.isAlphanum = true) :
    character.toNat < 0x80 := by
  split at allowed
  · rw [allowed]
    decide
  · have bounds := Ascii.isAlphanum_iff.mp allowed
    omega

theorem followsPattern_cons_iff :
    followsPattern place (Utf8.encodeChars (character :: rest)) = true ↔
      (if place % 6 = 5 then character = '-' else character.isAlphanum = true) ∧
        followsPattern (place + 1) (Utf8.encodeChars rest) = true := by
  rcases Nat.lt_or_ge character.toNat 0x80 with ascii | large
  · exact followsPattern_cons_iff_of_ascii ascii
  · refine iff_of_false (not_followsPattern_cons large) ?_
    rintro ⟨allowed, -⟩
    exact Nat.not_lt_of_le large (ascii_of_allowed allowed)

/-- Characters that end before the next hyphen follow the pattern if they are letters or digits. -/
theorem followsPattern_append_iff (inside : place % 6 + characters.length ≤ 5) :
    followsPattern place (Utf8.encodeChars (characters ++ rest)) = true ↔
      (∀ character ∈ characters, character.isAlphanum = true) ∧
        followsPattern (place + characters.length) (Utf8.encodeChars rest) = true := by
  induction characters generalizing place with
  | nil => simp
  | cons character characters inductionHypothesis =>
      rw [List.length_cons] at inside
      have here : place % 6 ≠ 5 := by omega
      rw [List.cons_append, followsPattern_cons_iff, if_neg here,
        inductionHypothesis (by omega), List.forall_mem_cons, List.length_cons, Nat.add_assoc,
        Nat.add_comm 1, and_assoc]

theorem ascii_of_followsPattern
    (follows : followsPattern place (Utf8.encodeChars characters) = true) :
    ∀ character ∈ characters, character.toNat < 0x80 := by
  induction characters generalizing place with
  | nil => exact fun _ => nofun
  | cons character characters inductionHypothesis =>
      obtain ⟨here, later⟩ := followsPattern_cons_iff.mp follows
      exact List.forall_mem_cons.mpr ⟨ascii_of_allowed here, inductionHypothesis later⟩

/-- Groups of five that are joined by hyphens follow the pattern if they are letters or digits. -/
theorem followsPattern_intercalate_iff (starts : place % 6 = 0)
    (five : ∀ group ∈ groups, group.length = 5) :
    followsPattern place (Utf8.encodeChars (['-'].intercalate groups)) = true ↔
      ∀ group ∈ groups, ∀ character ∈ group, character.isAlphanum = true := by
  induction groups generalizing place with
  | nil => simp [followsPattern]
  | cons group groups inductionHypothesis =>
      obtain ⟨fiveHere, fiveLater⟩ := List.forall_mem_cons.mp five
      have inside : place % 6 + group.length ≤ 5 := by omega
      rw [List.forall_mem_cons]
      cases groups with
      | nil =>
          have last := @followsPattern_append_iff place group [] inside
          rw [List.append_nil] at last
          simp [last, followsPattern]
      | cons next groups =>
          have between : (place + group.length) % 6 = 5 := by omega
          rw [List.intercalate_cons_cons, List.append_assoc, List.singleton_append,
            followsPattern_append_iff inside, followsPattern_cons_iff, if_pos between,
            inductionHypothesis (by omega) fiveLater]
          simp only [true_and]

theorem length_intercalate (five : ∀ group ∈ groups, group.length = 5)
    (counted : groups.length = count + 1) :
    (['-'].intercalate groups).length = 6 * count + 5 := by
  induction count generalizing groups with
  | zero =>
      obtain ⟨group, rfl⟩ := List.length_eq_one_iff.mp counted
      rw [List.intercalate_singleton, five group List.mem_cons_self]
  | succ count inductionHypothesis =>
      obtain ⟨group, groups, rfl⟩ := List.exists_cons_of_length_eq_add_one counted
      obtain ⟨fiveHere, fiveLater⟩ := List.forall_mem_cons.mp five
      rw [List.length_cons, Nat.add_right_cancel_iff] at counted
      have others := inductionHypothesis fiveLater counted
      obtain ⟨next, groups, rfl⟩ := List.exists_cons_of_length_eq_add_one counted
      rw [List.intercalate_cons_cons, List.length_append, List.length_append, others, fiveHere,
        List.length_singleton]
      omega

theorem exists_groups_of_followsPattern (starts : place % 6 = 0)
    (ends : characters.length = 6 * count + 5)
    (follows : followsPattern place (Utf8.encodeChars characters) = true) :
    ∃ groups : List (List Char), groups.length = count + 1 ∧
      (∀ group ∈ groups, group.length = 5) ∧ characters = ['-'].intercalate groups := by
  induction count generalizing place characters with
  | zero =>
      refine ⟨[characters], rfl, ?_, (List.intercalate_singleton).symm⟩
      intro group membership
      rw [List.mem_singleton.mp membership, ends]
  | succ count inductionHypothesis =>
      have inside : place % 6 + (characters.take 5).length ≤ 5 := by
        rw [List.length_take]
        omega
      have fiveHere : (characters.take 5).length = 5 := by
        rw [List.length_take]
        omega
      have more : (characters.drop 5).length = 6 * count + 5 + 1 := by
        rw [List.length_drop]
        omega
      obtain ⟨hyphen, rest, split⟩ := List.exists_cons_of_length_eq_add_one more
      rw [← List.take_append_drop 5 characters, followsPattern_append_iff inside, fiveHere, split,
        followsPattern_cons_iff, if_pos (by omega)] at follows
      obtain ⟨-, rfl, followsLater⟩ := follows
      rw [split, List.length_cons, Nat.add_right_cancel_iff] at more
      obtain ⟨groups, counted, fiveLater, rfl⟩ := inductionHypothesis (by omega) more followsLater
      obtain ⟨next, groups, rfl⟩ := List.exists_cons_of_length_eq_add_one counted
      refine ⟨characters.take 5 :: next :: groups, congrArg Nat.succ counted,
        List.forall_mem_cons.mpr ⟨fiveHere, fiveLater⟩, ?_⟩
      rw [List.intercalate_cons_cons, List.append_assoc, List.singleton_append, ← split,
        List.take_append_drop]

theorem isValid_ofList_iff : isValid (String.ofList characters) = true ↔
    ∃ groups : List (List Char), groups.length = 5 ∧
      (∀ group ∈ groups, group.length = 5 ∧ ∀ character ∈ group, character.isAlphanum = true) ∧
      characters = ['-'].intercalate groups := by
  unfold isValid
  rw [Utf8.encode_ofList, Bool.and_eq_true, beq_iff_eq]
  constructor
  · rintro ⟨octets, follows⟩
    rw [Utf8.length_encodeChars_of_ascii (ascii_of_followsPattern follows)] at octets
    obtain ⟨groups, counted, five, rfl⟩ := @exists_groups_of_followsPattern 0 4 _ rfl octets follows
    have alphanumeric := (@followsPattern_intercalate_iff 0 _ rfl five).mp follows
    exact ⟨groups, counted, fun group membership =>
      ⟨five group membership, alphanumeric group membership⟩, rfl⟩
  · rintro ⟨groups, counted, whole, rfl⟩
    have five (group : List Char) (membership : group ∈ groups) := (whole group membership).1
    have follows := (@followsPattern_intercalate_iff 0 _ rfl five).mpr fun group membership =>
      (whole group membership).2
    rw [Utf8.length_encodeChars_of_ascii (ascii_of_followsPattern follows),
      length_intercalate five counted]
    exact ⟨rfl, follows⟩

theorem isValid_iff {text : String} : isValid text = true ↔
    ∃ groups : List String, groups.length = 5 ∧
      (∀ group ∈ groups, group.toList.length = 5 ∧
        ∀ character ∈ group.toList, character.isAlphanum = true) ∧
      text = "-".intercalate groups := by
  have spelled := @isValid_ofList_iff text.toList
  rw [String.ofList_toList] at spelled
  rw [spelled]
  constructor
  · rintro ⟨groups, counted, whole, joined⟩
    have texts : (groups.map String.ofList).map String.toList = groups := by
      simp [Function.comp_def]
    refine ⟨groups.map String.ofList, by rw [List.length_map, counted], ?_, ?_⟩
    · intro group membership
      obtain ⟨characters, inside, rfl⟩ := List.mem_map.mp membership
      rw [String.toList_ofList]
      exact whole characters inside
    · apply String.toList_inj.mp
      rw [String.toList_intercalate, texts, joined]
      rfl
  · rintro ⟨groups, counted, whole, rfl⟩
    refine ⟨groups.map String.toList, by rw [List.length_map, counted], ?_, ?_⟩
    · intro characters membership
      obtain ⟨group, inside, rfl⟩ := List.mem_map.mp membership
      exact whole group inside
    · rw [String.toList_intercalate]
      rfl

end Pattern

section Group

variable {count : Nat} {characters others : List Char}

theorem exists_groups_of_group (drawn : characters.length = 5 * (count + 1)) :
    ∃ groups : List (List Char), groups.length = count + 1 ∧
      (∀ group ∈ groups, group.length = 5) ∧ characters = groups.flatten ∧
      group characters = ['-'].intercalate groups := by
  induction count generalizing characters with
  | zero =>
      refine ⟨[characters], rfl, ?_, (List.flatten_singleton).symm, ?_⟩
      · intro group membership
        rw [List.mem_singleton.mp membership, drawn]
      · match characters, drawn with
        | [_, _, _, _, _], _ => rfl
  | succ count inductionHypothesis =>
      match characters, drawn with
      | a :: b :: c :: d :: e :: f :: rest, drawn =>
          have left : (f :: rest).length = 5 * (count + 1) := by
            simp only [List.length_cons] at drawn ⊢
            omega
          obtain ⟨groups, counted, five, flat, grouped⟩ := inductionHypothesis left
          obtain ⟨next, groups, rfl⟩ := List.exists_cons_of_length_eq_add_one counted
          refine ⟨[a, b, c, d, e] :: next :: groups, congrArg Nat.succ counted,
            List.forall_mem_cons.mpr ⟨rfl, five⟩, ?_, ?_⟩
          · rw [List.flatten_cons, ← flat]
            rfl
          · rw [group, grouped, List.intercalate_cons_cons]
            rfl

theorem filter_group (noHyphen : ∀ character ∈ characters, character ≠ '-') :
    (group characters).filter (· ≠ '-') = characters := by
  induction characters using group.induct with
  | case1 a b c d e f rest inductionHypothesis =>
      simp only [List.forall_mem_cons] at noHyphen
      obtain ⟨ha, hb, hc, hd, he, later⟩ := noHyphen
      have others := inductionHypothesis (List.forall_mem_cons.mpr later)
      simpa [group, ha, hb, hc, hd, he] using others
  | case2 characters ungrouped =>
      have same : group characters = characters := by
        unfold group
        split
        · rename_i a b c d e f rest
          exact absurd rfl (ungrouped a b c d e f rest)
        · rfl
      rw [same, List.filter_eq_self]
      intro character membership
      exact decide_eq_true (noHyphen character membership)

theorem isValid_group (drawn : characters.length = drawnLength)
    (alphanumeric : ∀ character ∈ characters, character.isAlphanum = true) :
    isValid (String.ofList (group characters)) = true := by
  obtain ⟨groups, counted, five, rfl, grouped⟩ := @exists_groups_of_group 4 _ drawn
  refine isValid_ofList_iff.mpr ⟨groups, counted, ?_, grouped⟩
  intro group membership
  refine ⟨five group membership, ?_⟩
  intro character inside
  exact alphanumeric character (List.mem_flatten_of_mem membership inside)

end Group

section Draws

variable {Source Other : Type} {yield : Source → UInt8 × Source} {otherYield : Other → UInt8 × Other}
  {source rest : Source} {otherSource otherRest : Other} {characters others : List Char}
  {text otherText : String}

/-- Drawing a key from a source ends, with these characters and this text of the key. -/
structure Draws (yield : Source → UInt8 × Source) (source : Source) (characters : List Char)
    (text : String) (rest : Source) : Prop where
  drawn : Alphanumeric.Draws yield drawnLength source characters rest
  grouped : text = String.ofList (group characters)

theorem Draws.isAlphanum (draws : Draws yield source characters text rest) :
    ∀ character ∈ characters, character.isAlphanum = true := by
  intro character membership
  exact Alphanumeric.isAlphanum_of_mem_alphabet (draws.drawn.mem_alphabet character membership)

theorem Draws.isValid (draws : Draws yield source characters text rest) : isValid text = true := by
  rw [draws.grouped]
  exact isValid_group draws.drawn.length_eq draws.isAlphanum

theorem Draws.filter_toList (draws : Draws yield source characters text rest) :
    text.toList.filter (· ≠ '-') = characters := by
  rw [draws.grouped, String.toList_ofList]
  apply filter_group
  rintro character membership rfl
  exact absurd (draws.isAlphanum '-' membership) (by decide)

theorem Draws.text_eq_iff (draws : Draws yield source characters text rest)
    (otherDraws : Draws otherYield otherSource others otherText otherRest) :
    text = otherText ↔ characters = others := by
  constructor
  · rintro rfl
    exact draws.filter_toList.symm.trans otherDraws.filter_toList
  · rintro rfl
    exact draws.grouped.trans otherDraws.grouped.symm

theorem draws_draw (stream : Stream) :
    Draws Stream.next stream (Alphanumeric.draw drawnLength stream).1 (draw stream).1
      (draw stream).2 := by
  have drawn := Alphanumeric.draws_draw drawnLength stream
  unfold draw
  generalize Alphanumeric.draw drawnLength stream = result at drawn ⊢
  exact ⟨drawn, rfl⟩

theorem isValid_draw (stream : Stream) : isValid (draw stream).1 = true :=
  (draws_draw stream).isValid

end Draws

end ProductKeyText

namespace AccessToken

theorem isValid_iff {text : String} :
    isValid text = true ↔
      text.toList.length = 64 ∧ ∀ character ∈ text.toList, character.isAlphanum = true := by
  have classes : (Utf8.encode text).all Ascii.isAlphanumeric = true ↔
      ∀ character ∈ text.toList, character.isAlphanum = true := by
    unfold Utf8.encode Utf8.encodeChars
    simp only [List.all_flatMap, List.all_eq_true, Ascii.isAlphanumeric_encodeChar_iff]
  unfold isValid
  rw [Bool.and_eq_true, beq_iff_eq, classes]
  apply and_congr_left
  intro alphanumeric
  have ascii : ∀ character ∈ text.toList, character.toNat < 0x80 := by
    intro character membership
    have bounds := Ascii.isAlphanum_iff.mp (alphanumeric character membership)
    omega
  unfold Utf8.encode
  rw [Utf8.length_encodeChars_of_ascii ascii]
  rfl

theorem not_isValid_of_key {text : String} (isKey : ProductKeyText.isValid text = true) :
    ¬isValid text = true := by
  unfold ProductKeyText.isValid at isKey
  unfold isValid
  rw [Bool.and_eq_true, beq_iff_eq] at isKey ⊢
  rintro ⟨isLonger, -⟩
  exact absurd (isKey.1.symm.trans isLonger) (by decide)

def Draws {Source : Type} (yield : Source → UInt8 × Source) (source : Source) (text : String)
    (rest : Source) : Prop :=
  Alphanumeric.Draws yield length source text.toList rest

theorem Draws.isValid {Source : Type} {yield : Source → UInt8 × Source} {source rest : Source}
    {text : String} (draws : Draws yield source text rest) : isValid text = true := by
  refine isValid_iff.mpr ⟨Alphanumeric.Draws.length_eq draws, ?_⟩
  intro character membership
  exact Alphanumeric.isAlphanum_of_mem_alphabet
    (Alphanumeric.Draws.mem_alphabet draws character membership)

theorem draws_draw (stream : Stream) :
    Draws Stream.next stream (draw stream).1 (draw stream).2 := by
  have drawn := Alphanumeric.draws_draw length stream
  unfold Draws draw
  generalize Alphanumeric.draw length stream = result at drawn ⊢
  rw [String.toList_ofList]
  exact drawn

end AccessToken

/--
The tests of keys and tokens accept the texts of the two formats and no others, whatever characters
they are given, and no text is accepted by both.  Whatever source they are drawn from, new keys and
tokens are accepted; a key is the characters drawn for it with hyphens between them, so that
different draws make different keys.  The keys and tokens of the service are drawn from a stream in
this way.
-/
theorem formats_exact :
    (∀ text : String,
      (ProductKeyText.isValid text = true ↔
        ∃ groups : List String, groups.length = 5 ∧
          (∀ group ∈ groups, group.toList.length = 5 ∧
            ∀ character ∈ group.toList, character.isAlphanum = true) ∧
          text = "-".intercalate groups) ∧
      (AccessToken.isValid text = true ↔
        text.toList.length = 64 ∧ ∀ character ∈ text.toList, character.isAlphanum = true) ∧
      ¬(ProductKeyText.isValid text = true ∧ AccessToken.isValid text = true)) ∧
    (∀ (Source : Type) (yield : Source → UInt8 × Source) (source rest : Source) (text : String),
      (∀ characters, ProductKeyText.Draws yield source characters text rest →
        ProductKeyText.isValid text = true ∧ characters.length = 25 ∧
          text.toList.filter (· ≠ '-') = characters) ∧
      (AccessToken.Draws yield source text rest → AccessToken.isValid text = true)) ∧
    (∀ (First Second : Type) (yieldFirst : First → UInt8 × First)
      (yieldSecond : Second → UInt8 × Second) (first afterFirst : First)
      (second afterSecond : Second) (characters others : List Char) (text otherText : String),
      ProductKeyText.Draws yieldFirst first characters text afterFirst →
      ProductKeyText.Draws yieldSecond second others otherText afterSecond →
      (text = otherText ↔ characters = others)) ∧
    ∀ stream : Stream,
      (∃ characters, ProductKeyText.Draws Stream.next stream characters
        (ProductKeyText.draw stream).1 (ProductKeyText.draw stream).2) ∧
      AccessToken.Draws Stream.next stream (AccessToken.draw stream).1
        (AccessToken.draw stream).2 := by
  refine ⟨?_, ?_, ?_, ?_⟩
  · intro text
    refine ⟨ProductKeyText.isValid_iff, AccessToken.isValid_iff, ?_⟩
    rintro ⟨isKey, isToken⟩
    exact AccessToken.not_isValid_of_key isKey isToken
  · intro Source yield source rest text
    constructor
    · intro characters draws
      exact ⟨draws.isValid, draws.drawn.length_eq, draws.filter_toList⟩
    · intro draws
      exact draws.isValid
  · intro First Second yieldFirst yieldSecond first afterFirst second afterSecond characters others
      text otherText draws otherDraws
    exact draws.text_eq_iff otherDraws
  · intro stream
    exact ⟨⟨_, ProductKeyText.draws_draw stream⟩, AccessToken.draws_draw stream⟩

/-- A source that counts, from an octet that is not accepted, gives the symbols in their order. -/
theorem formats_exact_counting :
    let count : UInt8 → UInt8 × UInt8 := fun octet => (octet, octet + 1)
    let text := "01234-56789-abcde-fghij-klmno"
    ProductKeyText.Draws count 250 "0123456789abcdefghijklmno".toList text 58 ∧
      ProductKeyText.isValid text = true ∧
      text.toList.filter (· ≠ '-') = "0123456789abcdefghijklmno".toList := by
  intro count text
  have draws : ProductKeyText.Draws count 250 "0123456789abcdefghijklmno".toList text 58 :=
    ⟨⟨1, by decide⟩, by decide⟩
  obtain ⟨isKey, -, characters⟩ := (formats_exact.2.1 UInt8 count 250 58 text).1 _ draws
  exact ⟨draws, isKey, characters⟩

end GameCatalog
