import GameCatalog.Json.Decoder
import GameCatalog.Json.Value
import GameCatalog.Proofs.Json.Written

/-!
The indented form of a value, which the store file has, and the compact one, which cookies have,
are forms that can be read, and a decoder meets in them what it would meet in the value.
-/

namespace GameCatalog.Json

open Utf8

theorem encodeChars_lineBreak (level : Nat) : Blanks (encodeChars (lineBreak level)) := by
  have spaces (count : Nat) : Blanks (encodeChars (List.replicate count ' ')) := by
    induction count with
    | zero => exact .nil
    | succ count inductionHypothesis =>
        intro octet membership
        rw [List.replicate_succ, encodeChars_cons, List.mem_append] at membership
        rcases membership with here | later
        · cases List.mem_singleton.mp here
          decide
        · exact inductionHypothesis octet later
  intro octet membership
  rw [lineBreak, encodeChars_cons, List.mem_append] at membership
  rcases membership with here | later
  · cases List.mem_singleton.mp here
    decide
  · exact spaces _ octet later

section Punctuation

@[simp]
theorem encodeChar_openBracket : String.utf8EncodeChar '[' = [0x5B] := rfl

@[simp]
theorem encodeChar_closeBracket : String.utf8EncodeChar ']' = [0x5D] := rfl

@[simp]
theorem encodeChar_openBrace : String.utf8EncodeChar '{' = [0x7B] := rfl

@[simp]
theorem encodeChar_closeBrace : String.utf8EncodeChar '}' = [0x7D] := rfl

@[simp]
theorem encodeChar_comma : String.utf8EncodeChar ',' = [0x2C] := rfl

@[simp]
theorem encodeChar_colon : String.utf8EncodeChar ':' = [0x3A] := rfl

@[simp]
theorem encodeChar_space : String.utf8EncodeChar ' ' = [0x20] := rfl

theorem blanks_space : Blanks [0x20] := by
  intro octet membership
  cases List.mem_singleton.mp membership
  decide

end Punctuation

section Pretty

mutual

theorem writes_pretty (level : Nat) (value : Json) :
    Writes value (encodeChars (prettyChars level value)) := by
  cases value with
  | null => exact .null
  | bool value =>
      cases value with
      | true => exact .yes
      | false => exact .no
  | natural number => exact .natural number
  | text value => exact .text value
  | array items =>
      cases items with
      | nil => exact .noItems
      | cons item items =>
          have inside := writesItems_pretty (level + 1) (item :: items) (List.cons_ne_nil _ _)
            (encodeChars_lineBreak level)
          simpa [prettyChars] using Writes.array inside
  | object members =>
      cases members with
      | nil => exact .noMembers
      | cons member members =>
          have inside := writesMembers_pretty (level + 1) (member :: members)
            (List.cons_ne_nil _ _) (encodeChars_lineBreak level)
          simpa [prettyChars] using Writes.object inside

theorem writesItems_pretty (level : Nat) (items : List Json) (notEmpty : items ≠ [])
    {after : Bytes} (blanksAfter : Blanks after) :
    WritesItems items (encodeChars (prettyItems level items) ++ (after ++ [0x5D])) := by
  have blanksBefore := encodeChars_lineBreak level
  cases items with
  | nil => contradiction
  | cons item items =>
      have written := writes_pretty level item
      have others := fun more => writesItems_pretty level items more blanksAfter
      cases items with
      | nil => simpa [prettyItems] using WritesItems.last blanksBefore blanksAfter written
      | cons next items =>
          simpa [prettyItems] using
            WritesItems.more blanksBefore .nil written (others (List.cons_ne_nil _ _))

theorem writesMembers_pretty (level : Nat) (members : List (String × Json))
    (notEmpty : members ≠ []) {after : Bytes} (blanksAfter : Blanks after) :
    WritesMembers members (encodeChars (prettyMembers level members) ++ (after ++ [0x7D])) := by
  have blanksBefore := encodeChars_lineBreak level
  cases members with
  | nil => contradiction
  | cons member members =>
      obtain ⟨name, value⟩ := member
      have written := writes_pretty level value
      have others := fun more => writesMembers_pretty level members more blanksAfter
      cases members with
      | nil =>
          simpa [prettyMembers] using
            @WritesMembers.last name _ _ _ _ _ blanksBefore blanks_space blanksAfter written
      | cons next members =>
          simpa [prettyMembers] using
            @WritesMembers.more name _ _ _ _ _ _ _ blanksBefore blanks_space .nil written
              (others (List.cons_ne_nil _ _))

end

end Pretty

section Compact

mutual

theorem writes_compact (value : Json) : Writes value (encodeChars (compactChars value)) := by
  cases value with
  | null => exact .null
  | bool value =>
      cases value with
      | true => exact .yes
      | false => exact .no
  | natural number => exact .natural number
  | text value => exact .text value
  | array items =>
      cases items with
      | nil => exact .noItems
      | cons item items =>
          have inside := writesItems_compact (item :: items) (List.cons_ne_nil _ _)
          simpa [compactChars] using Writes.array inside
  | object members =>
      cases members with
      | nil => exact .noMembers
      | cons member members =>
          have inside := writesMembers_compact (member :: members) (List.cons_ne_nil _ _)
          simpa [compactChars] using Writes.object inside

theorem writesItems_compact (items : List Json) (notEmpty : items ≠ []) :
    WritesItems items (encodeChars (compactItems items) ++ [0x5D]) := by
  cases items with
  | nil => contradiction
  | cons item items =>
      have written := writes_compact item
      have others := fun more => writesItems_compact items more
      cases items with
      | nil => simpa [compactItems] using WritesItems.last .nil .nil written
      | cons next items =>
          simpa [compactItems] using
            WritesItems.more .nil .nil written (others (List.cons_ne_nil _ _))

theorem writesMembers_compact (members : List (String × Json)) (notEmpty : members ≠ []) :
    WritesMembers members (encodeChars (compactMembers members) ++ [0x7D]) := by
  cases members with
  | nil => contradiction
  | cons member members =>
      obtain ⟨name, value⟩ := member
      have written := writes_compact value
      have others := fun more => writesMembers_compact members more
      cases members with
      | nil =>
          simpa [compactMembers] using
            @WritesMembers.last name _ _ _ _ _ .nil .nil .nil written
      | cons next members =>
          simpa [compactMembers] using
            @WritesMembers.more name _ _ _ _ _ _ _ .nil .nil .nil written
              (others (List.cons_ne_nil _ _))

end

end Compact

/-- A value is read from octets that are a written form of it. -/
theorem ofOctets_of_writes {value : Json} {octets : Bytes} (written : Writes value octets) :
    Reading.ofOctets octets = (value.toReading, .ok []) := by
  have nothing : Numeral.EndsNumber [] := by
    intro octet membership
    contradiction
  have read := value_of_writes written (Nat.le_add_right (2 * octets.length) 2) nothing
  rwa [List.append_nil] at read

theorem run_of_writes {Value : Type} {decoder : Decoder Value} {value : Json} {octets : Bytes}
    {result : Value} (written : Writes value octets)
    (decoded : decoder value.toReading = .ok result) : decoder.run octets = .ok result := by
  have nothing : Reading.skipBlanks [] = [] := rfl
  simp [Decoder.run, ofOctets_of_writes written, decoded, bind, Except.bind, nothing, pure,
    Except.pure]

theorem run_pretty {Value : Type} {decoder : Decoder Value} {value : Json} {result : Value}
    (decoded : decoder value.toReading = .ok result) :
    decoder.run (encode value.pretty) = .ok result := by
  unfold pretty
  rw [encode_ofList]
  exact run_of_writes (writes_pretty 0 value) decoded

theorem run_compact {Value : Type} {decoder : Decoder Value} {value : Json} {result : Value}
    (decoded : decoder value.toReading = .ok result) :
    decoder.run (encode value.compact) = .ok result := by
  unfold compact
  rw [encode_ofList]
  exact run_of_writes (writes_compact value) decoded

end GameCatalog.Json
