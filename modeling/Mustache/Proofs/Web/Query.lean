import Mathlib.Tactic.IntervalCases
import Mustache.Proofs.Entries
import Mustache.Proofs.Text.Pieces
import Mustache.Proofs.Text.Utf8
import Mustache.Web.Request

namespace Mustache.Web

/-! Parameters are read from every query in which they can be written. A character may be
written as itself or by its bytes, and a space also as a plus sign. The marks of a query are
read before any byte is, so a mark that is written by its byte is a character like others. -/

/-! ## How parameters are written -/

/-- The digit of a number below sixteen, in one of the two cases. -/
def IsHexDigit (value : Nat) (digit : Char) : Prop :=
  digit = value.digitChar ∨ digit = value.digitChar.toUpper

/-- Bytes that are written by a percent sign and two digits each. -/
inductive Escapes : List UInt8 → List Char → Prop where
  | nil : Escapes [] []
  | cons {byte : UInt8} {bytes : List UInt8} {high low : Char} {text : List Char}
      (first : IsHexDigit (byte.toNat / 16) high) (second : IsHexDigit (byte.toNat % 16) low)
      (escapes : Escapes bytes text) : Escapes (byte :: bytes) ('%' :: high :: low :: text)

/-- Characters that stand for something else in a query. -/
def queryMarks : List Char := ['&', '=', '+', '%']

inductive SpellsCharacter : Char → List Char → Prop where
  | literal {character : Char} (plain : character ∉ queryMarks) :
      SpellsCharacter character [character]
  | escaped {character : Char} {text : List Char}
      (escapes : Escapes (String.utf8EncodeChar character) text) : SpellsCharacter character text
  | plus : SpellsCharacter ' ' ['+']

inductive SpellsText : List Char → List Char → Prop where
  | nil : SpellsText [] []
  | cons {character : Char} {characters first rest : List Char}
      (one : SpellsCharacter character first) (more : SpellsText characters rest) :
      SpellsText (character :: characters) (first ++ rest)

inductive SpellsParameter : String × String → List Char → Prop where
  | intro {name value : String} {first second : List Char} (named : SpellsText name.toList first)
      (valued : SpellsText value.toList second) :
      SpellsParameter (name, value) (first ++ '=' :: second)

/-! ## Bytes -/

/-- A digit is one byte, which is read as its number. -/
theorem IsHexDigit.read {value : Nat} {digit : Char} (written : IsHexDigit value digit)
    (bound : value < 16) : digit ∉ queryMarks ∧
      ∃ byte, String.utf8EncodeChar digit = [byte] ∧ hexByte? byte = some value := by
  interval_cases value <;> rcases written with rfl | rfl <;>
    exact ⟨by decide, _, rfl, rfl⟩

theorem plusToSpace_cons_of_ne {character : Char} (other : character ≠ '+') (rest : List Char) :
    plusToSpace (character :: rest) = character :: plusToSpace rest := by
  rw [plusToSpace, List.map_cons, if_neg other, plusToSpace]

theorem encodeUtf8_cons (character : Char) (rest : List Char) :
    Text.encodeUtf8 (character :: rest) =
      String.utf8EncodeChar character ++ Text.encodeUtf8 rest :=
  List.flatMap_cons

theorem decodePercent_cons_of_ne {byte : UInt8} (other : byte ≠ 0x25) (rest : List UInt8) :
    decodePercent (byte :: rest) = byte :: decodePercent rest := by
  rw [decodePercent]
  rintro high low more rfl
  exact absurd rfl other

theorem decodePercent_append_of_not_mem {bytes : List UInt8} (others : 0x25 ∉ bytes)
    (rest : List UInt8) : decodePercent (bytes ++ rest) = bytes ++ decodePercent rest := by
  induction bytes with
  | nil => rfl
  | cons byte bytes induction =>
      rw [List.mem_cons, not_or] at others
      rw [List.cons_append, decodePercent_cons_of_ne (Ne.symm others.1), induction others.2,
        List.cons_append]

/-- Only the percent sign has its byte. -/
theorem percent_not_mem_encodeChar {character : Char} (other : character ≠ '%') :
    0x25 ∉ String.utf8EncodeChar character := by
  intro member
  by_cases small : character.toNat < 128
  · have alone : String.utf8EncodeChar character = [UInt8.ofNat character.toNat] :=
      if_pos (Nat.le_of_lt_succ small)
    rw [alone, List.mem_singleton] at member
    have same := congrArg UInt8.toNat member
    rw [UInt8.toNat_ofNat', Nat.mod_eq_of_lt (by omega)] at same
    exact other (Char.ext (UInt32.toNat_inj.mp same.symm))
  · have large := Text.le_toNat_of_mem_encodeChar (by omega) member
    exact absurd large (by decide)

/-! ## Characters -/

/-- What has been written of a character is not changed by what follows. -/
theorem Escapes.decode {bytes : List UInt8} {text : List Char} (escapes : Escapes bytes text)
    (rest : List Char) :
    decodePercent (Text.encodeUtf8 (plusToSpace (text ++ rest))) =
      bytes ++ decodePercent (Text.encodeUtf8 (plusToSpace rest)) := by
  induction escapes with
  | nil => rfl
  | @cons byte bytes high low text first second escapes induction =>
      have bound := byte.toNat_lt
      rcases first.read (by omega) with ⟨plainHigh, one, writtenHigh, readHigh⟩
      rcases second.read (by omega) with ⟨plainLow, two, writtenLow, readLow⟩
      have percent : String.utf8EncodeChar '%' = [0x25] := rfl
      simp only [List.cons_append]
      rw [plusToSpace_cons_of_ne (by decide), plusToSpace_cons_of_ne (by rintro rfl; contradiction),
        plusToSpace_cons_of_ne (by rintro rfl; contradiction), encodeUtf8_cons, encodeUtf8_cons,
        encodeUtf8_cons, percent, writtenHigh, writtenLow]
      simp only [List.cons_append, List.nil_append]
      rw [decodePercent, readHigh, readLow, induction]
      dsimp only
      rw [Nat.div_add_mod, UInt8.ofNat_toNat]

theorem Escapes.unmarked {bytes : List UInt8} {text : List Char} (escapes : Escapes bytes text) :
    '&' ∉ text ∧ '=' ∉ text := by
  induction escapes with
  | nil => exact ⟨nofun, nofun⟩
  | @cons byte bytes high low text first second escapes induction =>
      have bound := byte.toNat_lt
      have plainHigh := (first.read (by omega)).1
      have plainLow := (second.read (by omega)).1
      simp only [queryMarks, List.mem_cons, List.not_mem_nil, or_false, not_or] at plainHigh plainLow
      simp [induction, Ne.symm plainHigh.1, Ne.symm plainHigh.2.1, Ne.symm plainLow.1,
        Ne.symm plainLow.2.1]

theorem SpellsCharacter.decode {character : Char} {text : List Char}
    (spells : SpellsCharacter character text) (rest : List Char) :
    decodePercent (Text.encodeUtf8 (plusToSpace (text ++ rest))) =
      String.utf8EncodeChar character ++ decodePercent (Text.encodeUtf8 (plusToSpace rest)) := by
  cases spells with
  | literal plain =>
      simp only [queryMarks, List.mem_cons, List.not_mem_nil, or_false, not_or] at plain
      rw [List.singleton_append, plusToSpace_cons_of_ne plain.2.2.1, encodeUtf8_cons,
        decodePercent_append_of_not_mem (percent_not_mem_encodeChar plain.2.2.2)]
  | escaped escapes => exact escapes.decode rest
  | plus =>
      have space : plusToSpace ('+' :: rest) = ' ' :: plusToSpace rest := rfl
      rw [List.singleton_append, space, encodeUtf8_cons,
        decodePercent_append_of_not_mem (percent_not_mem_encodeChar (by decide))]

theorem SpellsCharacter.unmarked {character : Char} {text : List Char}
    (spells : SpellsCharacter character text) : '&' ∉ text ∧ '=' ∉ text := by
  cases spells with
  | literal plain =>
      simp only [queryMarks, List.mem_cons, List.not_mem_nil, or_false, not_or] at plain
      simp [Ne.symm plain.1, Ne.symm plain.2.1]
  | escaped escapes => exact escapes.unmarked
  | plus => decide

/-! ## Parameters -/

theorem SpellsText.decode {characters text : List Char} (spells : SpellsText characters text) :
    decodePercent (Text.encodeUtf8 (plusToSpace text)) = Text.encodeUtf8 characters := by
  induction spells with
  | nil => rfl
  | cons one more induction => rw [one.decode, induction, encodeUtf8_cons]

theorem SpellsText.unmarked {characters text : List Char} (spells : SpellsText characters text) :
    '&' ∉ text ∧ '=' ∉ text := by
  induction spells with
  | nil => exact ⟨nofun, nofun⟩
  | cons one more induction =>
      simp only [List.mem_append, not_or]
      exact ⟨⟨one.unmarked.1, induction.1⟩, ⟨one.unmarked.2, induction.2⟩⟩

theorem decodeComponent_of_spells {text : String} {written : List Char}
    (spells : SpellsText text.toList written) : decodeComponent written = text := by
  rw [decodeComponent, spells.decode, Text.decodeUtf8_encodeUtf8, String.ofList_toList]

theorem parameterOfPiece_of_spells {parameter : String × String} {piece : List Char}
    (spells : SpellsParameter parameter piece) :
    piece ≠ [] ∧ '&' ∉ piece ∧ parameterOfPiece piece = parameter := by
  cases spells with
  | intro named valued =>
      refine ⟨by simp, by simp [named.unmarked.1, valued.unmarked.1], ?_⟩
      rw [parameterOfPiece, Text.cut?_append named.unmarked.2]
      dsimp only [Option.getD_some]
      rw [decodeComponent_of_spells named, decodeComponent_of_spells valued]

/-- However the parameters of a query are written, they are what is read: each name stands
where it was written first and has the value that was written last. Templates get these
values as texts. -/
theorem parseQuery_of_spelled {parameters : List (String × String)} {texts : List (List Char)}
    (spread : Text.Spread SpellsParameter parameters texts) :
    Entries.Keeps parameters (parseQuery (Text.joinPieces '&' texts)) ∧
    ∀ (Lambda : Type) (path : String),
      Entries.Keeps (Entries.mapValues .text parameters)
        (Request.parameters ⟨path, String.ofList (Text.joinPieces '&' texts)⟩ :
          Bindings Lambda) := by
  have read : parseQuery (Text.joinPieces '&' texts) = Entries.ofPairs parameters := by
    have pieces : _ = parameters := spread.map_filter_pieces fun parameter member piece spells =>
      parameterOfPiece_of_spells spells
    rw [parseQuery, pieces]
  constructor
  · rw [read]
    exact Entries.keeps_ofPairs parameters
  · intro Lambda path
    rw [Request.parameters, String.toList_ofList, read, Entries.mapValues_ofPairs]
    exact Entries.keeps_ofPairs _

/-- A mark in a name, written by its byte with a digit of either case, and a character of two
bytes. -/
theorem parseQuery_of_spelled_marks :
    Entries.Keeps [("a+", "é "), ("x", ""), ("a+", "&")]
      (parseQuery "&a%2b=%C3%a9+&x=&&a%2B=%26".toList) := by
  have a : SpellsCharacter 'a' ['a'] := .literal (by decide)
  have x : SpellsCharacter 'x' ['x'] := .literal (by decide)
  have small : SpellsCharacter '+' ['%', '2', 'b'] := .escaped (.cons (.inl rfl) (.inl rfl) .nil)
  have large : SpellsCharacter '+' ['%', '2', 'B'] := .escaped (.cons (.inl rfl) (.inr rfl) .nil)
  have mark : SpellsCharacter '&' ['%', '2', '6'] := .escaped (.cons (.inl rfl) (.inl rfl) .nil)
  have accented : SpellsCharacter 'é' ['%', 'C', '3', '%', 'a', '9'] :=
    .escaped (.cons (.inr rfl) (.inl rfl) (.cons (.inl rfl) (.inl rfl) .nil))
  have first : SpellsParameter ("a+", "é ") _ :=
    .intro (.cons a (.cons small .nil)) (.cons accented (.cons .plus .nil))
  have second : SpellsParameter ("x", "") _ := .intro (.cons x .nil) .nil
  have last : SpellsParameter ("a+", "&") _ :=
    .intro (.cons a (.cons large .nil)) (.cons mark .nil)
  exact (parseQuery_of_spelled (.gap (.cons first (.cons second (.gap (.cons last .nil)))))).1

end Mustache.Web
