import Mustache.Text.Pieces

namespace Mustache.Text

/-! Pieces of texts that are put together of others, and what is written in them. -/

theorem pieces_eq_splitOn (separator : Char) (text : List Char) :
    pieces separator text = text.splitOn separator := by
  induction text with
  | nil => rfl
  | cons character rest induction =>
      rw [pieces, List.splitOn_cons_eq_if_modifyHead, ← induction]
      by_cases equal : character = separator
      · simp [equal]
      · rw [if_neg equal, if_neg (by simpa using equal)]
        cases divided : pieces separator rest with
        | nil => exact absurd divided (pieces_ne_nil separator rest)
        | cons first others => rfl

theorem pieces_append (separator : Char) (first second : List Char) :
    pieces separator (first ++ separator :: second) =
      pieces separator first ++ pieces separator second := by
  simp only [pieces_eq_splitOn, List.splitOn_append_cons_self]

theorem pieces_of_not_mem {separator : Char} {text : List Char} (undivided : separator ∉ text) :
    pieces separator text = [text] := by
  rw [pieces_eq_splitOn, List.splitOn_eq_singleton undivided]

theorem not_mem_of_mem_pieces {separator : Char} {text piece : List Char}
    (member : piece ∈ pieces separator text) : separator ∉ piece := by
  induction text generalizing piece with
  | nil => simp_all [pieces]
  | cons character rest induction =>
      rw [pieces] at member
      split at member
      · rcases List.mem_cons.mp member with rfl | later
        · exact List.not_mem_nil
        · exact induction later
      · next other =>
        split at member
        · next none => exact absurd none (pieces_ne_nil separator rest)
        · next first others divided =>
          rw [divided] at induction
          rcases List.mem_cons.mp member with rfl | later
          · have inFirst := induction List.mem_cons_self
            simpa using ⟨Ne.symm other, inFirst⟩
          · exact induction (List.mem_cons_of_mem first later)

theorem mem_stringPieces_iff {separator : Char} {text piece : String} :
    piece ∈ stringPieces separator text ↔ piece.toList ∈ pieces separator text.toList := by
  rw [stringPieces, List.mem_map]
  constructor
  · rintro ⟨characters, member, rfl⟩
    rwa [String.toList_ofList]
  · intro member
    exact ⟨piece.toList, member, String.ofList_toList⟩

/-- Every piece but the last one is written with a separator behind it. -/
theorem joinPieces_append (separator : Char) (before : List (List Char))
    {behind : List (List Char)} (some : behind ≠ []) :
    joinPieces separator (before ++ behind) =
      before.flatMap (· ++ [separator]) ++ joinPieces separator behind := by
  induction before with
  | nil => rfl
  | cons first rest induction =>
      cases others : rest ++ behind with
      | nil => simp_all
      | cons second later =>
          rw [List.cons_append, others, joinPieces, ← others, induction]
          · simp
          · simp

theorem flatMap_eq_joinPieces (separator : Char) {texts : List (List Char)} (some : texts ≠ []) :
    texts.flatMap (· ++ [separator]) = joinPieces separator texts ++ [separator] := by
  induction texts with
  | nil => exact absurd rfl some
  | cons first rest induction =>
      cases rest with
      | nil => simp [joinPieces]
      | cons second others =>
          rw [List.flatMap_cons, induction (List.cons_ne_nil second others)]
          simp [joinPieces]

theorem flatMap_pieces (separator : Char) (text : List Char) :
    (pieces separator text).flatMap (· ++ [separator]) = text ++ [separator] := by
  rw [flatMap_eq_joinPieces separator (pieces_ne_nil separator text), joinPieces_pieces]

theorem pieces_joinPieces {separator : Char} {texts : List (List Char)} (some : texts ≠ [])
    (undivided : ∀ text ∈ texts, separator ∉ text) :
    pieces separator (joinPieces separator texts) = texts := by
  induction texts with
  | nil => exact absurd rfl some
  | cons first rest induction =>
      cases rest with
      | nil => exact pieces_of_not_mem (undivided first List.mem_cons_self)
      | cons second others =>
          have later := induction (List.cons_ne_nil second others) fun text member =>
            undivided text (List.mem_cons_of_mem first member)
          change pieces separator (first ++ separator :: joinPieces separator (second :: others)) = _
          rw [pieces_append, later, pieces_of_not_mem (undivided first List.mem_cons_self),
            List.singleton_append]

/-! ## Text cut once -/

theorem cut?_append {separator : Char} {before : List Char} (first : separator ∉ before)
    (behind : List Char) : cut? separator (before ++ separator :: behind) = some (before, behind) := by
  induction before with
  | nil => simp [cut?]
  | cons character rest induction =>
      rw [List.mem_cons, not_or] at first
      rw [List.cons_append, cut?, if_neg (Ne.symm first.1), induction first.2]
      rfl

theorem cut?_of_not_mem {separator : Char} {text : List Char} (undivided : separator ∉ text) :
    cut? separator text = none := by
  induction text with
  | nil => rfl
  | cons character rest induction =>
      rw [List.mem_cons, not_or] at undivided
      rw [cut?, if_neg (Ne.symm undivided.1), induction undivided.2]
      rfl

/-! ## Values written in pieces -/

section Spread

variable {α : Type} {writes : α → List Char → Prop} {values : List α} {texts : List (List Char)}

/-- The texts write the values one after the other, and any number of empty texts may stand
before, between and behind them. -/
inductive Spread (writes : α → List Char → Prop) : List α → List (List Char) → Prop where
  | nil : Spread writes [] []
  | gap {values : List α} {texts : List (List Char)} (spread : Spread writes values texts) :
      Spread writes values ([] :: texts)
  | cons {value : α} {values : List α} {text : List Char} {texts : List (List Char)}
      (written : writes value text) (spread : Spread writes values texts) :
      Spread writes (value :: values) (text :: texts)

/-- A value has no empty text and none that a separator divides. -/
theorem Spread.undivided {separator : Char} (spread : Spread writes values texts)
    (whole : ∀ value ∈ values, ∀ text, writes value text → separator ∉ text) :
    ∀ text ∈ texts, separator ∉ text := by
  induction spread with
  | nil => nofun
  | gap spread induction => exact List.forall_mem_cons.mpr ⟨List.not_mem_nil, induction whole⟩
  | cons written spread induction =>
      rw [List.forall_mem_cons] at whole
      exact List.forall_mem_cons.mpr ⟨whole.1 _ written, induction whole.2⟩

theorem Spread.map_filter {read : List Char → α} (spread : Spread writes values texts)
    (reads : ∀ value ∈ values, ∀ text, writes value text → text ≠ [] ∧ read text = value) :
    (texts.filter (!·.isEmpty)).map read = values := by
  induction spread with
  | nil => rfl
  | gap spread induction => exact induction reads
  | @cons value values text texts written spread induction =>
      rw [List.forall_mem_cons] at reads
      rcases reads.1 text written with ⟨nonempty, same⟩
      rw [List.filter_cons_of_pos (by simpa using nonempty), List.map_cons, same,
        induction reads.2]

/-- Values written between separators are read from the pieces that are not empty. -/
theorem Spread.map_filter_pieces {separator : Char} {read : List Char → α}
    (spread : Spread writes values texts)
    (reads : ∀ value ∈ values, ∀ text, writes value text →
      text ≠ [] ∧ separator ∉ text ∧ read text = value) :
    ((pieces separator (joinPieces separator texts)).filter (!·.isEmpty)).map read = values := by
  have mapped := spread.map_filter fun value member text written =>
    ⟨(reads value member text written).1, (reads value member text written).2.2⟩
  by_cases none : texts = []
  · subst none
    exact mapped
  · rw [pieces_joinPieces none (spread.undivided fun value member text written =>
      (reads value member text written).2.1), mapped]

end Spread

end Mustache.Text
