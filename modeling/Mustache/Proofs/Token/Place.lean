import Mathlib.Data.List.Induction
import Mustache.Proofs.Token.Lexeme

namespace Mustache

/-! Where tokens stand. The tokens of a source are written one behind the other, and
each tag knows how much is written before it. -/

namespace Token

/-- The offset of the opening mark of a tag. -/
def offset? : Token → Option Nat
  | .plain _ _ => none
  | .tag _ _ _ span => some span.offset

/-- The tokens are written one behind the other from an offset on, and the tags among
them stand where they say. -/
def Placed (offset : Nat) : List Token → Prop
  | [] => True
  | token :: rest =>
    (∀ place ∈ token.offset?, place = offset) ∧
      Placed (offset + token.lexeme.toChars.length) rest

theorem Placed.append {offset : Nat} {tokens rest : List Token} (placed : Placed offset tokens)
    (others : Placed (offset + ((tokens.map lexeme).flatMap Lexeme.toChars).length) rest) :
    Placed offset (tokens ++ rest) := by
  induction tokens generalizing offset with
  | nil => exact others
  | cons token tokens induction =>
      refine ⟨placed.1, induction placed.2 ?_⟩
      rwa [List.map_cons, List.flatMap_cons, List.length_append, ← Nat.add_assoc] at others

theorem placed_plains (offset : Nat) (text : List Char) (markers : Markers) :
    Placed offset (plains text markers) := by
  unfold plains
  split
  · trivial
  · exact ⟨nofun, trivial⟩

theorem placed_of_readFrom (cursor : Cursor) (markers : Markers) (passed : List Token) :
    ∃ tokens, (readFrom cursor markers passed).tokens = passed.reverse ++ tokens ∧
      Placed cursor.offset tokens := by
  fun_induction readFrom cursor markers passed with
  | case1 cursor markers passed opened =>
      refine ⟨plains cursor.unread markers, ?_, placed_plains _ _ _⟩
      cases cursor.unread <;> simp [plains]
  | case2 cursor markers passed text inside opened before problem read =>
      refine ⟨plains text markers, ?_, placed_plains _ _ _⟩
      cases text <;> simp [plains]
  | case3 cursor markers passed text inside opened before content after read induction =>
      rcases Cursor.readUntil?_eq_some_iff.mp opened with ⟨-, outer⟩
      rcases Cursor.passes_readTag read with ⟨body, inner⟩
      rcases induction with ⟨tokens, same, placed⟩
      have start : before.offset = cursor.offset + text.length := by
        have view := outer.unread
        rw [List.append_assoc] at view
        exact (Cursor.passes_of_unread view).offset
      refine ⟨plains text markers ++ ofTag content markers before inside after :: tokens, ?_, ?_⟩
      · rw [same]
        cases text <;> simp [plains]
      · apply (placed_plains _ _ _).append
        rw [flatMap_plains]
        constructor
        · rintro place ⟨⟩
          exact start
        · rw [lexeme_ofTag content before inner]
          rw [inner.offset, outer.offset] at placed
          simpa [Lexeme.toChars, Markers.around, Nat.add_assoc] using placed

end Token

/-! ## Lines and columns -/

/-- The place behind a text: its lines, and the characters of the last one. -/
def Position.behind (text : List Char) : Position :=
  ⟨text.count '\n' + 1, (text.reverse.takeWhile (· ≠ '\n')).length + 1⟩

theorem Cursor.position_eq_behind (source : List Char) (offset : Nat) :
    (start source).position offset = .behind (source.take offset) := by
  rw [position, start]
  induction source.take offset using List.reverseRecOn with
  | nil => rfl
  | append_singleton text character induction =>
      rw [List.foldl_append, induction]
      by_cases equal : character = '\n'
      · subst equal
        simp [Position.behind]
      · simp [Position.behind, equal]

/-- More text moves the place on, to another line or along the same one. -/
theorem Position.eq_nil_of_behind_append {text more : List Char}
    (same : behind (text ++ more) = behind text) : more = [] := by
  rcases Position.mk.inj same with ⟨lines, columns⟩
  have unbroken : '\n' ∉ more := by
    apply List.count_eq_zero.mp
    rw [List.count_append] at lines
    omega
  have along : ∀ character ∈ more.reverse, decide (character ≠ '\n') = true := by
    intro character member
    apply decide_eq_true
    rintro rfl
    exact unbroken (List.mem_reverse.mp member)
  rw [List.reverse_append, List.takeWhile_append_of_pos along, List.length_append,
    List.length_reverse] at columns
  apply List.length_eq_zero_iff.mp
  omega

/-- Places behind different texts of a source are different. -/
theorem Cursor.position_injective {source : List Char} {first second : Nat}
    (one : first ≤ source.length) (two : second ≤ source.length)
    (same : (start source).position first = (start source).position second) : first = second := by
  have ordered {fewer more : Nat} (within : more ≤ source.length) (bound : fewer ≤ more)
      (same : (start source).position fewer = (start source).position more) : fewer = more := by
    rw [position_eq_behind, position_eq_behind] at same
    have starts : source.take fewer <+: source.take more := List.take_prefix_take_left bound
    rcases starts with ⟨between, whole⟩
    rw [← whole] at same
    have nothing := Position.eq_nil_of_behind_append same.symm
    have lengths := congrArg List.length whole
    rw [nothing, List.append_nil, List.length_take, List.length_take] at lengths
    omega
  rcases Nat.le_total first second with bound | bound
  · exact ordered two bound same
  · exact (ordered one bound same.symm).symm

end Mustache
