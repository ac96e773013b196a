import Mustache.Output

namespace Mustache.Encoding

/-! Text with entities. What is written for HTML has no markup of its own, and a
reader who puts a character in the place of each entity gets the text back. -/

/-! ## Inert text -/

/-- What stands for the characters that have a meaning in HTML. -/
def entities : List (List Char) :=
  ["&amp;".toList, "&lt;".toList, "&gt;".toList, "&quot;".toList, "&#39;".toList]

/-- Text without tags and quotation marks, of which each ampersand begins an entity. -/
def Inert (text : List Char) : Prop :=
  (∀ character ∈ ['<', '>', '"', '\''], character ∉ text) ∧
    ∀ before behind, text = before ++ '&' :: behind →
      ∃ entity ∈ entities, entity <+: '&' :: behind

theorem inert_nil : Inert [] :=
  ⟨by simp, by simp⟩

theorem Inert.append {first second : List Char} (one : Inert first) (other : Inert second) :
    Inert (first ++ second) := by
  constructor
  · intro character special member
    rcases List.mem_append.mp member with member | member
    · exact one.1 character special member
    · exact other.1 character special member
  · intro before behind shape
    rcases List.append_eq_append_iff.mp shape with ⟨skipped, -, split⟩ | ⟨rest, split, more⟩
    · exact other.2 skipped behind split
    · cases rest with
      | nil => exact other.2 [] behind more.symm
      | cons character rest =>
          cases more
          rcases one.2 before rest split with ⟨entity, known, begins⟩
          exact ⟨entity, known, begins.trans ⟨second, rfl⟩⟩

/-- An entity has no ampersand but the first one. -/
theorem inert_of_mem_entities {text : List Char} (known : text ∈ entities) : Inert text := by
  have plain : ∀ entity ∈ entities, '<' ∉ entity ∧ '>' ∉ entity ∧ '"' ∉ entity ∧
      '\'' ∉ entity ∧ '&' ∉ entity.tail := by
    decide
  rcases plain text known with ⟨less, greater, quotation, apostrophe, once⟩
  refine ⟨by simpa using ⟨less, greater, quotation, apostrophe⟩, ?_⟩
  intro before behind shape
  cases before with
  | nil => exact ⟨text, known, by simp [shape]⟩
  | cons first before =>
      have again : '&' ∈ text.tail := by simp [shape]
      exact absurd again once

theorem inert_singleton {character : Char}
    (ordinary : character ∉ ['&', '<', '>', '"', '\'']) : Inert [character] := by
  constructor
  · rintro special among member
    cases List.mem_singleton.mp member
    exact ordinary (List.mem_cons_of_mem _ among)
  · intro before behind shape
    have member : '&' ∈ [character] := by simp [shape]
    cases List.mem_singleton.mp member
    exact absurd List.mem_cons_self ordinary

theorem inert_entity (character : Char) : Inert (entity character) := by
  unfold entity
  split
  case h_6 ampersand less greater quotation apostrophe =>
    exact inert_singleton (by simpa using ⟨ampersand, less, greater, quotation, apostrophe⟩)
  all_goals exact inert_of_mem_entities (by decide)

theorem inert_htmlChars (text : List Char) : Inert (htmlChars text) := by
  induction text with
  | nil => exact inert_nil
  | cons character rest induction => exact (inert_entity character).append induction

/-! ## Text without special characters -/

theorem entity_of_not_special {character : Char} (ordinary : isSpecial character = false) :
    entity character = [character] := by
  unfold isSpecial at ordinary
  unfold entity
  split at ordinary
  case h_6 => simp_all
  all_goals cases ordinary

theorem htmlChars_of_not_special {text : List Char} (ordinary : text.any isSpecial = false) :
    htmlChars text = text := by
  rw [List.any_eq_false] at ordinary
  induction text with
  | nil => rfl
  | cons character rest induction =>
      have first := entity_of_not_special (by simpa using ordinary character List.mem_cons_self)
      have others := induction fun other member =>
        ordinary other (List.mem_cons_of_mem character member)
      rw [htmlChars, List.flatMap_cons, first, ← htmlChars, others]
      rfl

/-- Text that is written as it is would not be changed by escaping it. -/
theorem html_eq_escape (text : String) : html text = escape text := by
  unfold html
  split
  · rfl
  · next ordinary =>
    rw [escape, htmlChars_of_not_special (by simpa using ordinary), String.ofList_toList]

theorem inert_html (text : String) : Inert (html text).toList := by
  rw [html_eq_escape, escape, String.toList_ofList]
  exact inert_htmlChars text.toList

/-! ## Reading entities -/

/-- Put a character in the place of each entity, from left to right. What has been put
there is not read again, and an ampersand that begins no entity stays. -/
def readChars : List Char → List Char
  | '&' :: 'a' :: 'm' :: 'p' :: ';' :: rest => '&' :: readChars rest
  | '&' :: 'l' :: 't' :: ';' :: rest => '<' :: readChars rest
  | '&' :: 'g' :: 't' :: ';' :: rest => '>' :: readChars rest
  | '&' :: 'q' :: 'u' :: 'o' :: 't' :: ';' :: rest => '"' :: readChars rest
  | '&' :: '#' :: '3' :: '9' :: ';' :: rest => '\'' :: readChars rest
  | character :: rest => character :: readChars rest
  | [] => []

def unescape (text : String) : String :=
  String.ofList (readChars text.toList)

theorem readChars_of_not_ampersand {character : Char} (other : character ≠ '&')
    (rest : List Char) : readChars (character :: rest) = character :: readChars rest := by
  rw [readChars] <;> simp [other]

/-- Behind an entity the reader stands at the beginning of what follows. -/
theorem readChars_entity_append (character : Char) (rest : List Char) :
    readChars (entity character ++ rest) = character :: readChars rest := by
  unfold entity
  split
  case h_6 ampersand less greater quotation apostrophe =>
    exact readChars_of_not_ampersand ampersand rest
  all_goals rfl

theorem readChars_htmlChars (text : List Char) : readChars (htmlChars text) = text := by
  induction text with
  | nil => rfl
  | cons character rest induction =>
      rw [htmlChars, List.flatMap_cons, readChars_entity_append, ← htmlChars, induction]

theorem unescape_escape (text : String) : unescape (escape text) = text := by
  rw [unescape, escape, String.toList_ofList, readChars_htmlChars, String.ofList_toList]

theorem escape_append (first second : String) :
    escape (first ++ second) = escape first ++ escape second := by
  rw [escape, escape, escape, String.toList_append, htmlChars, List.flatMap_append,
    String.ofList_append]
  rfl

/-- Writing for HTML loses nothing and leaves no markup: what is written is the escaped
text, whether or not there is anything to escape in it, and it is read back from left to
right, entities that stood in the text before included. Parts are written alike on their
own and together. -/
theorem html_lossless (text other : String) :
    html text = escape text ∧ Inert (html text).toList ∧ unescape (html text) = text ∧
      (html text = html other ↔ text = other) ∧
      escape (text ++ other) = escape text ++ escape other := by
  refine ⟨html_eq_escape text, inert_html text, ?_, ?_, escape_append text other⟩
  · rw [html_eq_escape, unescape_escape]
  · constructor
    · intro same
      rw [html_eq_escape, html_eq_escape] at same
      rw [← unescape_escape text, same, unescape_escape]
    · exact congrArg html

/-- Only one of the two ampersands in it is put there by the reader. -/
example : unescape (html "&lt;&amp;'") = "&lt;&amp;'" ∧ unescape "&amp;lt;" = "&lt;" := by
  decide +kernel

end Mustache.Encoding
