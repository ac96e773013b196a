import Mustache.Proofs.Path
import Mustache.Web.Response

namespace Mustache

/-! Requests stay in the template directory. A request path is refused for its parts
between slashes; a file is sought by the components of a path, and before that an
extension may have been added to the name. -/

theorem Settings.descends_templateFile {name : String} (descends : Path.Descends ⟨name⟩)
    (settings : Settings) (undivided : '/' ∉ settings.extension.toList) :
    (settings.templateFile name).Descends := by
  unfold templateFile
  dsimp only
  split
  · exact descends
  · next plain =>
    simp only [Bool.or_eq_true, not_or, Bool.not_eq_true, String.isEmpty_eq_false_iff,
      Option.isSome_eq_false_iff, Option.isNone_iff_eq_none] at plain
    exact descends.withExtension plain.1 undivided plain.2

namespace Web

/-! ## Names of templates -/

/-- Slashes at the start divide a path into empty parts only. -/
theorem above_mem_pieces_dropWhile (text : List Char) :
    ['.', '.'] ∈ Text.pieces '/' (text.dropWhile (· == '/')) ↔
      ['.', '.'] ∈ Text.pieces '/' text := by
  induction text with
  | nil => rfl
  | cons character rest induction =>
      by_cases slash : character = '/'
      · simp [slash, induction, Text.pieces]
      · simp [slash]

theorem templateName?_eq_none_iff (path : String) :
    templateName? path = none ↔ ".." ∈ Text.stringPieces '/' path := by
  rw [Text.mem_stringPieces_iff]
  change _ ↔ ['.', '.'] ∈ Text.pieces '/' path.toList
  rw [← above_mem_pieces_dropWhile]
  unfold templateName?
  dsimp only
  split
  · next refused => simpa using refused
  · next passed =>
    have absent : ['.', '.'] ∉ Text.pieces '/' (path.toList.dropWhile (· == '/')) := by
      simpa using passed
    split
    · simpa using absent
    · split <;> simpa using absent

/-- A name of a template is a text between its two ends, neither of which is a slash. -/
structure ProperName (name : String) : Prop where
  nonempty : name ≠ ""
  first : name.toList.head? ≠ some '/'
  last : name.toList.getLast? ≠ some '/'
  neverUp : ['.', '.'] ∉ Text.pieces '/' name.toList

theorem properName_of_templateName? {path name : String} (found : templateName? path = some name) :
    ProperName name := by
  unfold templateName? at found
  dsimp only at found
  have first := List.head?_dropWhile_not (· == '/') path.toList
  generalize path.toList.dropWhile (· == '/') = clean at found first
  split at found
  · cases found
  · next passed =>
    have neverUp : ['.', '.'] ∉ Text.pieces '/' clean := by simpa using passed
    have head : clean.head? ≠ some '/' := by
      intro slash
      simp [slash] at first
    split at found
    · cases found
      exact ⟨by decide, by decide, by decide, by decide⟩
    · next some =>
      have nonempty : clean ≠ [] := by simpa using some
      split at found
      · next directory =>
        cases found
        rcases List.getLast?_eq_some_iff.mp (by simpa using directory) with ⟨before, rfl⟩
        rw [Text.pieces_append, List.mem_append, not_or] at neverUp
        refine ⟨by simp, ?_, by simp, ?_⟩
        · cases before with
          | nil => exact absurd rfl head
          | cons character others => simpa using head
        · rw [String.toList_ofList, List.append_assoc, List.singleton_append, Text.pieces_append,
            List.mem_append, not_or]
          exact ⟨neverUp.1, by decide⟩
      · next file =>
        cases found
        refine ⟨by simpa using nonempty, ?_, ?_, ?_⟩
        · rwa [String.toList_ofList]
        · rw [String.toList_ofList]
          simpa using file
        · rwa [String.toList_ofList]

theorem ProperName.descends {name : String} (named : ProperName name) : Path.Descends ⟨name⟩ where
  relative := by simpa [Path.isAbsolute] using named.first
  neverUp := by
    rw [Path.above_mem_components_iff]
    exact named.neverUp

/-- A request path has no template just if one of its parts goes up. Any other path names
a file by a relative path that never goes up, so below any directory the file is sought
in that directory. -/
theorem templateName?_confined (path : String) :
    (templateName? path = none ↔ ".." ∈ Text.stringPieces '/' path) ∧
    ∀ name, templateName? path = some name →
      name ≠ "" ∧ name.toList.head? ≠ some '/' ∧ name.toList.getLast? ≠ some '/' ∧
      ∀ settings : Settings, '/' ∉ settings.extension.toList →
        let file := settings.templateFile name
        file.isAbsolute = false ∧ .above ∉ file.components ∧
        ∀ directory : Path, (directory.join file.text).LiesUnder directory := by
  refine ⟨templateName?_eq_none_iff path, ?_⟩
  intro name found
  have named := properName_of_templateName? found
  refine ⟨named.nonempty, named.first, named.last, ?_⟩
  intro settings undivided file
  have descends := settings.descends_templateFile named.descends undivided
  exact ⟨descends.relative, descends.neverUp, Path.liesUnder_join descends⟩

/-- Dots in a name, needless slashes and the index of a directory. -/
theorem templateName?_confined_index :
    templateName? "//.docs/./a../" = some ".docs/./a../index" ∧
      (Settings.standard.templateFile ".docs/./a../index").isAbsolute = false ∧
      .above ∉ (Settings.standard.templateFile ".docs/./a../index").components ∧
      Path.LiesUnder (Path.join ⟨"../site/"⟩
        (Settings.standard.templateFile ".docs/./a../index").text) ⟨"../site/"⟩ := by
  have found : templateName? "//.docs/./a../" = some ".docs/./a../index" := by decide +kernel
  rcases (templateName?_confined "//.docs/./a../").2 _ found with ⟨-, -, -, confined⟩
  rcases confined .standard (by decide) with ⟨relative, neverUp, lies⟩
  exact ⟨found, relative, neverUp, lies ⟨"../site/"⟩⟩

end Web

end Mustache
