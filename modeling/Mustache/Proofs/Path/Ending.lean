import Mathlib.Data.List.Basic
import Mathlib.Data.List.TakeWhile
import Mustache.Proofs.Path

namespace Mustache.Path

/-! Paths told by their end. What stands behind the last slash of a path is its file
name, if it means anything, and the extension is a part of that. -/

/-- The text of the path ends with this name, which stands at the start or behind a
slash. -/
structure Ends (path : Path) (front name : List Char) : Prop where
  text : path.text.toList = front ++ name
  starts : front = [] ∨ ∃ before, front = before ++ ['/']
  undivided : '/' ∉ name

theorem exists_ends (path : Path) : ∃ front name, path.Ends front name := by
  rcases List.eq_nil_or_concat' (Text.pieces '/' path.text.toList) with none | ⟨init, name, parts⟩
  · exact absurd none (Text.pieces_ne_nil _ _)
  · have text := Text.joinPieces_pieces '/' path.text.toList
    rw [parts, Text.joinPieces_append '/' init (List.cons_ne_nil name [])] at text
    refine ⟨init.flatMap (· ++ ['/']), name, text.symm, ?_, ?_⟩
    · rcases List.eq_nil_or_concat' init with rfl | ⟨before, last, rfl⟩
      · exact .inl rfl
      · exact .inr ⟨before.flatMap (· ++ ['/']) ++ last, by simp⟩
    · have piece : name ∈ Text.pieces '/' path.text.toList := by simp [parts]
      exact Text.not_mem_of_mem_pieces piece

/-- Only a silent part makes the start of a path mean more than a name. -/
theorem lead_of_pieces {text : List Char}
    (loud : ∀ part ∈ Text.pieces '/' text, isSilent part = false) : lead text = ([], text) := by
  unfold lead
  split
  · have empty := loud [] (by simp [Text.pieces])
    cases empty
  · have here := loud ['.'] (by simp [Text.pieces])
    cases here
  · have here := loud ['.'] (by simp [Text.pieces])
    cases here
  · rfl

/-- A slash does not change how the text before it starts. -/
theorem lead_append_slash {text : List Char} (some : text ≠ []) (rest : List Char) :
    lead (text ++ '/' :: rest) = ((lead text).1, (lead text).2 ++ '/' :: rest) := by
  rcases text with _ | ⟨first, _ | ⟨second, others⟩⟩
  · exact absurd rfl some
  · by_cases slash : first = '/'
    · simp [lead, slash]
    · by_cases dot : first = '.' <;> simp [lead, slash, dot]
  · by_cases slash : first = '/'
    · simp [lead, slash]
    · by_cases dot : first = '.' <;> by_cases slash' : second = '/' <;>
        simp [lead, slash, dot, slash']

section Ends

variable {path : Path} {front name : List Char} (ends : path.Ends front name)

include ends

theorem Ends.exists_backwards (loud : isSilent name = false) :
    ∃ start before, path.backwards = (start, name :: before) ∧
      ∀ file, (ofBackwards start (file :: before)).text.toList = front ++ file := by
  rcases ends with ⟨text, starts, undivided⟩
  have alone := Text.pieces_of_not_mem undivided
  rw [backwards_eq, text]
  rcases starts with rfl | ⟨before, rfl⟩
  · refine ⟨[], [], ?_, ?_⟩
    · rw [List.nil_append, lead_of_pieces (by simpa [alone] using loud), alone]
      simp [loud]
    · simp [ofBackwards, Text.joinPieces]
  · rw [List.append_assoc, List.singleton_append]
    by_cases none : before = []
    · subst none
      refine ⟨['/'], [], ?_, ?_⟩
      · simp [lead, alone, loud]
      · simp [ofBackwards, Text.joinPieces]
    · refine ⟨(lead before).1, (Text.pieces '/' (lead before).2).reverse, ?_, ?_⟩
      · rw [lead_append_slash none, Text.pieces_append, alone]
        simp [loud]
      · intro file
        rw [ofBackwards, String.toList_ofList, List.reverse_cons, List.reverse_reverse,
          Text.joinPieces_append '/' _ (List.cons_ne_nil file []), Text.flatMap_pieces,
          ← List.append_assoc, ← List.append_assoc, lead_append]
        rfl

theorem Ends.fileName? (loud : isSilent name = false) (notAbove : name ≠ ['.', '.']) :
    path.fileName? = some name := by
  rcases ends.exists_backwards loud with ⟨start, before, backwards, -⟩
  simp [Path.fileName?, backwards, notAbove]

end Ends

/-! ## Extensions -/

theorem divideName_of_not_mem {name : List Char} (undotted : '.' ∉ name) :
    divideName name = (name, none) := by
  have all : name.reverse.takeWhile (· != '.') = name.reverse := by
    rw [List.takeWhile_eq_self_iff]
    intro character member
    rw [bne_iff_ne]
    rintro rfl
    exact undotted (List.mem_reverse.mp member)
  simp [divideName, all]

/-- The last dot divides a name, unless it is the first character. -/
theorem divideName_append {stem extension : List Char} (some : stem ≠ [])
    (undotted : '.' ∉ extension) :
    divideName (stem ++ '.' :: extension) = (stem, Option.some extension) := by
  have behind : (stem ++ '.' :: extension).reverse.takeWhile (· != '.') = extension.reverse := by
    rw [List.reverse_append, List.reverse_cons, List.append_assoc, List.takeWhile_append_of_pos]
    · simp
    · intro character member
      rw [bne_iff_ne]
      rintro rfl
      exact undotted (List.mem_reverse.mp member)
  have before : (stem ++ '.' :: extension).take
      ((stem ++ '.' :: extension).length - extension.length - 1) = stem := by
    have length : (stem ++ '.' :: extension).length - extension.length - 1 = stem.length := by
      simp only [List.length_append, List.length_cons]
      omega
    rw [length, List.take_left]
  have shorter : extension.length ≠ (stem ++ '.' :: extension).length := by
    simp only [List.length_append, List.length_cons]
    omega
  have divided : (stem.isEmpty || extension.length == (stem ++ '.' :: extension).length) = false :=
    Bool.or_eq_false_iff.mpr ⟨by simpa using some, beq_eq_false_iff_ne.mpr shorter⟩
  simp only [divideName, behind, List.reverse_reverse, before, divided]
  rfl

/-- What is behind the last dot has none. -/
theorem not_mem_of_divideName {name stem extension : List Char}
    (divided : divideName name = (stem, some extension)) : '.' ∉ extension := by
  unfold divideName at divided
  dsimp only at divided
  split at divided
  · cases divided
  · cases divided
    intro member
    have other := List.mem_takeWhile_imp (List.mem_reverse.mp member)
    cases other

theorem not_mem_of_extension? {path : Path} {extension : String}
    (found : path.extension? = some extension) : '.' ∉ extension.toList := by
  rcases Option.map_eq_some_iff.mp found with ⟨behind, divided, rfl⟩
  rcases Option.bind_eq_some_iff.mp divided with ⟨name, -, divided⟩
  rw [String.toList_ofList]
  exact not_mem_of_divideName (Prod.ext rfl divided)

/-- The text of the path ends with a name that has this extension. -/
def Carries (path : Path) (extension : String) : Prop :=
  ∃ front stem, stem ≠ [] ∧ path.Ends front (stem ++ '.' :: extension.toList)

section Carries

variable {path : Path} {extension : String} {front name : List Char}

theorem Carries.extension? (carries : path.Carries extension) (some : extension ≠ "")
    (undotted : '.' ∉ extension.toList) : path.extension? = Option.some extension := by
  rcases carries with ⟨front, stem, named, ends⟩
  rcases means_append named (by simpa using some : extension.toList ≠ []) with ⟨loud, notAbove⟩
  simp [Path.extension?, ends.fileName? loud notAbove, divideName_append named undotted]

/-- A file name without a dot gets the extension. -/
theorem Ends.carries_withExtension (ends : path.Ends front name) (named : name ≠ [])
    (undotted : '.' ∉ name) (some : extension ≠ "") (undivided : '/' ∉ extension.toList) :
    path.extension? = none ∧ (path.withExtension extension).Carries extension := by
  have loud : isSilent name = false := by
    have notHere : name ≠ ['.'] := by
      rintro rfl
      exact undotted (by simp)
    simp [isSilent, named, notHere]
  have notAbove : name ≠ ['.', '.'] := by
    rintro rfl
    exact undotted (by simp)
  have found := ends.fileName? loud notAbove
  have whole := divideName_of_not_mem undotted
  rcases ends.exists_backwards loud with ⟨start, before, backwards, replaced⟩
  refine ⟨by simp [Path.extension?, found, whole], front, name, named, ?_, ends.starts, ?_⟩
  · simp only [withExtension, found, backwards, whole, String.isEmpty_iff, some, if_false]
    exact replaced _
  · simp [ends.undivided, undivided]

/-- A path below a directory ends as it did. -/
theorem Ends.join {path : String} (ends : Ends ⟨path⟩ front name) (directory : Path) :
    ∃ front, (directory.join path).Ends front name := by
  rcases ends with ⟨text, starts, undivided⟩
  rcases join_cases directory path with ⟨-, same⟩ | ⟨start, -, joined⟩
  · rw [same]
    exact ⟨front, text, starts, undivided⟩
  · refine ⟨start.toList ++ '/' :: front, by simp [joined, ← text], ?_, undivided⟩
    rcases starts with rfl | ⟨before, rfl⟩
    · exact .inr ⟨start.toList, rfl⟩
    · exact .inr ⟨start.toList ++ '/' :: before, by simp⟩

theorem Carries.join {path : String} (carries : Carries ⟨path⟩ extension) (directory : Path) :
    (directory.join path).Carries extension := by
  rcases carries with ⟨front, stem, named, ends⟩
  rcases ends.join directory with ⟨front, ends⟩
  exact ⟨front, stem, named, ends⟩

end Carries

/-! ## Going on from a file -/

/-- Behind a dot at the start comes a slash, if there is more. -/
theorem lead_starts (text : List Char) :
    (lead text).1 = [] ∨ (lead text).1 = ['/'] ∨
      (lead text).1 = ['.'] ∧ ((lead text).2 = [] ∨ ∃ body, (lead text).2 = '/' :: body) := by
  unfold lead
  split <;> simp

/-- A path that does not start at the root goes on, behind a slash, from its parent. -/
theorem exists_append_of_parent? {path directory : Path} (found : path.parent? = some directory)
    (relative : path.isAbsolute = false) :
    directory.text = "" ∨ ∃ behind, path.text.toList = directory.text.toList ++ '/' :: behind := by
  unfold Path.parent? at found
  split at found
  · next start name before backwards =>
    cases found
    rcases parts_of_backwards (congrArg Prod.snd backwards) with ⟨loud, silent, parts⟩
    have starts : (lead path.text.toList).1 = start := congrArg Prod.fst backwards
    have whole := lead_append path.text.toList
    have body := Text.joinPieces_pieces '/' (lead path.text.toList).2
    rw [parts, ← List.takeWhile_append_dropWhile (p := isSilent) (l := before), List.reverse_append,
      List.append_assoc, Text.joinPieces_append '/' _ (by simp)] at body
    rw [starts] at whole
    by_cases none : before.dropWhile isSilent = []
    · -- The parent is what the path starts with.
      have parent : (ofBackwards start (before.dropWhile isSilent)).text.toList = start := by
        simp [none, ofBackwards, Text.joinPieces]
      rcases lead_starts path.text.toList with empty | slash | ⟨dot, nothing | ⟨rest, behind⟩⟩
      · rw [starts] at empty
        exact .inl (String.toList_inj.mp (parent.trans empty))
      · rw [starts] at slash
        rw [isAbsolute, ← whole, slash] at relative
        cases relative
      · rw [nothing] at parts
        have member : name ∈ Text.pieces '/' [] := by simp [parts]
        cases List.mem_singleton.mp member
        cases loud
      · exact .inr ⟨rest, by rw [parent, ← behind, whole]⟩
    · rw [Text.flatMap_eq_joinPieces '/' (by simpa using none)] at body
      refine .inr ⟨Text.joinPieces '/' ((before.takeWhile isSilent).reverse ++ name :: silent), ?_⟩
      rw [← whole, ← body, ofBackwards, String.toList_ofList, List.append_assoc, List.append_assoc]
      rfl
  · next start backwards =>
    split at found <;> cases found
    exact .inl rfl

theorem descends_iff (path : Path) :
    path.Descends ↔
      path.text.toList.head? ≠ some '/' ∧ ['.', '.'] ∉ Text.pieces '/' path.text.toList := by
  constructor
  · rintro ⟨relative, neverUp⟩
    exact ⟨by simpa [isAbsolute] using relative, (above_mem_components_iff path).not.mp neverUp⟩
  · rintro ⟨relative, neverUp⟩
    exact ⟨by simpa [isAbsolute] using relative, (above_mem_components_iff path).not.mpr neverUp⟩

theorem Descends.empty : Descends ⟨""⟩ :=
  ⟨rfl, by decide⟩

theorem Descends.parent? {path directory : Path} (descends : path.Descends)
    (found : path.parent? = some directory) : directory.Descends := by
  by_cases empty : directory.text = ""
  · rcases directory with ⟨text⟩
    cases empty
    exact .empty
  · rcases exists_append_of_parent? found descends.relative with impossible | ⟨behind, shape⟩
    · exact absurd impossible empty
    · rw [descends_iff, shape] at descends
      rw [descends_iff]
      rcases List.exists_cons_of_ne_nil (by simpa using empty : directory.text.toList ≠ []) with
        ⟨first, others, text⟩
      rw [Text.pieces_append, List.mem_append, not_or] at descends
      refine ⟨?_, descends.2.1⟩
      simpa [text] using descends.1

theorem Descends.join {directory : Path} {path : String} (descends : directory.Descends)
    (further : Descends ⟨path⟩) : (directory.join path).Descends := by
  rcases join_cases directory path with ⟨-, same⟩ | ⟨start, begins, joined⟩
  · rwa [same]
  · rw [descends_iff] at descends further ⊢
    have parts : Text.pieces '/' (directory.join path).text.toList =
        Text.pieces '/' start.toList ++ Text.pieces '/' path.toList := by
      simp [joined, Text.pieces_append]
    have start_descends : start.toList ≠ [] ∧ start.toList.head? ≠ some '/' ∧
        ['.', '.'] ∉ Text.pieces '/' start.toList := by
      rcases begins with ⟨rfl, named⟩ | text
      · exact ⟨by simpa using named, descends⟩
      · have shape : directory.text.toList = start.toList ++ '/' :: [] := by simp [text]
        rw [shape, Text.pieces_append, List.mem_append, not_or] at descends
        cases first : start.toList with
        | nil => simp [first] at descends
        | cons character others =>
            rw [first] at descends
            exact ⟨List.cons_ne_nil _ _, descends.1, descends.2.1⟩
    rcases start_descends with ⟨named, relative, neverUp⟩
    rcases List.exists_cons_of_ne_nil named with ⟨first, others, shape⟩
    rw [parts, List.mem_append, not_or]
    refine ⟨?_, neverUp, further.2⟩
    simpa [joined, shape] using relative

end Mustache.Path
