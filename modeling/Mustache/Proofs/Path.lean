import Mustache.Path
import Mustache.Proofs.Text.Pieces

namespace Mustache.Path

/-! What paths mean when they are put together. The components of a path are those of
its parts between slashes, and only the very start of a path is read in another way. -/

/-! ## Components -/

/-- What the start of a path stands for. -/
def leading : List Char → List Component
  | '/' :: _ => [.root]
  | ['.'] => [.here]
  | '.' :: '/' :: _ => [.here]
  | _ => []

/-- What the parts of a text between slashes stand for. -/
def named (text : List Char) : List Component :=
  ((Text.pieces '/' text).filter (!isSilent ·)).map componentOfPart

theorem named_append (first second : List Char) :
    named (first ++ '/' :: second) = named first ++ named second := by
  simp [named, Text.pieces_append]

theorem named_slash (text : List Char) : named ('/' :: text) = named text :=
  named_append [] text

theorem named_here (text : List Char) : named ('.' :: '/' :: text) = named text :=
  named_append ['.'] text

theorem components_eq (path : Path) :
    path.components = leading path.text.toList ++ named path.text.toList := by
  unfold components
  generalize path.text.toList = text
  rcases divided : lead text with ⟨start, body⟩
  unfold lead at divided
  split at divided <;> cases divided
  · rw [leading, named_slash, named]
    rfl
  · rfl
  · rw [leading, named_here, ← named_slash, named]
    rfl
  · next slash dot dotSlash => simp [leading, named]

/-- A slash does not change how the text before it starts. -/
theorem leading_append {text : List Char} (some : text ≠ []) (rest : List Char) :
    leading (text ++ '/' :: rest) = leading text := by
  rcases text with _ | ⟨first, _ | ⟨second, others⟩⟩
  · exact absurd rfl some
  · by_cases slash : first = '/'
    · simp [leading, slash]
    · by_cases dot : first = '.' <;> simp [leading, slash, dot]
  · by_cases slash : first = '/'
    · simp [leading, slash]
    · by_cases dot : first = '.' <;> by_cases slash' : second = '/' <;>
        simp [leading, slash, dot, slash']

theorem above_not_mem_leading (text : List Char) : .above ∉ leading text := by
  unfold leading
  split <;> simp

theorem root_not_mem_named (text : List Char) : .root ∉ named text := by
  rw [named, List.mem_map]
  rintro ⟨part, -, same⟩
  unfold componentOfPart at same
  split at same <;> cases same

theorem above_mem_named_iff (text : List Char) :
    .above ∈ named text ↔ ['.', '.'] ∈ Text.pieces '/' text := by
  rw [named, List.mem_map]
  constructor
  · rintro ⟨part, member, same⟩
    unfold componentOfPart at same
    split at same
    · next double =>
      rw [beq_iff_eq] at double
      exact double ▸ (List.mem_filter.mp member).1
    · cases same
  · intro member
    exact ⟨_, List.mem_filter.mpr ⟨member, rfl⟩, rfl⟩

theorem above_mem_components_iff (path : Path) :
    .above ∈ path.components ↔ ['.', '.'] ∈ Text.pieces '/' path.text.toList := by
  rw [components_eq, List.mem_append, above_mem_named_iff]
  exact or_iff_right (above_not_mem_leading _)

/-- A path that is not absolute may only start with a dot. -/
theorem leading_of_relative {path : Path} (relative : path.isAbsolute = false) :
    leading path.text.toList ⊆ [.here] := by
  unfold isAbsolute at relative
  unfold leading
  split <;> simp_all

/-! ## Paths below a directory -/

/-- The path is followed from some place without going up from there. -/
structure Descends (path : Path) : Prop where
  relative : path.isAbsolute = false
  neverUp : .above ∉ path.components

/-- The path begins with the components of the directory and never goes up from there. -/
def LiesUnder (path directory : Path) : Prop :=
  ∃ rest, path.components = directory.components ++ rest ∧
    ∀ component ∈ rest, component ≠ .root ∧ component ≠ .above

/-- Below a directory with a name, a path stands behind a slash, which may be there
already. -/
theorem join_cases (directory : Path) (path : String) :
    (directory.text = "" ∨ isAbsolute ⟨path⟩ = true) ∧ directory.join path = ⟨path⟩ ∨
      ∃ start, (directory.text = start ∧ start ≠ "" ∨ directory.text = start ++ "/") ∧
        (directory.join path).text = start ++ "/" ++ path := by
  unfold Path.join
  split
  · next absolute => exact .inl ⟨.inr absolute, rfl⟩
  · by_cases empty : directory.text = ""
    · exact .inl ⟨.inl empty, by simp [empty]⟩
    · split
      · next closed =>
        have slash : directory.text.toList.getLast? = some '/' := by simpa [empty] using closed
        rcases List.getLast?_eq_some_iff.mp slash with ⟨before, shape⟩
        have text : directory.text = String.ofList before ++ "/" :=
          String.toList_inj.mp (by simp [shape])
        exact .inr ⟨String.ofList before, .inr text, by rw [text]⟩
      · exact .inr ⟨directory.text, .inl ⟨rfl, empty⟩, rfl⟩

theorem text_join_ne_empty (directory : Path) {path : String} (named : path ≠ "") :
    (directory.join path).text ≠ "" := by
  rcases directory.join_cases path with ⟨-, same⟩ | ⟨start, -, joined⟩
  · rwa [same]
  · simp [joined]

theorem components_join {directory : Path} (nonempty : directory.text ≠ "") {path : String}
    (relative : isAbsolute ⟨path⟩ = false) :
    (directory.join path).components = directory.components ++ named path.toList := by
  rcases directory.join_cases path with ⟨impossible, -⟩ | ⟨start, begins, joined⟩
  · simp [nonempty, relative] at impossible
  · have text : (directory.join path).text.toList = start.toList ++ '/' :: path.toList := by
      simp [joined]
    rw [components_eq, components_eq, text, named_append]
    rcases begins with ⟨same, some⟩ | same
    · rw [leading_append (by simpa using some), same, List.append_assoc]
    · have closed : directory.text.toList = start.toList ++ '/' :: [] := by simp [same]
      rw [closed, named_append]
      cases start.toList with
      | nil => simp [leading, named, Text.pieces, isSilent]
      | cons first others =>
          rw [leading_append (List.cons_ne_nil _ _), leading_append (List.cons_ne_nil _ _)]
          simp [named, Text.pieces, isSilent]

theorem liesUnder_join {file : Path} (descends : file.Descends) (directory : Path) :
    (directory.join file.text).LiesUnder directory := by
  rcases descends with ⟨relative, neverUp⟩
  rw [components_eq] at neverUp
  have inside : ∀ component ∈ named file.text.toList, component ≠ .root ∧ component ≠ .above := by
    intro component member
    constructor
    · rintro rfl
      exact root_not_mem_named _ member
    · rintro rfl
      exact neverUp (List.mem_append_right _ member)
  by_cases empty : directory.text = ""
  · refine ⟨file.components, ?_, ?_⟩
    · rw [join, if_neg (by simp [relative]), if_pos (by simp [empty])]
      simp [components, empty, lead, Text.pieces, isSilent]
    · intro component member
      rw [components_eq] at member
      rcases List.mem_append.mp member with first | later
      · cases List.mem_singleton.mp (leading_of_relative relative first)
        simp
      · exact inside component later
  · exact ⟨_, components_join empty relative, inside⟩

/-! ## File names -/

theorem lead_append (text : List Char) : (lead text).1 ++ (lead text).2 = text := by
  unfold lead
  split <;> rfl

/-- Behind a dot at the start there is nothing, or a slash is the first. -/
theorem lead_cases (text : List Char) :
    (lead text).1 = [] ∨ (lead text).1 = ['/'] ∨
      ∃ others, Text.pieces '/' (lead text).2 = [] :: others := by
  unfold lead
  split
  · exact .inr (.inl rfl)
  · exact .inr (.inr ⟨[], rfl⟩)
  · exact .inr (.inr ⟨_, Text.pieces_append '/' [] _⟩)
  · exact .inl rfl

theorem backwards_eq (path : Path) :
    path.backwards = ((lead path.text.toList).1,
      (Text.pieces '/' (lead path.text.toList).2).reverse.dropWhile isSilent) :=
  rfl

theorem parts_of_backwards {path : Path} {name : List Char} {before : List (List Char)}
    (backwards : path.backwards.2 = name :: before) :
    isSilent name = false ∧ ∃ silent,
      Text.pieces '/' (lead path.text.toList).2 = before.reverse ++ name :: silent := by
  rw [backwards_eq] at backwards
  dsimp only at backwards
  constructor
  · have first := List.head?_dropWhile_not isSilent
      (Text.pieces '/' (lead path.text.toList).2).reverse
    rw [backwards] at first
    simpa using first
  · have whole := List.takeWhile_append_dropWhile (p := isSilent)
      (l := (Text.pieces '/' (lead path.text.toList).2).reverse)
    rw [backwards] at whole
    have parts := List.reverse_eq_iff.mp whole.symm
    rw [List.reverse_append, List.reverse_cons, List.append_assoc, List.singleton_append] at parts
    exact ⟨_, parts⟩

/-- Where a path has a file name, the directory before it is not changed by another
extension, and nothing behind it means anything. -/
theorem exists_of_fileName? {path : Path} {name : List Char} (found : path.fileName? = some name) :
    ∃ front tail, path.text.toList = front ++ (name ++ tail) ∧
      (front = [] ∨ ∃ before, front = before ++ ['/']) ∧
      (tail = [] ∨ ∃ behind, tail = '/' :: behind) ∧ isSilent name = false ∧ '/' ∉ name ∧
      ∀ extension, extension ≠ "" → (path.withExtension extension).text.toList =
        front ++ ((divideName name).1 ++ '.' :: extension.toList) := by
  have backwards : ∃ before, path.backwards.2 = name :: before := by
    unfold fileName? at found
    split at found
    · next last before shape =>
      split at found <;> cases found
      exact ⟨before, shape⟩
    · cases found
  rcases backwards with ⟨before, backwards⟩
  rcases parts_of_backwards backwards with ⟨loud, silent, parts⟩
  have body := Text.joinPieces_pieces '/' (lead path.text.toList).2
  rw [parts, Text.joinPieces_append '/' before.reverse (List.cons_ne_nil _ _)] at body
  have tail : ∃ tail, Text.joinPieces '/' (name :: silent) = name ++ tail ∧
      (tail = [] ∨ ∃ behind, tail = '/' :: behind) := by
    cases silent with
    | nil => exact ⟨[], by simp [Text.joinPieces], .inl rfl⟩
    | cons part others => exact ⟨'/' :: Text.joinPieces '/' (part :: others), rfl, .inr ⟨_, rfl⟩⟩
  rcases tail with ⟨tail, joined, ends⟩
  refine ⟨(lead path.text.toList).1 ++ before.reverse.flatMap (· ++ ['/']), tail, ?_, ?_, ends,
    loud, ?_, ?_⟩
  · rw [List.append_assoc, ← joined, body, lead_append]
  · cases before with
    | nil =>
        rcases lead_cases path.text.toList with none | slash | ⟨others, empty⟩
        · exact .inl (by simp [none])
        · exact .inr ⟨[], by simp [slash]⟩
        · -- The name is not empty, so it is not what stands behind a dot at the start.
          rw [parts] at empty
          cases empty
          cases loud
    | cons last earlier =>
        exact .inr ⟨(lead path.text.toList).1 ++ (earlier.reverse.flatMap (· ++ ['/']) ++ last),
          by simp⟩
  · have piece : name ∈ Text.pieces '/' (lead path.text.toList).2 := by simp [parts]
    exact Text.not_mem_of_mem_pieces piece
  · intro extension some
    have shape : path.backwards = ((lead path.text.toList).1, name :: before) :=
      Prod.ext rfl backwards
    rw [withExtension, found, shape]
    simp only [String.isEmpty_iff, some, if_false, ofBackwards, String.toList_ofList,
      List.reverse_cons]
    rw [Text.joinPieces_append '/' before.reverse (List.cons_ne_nil _ _), List.append_assoc]
    rfl

theorem divideName_of_plain {name : List Char} (plain : (divideName name).2 = none) :
    (divideName name).1 = name := by
  unfold divideName at plain ⊢
  dsimp only at plain ⊢
  split
  · rfl
  · next divided =>
    rw [if_neg divided] at plain
    cases plain

/-- Only what stands behind the last slash is put in the place of something else. -/
theorem Descends.replace {path other : Path} (descends : path.Descends)
    {front rest file : List Char} (shape : path.text.toList = front ++ rest)
    (starts : front = [] ∨ ∃ before, front = before ++ ['/'])
    (replaced : other.text.toList = front ++ file) (undivided : '/' ∉ file)
    (notUp : file ≠ ['.', '.']) : other.Descends := by
  rcases descends with ⟨relative, neverUp⟩
  rw [isAbsolute, shape] at relative
  rw [above_mem_components_iff, shape] at neverUp
  rcases starts with rfl | ⟨before, rfl⟩
  · constructor
    · rw [isAbsolute, replaced]
      cases file with
      | nil => rfl
      | cons first others => simpa using Ne.symm (List.ne_of_not_mem_cons undivided)
    · rw [above_mem_components_iff, replaced, List.nil_append, Text.pieces_of_not_mem undivided,
        List.mem_singleton]
      exact notUp.symm
  · constructor
    · rw [isAbsolute, replaced]
      cases before with
      | nil => cases relative
      | cons first others => simpa using relative
    · rw [List.append_assoc, List.singleton_append, Text.pieces_append] at neverUp
      rw [above_mem_components_iff, replaced, List.append_assoc, List.singleton_append,
        Text.pieces_append, Text.pieces_of_not_mem undivided, List.mem_append, List.mem_singleton]
      rintro (earlier | same)
      · exact neverUp (List.mem_append_left _ earlier)
      · exact notUp same.symm

/-- With something on both sides of the dot, a name has at least three characters. -/
theorem means_append {stem extension : List Char} (some : stem ≠ []) (more : extension ≠ []) :
    isSilent (stem ++ '.' :: extension) = false ∧ stem ++ '.' :: extension ≠ ['.', '.'] := by
  rcases List.exists_cons_of_ne_nil some with ⟨first, others, rfl⟩
  rcases List.exists_cons_of_ne_nil more with ⟨second, later, rfl⟩
  constructor
  · simp [isSilent]
  · cases others <;> simp

theorem Descends.withExtension {path : Path} (descends : path.Descends)
    (plain : path.extension? = none) {extension : String} (undivided : '/' ∉ extension.toList)
    (some : extension ≠ "") : (path.withExtension extension).Descends := by
  cases found : path.fileName? with
  | none => rwa [Path.withExtension, found]
  | some name =>
      rcases exists_of_fileName? found with ⟨front, tail, shape, starts, -, loud, whole, extended⟩
      have stem : (divideName name).1 = name := by
        apply divideName_of_plain
        simpa [extension?, found] using plain
      specialize extended extension some
      rw [stem] at extended
      refine descends.replace shape starts extended ?_ ?_
      · simp [whole, undivided]
      · have named : name ≠ [] := by
          rintro rfl
          cases loud
        exact (means_append named (by simpa using some)).2

end Mustache.Path
