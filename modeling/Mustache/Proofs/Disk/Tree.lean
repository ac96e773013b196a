import Mustache.Disk.Tree
import Mustache.Proofs.Entries
import Mustache.Proofs.Path.Ending

namespace Mustache

/-! Files of a tree. A path is followed from directory to directory, and the listing of
a directory gives the ways to the files below it. A path that never goes up leads by the
way of the parts that name something. -/

/-- Parts of which something has the name. -/
def Path.names (part : String) : Bool :=
  !(part == "" || part == ".")

theorem Path.names_ofList {part : List Char} (loud : isSilent part = false) :
    Path.names (String.ofList part) = true := by
  rw [isSilent, Bool.or_eq_false_iff] at loud
  have nonempty : String.ofList part ≠ "" := by
    intro same
    have empty : part = [] := String.ofList_injective same
    simp [empty] at loud
  have notHere : String.ofList part ≠ "." := by
    intro same
    have here : part = ['.'] := String.ofList_injective same
    simp [here] at loud
  simp [Path.names, nonempty, notHere]

/-- The way on which a path leads that never goes up. -/
def Path.steps (path : Path) : List String :=
  (Text.stringPieces '/' path.text).filter Path.names

theorem Path.Ends.exists_steps {path : Path} {front name : List Char}
    (ends : path.Ends front name) (means : Path.names (String.ofList name) = true) :
    ∃ before, path.steps = before ++ [String.ofList name] := by
  rcases ends with ⟨text, starts, undivided⟩
  have alone : [String.ofList name].filter Path.names = [String.ofList name] :=
    List.filter_cons_of_pos means
  rcases starts with rfl | ⟨before, rfl⟩
  · refine ⟨[], ?_⟩
    rw [Path.steps, Text.stringPieces, text, List.nil_append, Text.pieces_of_not_mem undivided]
    exact alone
  · refine ⟨((Text.pieces '/' before).map String.ofList).filter Path.names, ?_⟩
    rw [Path.steps, Text.stringPieces, text, List.append_assoc, List.singleton_append,
      Text.pieces_append, Text.pieces_of_not_mem undivided, List.map_append, List.filter_append]
    exact congrArg _ alone

/-- The names on the way keep the extension, below any directory. -/
theorem Path.Carries.steps {path : Path} {extension : String} (carries : path.Carries extension)
    (some : extension ≠ "") (directory : Path) :
    (path.steps.foldl Path.join directory).Carries extension := by
  rcases carries with ⟨front, stem, named, ends⟩
  rcases Path.means_append named (by simpa using some : extension.toList ≠ []) with ⟨loud, -⟩
  rcases ends.exists_steps (Path.names_ofList loud) with ⟨before, steps⟩
  rw [steps, List.foldl_append]
  refine Path.Carries.join ⟨[], stem, named, ?_, .inl rfl, ends.undivided⟩ _
  exact String.toList_ofList

namespace FileTree

variable {tree : FileTree} {home way final : List String} {part : String}

/-! ## Files at the end of a way -/

theorem at?_append (first second : List String) (tree : FileTree) :
    tree.at? (first ++ second) = (tree.at? first).bind (at? second) := by
  induction first generalizing tree with
  | nil => rfl
  | cons name rest induction =>
      rw [List.cons_append, at?, at?]
      cases tree.entry? name with
      | none => rfl
      | some inner => exact induction inner

theorem mem_filesOf {entries : List (String × FileTree)} {name : String} {inner : FileTree}
    {names : List String} (entry : (name, inner) ∈ entries) (member : names ∈ inner.files) :
    name :: names ∈ filesOf entries := by
  induction entries with
  | nil => cases entry
  | cons first rest induction =>
      rw [filesOf, List.mem_append]
      rcases List.mem_cons.mp entry with rfl | later
      · exact .inl (List.mem_map_of_mem member)
      · exact .inr (induction later)

theorem mem_files_of_at? {names : List String} {bytes : ByteArray}
    (found : tree.at? names = some (file bytes)) : names ∈ tree.files := by
  induction names generalizing tree with
  | nil =>
      cases found
      exact List.mem_singleton.mpr rfl
  | cons name rest induction =>
      rcases Option.bind_eq_some_iff.mp found with ⟨inner, entry, further⟩
      cases tree with
      | file bytes => cases entry
      | directory entries =>
          exact mem_filesOf (Entries.mem_of_find? entry) (induction further)

/-! ## Following a path -/

/-- A part leads on from a directory only. Unless it goes up, it stays or leads to the
entry of its name. -/
theorem follow_eq_ok {next : List String} (follows : tree.follow way part = .ok next) :
    (∃ entries, tree.at? way = some (directory entries)) ∧
      (part ≠ ".." → next = way ++ [part].filter Path.names) := by
  unfold follow at follows
  split at follows
  · cases follows
  · cases follows
  · next entries here =>
    refine ⟨⟨entries, here⟩, ?_⟩
    intro notAbove
    split at follows
    · next silent =>
      cases follows
      rw [List.filter_cons_of_neg (by simp [Path.names, silent])]
      simp
    · next loud =>
      rw [if_neg (by simpa using notAbove)] at follows
      split at follows
      · cases follows
      · split at follows <;> cases follows
        rw [List.filter_cons_of_pos (by simpa [Path.names] using loud)]
        rfl

theorem foldlM_follow_eq_ok {parts : List String} (neverUp : ".." ∉ parts)
    (follows : parts.foldlM tree.follow way = .ok final) :
    final = way ++ parts.filter Path.names := by
  induction parts generalizing way with
  | nil =>
      cases follows
      simp
  | cons part rest induction =>
      rw [List.mem_cons, not_or] at neverUp
      rw [List.foldlM_cons] at follows
      cases first : tree.follow way part with
      | error error =>
          rw [first] at follows
          cases follows
      | ok next =>
          rw [first] at follows
          have same := (follow_eq_ok first).2 (Ne.symm neverUp.1)
          rw [induction neverUp.2 follows, same, List.append_assoc, ← List.filter_append]
          rfl

theorem foldlM_append_eq_ok_iff {α β ε : Type} {step : α → β → Except ε α} {first second : List β}
    {start final : α} :
    (first ++ second).foldlM step start = .ok final ↔
      ∃ reached, first.foldlM step start = .ok reached ∧ second.foldlM step reached = .ok final := by
  rw [List.foldlM_append]
  cases first.foldlM step start with
  | error error => exact ⟨nofun, nofun⟩
  | ok reached => exact ⟨fun goes => ⟨reached, rfl, goes⟩, by rintro ⟨_, ⟨⟩, goes⟩; exact goes⟩

/-- Only a directory is gone on from, and a part that is empty stays there. -/
theorem follow_empty_of_foldlM {parts : List String} (some : parts ≠ [])
    (follows : parts.foldlM tree.follow way = .ok final) : tree.follow way "" = .ok way := by
  rcases List.exists_cons_of_ne_nil some with ⟨part, rest, rfl⟩
  rw [← List.singleton_append, foldlM_append_eq_ok_iff] at follows
  rcases follows with ⟨next, first, -⟩
  simp only [List.foldlM_cons, List.foldlM_nil, bind_pure] at first
  rcases (follow_eq_ok first).1 with ⟨entries, here⟩
  simp [follow, here]

theorem locate_eq_ok_iff {path : Path} :
    tree.locate home path = .ok way ↔
      path.text ≠ "" ∧ '\x00' ∉ path.text.toList ∧ path.text.utf8ByteSize ≤ longestPath ∧
        (Text.stringPieces '/' path.text).foldlM tree.follow
          (if path.isAbsolute then [] else home) = .ok way := by
  unfold locate
  by_cases empty : path.text = ""
  · simp [empty]
  · by_cases bad : '\x00' ∈ path.text.toList
    · simp [empty, bad]
    · by_cases long : longestPath < path.text.utf8ByteSize
      · simp [empty, bad, long, Nat.not_le_of_lt long]
      · simp [empty, bad, long, Nat.le_of_not_lt long]

/-- A path below a directory is followed from where the directory is. -/
theorem exists_locate_of_join {directory : Path} {path : String} (named : directory.text ≠ "")
    (relative : Path.isAbsolute ⟨path⟩ = false)
    (found : tree.locate home (directory.join path) = .ok final) :
    ∃ way, tree.locate home directory = .ok way ∧
      (Text.stringPieces '/' path).foldlM tree.follow way = .ok final := by
  rw [locate_eq_ok_iff] at found
  rcases found with ⟨-, clean, short, follows⟩
  rcases directory.join_cases path with ⟨impossible, -⟩ | ⟨start, begins, joined⟩
  · simp [named, relative] at impossible
  · have whole : ∃ rest, (directory.join path).text = directory.text ++ rest := by
      rcases begins with ⟨rfl, -⟩ | text
      · exact ⟨"/" ++ path, by rw [joined, String.append_assoc]⟩
      · exact ⟨path, by rw [joined, text]⟩
    rcases whole with ⟨rest, whole⟩
    have parts : Text.stringPieces '/' (directory.join path).text =
        Text.stringPieces '/' start ++ Text.stringPieces '/' path := by
      simp [joined, Text.stringPieces, Text.pieces_append]
    have origin : (directory.join path).isAbsolute = directory.isAbsolute := by
      rcases List.exists_cons_of_ne_nil (by simpa using named : directory.text.toList ≠ []) with
        ⟨first, others, shape⟩
      simp [Path.isAbsolute, whole, shape]
    rw [parts, origin, foldlM_append_eq_ok_iff] at follows
    rw [whole, String.toList_append, List.mem_append, not_or] at clean
    rw [whole, String.utf8ByteSize_append] at short
    rcases follows with ⟨way, reaches, further⟩
    have reached : (Text.stringPieces '/' directory.text).foldlM tree.follow
        (if directory.isAbsolute then [] else home) = .ok way := by
      rcases begins with ⟨rfl, -⟩ | text
      · exact reaches
      · -- Behind the slash there is a part of the directory that is empty.
        have ends : Text.stringPieces '/' directory.text = Text.stringPieces '/' start ++ [""] := by
          simp [text, Text.stringPieces, Text.pieces_append, Text.pieces]
        have stays := follow_empty_of_foldlM (by simp [Text.stringPieces, Text.pieces_ne_nil])
          further
        rw [ends, foldlM_append_eq_ok_iff]
        exact ⟨way, reaches, by simpa using stays⟩
    exact ⟨way, locate_eq_ok_iff.mpr ⟨named, clean.1, by omega, reached⟩, further⟩

/-- A name of its own is a part of a path that leads down. -/
structure Leads (name : String) : Prop where
  means : Path.names name = true
  notAbove : name ≠ ".."
  undivided : '/' ∉ name.toList

/-- Names one after the other below a directory lead to the entries of these names. -/
theorem exists_locate_of_foldl_join {names : List String} {directory : Path}
    (named : directory.text ≠ "") (leads : ∀ name ∈ names, Leads name)
    (found : tree.locate home (names.foldl Path.join directory) = .ok final) :
    ∃ way, tree.locate home directory = .ok way ∧ final = way ++ names := by
  induction names generalizing directory with
  | nil => exact ⟨final, found, by simp⟩
  | cons name rest induction =>
      rw [List.forall_mem_cons] at leads
      rcases leads with ⟨⟨means, notAbove, undivided⟩, leads⟩
      have nonempty : name ≠ "" := by
        rintro rfl
        cases means
      have relative : Path.isAbsolute ⟨name⟩ = false := by
        cases shape : name.toList with
        | nil => simp [Path.isAbsolute, shape]
        | cons first others =>
            rw [shape, List.mem_cons, not_or] at undivided
            simpa [Path.isAbsolute, shape] using Ne.symm undivided.1
      rcases induction (directory.text_join_ne_empty nonempty) leads found with
        ⟨inner, reaches, rfl⟩
      rcases exists_locate_of_join named relative reaches with ⟨way, reaches, further⟩
      have alone : Text.stringPieces '/' name = [name] := by
        simp [Text.stringPieces, Text.pieces_of_not_mem undivided]
      rw [alone] at further
      refine ⟨way, reaches, ?_⟩
      rw [foldlM_follow_eq_ok (by simpa using Ne.symm notAbove) further,
        List.filter_cons_of_pos means]
      simp

/-! ## Reading below a directory -/

theorem exists_of_read {path : Path} {bytes : ByteArray}
    (reads : tree.read home path = .ok bytes) :
    ∃ way, tree.locate home path = .ok way ∧ tree.at? way = some (file bytes) := by
  unfold read at reads
  cases located : tree.locate home path with
  | error error =>
      rw [located] at reads
      cases reads
  | ok way =>
      rw [located] at reads
      dsimp only [bind, Except.bind] at reads
      split at reads <;> cases reads
      exact ⟨way, rfl, ‹_›⟩

theorem above_not_mem_stringPieces {path : Path} (descends : path.Descends) :
    ".." ∉ Text.stringPieces '/' path.text := by
  rw [Text.mem_stringPieces_iff]
  exact ((Path.descends_iff path).mp descends).2

theorem leads_of_mem_steps {path : Path} (descends : path.Descends) :
    ∀ name ∈ path.steps, Leads name := by
  intro name member
  rcases List.mem_filter.mp member with ⟨part, means⟩
  refine ⟨means, ?_, Text.not_mem_of_mem_pieces (Text.mem_stringPieces_iff.mp part)⟩
  rintro rfl
  exact above_not_mem_stringPieces descends part

/-- A file that is read by a path that never goes up is listed below the directory, and
by its way in the list the same bytes are read. -/
theorem listed_of_read {directory path : Path} (named : directory.text ≠ "")
    (descends : path.Descends) {bytes : ByteArray}
    (reads : tree.read home (directory.join path.text) = .ok bytes) :
    path.steps ∈ tree.filesBelow home directory ∧
      ∀ other, tree.read home (path.steps.foldl Path.join directory) = .ok other →
        other = bytes := by
  rcases exists_of_read reads with ⟨final, located, found⟩
  rcases exists_locate_of_join named descends.relative located with ⟨way, reaches, follows⟩
  have same := foldlM_follow_eq_ok (above_not_mem_stringPieces descends) follows
  change final = way ++ path.steps at same
  subst same
  constructor
  · rw [at?_append] at found
    rcases Option.bind_eq_some_iff.mp found with ⟨inner, entry, further⟩
    simp only [filesBelow, reaches, entry, Option.map_some, Option.getD_some]
    exact mem_files_of_at? further
  · intro other again
    rcases exists_of_read again with ⟨final', located', found'⟩
    rcases exists_locate_of_foldl_join named (leads_of_mem_steps descends) located' with
      ⟨way', reaches', rfl⟩
    cases reaches.symm.trans reaches'
    cases found.symm.trans found'
    rfl

end FileTree

end Mustache
