import Mustache.Proofs.Meaning
import Mustache.Scopes

namespace Mustache

/-! A chain of scopes and one flat collection of bindings. A chain agrees with the
bindings in which the names of the inner scopes have replaced those of the outer
ones. -/

variable {Lambda : Type}

namespace Scopes

/-- Every key has the same value in the chain and in the bindings. -/
def Agrees (scopes : Scopes Lambda) (bindings : Bindings Lambda) : Prop :=
  ∀ key, scopes.resolve key = bindings.valueAt key

theorem resolve_enter (scopes : Scopes Lambda) (scope : Scope Lambda) (key : String) :
    (scopes.enter scope).resolve key = (scope.locals.find? key).getD (scopes.resolve key) := by
  unfold resolve
  rw [enter, all, resolveIn]
  cases scope.locals.find? key <;> rfl

theorem agrees_root (bindings : Bindings Lambda) : (root bindings).Agrees bindings := by
  intro key
  unfold resolve Bindings.valueAt
  rw [root, all, resolveIn]
  cases bindings.find? key <;> rfl

theorem Agrees.child {scopes : Scopes Lambda} {bindings : Bindings Lambda}
    (agrees : scopes.Agrees bindings) : scopes.child.Agrees bindings := by
  intro key
  rw [Scopes.child, resolve_enter]
  exact agrees key

/-- A key that a map binds to nothing hides the bindings around the map. -/
theorem Agrees.bind {scopes : Scopes Lambda} {bindings : Bindings Lambda}
    (agrees : scopes.Agrees bindings) (entries : Bindings Lambda) :
    (scopes.bind entries).Agrees (bindings.override entries) := by
  intro key
  rw [Scopes.bind, resolve_enter, agrees key]
  unfold Bindings.valueAt
  rw [Bindings.override, Entries.find?_extend]
  cases entries.find? key <;> rfl

theorem Agrees.bindElement {scopes : Scopes Lambda} {bindings : Bindings Lambda}
    (agrees : scopes.Agrees bindings) (element : Value Lambda) :
    (scopes.bindElement element).Agrees (bindings.withElement element) := by
  cases element with
  | map entries => exact agrees.bind entries
  | _ => exact agrees.bind _

theorem descend_eq_foldl (keys : List String) (value : Value Lambda) :
    descend value keys = keys.foldl (fun value key => (value.key? key).getD .absent) value := by
  -- Nothing has no keys, so a path that has left the maps stays at nothing.
  have stays : ∀ rest : List String,
      rest.foldl (fun (value : Value Lambda) key => (value.key? key).getD .absent) .absent =
        .absent := by
    intro rest
    induction rest with
    | nil => rfl
    | cons key rest induction => exact induction
  induction keys generalizing value with
  | nil => rfl
  | cons key rest induction =>
      rw [descend, List.foldl_cons]
      cases value.key? key with
      | some inside => exact induction inside
      | none => exact (stays rest).symm

theorem Agrees.lookup {scopes : Scopes Lambda} {bindings : Bindings Lambda}
    (agrees : scopes.Agrees bindings) (name : String) :
    scopes.lookup name = bindings.valueOf name := by
  unfold Scopes.lookup Bindings.valueOf
  by_cases dot : name = "."
  · rw [if_pos dot, if_pos dot]
    exact agrees "."
  · rw [if_neg dot, if_neg dot]
    cases Text.stringPieces '.' name with
    | nil => rfl
    | cons first keys =>
        change descend (scopes.resolve first) keys = _
        rw [agrees first]
        exact descend_eq_foldl keys (bindings.valueAt first)

/-! ## One scope for a chain -/

/-- A single scope in which the innermost scope is extended by the scopes around it,
from the inside out. -/
def flat (scopes : Scopes Lambda) : Scopes Lambda :=
  scopes.outer.foldl (fun flat scope => flat.extend scope.locals) (.root scopes.inner.locals)

/-- Two scopes resolve like the inner one extended by the outer one. -/
theorem resolveIn_extend (key : String) (locals : Bindings Lambda) (file : Option Path)
    (scope : Scope Lambda) (outer : List (Scope Lambda)) :
    resolveIn key (⟨locals, file⟩ :: scope :: outer) =
      resolveIn key (⟨locals.extend scope.locals, file⟩ :: outer) := by
  simp only [resolveIn, Entries.find?_extend]
  cases locals.find? key <;> rfl

theorem exists_foldl_extend (outer : List (Scope Lambda)) (locals : Bindings Lambda)
    (file : Option Path) :
    ∃ bindings,
      outer.foldl (fun flat scope => flat.extend scope.locals) (root locals) = root bindings ∧
      (⟨⟨locals, file⟩, outer⟩ : Scopes Lambda).Agrees bindings := by
  induction outer generalizing locals with
  | nil => exact ⟨locals, rfl, agrees_root locals⟩
  | cons scope rest induction =>
      rcases induction (locals.extend scope.locals) with ⟨bindings, extended, agrees⟩
      refine ⟨bindings, extended, ?_⟩
      intro key
      exact (resolveIn_extend key locals file scope rest).trans (agrees key)

theorem exists_flat (scopes : Scopes Lambda) :
    ∃ bindings, scopes.flat = root bindings ∧ scopes.Agrees bindings :=
  exists_foldl_extend scopes.outer scopes.inner.locals scopes.inner.file

/-- The keys of a name. Only the first one is a name of a scope. -/
def keysOf (name : String) : List String :=
  if name = "." then ["."] else Text.stringPieces '.' name

theorem exists_keysOf (name : String) : ∃ first rest, keysOf name = first :: rest := by
  unfold keysOf
  split
  · exact ⟨".", [], rfl⟩
  · rcases divided : Text.pieces '.' name.toList with _ | ⟨piece, others⟩
    · exact absurd divided (Text.pieces_ne_nil _ _)
    · rw [Text.stringPieces, divided]
      exact ⟨_, _, rfl⟩

theorem lookup_of_keysOf (scopes : Scopes Lambda) {name first : String} {rest : List String}
    (keys : keysOf name = first :: rest) :
    scopes.lookup name = descend (scopes.resolve first) rest := by
  unfold keysOf at keys
  unfold lookup
  split at keys
  · next dot =>
    cases keys
    rw [if_pos dot]
    rfl
  · next dot => rw [if_neg dot, keys]

theorem resolveIn_of_innermost {key : String} {before behind : List (Scope Lambda)}
    {scope : Scope Lambda} {value : Value Lambda}
    (unbound : ∀ other ∈ before, other.locals.find? key = none)
    (bound : scope.locals.find? key = some value) :
    resolveIn key (before ++ scope :: behind) = value := by
  induction before with
  | nil => simp only [List.nil_append, resolveIn, bound]
  | cons other rest induction =>
      rw [List.cons_append, resolveIn, unbound other List.mem_cons_self]
      exact induction fun scope member => unbound scope (List.mem_cons_of_mem other member)

theorem descend_absent (keys : List String) : descend (.absent : Value Lambda) keys = .absent := by
  cases keys <;> rfl

/-- A chain of scopes looks names up like one flat scope. The scope that decides a
name is the innermost one that binds its first key: the other keys are sought in
the value bound there and nowhere else, and a key that is bound to nothing hides
the scopes around it. -/
theorem lookup_flat (scopes : Scopes Lambda) (name : String) :
    scopes.flat.outer = [] ∧ scopes.lookup name = scopes.flat.lookup name ∧
      ∃ first rest, keysOf name = first :: rest ∧
        ∀ before scope behind value, scopes.all = before ++ scope :: behind →
          (∀ other ∈ before, other.locals.find? first = none) →
          scope.locals.find? first = some value →
            scopes.lookup name = descend value rest ∧
              (value = .absent → scopes.lookup name = .absent) := by
  rcases scopes.exists_flat with ⟨bindings, flattened, agrees⟩
  rcases exists_keysOf name with ⟨first, rest, keys⟩
  refine ⟨?_, ?_, first, rest, keys, ?_⟩
  · rw [flattened]
    rfl
  · rw [flattened, agrees.lookup, (agrees_root bindings).lookup]
  · intro before scope behind value chain unbound bound
    have looked : scopes.lookup name = descend value rest := by
      rw [scopes.lookup_of_keysOf keys, resolve, chain, resolveIn_of_innermost unbound bound]
    refine ⟨looked, ?_⟩
    rintro rfl
    rw [looked, descend_absent]

/-- Two names of the root that a map around the innermost scope binds anew. -/
theorem lookup_flat_hidden_names :
    let root : Scopes Unit := .root [("a", .text "x"), ("m", .map [("k", .text "y")])]
    let scopes := (root.bind [("m", .map [("j", .text "z")]), ("a", .absent)]).child
    scopes.lookup "a" = .absent ∧ scopes.lookup "m.k" = .absent ∧
      scopes.flat.lookup "m.j" = .text "z" := by
  intro root scopes
  have chain : scopes.all = [⟨[], none⟩] ++
      ⟨[("m", .map [("j", .text "z")]), ("a", .absent)], none⟩ :: root.all := rfl
  have unbound : ∀ key, ∀ other ∈ ([⟨[], none⟩] : List (Scope Unit)),
      other.locals.find? key = none := by
    intro key other member
    rw [List.mem_singleton.mp member]
    rfl
  rcases scopes.lookup_flat "a" with ⟨-, -, first, rest, keys, decides⟩
  cases keys
  rcases scopes.lookup_flat "m.k" with ⟨-, -, first', rest', keys', decides'⟩
  cases keys'
  refine ⟨?_, ?_, ?_⟩
  · exact (decides _ _ _ _ chain (unbound "a") rfl).2 rfl
  · exact (decides' _ _ _ _ chain (unbound "m") rfl).1
  · rw [← (scopes.lookup_flat "m.j").2.1]
    rfl

end Scopes

end Mustache
