import Mathlib.Data.List.Induction
import Mathlib.Data.List.Nodup
import Mustache.Entries

namespace Mustache.Entries

/-! What becomes of pairs that are bound one after the other. A name keeps the place at
which it was written first, and the value written last counts. -/

variable {α : Type}

/-- The names stand in the order in which they were first written, and each has the value
that was written last for it. -/
structure Keeps (pairs : List (String × α)) (entries : Entries α) : Prop where
  names : entries.names = (names pairs).eraseDups
  mem_iff : ∀ name value, (name, value) ∈ entries ↔
    ∃ before behind, pairs = before ++ (name, value) :: behind ∧ ∀ pair ∈ behind, pair.1 ≠ name

theorem find?_eq_map_find? (name : String) (entries : Entries α) :
    entries.find? name = (List.find? (fun pair => pair.1 == name) entries).map Prod.snd := by
  induction entries with
  | nil => rfl
  | cons entry rest induction =>
      rcases entry with ⟨key, value⟩
      by_cases equal : key = name <;> simp [find?, equal, induction]

/-- A look-up finds the first entry of a name. -/
theorem find?_eq_some_iff {name : String} {value : α} {entries : Entries α} :
    entries.find? name = some value ↔
      ∃ before behind, entries = before ++ (name, value) :: behind ∧
        ∀ pair ∈ before, pair.1 ≠ name := by
  rw [find?_eq_map_find?, Option.map_eq_some_iff]
  constructor
  · rintro ⟨⟨key, found⟩, first, rfl⟩
    rcases List.find?_eq_some_iff_append.mp first with ⟨same, before, behind, shape, others⟩
    rw [beq_iff_eq] at same
    subst same
    exact ⟨before, behind, shape, by simpa using others⟩
  · rintro ⟨before, behind, shape, others⟩
    refine ⟨(name, value), List.find?_eq_some_iff_append.mpr ?_, rfl⟩
    exact ⟨by simp, before, behind, shape, by simpa using others⟩

/-- Where no name stands twice, an entry is what a look-up finds. -/
theorem mem_iff_find? {entries : Entries α} (distinct : entries.names.Nodup) (name : String)
    (value : α) : (name, value) ∈ entries ↔ entries.find? name = some value := by
  constructor
  · intro member
    rcases List.append_of_mem member with ⟨before, behind, rfl⟩
    refine find?_eq_some_iff.mpr ⟨before, behind, rfl, ?_⟩
    rintro ⟨key, old⟩ earlier rfl
    rw [names, List.map_append, List.nodup_append'] at distinct
    exact distinct.2.2 (List.mem_map_of_mem earlier) List.mem_cons_self
  · exact mem_of_find?

theorem names_insert (name : String) (value : α) (entries : Entries α) :
    (entries.insert name value).names =
      if name ∈ entries.names then entries.names else entries.names ++ [name] := by
  induction entries with
  | nil => rfl
  | cons entry rest induction =>
      rcases entry with ⟨key, old⟩
      by_cases equal : key = name
      · simp [insert, names, equal]
      · have written : names (insert name value ((key, old) :: rest)) =
            key :: names (insert name value rest) := by simp [insert, names, equal]
        have all : names ((key, old) :: rest) = key :: names rest := rfl
        rw [written, all, induction]
        by_cases known : name ∈ names rest
        · simp [known]
        · simp [known, Ne.symm equal]

theorem ofPairs_append_singleton (pairs : List (String × α)) (name : String) (value : α) :
    ofPairs (pairs ++ [(name, value)]) = (ofPairs pairs).insert name value :=
  List.foldl_append

theorem names_ofPairs (pairs : List (String × α)) :
    (ofPairs pairs).names = (names pairs).eraseDups := by
  induction pairs using List.reverseRecOn with
  | nil => rfl
  | append_singleton pairs pair induction =>
      rcases pair with ⟨name, value⟩
      have written : names (pairs ++ [(name, value)]) = names pairs ++ [name] := List.map_append
      rw [ofPairs_append_singleton, names_insert, induction, written, List.eraseDups_append]
      by_cases known : name ∈ names pairs
      · simp [known, List.removeAll]
      · simp [known, List.removeAll, List.eraseDups_cons]

theorem nodup_names_ofPairs (pairs : List (String × α)) : (ofPairs pairs).names.Nodup := by
  induction pairs using List.reverseRecOn with
  | nil => exact List.nodup_nil
  | append_singleton pairs pair induction =>
      rcases pair with ⟨name, value⟩
      rw [ofPairs_append_singleton, names_insert]
      split
      · exact induction
      · next unknown => exact List.nodup_append_comm.mp (List.nodup_cons.mpr ⟨unknown, induction⟩)

/-- The value written last is the first one from behind. -/
theorem find?_ofPairs (name : String) (pairs : List (String × α)) :
    (ofPairs pairs).find? name = find? name pairs.reverse := by
  induction pairs using List.reverseRecOn with
  | nil => rfl
  | append_singleton pairs pair induction =>
      rcases pair with ⟨key, value⟩
      rw [ofPairs_append_singleton, List.reverse_append, List.reverse_singleton,
        List.singleton_append, find?]
      split
      · next same => rw [same, find?_insert_same]
      · next different => rw [find?_insert_other (Ne.symm different), induction]

theorem keeps_ofPairs (pairs : List (String × α)) : Keeps pairs (ofPairs pairs) where
  names := names_ofPairs pairs
  mem_iff name value := by
    rw [mem_iff_find? (nodup_names_ofPairs pairs), find?_ofPairs, find?_eq_some_iff]
    constructor
    · rintro ⟨before, behind, shape, others⟩
      refine ⟨behind.reverse, before.reverse, ?_, by simpa using others⟩
      rw [List.reverse_eq_iff.mp shape]
      simp
    · rintro ⟨before, behind, rfl, others⟩
      exact ⟨behind.reverse, before.reverse, by simp, by simpa using others⟩

theorem mapValues_ofPairs {β : Type} (transform : α → β) (pairs : List (String × α)) :
    (ofPairs pairs).mapValues transform = ofPairs (mapValues transform pairs) := by
  have inserted : ∀ (name : String) (value : α) (entries : Entries α),
      (entries.insert name value).mapValues transform =
        (entries.mapValues transform).insert name (transform value) := by
    intro name value entries
    induction entries with
    | nil => rfl
    | cons entry rest induction =>
        rcases entry with ⟨key, old⟩
        rw [mapValues] at induction
        by_cases equal : key = name <;> simp [insert, mapValues, equal, induction]
  induction pairs using List.reverseRecOn with
  | nil => rfl
  | append_singleton pairs pair induction =>
      rcases pair with ⟨name, value⟩
      have mapped : mapValues transform (pairs ++ [(name, value)]) =
          mapValues transform pairs ++ [(name, transform value)] := List.map_append
      rw [ofPairs_append_singleton, inserted, induction, mapped, ofPairs_append_singleton]

end Mustache.Entries
