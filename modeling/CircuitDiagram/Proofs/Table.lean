import Mathlib.Data.List.Basic
import Mathlib.Data.List.Induction
import Mathlib.Data.List.Nodup
import CircuitDiagram.Table

/-!
Tables by their names and by what the names stand for: the two settle a table. Each operation is
described by what it does to either. A table that is set from entries in turn has the names in the
order of their first entries, and the values of their last ones.
-/

namespace CircuitDiagram

variable {α β : Type}

section Entries

theorem lookup_of_mem {entries : List (String × α)} {name : String} {value : α}
    (distinct : (entries.map Prod.fst).Nodup) (inside : (name, value) ∈ entries) :
    entries.lookup name = some value := by
  induction entries with
  | nil => cases inside
  | cons entry rest ih =>
      obtain ⟨other, old⟩ := entry
      rw [List.map_cons, List.nodup_cons] at distinct
      rcases List.mem_cons.mp inside with same | inside
      · cases same
        exact List.lookup_cons_self
      · have different : name ≠ other := by
          intro same
          exact distinct.1 (List.mem_map.mpr ⟨_, inside, same⟩)
        rw [List.lookup_cons, beq_false_of_ne different]
        exact ih distinct.2 inside

theorem mem_of_lookup {entries : List (String × α)} {name : String} {value : α}
    (found : entries.lookup name = some value) : (name, value) ∈ entries := by
  obtain ⟨before, behind, same, -⟩ := List.lookup_eq_some_iff.mp found
  rw [same]
  exact List.mem_append_right before (List.mem_cons_self)

theorem lookup_reverse {entries : List (String × α)} (distinct : (entries.map Prod.fst).Nodup)
    (name : String) : entries.reverse.lookup name = entries.lookup name := by
  have reversed : (entries.reverse.map Prod.fst).Nodup := by
    rw [List.map_reverse]
    exact List.nodup_reverse.mpr distinct
  apply Option.ext
  intro value
  constructor
  · intro found
    exact lookup_of_mem distinct (List.mem_reverse.mp (mem_of_lookup found))
  · intro found
    exact lookup_of_mem reversed (List.mem_reverse.mpr (mem_of_lookup found))

theorem lookup_setEntry (name other : String) (value : α) (entries : List (String × α)) :
    (setEntry name value entries).lookup other =
      if other = name then some value else entries.lookup other := by
  induction entries with
  | nil =>
      by_cases same : other = name
      · simp [setEntry, same]
      · simp [setEntry, same]
  | cons entry rest ih =>
      obtain ⟨first, old⟩ := entry
      simp only [setEntry]
      split
      · rename_i same
        subst same
        by_cases same : other = first
        · simp [same]
        · simp [same, List.lookup_cons, beq_false_of_ne same]
      · rename_i different
        by_cases same : other = first
        · subst same
          simp [different]
        · simp [List.lookup_cons, beq_false_of_ne same, ih]

theorem names_setEntry (name : String) (value : α) (entries : List (String × α)) :
    (setEntry name value entries).map Prod.fst =
      if name ∈ entries.map Prod.fst then entries.map Prod.fst
      else entries.map Prod.fst ++ [name] := by
  induction entries with
  | nil => simp [setEntry]
  | cons entry rest ih =>
      obtain ⟨first, old⟩ := entry
      simp only [setEntry]
      split
      · rename_i same
        simp [same]
      · rename_i different
        simp only [List.map_cons, ih, List.mem_cons, Ne.symm different, false_or]
        split <;> simp

theorem lookup_removeEntry (name other : String) (entries : List (String × α)) :
    (removeEntry name entries).lookup other =
      if other = name then none else entries.lookup other := by
  induction entries with
  | nil => simp [removeEntry]
  | cons entry rest ih =>
      obtain ⟨first, old⟩ := entry
      rw [removeEntry] at ih ⊢
      by_cases gone : first = name
      · subst gone
        by_cases same : other = first
        · simpa [same] using ih
        · simpa [same, List.lookup_cons, beq_false_of_ne same] using ih
      · by_cases same : other = first
        · subst same
          simp [gone]
        · simp [gone, List.lookup_cons, beq_false_of_ne same, ih]

end Entries

namespace Table

variable (table : Table α)

theorem ext_entries {left right : Table α} (same : left.entries = right.entries) :
    left = right := by
  cases left
  cases right
  cases same
  rfl

theorem mem_names_iff {name : String} : name ∈ table.names ↔ (table.get? name).isSome := by
  simp [names, get?]

theorem get?_eq_none_iff {name : String} : table.get? name = none ↔ name ∉ table.names := by
  rw [mem_names_iff, Option.isSome_iff_ne_none, ne_eq, not_not]

theorem get?_eq_some_iff {name : String} {value : α} :
    table.get? name = some value ↔ (name, value) ∈ table.entries :=
  ⟨mem_of_lookup, lookup_of_mem table.distinct⟩

theorem nodup_names : table.names.Nodup :=
  table.distinct

theorem entries_eq_of_names :
    table.entries = table.names.filterMap fun name => (table.get? name).map (name, ·) := by
  rw [names, List.filterMap_map]
  have each : ∀ entry ∈ table.entries,
      ((fun name => (table.get? name).map (name, ·)) ∘ Prod.fst) entry = some entry := by
    intro entry inside
    simp [table.get?_eq_some_iff.mpr inside]
  rw [List.filterMap_congr each, List.filterMap_some]

-- Names come once each, so their order and what they stand for is all there is to a table.
theorem ext {left right : Table α} (names : left.names = right.names)
    (values : ∀ name, left.get? name = right.get? name) : left = right := by
  apply ext_entries
  rw [left.entries_eq_of_names, right.entries_eq_of_names, names]
  simp only [values]

@[simp]
theorem get?_empty (name : String) : (empty : Table α).get? name = none := rfl

theorem get?_set (name other : String) (value : α) :
    (table.set name value).get? other = if other = name then some value else table.get? other :=
  lookup_setEntry name other value table.entries

theorem names_set (name : String) (value : α) :
    (table.set name value).names =
      if name ∈ table.names then table.names else table.names ++ [name] :=
  names_setEntry name value table.entries

theorem get?_remove (name other : String) :
    (table.remove name).get? other = if other = name then none else table.get? other :=
  lookup_removeEntry name other table.entries

/-- The entries whose names are to be kept, in their order. -/
def keep (table : Table α) (kept : String → Bool) : Table α :=
  ⟨table.entries.filter fun entry => kept entry.1,
    table.distinct.sublist (List.filter_sublist.map Prod.fst)⟩

theorem get?_keep (kept : String → Bool) (name : String) :
    (table.keep kept).get? name = if kept name then table.get? name else none := by
  apply Option.ext
  intro value
  rw [get?_eq_some_iff, keep, List.mem_filter]
  split
  · rename_i stays
    simp [get?_eq_some_iff, stays]
  · rename_i goes
    simp [goes]

/-- The entries set one after the other. -/
def setAll (table : Table α) (entries : List (String × α)) : Table α :=
  entries.foldl (fun sofar entry => sofar.set entry.1 entry.2) table

end Table

section LastValues

theorem nodup_eraseDups (names : List String) : names.eraseDups.Nodup := by
  -- What is left behind the first name is not the tail, but it is no longer than that.
  induction length : names.length using Nat.strongRecOn generalizing names with
  | ind _ ih =>
      cases names with
      | nil => exact List.nodup_nil
      | cons name rest =>
          rw [List.eraseDups_cons, List.nodup_cons]
          constructor
          · simp
          · apply ih _ _ _ rfl
            subst length
            exact Nat.lt_succ_of_le (List.length_filter_le _ _)

theorem eraseDups_concat (names : List String) (name : String) :
    (names ++ [name]).eraseDups =
      if name ∈ names then names.eraseDups else names.eraseDups ++ [name] := by
  rw [List.eraseDups_append]
  by_cases known : name ∈ names
  · simp [known, List.removeAll]
  · simp [known, List.removeAll, List.eraseDups_cons]

theorem eraseDups_of_nodup {names : List String} (distinct : names.Nodup) :
    names.eraseDups = names := by
  induction names using List.reverseRecOn with
  | nil => rfl
  | append_singleton names name ih =>
      obtain ⟨before, _, apart⟩ := List.nodup_append.mp distinct
      have fresh : name ∉ names := by
        intro inside
        exact apart name inside name (List.mem_singleton_self name) rfl
      rw [eraseDups_concat, if_neg fresh, ih before]

/-- Each name at the place of its first entry, with the value of its last. -/
def lastValues (entries : List (String × α)) : List (String × α) :=
  (entries.map Prod.fst).eraseDups.filterMap fun name =>
    (entries.reverse.lookup name).map (name, ·)

theorem names_lastValues (entries : List (String × α)) :
    (lastValues entries).map Prod.fst = (entries.map Prod.fst).eraseDups := by
  have each : ∀ name ∈ (entries.map Prod.fst).eraseDups,
      ((entries.reverse.lookup name).map (name, ·)).map Prod.fst = some name := by
    intro name inside
    have known : (entries.reverse.lookup name).isSome := by
      simpa [List.mem_eraseDups] using inside
    obtain ⟨value, found⟩ := Option.isSome_iff_exists.mp known
    simp [found]
  rw [lastValues, List.map_filterMap, List.filterMap_congr each, List.filterMap_some]

/-- The table in which a repeated name keeps its first place and has its last value. -/
def Table.ofEntries (entries : List (String × α)) : Table α :=
  ⟨lastValues entries, names_lastValues entries ▸ nodup_eraseDups _⟩

theorem Table.names_ofEntries (entries : List (String × α)) :
    (Table.ofEntries entries).names = (entries.map Prod.fst).eraseDups :=
  names_lastValues entries

theorem Table.get?_ofEntries (entries : List (String × α)) (name : String) :
    (Table.ofEntries entries).get? name = entries.reverse.lookup name := by
  cases found : entries.reverse.lookup name with
  | none =>
      rw [get?_eq_none_iff, names_ofEntries, List.mem_eraseDups]
      intro inside
      obtain ⟨entry, inside, same⟩ := List.mem_map.mp inside
      have absent := List.lookup_eq_none_iff.mp found entry (List.mem_reverse.mpr inside)
      simp [same] at absent
  | some value =>
      rw [get?_eq_some_iff]
      refine List.mem_filterMap.mpr ⟨name, ?_, by simp [found]⟩
      have inside := mem_of_lookup found
      exact List.mem_eraseDups.mpr (List.mem_map_of_mem (List.mem_reverse.mp inside))

-- One entry more is one `set` more, whether its name is new or not.
theorem Table.ofEntries_concat (entries : List (String × α)) (name : String) (value : α) :
    Table.ofEntries (entries ++ [(name, value)]) = (Table.ofEntries entries).set name value := by
  apply Table.ext
  · rw [names_set, names_ofEntries, names_ofEntries, List.map_append, List.map_singleton,
      eraseDups_concat]
    simp only [List.mem_eraseDups]
  · intro other
    rw [get?_ofEntries, get?_set, get?_ofEntries]
    by_cases same : other = name
    · simp [same]
    · simp [same, List.lookup_cons, beq_false_of_ne same]

theorem Table.setAll_empty (entries : List (String × α)) :
    Table.empty.setAll entries = Table.ofEntries entries := by
  induction entries using List.reverseRecOn with
  | nil => rfl
  | append_singleton entries entry ih =>
      rw [Table.setAll, List.foldl_concat, ← Table.setAll, ih, ← Table.ofEntries_concat]

theorem Table.ofEntries_entries (table : Table α) : Table.ofEntries table.entries = table := by
  apply Table.ext
  · rw [names_ofEntries]
    exact eraseDups_of_nodup table.distinct
  · intro name
    rw [get?_ofEntries, lookup_reverse table.distinct]
    rfl

example : lastValues [("a", 1), ("b", 2), ("a", 3)] = [("a", 3), ("b", 2)] := by
  decide

end LastValues

end CircuitDiagram
