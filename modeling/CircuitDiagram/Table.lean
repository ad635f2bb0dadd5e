/-!
Tables from names to values that remember the order in which names came. Setting a name that
is there already keeps its place and replaces its value. No name occurs twice.
-/

namespace CircuitDiagram

variable {α β : Type}

def setEntry (name : String) (value : α) : List (String × α) → List (String × α)
  | [] => [(name, value)]
  | (other, old) :: rest =>
      if other = name then (name, value) :: rest
      else (other, old) :: setEntry name value rest

def removeEntry (name : String) (entries : List (String × α)) : List (String × α) :=
  entries.filter fun entry => entry.1 != name

theorem mem_keys_setEntry (name : String) (value : α) (entries : List (String × α))
    (key : String) :
    key ∈ (setEntry name value entries).map Prod.fst ↔
      key = name ∨ key ∈ entries.map Prod.fst := by
  induction entries with
  | nil => simp [setEntry]
  | cons entry rest ih =>
      obtain ⟨other, old⟩ := entry
      simp only [setEntry]
      split
      · rename_i same
        subst same
        simp
      · simp only [List.map_cons, List.mem_cons, ih]
        constructor
        · rintro (same | same | inside)
          · exact Or.inr (Or.inl same)
          · exact Or.inl same
          · exact Or.inr (Or.inr inside)
        · rintro (same | same | inside)
          · exact Or.inr (Or.inl same)
          · exact Or.inl same
          · exact Or.inr (Or.inr inside)

theorem nodup_keys_setEntry (name : String) (value : α) (entries : List (String × α))
    (distinct : (entries.map Prod.fst).Nodup) :
    ((setEntry name value entries).map Prod.fst).Nodup := by
  induction entries with
  | nil => simp [setEntry]
  | cons entry rest ih =>
      obtain ⟨other, old⟩ := entry
      simp only [List.map_cons, List.nodup_cons] at distinct
      simp only [setEntry]
      split
      · rename_i same
        subst same
        simp only [List.map_cons, List.nodup_cons]
        exact distinct
      · rename_i different
        simp only [List.map_cons, List.nodup_cons, mem_keys_setEntry]
        exact ⟨fun clash => clash.elim different distinct.1, ih distinct.2⟩

theorem nodup_keys_removeEntry (name : String) (entries : List (String × α))
    (distinct : (entries.map Prod.fst).Nodup) :
    ((removeEntry name entries).map Prod.fst).Nodup :=
  distinct.sublist ((List.filter_sublist (l := entries)).map Prod.fst)

structure Table (α : Type) where
  entries : List (String × α)
  distinct : (entries.map Prod.fst).Nodup

namespace Table

def empty : Table α := ⟨[], List.nodup_nil⟩

def set (table : Table α) (name : String) (value : α) : Table α :=
  ⟨setEntry name value table.entries, nodup_keys_setEntry name value _ table.distinct⟩

/-- The other entries keep their order. -/
def remove (table : Table α) (name : String) : Table α :=
  ⟨removeEntry name table.entries, nodup_keys_removeEntry name _ table.distinct⟩

def size (table : Table α) : Nat :=
  table.entries.length

def isEmpty (table : Table α) : Bool :=
  table.entries.isEmpty

def names (table : Table α) : List String :=
  table.entries.map Prod.fst

def values (table : Table α) : List α :=
  table.entries.map Prod.snd

def get? (table : Table α) (name : String) : Option α :=
  table.entries.lookup name

/-- Whether two tables give equal values to the same names, in whatever order. -/
def agrees (equal : α → α → Bool) (left right : Table α) : Bool :=
  left.size == right.size &&
    left.entries.all fun entry =>
      match right.get? entry.1 with
      | some value => equal entry.2 value
      | none => false

end Table

end CircuitDiagram
