/-!
# Sets of signal names

A wait ends with the first of several signals.  Their names form a set: a list in
strictly rising order, so that neither the order in which the names were given nor
their repetition can be seen.  Names are compared by code points, which is the
order of their UTF-8 bytes.
-/

namespace BusBridge

structure SignalSet where
  names : List String
  sorted : names.Pairwise (· < ·)
deriving DecidableEq, Repr

namespace SignalSet

def insertName (name : String) : List String → List String
  | [] => [name]
  | first :: rest =>
    if name < first then name :: first :: rest
    else if name = first then first :: rest
    else first :: insertName name rest

theorem mem_insertName {name other : String} {names : List String} :
    other ∈ insertName name names ↔ other = name ∨ other ∈ names := by
  induction names with
  | nil => simp [insertName]
  | cons first rest ih =>
    simp only [insertName]
    split
    · simp
    · split
      · next same => subst same; simp
      · simp only [List.mem_cons, ih]
        constructor
        · rintro (h | h | h) <;> simp [h]
        · rintro (h | h | h) <;> simp [h]

theorem pairwise_insertName {name : String} {names : List String}
    (sorted : names.Pairwise (· < ·)) : (insertName name names).Pairwise (· < ·) := by
  induction names with
  | nil => simp [insertName]
  | cons first rest ih =>
    obtain ⟨above, rising⟩ := List.pairwise_cons.mp sorted
    simp only [insertName]
    split
    · next below =>
      refine List.pairwise_cons.mpr ⟨fun other member => ?_, sorted⟩
      rcases List.mem_cons.mp member with rfl | member
      · exact below
      · exact String.lt_trans below (above other member)
    · split
      · exact sorted
      · next notBelow different =>
        refine List.pairwise_cons.mpr ⟨fun other member => ?_, ih rising⟩
        rcases mem_insertName.mp member with rfl | member
        · exact Std.lt_of_le_of_ne (String.not_lt.mp notBelow) (Ne.symm different)
        · exact above other member

def empty : SignalSet :=
  ⟨[], .nil⟩

def insert (set : SignalSet) (name : String) : SignalSet :=
  ⟨insertName name set.names, pairwise_insertName set.sorted⟩

def ofList (names : List String) : SignalSet :=
  names.foldl insert empty

def contains (set : SignalSet) (name : String) : Bool :=
  set.names.contains name

theorem mem_names_foldl_insert {name : String} {names : List String} {set : SignalSet} :
    name ∈ (names.foldl insert set).names ↔ name ∈ set.names ∨ name ∈ names := by
  induction names generalizing set with
  | nil => simp
  | cons first rest ih =>
      rw [List.foldl_cons, ih, insert, mem_insertName, List.mem_cons, or_comm (a := name = first),
        or_assoc]

theorem contains_ofList {name : String} {names : List String} :
    (ofList names).contains name = true ↔ name ∈ names := by
  rw [contains, List.contains_iff_mem, ofList, mem_names_foldl_insert]
  exact or_iff_right List.not_mem_nil

def isEmpty (set : SignalSet) : Bool :=
  set.names.isEmpty

theorem isEmpty_ofList {names : List String} (named : names ≠ []) :
    (ofList names).isEmpty = false := by
  obtain ⟨name, rest, rfl⟩ := List.exists_cons_of_ne_nil named
  have member := contains_ofList.mpr (List.mem_cons_self : name ∈ name :: rest)
  rw [contains, List.contains_iff_mem] at member
  rw [isEmpty, List.isEmpty_eq_false_iff]
  exact List.ne_nil_of_mem member

def size (set : SignalSet) : Nat :=
  set.names.length

end SignalSet

end BusBridge
