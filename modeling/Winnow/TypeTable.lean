import Winnow.TypeName

/-!
The types that a module declares. Metadata lists them in rows, counted from one, and says which row encloses
which. From this each type gets a handle, by which a decompiler finds it, and a full name for people.

Metadata may be damaged: a row can be said to enclose itself, directly or through others, or to lie in a row
that does not exist. A row whose enclosing row is of no use counts as a type of its own.
-/
set_option autoImplicit false

namespace Winnow

structure TypeRow where
  name : String
  space : String
  deriving DecidableEq, Repr

structure TypeTable where
  rows : List TypeRow
  /-- Pairs of a nested and its enclosing row. Of two pairs for one nested row the later one counts. -/
  enclosing : List (Int × Int)
  deriving DecidableEq, Repr

structure TypeDescriptor where
  name : String
  fullName : String
  handle : String
  deriving DecidableEq, Repr

/-- The name by which a decompiler finds a type, and the one by which people do. -/
structure TypeNames where
  handle : String
  fullName : String
  deriving DecidableEq, Repr, Inhabited

def TypeRow.rootNames (row : TypeRow) : TypeNames :=
  let lead := if row.space.isEmpty then "" else row.space ++ "."
  ⟨lead ++ row.name, lead ++ TypeName.withoutArity row.name⟩

def TypeRow.nestedNames (row : TypeRow) (outer : TypeNames) : TypeNames :=
  ⟨outer.handle ++ "+" ++ row.name, outer.fullName ++ "." ++ TypeName.withoutArity row.name⟩

namespace TypeTable

def row? (t : TypeTable) (number : Nat) : Option TypeRow :=
  if number = 0 then none else t.rows[number - 1]?

theorem mem_rows_of_row? {t : TypeTable} {number : Nat} {row : TypeRow} (h : t.row? number = some row) :
    row ∈ t.rows := by
  unfold row? at h
  split at h
  · cases h
  · exact List.mem_of_getElem? h

def parent? (t : TypeTable) (number : Nat) : Option Nat :=
  match t.enclosing.reverse.lookup (number : Int) with
  | some parent => if 0 < parent && parent ≤ t.rows.length then some parent.toNat else none
  | none => none

abbrev Known := List (Nat × TypeNames)

/-- Works out the names of a row, and before them those of the rows around it, up to one that is known, that
lies in no other, or whose enclosing row is among those being worked out. -/
def resolve (t : TypeTable) : (fuel : Nat) → (visiting : List Nat) → Known → (number : Nat) → Known
  | 0, _, known, _ => known
  | fuel + 1, visiting, known, number =>
    match known.lookup number, t.row? number with
    | some _, _ => known
    | none, none => known
    | none, some row =>
      match t.parent? number with
      | none => (number, row.rootNames) :: known
      | some parent =>
        if parent == number || visiting.contains parent then (number, row.rootNames) :: known
        else
          let known := t.resolve fuel (number :: visiting) known parent
          (number, row.nestedNames ((known.lookup parent).getD default)) :: known

def known (t : TypeTable) : Known :=
  (List.range t.rows.length).foldl (fun known i => t.resolve (t.rows.length + 1) [] known (i + 1)) []

def describe (t : TypeTable) : List TypeDescriptor :=
  let known := t.known
  t.rows.zipIdx.map fun (row, i) =>
    let names := (known.lookup (i + 1)).getD default
    ⟨TypeName.withoutArity row.name, names.fullName, names.handle⟩

end TypeTable

end Winnow
