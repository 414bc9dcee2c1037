import DeclSplit.Ir

/-!
# Dependencies between segments

The dependencies of a segment are grown by one hop: each name that it depends on brings in the
dependencies of the segment of that name, as they were before any segment grew.

* `DependencyTable` — the dependencies of each name;
* `DependencyTable.ofSegments` — the table of a list of segments, in which the last segment of a
  name counts;
* `Ir.expand` — one segment with its dependencies grown through a table;
* `Ir.resolveWith`, `Ir.resolve` — all segments grown through a table, or through their own.
-/

namespace DeclSplit

variable {κ : Type} [Ord κ]

/-- The dependencies of names; of several entries for a name the last counts. -/
abbrev DependencyTable (κ : Type) [Ord κ] := List (κ × NameSet κ)

namespace DependencyTable

/-- The root name and the dependencies of each segment. -/
def ofSegments (segments : List (Ir κ)) : DependencyTable κ :=
  segments.map fun s => (s.name, s.dependencies)

/-- The dependencies of a name, none for a name without an entry. -/
def get (table : DependencyTable κ) (name : κ) : NameSet κ :=
  match table.reverse.find? fun entry => compare name entry.1 == .eq with
  | some entry => entry.2
  | none => ∅

variable [Std.TransOrd κ]

/-- One entry for each name, the names in ascending order. -/
def entries (table : DependencyTable κ) : List (κ × NameSet κ) :=
  (NameSet.ofList (table.map Prod.fst)).toList.map fun name => (name, get table name)

/-- The names that a set of names leads to in one hop. -/
def reached (table : DependencyTable κ) (names : NameSet κ) : NameSet κ :=
  names.toList.foldl (fun found name => found ∪ get table name) ∅

end DependencyTable

namespace Ir

variable [Std.TransOrd κ]

/-- The segment with the names that its dependencies lead to as further dependencies. -/
def expand (table : DependencyTable κ) (segment : Ir κ) : Ir κ :=
  segment.mapRoot fun label =>
    { label with dependencies := label.dependencies ∪ table.reached label.dependencies }

/-- The number of names that a segment gains. -/
def gain (table : DependencyTable κ) (segment : Ir κ) : Nat :=
  ((table.reached segment.dependencies).diff segment.dependencies).size

/-- Every segment grown through a table. -/
def resolveWith (table : DependencyTable κ) (segments : List (Ir κ)) : List (Ir κ) :=
  segments.map (expand table)

/-- Every segment grown through the table of the segments, taken before any of them grows. -/
def resolve (segments : List (Ir κ)) : List (Ir κ) :=
  resolveWith (.ofSegments segments) segments

end Ir

end DeclSplit
