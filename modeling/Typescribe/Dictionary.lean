/-! Finite maps from names, with each name at most once. -/
namespace Typescribe

universe u

structure Dictionary (α : Type u) where
  entries : List (String × α)
  distinct : (entries.map Prod.fst).Nodup
  deriving DecidableEq, Repr

namespace Dictionary

variable {α : Type u}

def empty : Dictionary α := ⟨[], List.nodup_nil⟩

instance : Inhabited (Dictionary α) := ⟨empty⟩

def get? (d : Dictionary α) (key : String) : Option α :=
  d.entries.lookup key

def contains (d : Dictionary α) (key : String) : Bool :=
  (d.get? key).isSome

def size (d : Dictionary α) : Nat :=
  d.entries.length

def isEmpty (d : Dictionary α) : Bool :=
  d.entries.isEmpty

/-- Adds an entry, in place of the one with this key. -/
def insert (d : Dictionary α) (key : String) (value : α) : Dictionary α where
  entries := (key, value) :: d.entries.filter fun e => e.1 != key
  distinct := by
    rw [List.map_cons, List.nodup_cons]
    refine ⟨?_, d.distinct.sublist (List.filter_sublist.map _)⟩
    simp

/-- Adds every entry of the list in order, so that later ones win. -/
def insertAll (d : Dictionary α) (entries : List (String × α)) : Dictionary α :=
  entries.foldl (fun d e => d.insert e.1 e.2) d

def ofList (entries : List (String × α)) : Dictionary α :=
  empty.insertAll entries

/-- Entries of `other` win. -/
def merge (d other : Dictionary α) : Dictionary α :=
  d.insertAll other.entries

end Dictionary

end Typescribe
