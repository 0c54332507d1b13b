import MapQuery.Map.Bounds
import MapQuery.Map.Graph

/-!
# Data sets

The objects of a graph that belong to the map at hand, each under its key, in the order in which
the keys were first added; the keys that are selected; and two boxes: the area that was downloaded,
and the one that is in view.
-/

namespace MapQuery

/-- Objects under their keys, a selection, and two boxes. -/
structure DataSet where
  entries : List (Key × Handle) := []
  selected : List Key := []
  bounds : Option Bounds := none
  view : Option Bounds := none

namespace DataSet

/-- A handle put under a key: a key that is there keeps its place. -/
def putEntry (key : Key) (h : Handle) : List (Key × Handle) → List (Key × Handle)
  | [] => [(key, h)]
  | (k, v) :: r => if k = key then (k, h) :: r else (k, v) :: putEntry key h r

/-- The handle under a key in a list of entries. -/
def findEntry (entries : List (Key × Handle)) (key : Key) : Option Handle :=
  (entries.find? fun e => e.1 == key).map Prod.snd

/-- The object under a key. -/
def get? (d : DataSet) (key : Key) : Option Handle := findEntry d.entries key

/-- The objects in order. -/
def handles (d : DataSet) : List Handle := d.entries.map Prod.snd

/-- The number of objects. -/
def size (d : DataSet) : Nat := d.entries.length

/-- The object put into the set, and its children told that it refers to them. -/
def add (d : DataSet) (g : Graph) (h : Handle) : DataSet × Graph :=
  match g.get? h with
  | some p => ({ d with entries := putEntry p.key h d.entries }, g.register h)
  | none => (d, g)

/-- Several objects added in turn. -/
def addAll (d : DataSet) (g : Graph) (hs : List Handle) : DataSet × Graph :=
  hs.foldl (fun (d, g) h => d.add g h) (d, g)

/-- Looking up a key after a handle was put under it. -/
theorem findEntry_putEntry_self (key : Key) (h : Handle) (l : List (Key × Handle)) :
    findEntry (putEntry key h l) key = some h := by
  induction l with
  | nil => simp [putEntry, findEntry]
  | cons e r ih =>
    obtain ⟨k, v⟩ := e
    by_cases hk : k = key
    · simp [putEntry, findEntry, hk]
    · have ih' := ih
      simp only [findEntry] at ih' ⊢
      simp [putEntry, hk, ih']

/-- Looking up another key. -/
theorem findEntry_putEntry_of_ne {key other : Key} (h : Handle) (ne : other ≠ key)
    (l : List (Key × Handle)) : findEntry (putEntry key h l) other = findEntry l other := by
  induction l with
  | nil => simp [putEntry, findEntry, ne.symm]
  | cons e r ih =>
    obtain ⟨k, v⟩ := e
    by_cases hk : k = key
    · subst hk
      simp [putEntry, findEntry, ne.symm]
    · by_cases ho : k = other
      · subst ho
        simp [putEntry, findEntry, hk]
      · have ih' := ih
        simp only [findEntry] at ih' ⊢
        simp [putEntry, hk, ho, ih']

end DataSet

end MapQuery
