import MapQuery.Text.Rough

/-!
# Tags

The tags of a map object: texts under keys, in the order in which the keys were first given. What is
given may be rough. Where keys and values are compared with the texts of queries, a half of a
surrogate pair counts as a private character.
-/

namespace MapQuery

/-- Keys with their values. -/
structure Tags where
  given : List (Rough × Rough) := []
  deriving DecidableEq, Repr

namespace Tags

/-- A value put under a key: a key that is there keeps its place. -/
def putEntry (key value : Rough) : List (Rough × Rough) → List (Rough × Rough)
  | [] => [(key, value)]
  | (k, v) :: r => if k = key then (k, value) :: r else (k, v) :: putEntry key value r

/-- A value put under a key. -/
def put (t : Tags) (key value : Rough) : Tags :=
  ⟨putEntry key value t.given⟩

/-- Tags from a list in which a later value replaces an earlier one. -/
def ofList (entries : List (Rough × Rough)) : Tags :=
  entries.foldl (fun t (k, v) => t.put k v) {}

/-- Keys and values as texts of characters. -/
def entries (t : Tags) : List (String × String) := t.given.map fun e => (e.1.plain, e.2.plain)

/-- The keys in order. -/
def keys (t : Tags) : List String := t.entries.map Prod.fst

/-- The value under a key. -/
def get? (t : Tags) (key : String) : Option String :=
  (t.entries.find? fun e => e.1 == key).map Prod.snd

/-- Are there no tags? -/
def isEmpty (t : Tags) : Bool := t.given.isEmpty

/-- The number of tags. -/
def size (t : Tags) : Nat := t.given.length

/-- The keys after a value is put: as before, with a new one at the end. -/
theorem keys_putEntry (key value : Rough) (l : List (Rough × Rough)) :
    (putEntry key value l).map Prod.fst =
      if key ∈ l.map Prod.fst then l.map Prod.fst else l.map Prod.fst ++ [key] := by
  induction l with
  | nil => simp [putEntry]
  | cons p r ih =>
    obtain ⟨k, v⟩ := p
    by_cases h : k = key
    · subst h
      simp [putEntry]
    · have h' : ¬ key = k := fun e => h e.symm
      by_cases hr : key ∈ r.map Prod.fst
      · simp only [hr, if_true] at ih
        simp only [putEntry, h, if_false, List.map_cons, ih, List.mem_cons, h', hr, or_true,
          if_true]
      · simp only [hr, if_false] at ih
        simp only [putEntry, h, if_false, List.map_cons, ih, List.mem_cons, h', hr, or_self,
          if_false, List.cons_append]

/-- **Every key stands once, whatever is put.** -/
theorem nodup_putEntry (key value : Rough) (l : List (Rough × Rough))
    (h : (l.map Prod.fst).Nodup) : ((putEntry key value l).map Prod.fst).Nodup := by
  rw [keys_putEntry]
  split
  · exact h
  · next hk =>
    refine List.nodup_append.mpr ⟨h, by simp, ?_⟩
    intro a ha b hb
    rw [List.mem_singleton] at hb
    subst hb
    rintro rfl
    exact hk ha

end Tags

end MapQuery
