/-!
# TOML values

Values of a TOML document. A table keeps its entries in order, and no name occurs twice in it; a
document is a table. Dates and times are kept as they are written.
-/

namespace MapQuery.Toml

/-- A TOML value. -/
inductive Value where
  | text (s : String)
  | truth (b : Bool)
  | integer (n : Int)
  | real (x : Float)
  | time (written : String)
  | list (items : List Value)
  | table (entries : List (String × Value))
  deriving Inhabited

/-- The entries of a table. -/
abbrev Table := List (String × Value)

/-- The name of a value in a document: the names of the tables around it, and its own. -/
abbrev Name := List String

namespace Table

/-- The value under a name of a table. -/
def find? (t : Table) (name : String) : Option Value := List.lookup name t

/-- An entry put into a table: a name that is there keeps its place. -/
def put (t : Table) (name : String) (v : Value) : Table :=
  match t with
  | [] => [(name, v)]
  | e :: rest => if e.1 = name then (name, v) :: rest else e :: put rest name v

/-- Looking up a name after it was put. -/
theorem find?_put (t : Table) (name : String) (v : Value) : (t.put name v).find? name = some v := by
  induction t with
  | nil => simp [put, find?]
  | cons e rest ih =>
    obtain ⟨k, w⟩ := e
    by_cases h : k = name
    · simp [put, find?, h]
    · have h' : (name == k) = false := by simp; exact fun e => h e.symm
      simp only [find?] at ih ⊢
      simp [put, h, List.lookup_cons, h', ih]

/-- **Putting an entry leaves the others as they are.** -/
theorem find?_put_of_ne (t : Table) {name other : String} (v : Value) (ne : other ≠ name) :
    (t.put name v).find? other = t.find? other := by
  have no : (other == name) = false := by simpa using ne
  induction t with
  | nil => simp [put, find?, List.lookup_cons, no]
  | cons e rest ih =>
    obtain ⟨k, w⟩ := e
    simp only [find?] at ih ⊢
    by_cases h : k = name
    · subst h
      simp [put, List.lookup_cons, no]
    · by_cases ho : other = k
      · subst ho
        simp [put, h]
      · have h' : (other == k) = false := by simpa using ho
        simp [put, h, List.lookup_cons, h', ih]

end Table

end MapQuery.Toml
