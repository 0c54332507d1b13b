import MapQuery.Text.Rough

/-!
# JSON values

Values of a JSON document. Integers and reals are told apart by how they are written (`1` against
`1.0`), the fields of an object keep their order, and no name occurs twice in an object. Texts are
rough: escapes can give halves of surrogate pairs alone.
-/

namespace MapQuery

/-- A JSON value. -/
inductive Json where
  | null
  | bool (b : Bool)
  | int (n : Int)
  | real (x : Float)
  | str (s : Rough)
  | arr (items : List Json)
  | obj (fields : List (Rough × Json))
  deriving Inhabited

namespace Json

/-- A field added to an object: a name that is there keeps its place and gets the new value. -/
def putField (fields : List (Rough × Json)) (name : Rough) (value : Json) :
    List (Rough × Json) :=
  match fields with
  | [] => [(name, value)]
  | (k, v) :: r => if k = name then (k, value) :: r else (k, v) :: putField r name value

/-- The value of a name in the fields of an object. -/
def findField (fields : List (Rough × Json)) (name : Rough) : Option Json :=
  (fields.find? (fun p => p.1 == name)).map Prod.snd

/-- The value of a field; nothing if the value is no object or has no such field. -/
def field? (j : Json) (name : String) : Option Json :=
  match j with
  | .obj fields => findField fields name
  | _ => none

/-- A value that counts as nothing: null, false, zero, and empty texts, lists and objects. -/
def isEmptyLike : Json → Bool
  | .null => true
  | .bool b => !b
  | .int n => n == 0
  | .real x => x == 0
  | .str s => s.isEmpty
  | .arr items => items.isEmpty
  | .obj fields => fields.isEmpty

/-- The text, if the value is one. -/
def text? : Json → Option Rough
  | .str s => some s
  | _ => none

/-- Is the value this text? -/
def isText (j : Json) (s : String) : Bool :=
  j.text? == some (s : Rough)

/-- Writing a field and reading it back. -/
theorem findField_putField (fields : List (Rough × Json)) (name : Rough) (value : Json) :
    findField (putField fields name value) name = some value := by
  induction fields with
  | nil => simp [putField, findField]
  | cons p r ih =>
    obtain ⟨k, v⟩ := p
    by_cases h : k = name
    · simp [putField, findField, h]
    · have ih' := ih
      simp only [findField] at ih' ⊢
      simp [putField, h, ih']

/-- **The names after a field is added:** as before, with a new one at the end. -/
theorem names_putField (fields : List (Rough × Json)) (name : Rough) (value : Json) :
    (putField fields name value).map Prod.fst =
      if name ∈ fields.map Prod.fst then fields.map Prod.fst
      else fields.map Prod.fst ++ [name] := by
  induction fields with
  | nil => simp [putField]
  | cons p r ih =>
    obtain ⟨k, v⟩ := p
    by_cases h : k = name
    · subst h
      simp [putField]
    · have h' : ¬ name = k := fun e => h e.symm
      by_cases hr : name ∈ r.map Prod.fst
      · simp only [hr, if_true] at ih
        simp only [putField, h, if_false, List.map_cons, ih, List.mem_cons, h', hr, or_true,
          if_true]
      · simp only [hr, if_false] at ih
        simp only [putField, h, if_false, List.map_cons, ih, List.mem_cons, h', hr, or_self,
          if_false, List.cons_append]

end Json

end MapQuery
