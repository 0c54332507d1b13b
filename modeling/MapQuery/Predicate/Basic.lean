import MapQuery.Map.Bounds
import MapQuery.Map.Kind
import MapQuery.Pattern.Basic
import MapQuery.Query.Range
import MapQuery.Text.Compare

/-!
# Predicates

What a query asks of an object of the map. The tests that compare texts hold what they compare with
in prepared form: a folded needle, or a pattern. They are built by functions that refuse an invalid
pattern, so a predicate that exists can be evaluated.

* `SubstringTest` -- `key:value`, a value holds a text;
* `ExactTest` -- `key=value`, a value is a text;
* `TextTest` -- a key or value holds a text;
* `Predicate` -- all tests, negation, conjunction and disjunction;
* `Predicate.spine` -- the right spine of conjunctions and disjunctions;
* `Predicate.display` -- the text of a predicate, by a loop along that spine.
-/

namespace MapQuery

/-! ## 1. Tests of texts -/

/-- How texts are compared. -/
structure TextOptions where
  /-- The operands are patterns. -/
  regex : Bool := false
  caseSensitive : Bool := false
  deriving DecidableEq, Repr

/-- An operand in prepared form. -/
inductive Probe where
  | needle (folded : String)
  | pattern (p : Pattern)
  deriving Repr

namespace Probe

/-- Prepares an operand. -/
def prepare (text : String) (o : TextOptions) : Except Pattern.Refusal Probe :=
  if o.regex then (Pattern.compile text o.caseSensitive).map .pattern
  else .ok (.needle (Text.fold text o.caseSensitive))

/-- The folded text, if the operand is no pattern. -/
def needle? : Probe → Option String
  | .needle s => some s
  | .pattern _ => none

/-- Does a text hold the needle, or a match of the pattern? -/
def foundIn (p : Probe) (caseSensitive : Bool) (text : String) : Bool :=
  match p with
  | .needle s => Text.contains text s caseSensitive
  | .pattern r => r.search text

end Probe

/-- `key:value`: the value of a tag holds a text. -/
structure SubstringTest where
  key : String
  value : String
  options : TextOptions
  keyProbe : Probe
  valueProbe : Probe
  deriving Repr

/-- Prepares a test of a value for a text it holds. -/
def SubstringTest.build (key value : String) (o : TextOptions) :
    Except Pattern.Refusal SubstringTest := do
  let k ← Probe.prepare key o
  let v ← Probe.prepare value o
  return ⟨key, value, o, k, v⟩

/-- What `key=value` asks for, by the operands that are missing or stand for anything. -/
inductive ExactMode where
  /-- `*=`: there are no tags. -/
  | noTags
  /-- `key=`: there is no such key. -/
  | noKey
  /-- `*=*`: there are tags. -/
  | anyTag
  /-- `*=value`: some key has the value. -/
  | anyKey
  /-- `key=*`: the key has a value. -/
  | anyValue
  /-- `key=value`: the key has the value. -/
  | exact
  deriving DecidableEq, Repr

/-- What `key=value` asks for. -/
def ExactMode.of (key value : String) : ExactMode :=
  if value = "" then (if key = "*" then .noTags else .noKey)
  else if key = "*" then (if value = "*" then .anyTag else .anyKey)
  else if value = "*" then .anyValue
  else .exact

/-- `key=value`: the value of a tag is a text. -/
structure ExactTest where
  key : String
  value : String
  options : TextOptions
  mode : ExactMode
  keyPattern : Option Pattern
  valuePattern : Option Pattern
  deriving Repr

/-- Why a test of a value cannot be built. -/
inductive ExactFault where
  | emptyKey
  | pattern (r : Pattern.Refusal)
  deriving DecidableEq, Repr

/-- The pattern of an operand, if it is one. -/
def operandPattern (isPattern : Bool) (text : String) (o : TextOptions) :
    Except ExactFault (Option Pattern) :=
  if isPattern then
    match Pattern.compile text o.caseSensitive with
    | .ok p => .ok (some p)
    | .error r => .error (.pattern r)
  else .ok none

/-- Prepares a test of a value for a text it is. -/
def ExactTest.build (key value : String) (o : TextOptions) : Except ExactFault ExactTest := do
  if key = "" then throw .emptyKey
  let k ← operandPattern (o.regex && key != "*") key o
  let v ← operandPattern (o.regex && value != "" && value != "*") value o
  return ⟨key, value, o, ExactMode.of key value, k, v⟩

/-- Free text: a key or a value of some tag holds a text. -/
structure TextTest where
  text : String
  options : TextOptions
  probe : Probe
  deriving Repr

/-- Prepares a test for free text. -/
def TextTest.build (text : String) (o : TextOptions) : Except Pattern.Refusal TextTest := do
  let p ← Probe.prepare text o
  return ⟨text, o, p⟩

/-! ## 2. Other tests -/

/-- A quantity that can be measured on an object. -/
inductive Dimension where
  | nodes | tags | timestamp | area
  deriving DecidableEq, Repr

/-- The keyword of a quantity. -/
def Dimension.keyword : Dimension → String
  | .nodes => "nodes"
  | .tags => "tags"
  | .timestamp => "timestamp"
  | .area => "areasize"

/-- A state an object can be in. -/
inductive Status where
  | new | modified | incomplete | untagged | selected | closed
  deriving DecidableEq, Repr

/-- The keyword of a state. -/
def Status.keyword : Status → String
  | .new => "new"
  | .modified => "modified"
  | .incomplete => "incomplete"
  | .untagged => "untagged"
  | .selected => "selected"
  | .closed => "closed"

/-- Which box an area test asks about. -/
inductive AreaSource where
  | downloaded | view
  deriving DecidableEq, Repr

/-- The keyword of a box. -/
def AreaSource.keyword : AreaSource → String
  | .downloaded => "indownloadedarea"
  | .view => "inview"

/-- How many of the points have to lie in the box. -/
inductive Quantifier where
  | any | all
  deriving DecidableEq, Repr

/-- The name of a quantifier. -/
def Quantifier.name : Quantifier → String
  | .any => "any"
  | .all => "all"

/-- An area test; without a box nothing passes it. -/
structure AreaTest where
  source : AreaSource
  quantifier : Quantifier
  bounds : Option Bounds

/-- The keyword of an area test. -/
def areaKeyword (s : AreaSource) (q : Quantifier) : String :=
  match q with
  | .all => "all" ++ s.keyword
  | .any => s.keyword

/-! ## 3. Predicates -/

/-- What a query asks of an object. -/
inductive Predicate where
  | always
  | never
  | not (operand : Predicate)
  | both (lhs rhs : Predicate)
  | either (lhs rhs : Predicate)
  /-- The number of the object; 0 stands for any new one. -/
  | id (n : Int)
  | changeset (n : Int)
  | version (n : Int)
  | substring (t : SubstringTest)
  | exact (t : ExactTest)
  /-- `key?`: the value says yes; `fallback` answers where it says neither yes nor no. -/
  | flag (key : String) (fallback : Bool)
  | text (t : TextTest)
  | kind (k : Kind)
  /-- The last editor; none for an anonymous one. -/
  | user (name : Option String)
  | role (name : String)
  | count (d : Dimension) (r : Range)
  | status (s : Status)
  | hasChild (p : Predicate)
  | hasParent (p : Predicate)
  | area (t : AreaTest)

instance : Inhabited Predicate := ⟨.always⟩

/-- How a link of a chain is joined to what follows it. -/
inductive Joint where
  | and | or
  deriving DecidableEq, Repr

namespace Joint

/-- The sign of a joint in the text of a predicate. -/
def sign : Joint → String
  | .and => "&&"
  | .or => "||"

/-- Does the left operand settle what the joined predicate says? -/
def settledBy : Joint → Bool → Bool
  | .and, b => !b
  | .or, b => b

/-- Two predicates joined. -/
def join : Joint → Predicate → Predicate → Predicate
  | .and, l, r => .both l r
  | .or, l, r => .either l r

end Joint

namespace Predicate

/-! ## 4. Text -/

/-- The loop along the right operands: the left operands with their joints, the last one first, in
    front of those that were passed before, and what stands at the end. -/
def spine (heads : List (Predicate × Joint)) : Predicate → List (Predicate × Joint) × Predicate
  | .both l r => spine ((l, .and) :: heads) r
  | .either l r => spine ((l, .or) :: heads) r
  | p => (heads, p)

/-- What the loop collects is smaller than what bounds that which it was given. -/
theorem sizeOf_spine {n : Nat} (p : Predicate) (heads : List (Predicate × Joint))
    (hheads : ∀ x ∈ heads, sizeOf x.1 < n) (hp : sizeOf p < n) :
    (∀ x ∈ (p.spine heads).1, sizeOf x.1 < n) ∧ sizeOf (p.spine heads).2 < n := by
  induction p generalizing heads with
  | both l r _ ih =>
    rw [both.sizeOf_spec] at hp
    exact ih _ (List.forall_mem_cons.mpr ⟨show sizeOf l < n by omega, hheads⟩) (by omega)
  | either l r _ ih =>
    rw [either.sizeOf_spec] at hp
    exact ih _ (List.forall_mem_cons.mpr ⟨show sizeOf l < n by omega, hheads⟩) (by omega)
  | _ => exact ⟨hheads, hp⟩

/-- The links of a chain and its end are smaller than the chain. -/
theorem sizeOf_links (l r : Predicate) (j : Joint) :
    (∀ x ∈ (r.spine [(l, j)]).1, sizeOf x.1 < 1 + sizeOf l + sizeOf r) ∧
      sizeOf (r.spine [(l, j)]).2 < 1 + sizeOf l + sizeOf r :=
  sizeOf_spine r _ (List.forall_mem_singleton.mpr (show sizeOf l < _ by omega)) (by omega)

/-- A left operand joined to the text of what follows. -/
def wrapped (left : String) (j : Joint) (rest : String) : String :=
  "(" ++ left ++ " " ++ j.sign ++ " " ++ rest ++ ")"

/-- A predicate as people read it, with the grouping of its parts. Along a chain the links are
    collected first, and then wrapped around its end from the inside out. -/
def display : Predicate → String
  | .always => "*"
  | .never => "!*"
  | .not p => "!" ++ p.display
  | .both l r =>
    let c := r.spine [(l, .and)]
    c.1.attach.foldl (fun rest x => wrapped x.1.1.display x.1.2 rest) c.2.display
  | .either l r =>
    let c := r.spine [(l, .or)]
    c.1.attach.foldl (fun rest x => wrapped x.1.1.display x.1.2 rest) c.2.display
  | .id n => "id=" ++ toString n
  | .changeset n => "changeset=" ++ toString n
  | .version n => "version=" ++ toString n
  | .substring t => t.key ++ ":" ++ t.value
  | .exact t => t.key ++ "=" ++ t.value
  | .flag key _ => key ++ "?"
  | .text t => t.text
  | .kind k => "type:" ++ k.name
  | .user name => "user:" ++ name.getD "anonymous"
  | .role name => "role:" ++ name
  | .count d r => d.keyword ++ ":" ++ r.text
  | .status s => s.keyword
  | .hasChild p => "child(" ++ p.display ++ ")"
  | .hasParent p => "parent(" ++ p.display ++ ")"
  | .area t => areaKeyword t.source t.quantifier
termination_by p => sizeOf p
decreasing_by
  · exact Nat.lt_add_of_pos_left Nat.one_pos
  · exact (sizeOf_links l r .and).1 _ x.2
  · exact (sizeOf_links l r .and).2
  · exact (sizeOf_links l r .or).1 _ x.2
  · exact (sizeOf_links l r .or).2
  · exact Nat.lt_add_of_pos_left Nat.one_pos
  · exact Nat.lt_add_of_pos_left Nat.one_pos

/-! ## 5. Equality -/

/-- The same box, or none in both. -/
def sameBounds : Option Bounds → Option Bounds → Bool
  | none, none => true
  | some a, some b => a.same b
  | _, _ => false

/-- Do two predicates ask the same with the same operands? -/
def same : Predicate → Predicate → Bool
  | .always, .always => true
  | .never, .never => true
  | .not p, .not q => p.same q
  | .both l r, .both l' r' => l.same l' && r.same r'
  | .either l r, .either l' r' => l.same l' && r.same r'
  | .id n, .id m => n == m
  | .changeset n, .changeset m => n == m
  | .version n, .version m => n == m
  | .substring t, .substring u => t.key == u.key && t.value == u.value && t.options == u.options
  | .exact t, .exact u => t.key == u.key && t.value == u.value && t.options == u.options
  | .flag k b, .flag l c => k == l && b == c
  | .text t, .text u => t.text == u.text && t.options == u.options
  | .kind k, .kind l => k == l
  | .user a, .user b => a == b
  | .role a, .role b => a == b
  | .count d r, .count e s => d == e && r == s
  | .status s, .status t => s == t
  | .hasChild p, .hasChild q => p.same q
  | .hasParent p, .hasParent q => p.same q
  | .area t, .area u =>
    t.source == u.source && t.quantifier == u.quantifier && sameBounds t.bounds u.bounds
  | _, _ => false

end Predicate

end MapQuery
