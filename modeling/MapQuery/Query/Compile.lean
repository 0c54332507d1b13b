import MapQuery.Predicate.Basic
import MapQuery.Query.Cursor

/-!
# Compiling queries

From tokens to a predicate.

* an expression is a row of factors; factors side by side are joined by "and", and "or" takes the
  factor on its left and all that follows on its right;
* a factor is an expression in parentheses, a negated factor, or a key with an operator and an
  operand, or without;
* some keys are keywords: of states, of areas, of children and parents, of numbers and ranges.

Parentheses around nothing are read but stand for no factor. Area tests take the box of the map at
the time they are compiled; those that found none are reported.
-/

namespace MapQuery.Query

/-! ## 1. What a compilation depends on -/

/-- The boxes that a map offers to area tests. -/
structure MapContext where
  downloaded : Option Bounds
  view : Option Bounds

/-- The box that an area test asks about. -/
def MapContext.bounds (m : MapContext) : AreaSource → Option Bounds
  | .downloaded => m.downloaded
  | .view => m.view

/-- What a query is compiled with. -/
structure Setting where
  options : TextOptions := {}
  context : Option MapContext := none
  /-- The present, in seconds since 1970. -/
  now : Int

/-- Where a compilation stands: the tokens, and the area tests built so far. -/
structure Progress (σ : Type) where
  cursor : Cursor σ
  areas : List AreaTest := []

/-- A step of a compilation. What was read stays read when the step fails. -/
abbrev Compiling (σ α : Type) := ExceptT Fault (StateM (Progress σ)) α

variable {σ : Type}

/-- A step of the cursor. -/
def onCursor {α : Type} (step : Cursor σ → Except Fault α × Cursor σ) : Compiling σ α :=
  ExceptT.mk fun p => let (r, c) := step p.cursor; (r, { p with cursor := c })

/-- A value that may be a fault. -/
def orFault {α : Type} (r : Except Fault α) : Compiling σ α :=
  ExceptT.mk fun p => (r, p)

/-! ## 2. Keywords -/

/-- The state that a keyword names. -/
def statusNamed (key : String) : Option Status :=
  [Status.new, .modified, .incomplete, .untagged, .selected, .closed].find? fun s =>
    s.keyword == key

/-- The area test that a keyword names. -/
def areaNamed (key : String) : Option (AreaSource × Quantifier) :=
  [(AreaSource.downloaded, Quantifier.any), (.downloaded, .all), (.view, .any),
    (.view, .all)].find? fun (s, q) => areaKeyword s q == key

/-- The quantity that a keyword with a range names. -/
def dimensionNamed (key : String) : Option Dimension :=
  [Dimension.tags, .nodes, .area].find? fun d => d.keyword == key

/-! ## 3. Factors without parts -/

/-- A test of a value for a text it holds. -/
def substringTest (o : TextOptions) (key value : String) : Except Fault Predicate :=
  match SubstringTest.build key value o with
  | .ok t => .ok (.substring t)
  | .error r => .error (Fault.ofPattern r)

/-- A test of a value for a text it is. -/
def exactTest (o : TextOptions) (key value : String) : Except Fault Predicate :=
  match ExactTest.build key value o with
  | .ok t => .ok (.exact t)
  | .error .emptyKey => .error .emptyKey
  | .error (.pattern r) => .error (Fault.ofPattern r)

/-- A test for free text. -/
def textTest (o : TextOptions) (text : String) : Except Fault Predicate :=
  match TextTest.build text o with
  | .ok t => .ok (.text t)
  | .error r => .error (Fault.ofPattern r)

/-- The bound of a time span in seconds since 1970; an empty one has a default. -/
def spanBound (text : List Char) (default : Int) : Except Fault Int :=
  if (Text.trim text).isEmpty then .ok default
  else
    match Calendar.readInstant (String.ofList (Text.trim text)) with
    | .ok t => .ok t.epochSeconds
    | .error e => .error (Fault.ofDate e)

/-- The operand of `timestamp:`, two dates with a slash between them or a text. -/
def timestampTest (s : Setting) (value : String) : Except Fault Predicate :=
  match value.toList.splitOn '/' with
  | [_] => substringTest s.options "timestamp" value
  | [low, high] => do
    let a ← spanBound low Calendar.Moment.earliest.epochSeconds
    let b ← spanBound high s.now
    return .count .timestamp (Range.between a b)
  | _ => .error .badSpan

/-- The operand of a key that takes any text. -/
def valueTest (o : TextOptions) (key value : String) : Except Fault Predicate :=
  if key = "type" then
    match Kind.ofName value with
    | some k => .ok (.kind k)
    | none => .error (.badKind value)
  else if key = "user" then .ok (.user (if value = "anonymous" then none else some value))
  else if key = "role" then .ok (.role value)
  else substringTest o key value

/-- An area test with the box that the map shows now. -/
def captureArea (s : Setting) (source : AreaSource) (q : Quantifier) : Compiling σ Predicate := do
  let t : AreaTest := ⟨source, q, s.context.bind fun m => m.bounds source⟩
  modify fun p => { p with areas := p.areas ++ [t] }
  return .area t

variable [TokenSource σ]

/-- The text of the next token if it is a key, and the empty text otherwise. -/
def operandText : Compiling σ String := do
  return (← onCursor Cursor.readText).getD ""

/-- What stands behind `key:`. -/
def colonTest (s : Setting) (key : String) : Compiling σ Predicate := do
  if key = "id" then return .id (← onCursor (Cursor.readNumber .id))
  else
    match dimensionNamed key with
    | some d => return .count d (← onCursor (Cursor.readRange .range))
    | none =>
      if key = "timestamp" then orFault (timestampTest s (← operandText))
      else if key = "changeset" then
        return .changeset (← onCursor (Cursor.readNumber .changeset))
      else if key = "version" then return .version (← onCursor (Cursor.readNumber .version))
      else orFault (valueTest s.options key (← operandText))

/-! ## 4. Expressions -/

/-- Factors with the joints behind them, given in reverse, as one predicate. The joint behind the
    last one joins it to nothing. -/
def joined : List (Predicate × Joint) → Option Predicate
  | [] => none
  | (last, _) :: before => some (before.foldl (fun rest (p, j) => j.join p rest) last)

/-- Does a row of factors, given in reverse, end in "or"? -/
def endsInOr : List (Predicate × Joint) → Bool
  | (_, .or) :: _ => true
  | _ => false

/-- The joint behind a factor. -/
def readJoint : Compiling σ Joint := do
  return if ← onCursor (Cursor.readIf .or) then .or else .and

/-- Reads the parenthesis behind an expression. -/
def closeParen : Compiling σ Unit := do
  if ← onCursor (Cursor.readIf .rightParen) then return
  else throw (.notClosed (← onCursor Cursor.next))

mutual

/-- The factors of an expression, in reverse; those read before are given. -/
def readFactors (s : Setting) :
    Nat → List (Predicate × Joint) → Compiling σ (List (Predicate × Joint))
  | 0, done => return done
  | n + 1, done => do
    match ← readFactor s n with
    | none => if endsInOr done then throw .noAlternative else return done
    | some p => readFactors s n ((p, ← readJoint) :: done)

/-- A factor, if one starts here. -/
def readFactor (s : Setting) : Nat → Compiling σ (Option Predicate)
  | 0 => return none
  | n + 1 => do
    if ← onCursor (Cursor.readIf .leftParen) then
      let e := joined (← readFactors s n [])
      closeParen
      return e
    else if ← onCursor (Cursor.readIf .not) then
      match ← readFactor s n with
      | some p => return some (.not p)
      | none => throw .noOperand
    else if ← onCursor (Cursor.readIf .key) then
      return some (← readKeyed s n ((← get).cursor.text.getD ""))
    else return none

/-- What a key means, by the operator behind it. -/
def readKeyed (s : Setting) : Nat → String → Compiling σ Predicate
  | 0, _ => return .always
  | n + 1, key => do
    if ← onCursor (Cursor.readIf .equals) then orFault (exactTest s.options key (← operandText))
    else if ← onCursor (Cursor.readIf .colon) then colonTest s key
    else if ← onCursor (Cursor.readIf .question) then return .flag key false
    else
      match statusNamed key with
      | some t => return .status t
      | none =>
        if key = "child" then return .hasChild ((← readFactor s n).getD .always)
        else if key = "parent" then return .hasParent ((← readFactor s n).getD .always)
        else
          match areaNamed key with
          | some (source, q) => captureArea s source q
          | none => orFault (textTest s.options key)

end

/-- A number of steps that suffices for the tokens that are left. -/
def stepsFor (c : Cursor σ) : Nat := 3 * c.room + 6

/-- An expression, if one starts here. -/
def readExpression (s : Setting) : Compiling σ (Option Predicate) := do
  return joined (← readFactors s (stepsFor (← get).cursor) [])

/-- A whole query; the empty one lets everything pass. -/
def readQuery (s : Setting) : Compiling σ Predicate := do
  let e ← readExpression s
  if ← onCursor (Cursor.readIf .endOfQuery) then return e.getD .always
  else throw (.leftOver (← onCursor Cursor.next))

/-! ## 5. Compilation -/

/-- What comes of compiling a query: a predicate or a fault, and the area tests built. -/
structure Compilation where
  outcome : Except Fault Predicate
  areas : List AreaTest

namespace Compilation

/-- The keywords of the area tests that found no box, in order. -/
def unbounded (c : Compilation) : List String :=
  (c.areas.filter fun t => t.bounds.isNone).map fun t => areaKeyword t.source t.quantifier

/-- The warnings about area tests that found no box. -/
def warnings (c : Compilation) : List String :=
  c.unbounded.map fun key => "No bounds available for '" ++ key ++ "'; it will match nothing"

end Compilation

/-- Compiles what a source of tokens yields. -/
def compileFrom (s : Setting) (source : σ) : Compilation :=
  let (outcome, p) := (readQuery s).run.run { cursor := { source := source } }
  ⟨outcome, p.areas⟩

/-- Compiles a query. -/
def compile (s : Setting) (query : String) : Compilation :=
  compileFrom s (QueryText.ofString query)

end MapQuery.Query
