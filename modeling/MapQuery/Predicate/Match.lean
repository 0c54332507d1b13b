import MapQuery.Map.DataSet
import MapQuery.Predicate.Basic
import MapQuery.Predicate.Truth

/-!
# Evaluating predicates

Whether an object of a graph passes a predicate. Conjunction and disjunction look at their right
operand only if the left one has not decided, and one loop goes along a chain of them; children and
parents are looked at in order until one passes. Three measurements can fail, and the failure is then
the outcome.

* `Graph.holds` -- the outcome of a predicate on an object;
* `Graph.inArea` -- the search through ways and relations for points in a box.
-/

namespace MapQuery

/-! ## 1. Outcomes -/

/-- Why a predicate has no truth value on an object. -/
inductive MatchFault where
  | dateOutOfRange
  | areaInfinite
  | areaNotANumber
  deriving DecidableEq, Repr

/-- What the message of a fault says. -/
def MatchFault.message : MatchFault → String
  | .dateOutOfRange => Calendar.MomentFault.outOfRange.message
  | .areaInfinite => Number.NoInteger.message .infinite
  | .areaNotANumber => Number.NoInteger.message .nan

/-- The kind of a fault. -/
def MatchFault.kind : MatchFault → String
  | .areaNotANumber => "ValueError"
  | .dateOutOfRange | .areaInfinite => "OverflowError"

/-- True, false, or a fault. -/
abbrev Outcome := Except MatchFault Bool

namespace Outcome

/-- The first outcome unless it is true, and then the second. -/
def andThen (a : Outcome) (b : Unit → Outcome) : Outcome :=
  match a with
  | .ok true => b ()
  | other => other

/-- The first outcome unless it is false, and then the second. -/
def orElse (a : Outcome) (b : Unit → Outcome) : Outcome :=
  match a with
  | .ok false => b ()
  | other => other

/-- The other truth value. -/
def negate : Outcome → Outcome
  | .ok b => .ok (!b)
  | .error e => .error e

/-- Is the outcome true for some member of a list, looked at in order? -/
def anyOf {α : Type} (test : α → Outcome) : List α → Outcome
  | [] => .ok false
  | x :: r => (test x).orElse fun _ => anyOf test r

end Outcome

/-! ## 2. Tags -/

/-- The value of the tag whose key is meant: the key itself if case counts, otherwise the first
    whose folded form is the needle. -/
def Tags.lookup (t : Tags) (key needle : String) (caseSensitive : Bool) : Option String :=
  if caseSensitive then t.get? key
  else (t.entries.find? fun e => Text.fold e.1 false == needle).map Prod.snd

/-- Does the value of a tag hold a text? The key `timestamp` stands for the time of the last edit.
    Where the operands are patterns, all keys that match are tried. -/
def SubstringTest.holds (t : SubstringTest) (p : Primitive) : Outcome :=
  match t.keyProbe, t.valueProbe with
  | .pattern k, .pattern v =>
    .ok (p.tags.entries.any fun (key, value) => k.search key && v.search value)
  | k, v =>
    let needle := k.needle?.getD ""
    let found (value : String) := v.foundIn t.options.caseSensitive value
    if needle = "timestamp" then
      match p.timestamp with
      | none => .ok false
      | some moment =>
        match moment.stampText with
        | .ok stamp => .ok (found stamp)
        | .error _ => .error .dateOutOfRange
    else .ok ((p.tags.lookup t.key needle t.options.caseSensitive).any found)

/-- Does the pattern of an operand match a text as a whole? -/
def ExactTest.matchesWhole (pattern : Option Pattern) (text : String) : Bool :=
  pattern.any fun p => p.fullMatch text

/-- Does a test of whole values hold on tags, of which there are some? The key is looked up, and
    only where any key will do are the keys gone through. -/
def ExactTest.holdsPlain (t : ExactTest) (tags : Tags) : Bool :=
  match t.mode with
  | .noTags => false
  | .anyTag => true
  | .noKey => (tags.get? t.key).isNone
  | .anyValue => (tags.get? t.key).isSome
  | .anyKey => tags.keys.any fun k => tags.get? k == some t.value
  | .exact => tags.get? t.key == some t.value

/-- The same where the operands are patterns: the keys are gone through until one is found. -/
def ExactTest.holdsPattern (t : ExactTest) (tags : Tags) : Bool :=
  let key := matchesWhole t.keyPattern
  let value (k : String) := matchesWhole t.valuePattern ((tags.get? k).getD "")
  match t.mode with
  | .noTags => false
  | .anyTag => true
  | .noKey => !tags.keys.any key
  | .anyKey => tags.keys.any value
  | mode => tags.keys.any fun k => key k && (mode == .anyValue || value k)

/-- Does a test of whole values hold on tags? -/
def ExactTest.holds (t : ExactTest) (tags : Tags) : Bool :=
  if tags.isEmpty then t.mode == .noTags
  else if t.options.regex then t.holdsPattern tags
  else t.holdsPlain tags

/-- Does free text stand in a tag? Without tags, nothing is found but the empty text, and that only
    if nobody is known to have edited the object. -/
def TextTest.holds (t : TextTest) (p : Primitive) : Bool :=
  if p.tags.isEmpty then t.text == "" && p.user matches .null
  else
    p.tags.entries.any fun (key, value) =>
      t.probe.foundIn t.options.caseSensitive key || t.probe.foundIn t.options.caseSensitive value

/-- What a tag says, or what is to be assumed if it says neither yes nor no. -/
def flagHolds (tags : Tags) (key : String) (fallback : Bool) : Bool :=
  ((tags.get? key).bind truthOf).getD fallback

/-! ## 3. Editors and roles -/

/-- Is the last editor the one that is named, or nobody if none is? -/
def userIs (user : Json) (name : Option String) : Bool :=
  match user with
  | .null => name.isNone
  | .str s => name.any fun (n : String) => s == (n : Rough)
  | _ => false

/-- Is a role the text given? Roles that count as nothing are the empty text. -/
def roleIs (role : Json) (name : String) : Bool :=
  if role.isEmptyLike then name == "" else role.isText name

namespace Graph

/-- Does some relation that is neither deleted nor incomplete hold the object in a role? -/
def hasRole (g : Graph) (h : Handle) (p : Primitive) (name : String) : Bool :=
  (g.resolve p.referrers).any fun r =>
    r.isUsable && r.members.any fun m => m.target == h && roleIs m.role name

/-! ## 4. Measurements -/

/-- An area in whole square meters. -/
def wholeArea (x : Float) : Except MatchFault Int :=
  match Number.truncate x with
  | .ok n => .ok n
  | .error .infinite => .error .areaInfinite
  | .error .nan => .error .areaNotANumber

/-- A quantity measured on an object, if the object has it. -/
def measure (g : Graph) (d : Dimension) (p : Primitive) : Except MatchFault (Option Int) :=
  match d with
  | .tags => .ok (some p.tags.size)
  | .nodes => .ok (p.nodes?.map fun nodes => (nodes.length : Int))
  | .timestamp => .ok (p.timestamp.map Calendar.Moment.epochSeconds)
  | .area =>
    match g.area? p with
    | none => .ok none
    | some x => (wholeArea x).map some

/-- Does the measured quantity lie in a range? -/
def countHolds (g : Graph) (d : Dimension) (r : Range) (p : Primitive) : Outcome :=
  (g.measure d p).map fun n => n.any r.contains

/-! ## 5. Areas -/

/-- The parts of a way or relation that a search goes on to, and the relations it has passed then.
    A relation that was passed is not entered again. -/
def areaParts (visited : List Handle) (h : Handle) (p : Primitive) : List Handle × List Handle :=
  match p.kind with
  | .relation =>
    let visited := h :: visited
    ((memberHandles p).filter fun m => !visited.contains m, visited)
  | _ => (p.children, visited)

/-- Does the object lie in the box: a node by its coordinates, other objects by some or all of
    their parts? The fuel bounds the length of a path through the graph. -/
def inBounds (g : Graph) (b : Bounds) (q : Quantifier) : Nat → List Handle → Handle → Bool
  | 0, _, _ => false
  | fuel + 1, visited, h =>
    match g.get? h with
    | none => false
    | some p =>
      if !p.isUsable then false
      else
        match p.kind with
        | .node => p.position?.any fun (lat, lon) => b.contains lat lon
        | _ =>
          let (parts, visited) := areaParts visited h p
          match q with
          | .all => parts.all (inBounds g b q fuel visited)
          | .any => parts.any (inBounds g b q fuel visited)

/-- Does the object pass an area test? -/
def inArea (g : Graph) (t : AreaTest) (h : Handle) : Bool :=
  match t.bounds with
  | none => false
  | some b => g.inBounds b t.quantifier (g.objects.size + 2) [] h

/-! ## 6. Predicates -/

/-- Is the object in a state? Without a selection nothing is selected. -/
def hasStatus (selection : Option (List Key)) (p : Primitive) : Status → Bool
  | .new => p.isNew
  | .modified => p.modified || p.isNew
  | .incomplete => p.incomplete
  | .untagged => p.tags.isEmpty && !p.incomplete
  | .selected => selection.any fun keys => keys.contains p.key
  | .closed => p.isClosed

mutual

/-- The outcome of a predicate on the object at a place. -/
def holdsAt (g : Graph) (selection : Option (List Key)) (q : Predicate) (h : Handle)
    (p : Primitive) : Outcome :=
  match q with
  | .always => .ok true
  | .never => .ok false
  | .not q => (g.holdsAt selection q h p).negate
  | .both l r => g.chainHoldsAt selection l .and r h p
  | .either l r => g.chainHoldsAt selection l .or r h p
  | .id n => .ok (if n = 0 then p.isNew else p.id == n)
  | .changeset n => .ok (p.changeset == n)
  | .version n => .ok (p.version == n)
  | .substring t => t.holds p
  | .exact t => .ok (t.holds p.tags)
  | .flag key fallback => .ok (flagHolds p.tags key fallback)
  | .text t => .ok (t.holds p)
  | .kind k => .ok (p.kind == k)
  | .user name => .ok (userIs p.user name)
  | .role name => .ok (g.hasRole h p name)
  | .count d r => g.countHolds d r p
  | .status s => .ok (hasStatus selection p s)
  | .hasChild q =>
    Outcome.anyOf (fun c => match g.get? c with
      | some child => g.holdsAt selection q c child
      | none => .ok false) p.children
  | .hasParent q =>
    Outcome.anyOf (fun r => match g.get? r with
      | some parent => g.holdsAt selection q r parent
      | none => .ok false) p.referrers
  | .area t => .ok (g.inArea t h)
termination_by (sizeOf q, 1)

/-- The outcome of a chain, from its first link on. It goes along the right operands, whichever way
    they are joined, until a left operand settles it or the chain ends. -/
def chainHoldsAt (g : Graph) (selection : Option (List Key)) (l : Predicate) (j : Joint)
    (r : Predicate) (h : Handle) (p : Primitive) : Outcome :=
  match g.holdsAt selection l h p with
  | .error e => .error e
  | .ok b =>
    if j.settledBy b then .ok b
    else
      match r with
      | .both l r => g.chainHoldsAt selection l .and r h p
      | .either l r => g.chainHoldsAt selection l .or r h p
      | last => g.holdsAt selection last h p
termination_by (1 + sizeOf l + sizeOf r, 0)

end

/-- The outcome of a predicate on the object at a place; nothing passes where there is none. -/
def holds (g : Graph) (selection : Option (List Key)) (q : Predicate) (h : Handle) : Outcome :=
  match g.get? h with
  | some p => g.holdsAt selection q h p
  | none => .ok false

/-- The objects of a list that pass a predicate, or the first fault. -/
def select (g : Graph) (selection : Option (List Key)) (q : Predicate) :
    List Handle → Except MatchFault (List Handle)
  | [] => .ok []
  | h :: r => do
    let passes ← g.holds selection q h
    let others ← g.select selection q r
    return if passes then h :: others else others

end Graph

end MapQuery
