import MapQuery.Pattern.Matcher
import MapQuery.Pattern.Parser
import MapQuery.Text.Compare

/-!
# Patterns of queries

A regular expression given in a query. Pattern and subject are compared in composed normal form, a
point stands for line ends too, and letter case counts only if the query says so.

* `Pattern.compile` -- reads a pattern, or says what is wrong with it;
* `Pattern.search` -- does it match somewhere in a text?
* `Pattern.fullMatch` -- does it match the text as a whole?
-/

namespace MapQuery

/-- A pattern that can be matched: its elements, its options, and its number of groups. -/
structure Pattern where
  body : List Pattern.Node
  flags : Pattern.Flags
  groups : Nat
  deriving Repr

namespace Pattern

/-- A text, in normal form, that is no pattern, and why. -/
structure Refusal where
  pattern : String
  fault : Fault
  deriving DecidableEq, Repr

/-- The options that all patterns of queries have. -/
def queryFlags (caseSensitive : Bool) : Flags :=
  { dotAll := true, ignoreCase := !caseSensitive }

/-- Reads a pattern. -/
def compile (text : String) (caseSensitive : Bool) : Except Refusal Pattern :=
  let normal := Text.normalize text
  match parse normal.toList (queryFlags caseSensitive) with
  | .ok (body, flags, groups) => .ok ⟨body, flags, groups⟩
  | .error fault => .error ⟨normal, fault⟩

/-- The outcome of a pattern at a place of a text with which what follows agrees. -/
def outcomeAt (p : Pattern) (text : Array Char) (pos : Nat) (k : Next) : Option Spot :=
  runAll text p.body p.flags ⟨pos, Array.replicate (2 * p.groups) none⟩ k

/-- Does the pattern match at one of the `n + 1` places from `pos` on? -/
def matchesFrom (p : Pattern) (text : Array Char) : Nat → Nat → Bool
  | 0, pos => (p.outcomeAt text pos some).isSome
  | n + 1, pos => (p.outcomeAt text pos some).isSome || matchesFrom p text n (pos + 1)

/-- Does the pattern match somewhere in a text in normal form? -/
def searchChars (p : Pattern) (text : List Char) : Bool :=
  p.matchesFrom text.toArray text.length 0

/-- Does the pattern match the whole of a text in normal form? -/
def fullMatchChars (p : Pattern) (text : List Char) : Bool :=
  (p.outcomeAt text.toArray 0 fun s => if s.pos = text.length then some s else none).isSome

/-- Does the pattern match somewhere in a text? -/
def search (p : Pattern) (text : String) : Bool :=
  p.searchChars (Text.normalize text).toList

/-- Does the pattern match a text as a whole? -/
def fullMatch (p : Pattern) (text : String) : Bool :=
  p.fullMatchChars (Text.normalize text).toList

end Pattern

end MapQuery
