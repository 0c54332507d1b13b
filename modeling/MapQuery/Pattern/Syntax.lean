/-!
# Patterns

The syntax tree of a regular expression. Characters are given by their code, since a pattern may
name codes that belong to no character.

* `Single` -- what one character is tested for;
* `Node` -- one element of a sequence, with nested sequences inside;
* `Width` -- how many characters a node takes at least and at most;
* `Flags` -- the options in force at a place of the pattern.
-/

namespace MapQuery.Pattern

/-! ## 1. Options -/

/-- Options of a pattern or of a part of it. -/
structure Flags where
  ignoreCase : Bool := false
  multiLine : Bool := false
  dotAll : Bool := false
  verbose : Bool := false
  /-- Classes and cases know the letters of ASCII alone. -/
  ascii : Bool := false
  /-- All letters, said explicitly. -/
  unicode : Bool := false
  /-- Repeats are not allowed. -/
  template : Bool := false
  deriving DecidableEq, Repr

namespace Flags

/-- Options of either. -/
def union (a b : Flags) : Flags :=
  ⟨a.ignoreCase || b.ignoreCase, a.multiLine || b.multiLine, a.dotAll || b.dotAll,
    a.verbose || b.verbose, a.ascii || b.ascii, a.unicode || b.unicode, a.template || b.template⟩

/-- Options of the first that the second lacks. -/
def without (a b : Flags) : Flags :=
  ⟨a.ignoreCase && !b.ignoreCase, a.multiLine && !b.multiLine, a.dotAll && !b.dotAll,
    a.verbose && !b.verbose, a.ascii && !b.ascii, a.unicode && !b.unicode,
    a.template && !b.template⟩

/-- Is no option set? -/
def isEmpty (a : Flags) : Bool :=
  decide (a = {})

/-- Do the two share an option? -/
def meets (a b : Flags) : Bool :=
  (a.ignoreCase && b.ignoreCase) || (a.multiLine && b.multiLine) || (a.dotAll && b.dotAll) ||
    (a.verbose && b.verbose) || (a.ascii && b.ascii) || (a.unicode && b.unicode) ||
    (a.template && b.template)

/-- The options inside a group that turns some on and some off: naming an alphabet replaces the
    one before. -/
def inside (a added removed : Flags) : Flags :=
  let base := if added.ascii || added.unicode then { a with ascii := false, unicode := false }
    else a
  (base.union added).without removed

end Flags

/-! ## 2. Single characters -/

/-- A class of characters. -/
inductive Category where
  | digit | notDigit | blank | notBlank | word | notWord
  deriving DecidableEq, Repr

/-- A member of a character set. -/
inductive SetItem where
  | code (n : Nat)
  | range (lo hi : Nat)
  | category (c : Category)
  deriving DecidableEq, Repr

/-- A test of one character. -/
inductive Single where
  | code (n : Nat)
  | notCode (n : Nat)
  | any
  | set (negated : Bool) (items : List SetItem)
  deriving DecidableEq, Repr

/-! ## 3. Sequences -/

/-- A place between characters. -/
inductive Anchor where
  | lineStart | lineEnd | textStart | textEnd | wordEdge | notWordEdge
  deriving DecidableEq, Repr

/-- How a repeat proceeds: as often as possible, as rarely as possible, or as often as possible
    without giving back. -/
inductive Greed where
  | greedy | lazy | possessive
  deriving DecidableEq, Repr

/-- Least and greatest number of characters. -/
structure Width where
  lo : Nat
  hi : Nat
  deriving DecidableEq, Repr

/-- An element of a sequence. -/
inductive Node where
  /-- One character. -/
  | single (t : Single)
  /-- A place between characters. -/
  | anchor (a : Anchor)
  /-- The text of a group once more; the width is that of the group. -/
  | backref (group : Nat) (width : Width)
  /-- A group, numbered if it captures, with options turned on and off inside. -/
  | group (index : Option Nat) (added removed : Flags) (body : List Node)
  /-- A group that is not entered again once it has matched. -/
  | atomic (body : List Node)
  /-- A condition on what follows, or on what stands before. -/
  | look (behind negated : Bool) (body : List Node)
  /-- A repeat; without an upper bound, any number. -/
  | repeated (greed : Greed) (min : Nat) (max : Option Nat) (body : List Node)
  /-- Alternatives. -/
  | branch (items : List (List Node))
  /-- The first sequence if the group has matched, the second if not. -/
  | choose (group : Nat) (yes : List Node) (no : Option (List Node))
  deriving Repr

/-! ## 4. Widths -/

/-- Widths are cut at this number. -/
def widthLimit : Nat := Nat.pow 2 64

namespace Width

/-- One after the other. -/
def add (a b : Width) : Width := ⟨a.lo + b.lo, a.hi + b.hi⟩

/-- Either of both. -/
def either (a b : Width) : Width := ⟨min a.lo b.lo, max a.hi b.hi⟩

/-- Cut at the limit. -/
def cut (a : Width) : Width := ⟨min a.lo widthLimit, min a.hi widthLimit⟩

/-- Repeated. -/
def times (a : Width) (least : Nat) (most : Option Nat) : Width :=
  ⟨a.lo * least,
    match most with
    | some m => a.hi * m
    | none => if a.hi = 0 then 0 else widthLimit⟩

/-- Zero characters. -/
def zero : Width := ⟨0, 0⟩

end Width

mutual

/-- The width of an element. -/
def Node.width : Node → Width
  | .single _ => ⟨1, 1⟩
  | .anchor _ => .zero
  | .backref _ w => w
  | .group _ _ _ body => (widthSum body).cut
  | .atomic body => (widthSum body).cut
  | .look _ _ _ => .zero
  | .repeated _ least most body => (widthSum body).cut.times least most
  | .branch items => widthBranch items
  | .choose _ yes none => ⟨0, (widthSum yes).cut.hi⟩
  | .choose _ yes (some no) => (widthSum yes).cut.either (widthSum no).cut

/-- The sum of the widths of a sequence. -/
def widthSum : List Node → Width
  | [] => .zero
  | n :: r => n.width.add (widthSum r)

/-- The width of alternatives. -/
def widthBranch : List (List Node) → Width
  | [] => ⟨widthLimit, 0⟩
  | s :: r => (widthSum s).cut.either (widthBranch r)

end

/-- The width of a sequence. -/
def widthOf (s : List Node) : Width :=
  (widthSum s).cut

end MapQuery.Pattern
