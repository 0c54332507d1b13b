import MapQuery.Pattern.Letter

/-!
# Matching

A pattern is matched at a place of a text by trying its elements in order. Each element is handed
what is to happen behind it, so a choice made earlier is taken back when what follows fails: the
answer is the first outcome, in the order of preference that the pattern lays down, with which all
that follows agrees.

* a greedy repeat prefers one more round, a lazy one prefers to stop;
* a round that starts where the round before it started is not run;
* an atomic group, a possessive repeat and a condition on the surroundings take the first outcome
  of their body and do not ask for another.
-/

namespace MapQuery.Pattern

open MapQuery.Text

/-! ## 1. Places -/

/-- A place in a text, and where the groups began and ended: two marks a group. -/
structure Spot where
  pos : Nat
  marks : Array (Option Nat)
  deriving DecidableEq, Repr

/-- What happens behind an element. -/
abbrev Next := Spot → Option Spot

/-- The spot with a mark set to its place. -/
def Spot.mark (s : Spot) (i : Nat) : Spot :=
  { s with marks := s.marks.setIfInBounds i (some s.pos) }

/-- Where a group began and ended, if it has matched. -/
def Spot.captured (s : Spot) (group : Nat) : Option (Nat × Nat) :=
  match (s.marks[2 * group - 2]?).join, (s.marks[2 * group - 1]?).join with
  | some a, some b => if a ≤ b then some (a, b) else none
  | _, _ => none

/-- Does a word character stand here? -/
def wordAt (f : Flags) (text : Array Char) (pos : Nat) : Bool :=
  match text[pos]? with
  | some c => categoryHas f.ascii .word c
  | none => false

/-- Does one side of the place belong to a word and the other not? -/
def wordChanges (f : Flags) (text : Array Char) (pos : Nat) : Bool :=
  (decide (0 < pos) && wordAt f text (pos - 1)) != wordAt f text pos

/-- Is the place of the kind the anchor asks for? -/
def anchorHolds (f : Flags) (text : Array Char) (pos : Nat) : Anchor → Bool
  | .lineStart => pos == 0 || (f.multiLine && text[pos - 1]? == some '\n')
  | .lineEnd =>
    pos == text.size ||
      (text[pos]? == some '\n' && (f.multiLine || pos + 1 == text.size))
  | .textStart => pos == 0
  | .textEnd => pos == text.size
  | .wordEdge => text.size != 0 && wordChanges f text pos
  | .notWordEdge => text.size != 0 && !wordChanges f text pos

/-- Do two characters agree, as far as the options look at case? -/
def sameLetter (f : Flags) (a b : Char) : Bool :=
  if f.ignoreCase then lowered f.ascii a.toNat == lowered f.ascii b.toNat else a == b

/-- Do the next `n` characters at two places agree? -/
def agreeAt (f : Flags) (text : Array Char) : Nat → Nat → Nat → Bool
  | 0, _, _ => true
  | n + 1, i, j =>
    match text[i]?, text[j]? with
    | some a, some b => sameLetter f a b && agreeAt f text n (i + 1) (j + 1)
    | _, _ => false

/-! ## 2. Repeats -/

/-- A body that can be run at a spot, with what is to follow. -/
abbrev Body := Spot → Next → Option Spot

/-- Exactly `n` rounds. -/
def rounds (body : Body) : Nat → Body
  | 0, s, k => k s
  | n + 1, s, k => body s fun t => rounds body n t k

/-- One round less of those that are left. -/
def oneLess (left : Option Nat) : Option Nat := left.map (· - 1)

/-- As many rounds as possible, `left` at most; `last` is where the round before began. The number
    of rounds is bounded by the first argument, which counts the places ahead. -/
def greedyRounds (body : Body) : Nat → Option Nat → Option Nat → Body
  | 0, _, _, s, k => k s
  | n + 1, left, last, s, k =>
    if left = some 0 ∨ last = some s.pos then k s
    else
      match body s fun t => greedyRounds body n (oneLess left) (some s.pos) t k with
      | some t => some t
      | none => k s

/-- As few rounds as possible. -/
def lazyRounds (body : Body) : Nat → Option Nat → Option Nat → Body
  | 0, _, _, s, k => k s
  | n + 1, left, last, s, k =>
    match k s with
    | some t => some t
    | none =>
      if left = some 0 ∨ last = some s.pos then none
      else body s fun t => lazyRounds body n (oneLess left) (some s.pos) t k

/-- Exactly `n` rounds, each with its first outcome. -/
def firmRounds (body : Body) : Nat → Spot → Option Spot
  | 0, s => some s
  | n + 1, s =>
    match body s some with
    | some t => firmRounds body n t
    | none => none

/-- As many rounds as possible, each with its first outcome. -/
def possessiveRounds (body : Body) : Nat → Option Nat → Spot → Spot
  | 0, _, s => s
  | n + 1, left, s =>
    if left = some 0 then s
    else
      match body s some with
      | some t => if t.pos = s.pos then t else possessiveRounds body n (oneLess left) t
      | none => s

/-- Rounds in the manner of a repeat, between `least` and `most`, in a text of a given size. -/
def repeatBody (body : Body) (size : Nat) (greed : Greed) (least : Nat) (most : Option Nat) : Body :=
  fun s k =>
    let left := most.map (· - least)
    match greed with
    | .greedy => rounds body least s fun t => greedyRounds body (size - t.pos + 2) left none t k
    | .lazy => rounds body least s fun t => lazyRounds body (size - t.pos + 2) left none t k
    | .possessive =>
      match firmRounds body least s with
      | some t => k (possessiveRounds body (size - t.pos + 2) left t)
      | none => none

/-! ## 3. Elements -/

/-- One character that passes a test. -/
def runSingle (text : Array Char) (f : Flags) (t : Single) : Body := fun s k =>
  match text[s.pos]? with
  | some c => if t.accepts f c then k { s with pos := s.pos + 1 } else none
  | none => none

/-- The text of a group once more. -/
def runBackref (text : Array Char) (f : Flags) (group : Nat) : Body := fun s k =>
  match s.captured group with
  | some (a, b) =>
    if agreeAt f text (b - a) a s.pos then k { s with pos := s.pos + (b - a) } else none
  | none => none

/-- A body numbered as a group, if it has a number. -/
def runGroup (index : Option Nat) (body : Body) : Body := fun s k =>
  match index with
  | some i => body (s.mark (2 * i - 2)) fun t => k (t.mark (2 * i - 1))
  | none => body s k

/-- The first outcome of a body. -/
def runAtomic (body : Body) : Body := fun s k =>
  match body s some with
  | some t => k t
  | none => none

/-- A condition that a body, begun `width` characters before, has an outcome; the place stays. -/
def runLook (negated : Bool) (width : Nat) (body : Body) : Body := fun s k =>
  let outcome := if s.pos < width then none else body { s with pos := s.pos - width } some
  match negated, outcome with
  | false, some t => k { t with pos := s.pos }
  | false, none => none
  | true, some _ => none
  | true, none => k s

mutual

/-- An element at a spot. -/
def runNode (text : Array Char) : Node → Flags → Body
  | .single t, f => runSingle text f t
  | .anchor a, f => fun s k => if anchorHolds f text s.pos a then k s else none
  | .backref group _, f => runBackref text f group
  | .group index added removed body, f =>
    runGroup index (runAll text body (f.inside added removed))
  | .atomic body, f => runAtomic (runAll text body f)
  | .look behind negated body, f =>
    runLook negated (if behind then (widthOf body).lo else 0) (runAll text body f)
  | .repeated greed least most body, f =>
    repeatBody (runAll text body f) text.size greed least most
  | .branch items, f => runAny text items f
  | .choose group yes none, f => fun s k =>
    if (s.captured group).isSome then runAll text yes f s k else k s
  | .choose group yes (some no), f => fun s k =>
    if (s.captured group).isSome then runAll text yes f s k else runAll text no f s k

/-- A sequence at a spot. -/
def runAll (text : Array Char) : List Node → Flags → Body
  | [], _ => fun s k => k s
  | n :: r, f => fun s k => runNode text n f s fun t => runAll text r f t k

/-- The first alternative that succeeds. -/
def runAny (text : Array Char) : List (List Node) → Flags → Body
  | [], _ => fun _ _ => none
  | a :: r, f => fun s k =>
    match runAll text a f s k with
    | some t => some t
    | none => runAny text r f s k

end

end MapQuery.Pattern
