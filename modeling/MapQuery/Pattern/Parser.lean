import MapQuery.Pattern.Element

/-!
# Reading patterns

Sequences, alternatives and groups. Reading ends with three questions about the whole: whether its
options are compatible, whether something is left over, and whether the groups that conditions ask
about exist; then the parts are asked whether they can be matched at all.

* alternatives that start alike are read as that start followed by alternatives;
* alternatives of one character each are one set;
* a group without a number and without options is no element of its own.
-/

namespace MapQuery.Pattern

/-! ## 1. Alternatives -/

/-- Elements without parts that are the same. -/
def Node.sameLeaf : Node → Node → Bool
  | .single a, .single b => decide (a = b)
  | .anchor a, .anchor b => decide (a = b)
  | .backref a _, .backref b _ => decide (a = b)
  | _, _ => false

/-- The element with which all alternatives start. -/
def commonFirst : List (List Node) → Option Node
  | (n :: _) :: others =>
    if others.all fun s => s.head?.any (Node.sameLeaf n) then
      match n with
      | .single _ | .anchor _ | .backref _ _ => some n
      | _ => none
    else none
  | _ => none

/-- The common start of alternatives, and what is left of them. -/
def factored : Nat → List (List Node) → List Node × List (List Node)
  | 0, items => ([], items)
  | n + 1, items =>
    match commonFirst items with
    | none => ([], items)
    | some first =>
      let (start, left) := factored n (items.map List.tail)
      (first :: start, left)

/-- The members of a set that an alternative is, if it is one. -/
def asSetItems : List Node → Option (List SetItem)
  | [.single (.code n)] => some [.code n]
  | [.single (.set false items)] => some items
  | _ => none

/-- Alternatives as a sequence. -/
def alternatives (items : List (List Node)) : List Node :=
  match items with
  | [only] => only
  | _ =>
    let (start, left) := factored (items.headD []).length items
    match left.mapM asSetItems with
    | some sets => start ++ [.single (.set false sets.flatten.eraseDups)]
    | none => start ++ [.branch left]

/-- A group without number and options dissolves into its elements. -/
def unpacked : Node → List Node
  | .group none added removed body =>
    if added.isEmpty && removed.isEmpty then body else [.group none added removed body]
  | n => [n]

/-- A sequence that was collected in reverse. -/
def sequence (reversed : List Node) : List Node :=
  reversed.reverse.flatMap unpacked

/-! ## 2. Sequences -/

/-- White space that is skipped in verbose patterns. -/
def isVerboseBlank (c : Char) : Bool :=
  " \t\n\r\x0b\x0c".toList.contains c

/-- A comment of a verbose pattern, up to the end of the line. -/
def skipLine : Nat → Reading Unit
  | 0 => return
  | n + 1 => do
    match ← take with
    | none => return
    | some piece => if piece = .plain '\n' then return else skipLine n

/-- The parenthesis that closes a group; `start` is where the group begins. -/
def closeParen (start : Nat) : Reading Unit := do
  if ← eat ')' then return else failAt .unterminatedGroup start

/-- Signs of repetition. -/
def isRepeatSign (c : Char) : Bool := "*+?\x7b".toList.contains c

/-- The element that a piece stands for if it is neither a group nor a repetition. -/
def readSimple (c : Char) : Reading Node :=
  match c with
  | '[' => readSet
  | '.' => return .single .any
  | '^' => return .anchor .lineStart
  | '$' => return .anchor .lineEnd
  | c => return .single (.code c.toNat)

/-- The groups opened before a look-behind, while its body is read. -/
def enterLook (behind : Bool) : Reading (Option Nat) := do
  let p ← get
  if behind && p.lookbehind.isNone then set { p with lookbehind := some p.groups }
  return p.lookbehind

mutual

/-- Alternatives up to the end of a group. The `outermost` ones may set options first. -/
def readBranches : Nat → Bool → Bool → Reading (List Node)
  | 0, _, _ => failBack .unexpectedEnd 0
  | fuel + 1, verbose, outermost => do
    let first ← readItems fuel verbose outermost []
    return alternatives (first :: (← readOthers fuel verbose outermost))

/-- The alternatives behind the first one. -/
def readOthers : Nat → Bool → Bool → Reading (List (List Node))
  | 0, _, _ => return []
  | fuel + 1, verbose, outermost => do
    if ← eat '|' then
      let p ← get
      let item ← readItems fuel (if outermost then p.flags.verbose else verbose) false []
      return item :: (← readOthers fuel verbose outermost)
    else return []

/-- A sequence, what has been read of it being given in reverse. -/
def readItems : Nat → Bool → Bool → List Node → Reading (List Node)
  | 0, _, _, _ => failBack .unexpectedEnd 0
  | fuel + 1, verbose, first, done => do
    match ← peek with
    | none => return sequence done
    | some (.escaped c) =>
      advance
      readItems fuel verbose first ((← escape c) :: done)
    | some (.plain c) =>
      if c = '|' ∨ c = ')' then return sequence done
      else
        advance
        if verbose && isVerboseBlank c then readItems fuel verbose first done
        else if verbose && c == '#' then
          skipLine ((← get).rest.length + 1)
          readItems fuel verbose first done
        else if isRepeatSign c then readItems fuel verbose first (← quantify c done)
        else if c = '(' then
          let start := (← place) - 1
          match ← readHead start with
          | .comment => readItems fuel verbose first done
          | .wholeFlags =>
            if !first || !done.isEmpty then failAt .flagsNotAtStart start
            else readItems fuel (← get).flags.verbose first done
          | .reference n => readItems fuel verbose first (n :: done)
          | head => readItems fuel verbose first ((← readGroup fuel verbose start head) :: done)
        else readItems fuel verbose first ((← readSimple c) :: done)

/-- The body of a group whose head has been read. -/
def readGroup : Nat → Bool → Nat → Head → Reading Node
  | 0, _, _, _ => failBack .unexpectedEnd 0
  | fuel + 1, verbose, start, head => do
    match head with
    | .capture name =>
      let index ← openGroup name
      let body ← readBranches fuel verbose false
      closeParen start
      closeGroup index body
      return .group (some index) {} {} body
    | .plain added removed =>
      let body ← readBranches fuel ((verbose || added.verbose) && !removed.verbose) false
      closeParen start
      return .group none added removed body
    | .atomic =>
      let body ← readBranches fuel verbose false
      closeParen start
      return .atomic body
    | .look behind negated =>
      let before ← enterLook behind
      let body ← readBranches fuel verbose false
      modify fun p => { p with lookbehind := before }
      closeParen start
      return .look behind negated body
    | .condition group =>
      let yes ← readItems fuel verbose false []
      if ← eat '|' then
        let no ← readItems fuel verbose false []
        if (← peek) = some (.plain '|') then failBack .threeBranches 0
        else
          closeParen start
          return .choose group yes (some no)
      else
        closeParen start
        return .choose group yes none
    | .comment | .wholeFlags | .reference _ => failBack .unexpectedEnd 0

end

/-! ## 3. The whole -/

/-- The longest look-behind. -/
def lookbehindLimit : Nat := 4294967295

/-- The name of a repeating operation in messages. -/
def Greed.operation : Greed → String
  | .greedy => "MAX_REPEAT"
  | .lazy => "MIN_REPEAT"
  | .possessive => "POSSESSIVE_REPEAT"

mutual

/-- What keeps an element from being matched. -/
def Node.obstacle (template : Bool) : Node → Option Cause
  | .single _ | .anchor _ | .backref _ _ => none
  | .group _ _ _ body => obstacleIn template body
  | .atomic body => obstacleIn template body
  | .look behind _ body =>
    let w := widthOf body
    if behind && decide (lookbehindLimit < w.lo) then some .lookbehindTooLong
    else if behind && w.lo != w.hi then some .lookbehindWidth
    else obstacleIn template body
  | .repeated greed _ _ body =>
    if template then some (.templateRepeat greed.operation) else obstacleIn template body
  | .branch items => obstacleAmong template items
  | .choose _ yes none => obstacleIn template yes
  | .choose _ yes (some no) =>
    match obstacleIn template yes with
    | some c => some c
    | none => obstacleIn template no

/-- What keeps a sequence from being matched. -/
def obstacleIn (template : Bool) : List Node → Option Cause
  | [] => none
  | n :: r =>
    match n.obstacle template with
    | some c => some c
    | none => obstacleIn template r

/-- What keeps alternatives from being matched. -/
def obstacleAmong (template : Bool) : List (List Node) → Option Cause
  | [] => none
  | s :: r =>
    match obstacleIn template s with
    | some c => some c
    | none => obstacleAmong template r

end

/-- A sequence read to its end, and what is known then. -/
def readWhole (s : List Char) (flags : Flags) : Except Fault (List Node × Progress) :=
  if s = ['\\'] then .error (.broken .badEscapeAtEnd (some 0))
  else
    let start : Progress := { length := s.length, rest := s, flags := flags }
    (readBranches (3 * s.length + 8) flags.verbose true).run start

/-- The first group that a condition asks about and that does not exist. -/
def Progress.missingGroup (p : Progress) : Option (Nat × Nat) :=
  p.asked.find? fun (group, _) => decide (p.groups ≤ group)

/-- Reads a pattern under options: its elements, the options for all of it, and its groups. -/
def parse (s : List Char) (flags : Flags) : Except Fault (List Node × Flags × Nat) := do
  let (body, p) ← readWhole s flags
  if p.flags.ascii && p.flags.unicode then throw .alphabets
  else if (firstPiece p.rest).isSome then throw (.broken .unbalanced (some p.place))
  else
    match p.missingGroup with
    | some (group, position) => throw (.broken (.invalidReference group) (some position))
    | none =>
      match obstacleIn p.flags.template body with
      | some cause => throw (.broken cause none)
      | none => return (body, p.flags, p.groups)

end MapQuery.Pattern
