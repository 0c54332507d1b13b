import MapQuery.Command.Misuse

/-!
# Arguments

How the arguments of a command are read. An option starts with a dash: with two for its long name,
with one for letters that may stand together. Its value stands behind it, as the next argument,
behind an equals sign or behind its letter. Two dashes end the options.

What options there are is said by a `Grammar`; the result (`Reading`) lists the options that were
given in order, and the other arguments.
-/

namespace MapQuery.Command

variable {ι : Type}

/-- The options of a command. Each name comes with its option, and whether that takes a value. -/
structure Grammar (ι : Type) where
  long : List (String × ι × Bool)
  short : List (Char × ι × Bool)
  /-- May options stand behind other arguments? -/
  interspersed : Bool

/-- An option that was given; one without a value has the empty text. -/
structure Given (ι : Type) where
  option : ι
  value : String

/-- Arguments that were read. -/
structure Reading (ι : Type) where
  given : List (Given ι) := []
  arguments : List String := []

/-- What one argument says: options, and the last of them, with its name, may wait for a value. -/
structure Step (ι : Type) where
  given : List (Given ι) := []
  waiting : Option (ι × String) := none

/-- Does an argument hold options? A dash alone does not. -/
def isOption (arg : List Char) : Bool :=
  match arg with
  | '-' :: _ :: _ => true
  | _ => false

/-- The part of a text before its first equals sign, and the part behind it if it has one. -/
def splitEquals (s : List Char) : List Char × Option (List Char) :=
  match s.dropWhile (· != '=') with
  | _ :: value => (s.takeWhile (· != '='), some value)
  | [] => (s, none)

namespace Grammar

/-- The option with a long name. -/
def longNamed (g : Grammar ι) (name : String) : Option (ι × Bool) := g.long.lookup name

/-- The option with a letter. -/
def shortNamed (g : Grammar ι) (letter : Char) : Option (ι × Bool) := g.short.lookup letter

/-- The fault of a name that no option has. -/
def unknown (g : Grammar ι) (name : String) : Misuse :=
  .unknownOption name (Text.closeMatches name (g.long.map Prod.fst))

/-- The letters of an argument in turn. The value of an option is what stands behind its letter. -/
def readLetters (g : Grammar ι) : List Char → Except Misuse (Step ι)
  | [] => .ok {}
  | c :: rest =>
    let name := String.ofList ['-', c]
    match g.shortNamed c with
    | none => .error (.unknownOption name [])
    | some (o, false) => do
      let step ← readLetters g rest
      return { step with given := ⟨o, ""⟩ :: step.given }
    | some (o, true) =>
      match rest with
      | [] => .ok { waiting := some (o, name) }
      | value => .ok { given := [⟨o, String.ofList value⟩] }

/-- One argument that holds options. A long name that is unknown may be letters behind one dash. -/
def readOption (g : Grammar ι) (arg : List Char) : Except Misuse (Step ι) :=
  let (name, value) := splitEquals arg
  let name := String.ofList name
  match g.longNamed name, value with
  | some (o, true), some v => .ok { given := [⟨o, String.ofList v⟩] }
  | some (o, true), none => .ok { waiting := some (o, name) }
  | some (o, false), none => .ok { given := [⟨o, ""⟩] }
  | some (_, false), some _ => .error (.takesNoValue name)
  | none, _ =>
    match arg with
    | '-' :: '-' :: _ => .error (g.unknown name)
    | _ => g.readLetters (arg.drop 1)

/-- Options in front of what else was read. -/
def withGiven (given : List (Given ι)) (r : Reading ι) :
    Reading ι :=
  { r with given := given ++ r.given }

/-- Reads the arguments of a command. -/
def read (g : Grammar ι) : List String → Except Misuse (Reading ι)
  | [] => .ok {}
  | arg :: rest =>
    if arg = "--" then .ok { arguments := rest }
    else if isOption arg.toList then
      match g.readOption arg.toList with
      | .error e => .error e
      | .ok ⟨given, none⟩ => (read g rest).map (withGiven given)
      | .ok ⟨given, some (o, name)⟩ =>
        match rest with
        | [] => .error (.needsValue name)
        | value :: rest => (read g rest).map (withGiven (given ++ [⟨o, value⟩]))
    else if g.interspersed then
      (read g rest).map fun r => { r with arguments := arg :: r.arguments }
    else .ok { arguments := arg :: rest }

end Grammar

namespace Reading

/-- The last of what the options that were given say about something. -/
def last {α : Type} (r : Reading ι) (f : Given ι → Option α) : Option α :=
  (r.given.filterMap f).getLast?

/-- All that the options that were given say about something. -/
def all {α : Type} (r : Reading ι) (f : Given ι → Option α) : List α := r.given.filterMap f

/-- Is an option among those that were given? -/
def has (r : Reading ι) (f : ι → Bool) : Bool := r.given.any fun g => f g.option

end Reading

end MapQuery.Command
