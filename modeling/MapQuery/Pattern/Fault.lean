import MapQuery.Text.Literal

/-!
# Faults of patterns

What can be wrong with a regular expression, and what its message says. Most faults have a
position in the pattern; numbers beyond a limit have none, nor has what is found only when the
whole has been read.
-/

namespace MapQuery.Pattern

/-- What is wrong. -/
inductive Cause where
  | badEscapeAtEnd
  | badEscape (spelled : String)
  | incompleteEscape (spelled : String)
  | octalTooLarge (spelled : String)
  | codeTooLarge
  | missingBrace
  | missingName (what : String)
  | unterminatedName (terminator : String)
  | undefinedCharacter (name : String)
  | badGroupName (name : String)
  | unknownGroup (name : String)
  | groupRedefined (name : String) (index before : Nat)
  | openGroupReference
  | sameLookbehindReference
  | invalidReference (group : Nat)
  | badGroupNumber
  | unterminatedSet
  | badRange (lo hi : String)
  | repeatBounds
  | repeatTooLarge
  | nothingToRepeat
  | multipleRepeat
  | unexpectedEnd
  | unterminatedComment
  | unterminatedGroup
  | unbalanced
  | unknownExtension (spelled : String)
  | threeBranches
  | flagsNotAtStart
  | flagLocale
  | flagsIncompatible
  | flagsUnknown
  | flagsUnended
  | flagTurnOnGlobal
  | flagTurnOffGlobal
  | flagTurnOffAlphabet
  | flagBoth
  | flagMissing
  | flagColonMissing
  | lookbehindWidth
  | lookbehindTooLong
  | templateRepeat (operation : String)
  deriving DecidableEq, Repr

/-- What the message of a cause says. -/
def Cause.message : Cause → String
  | .badEscapeAtEnd => "bad escape (end of pattern)"
  | .badEscape s => "bad escape " ++ s
  | .incompleteEscape s => "incomplete escape " ++ s
  | .octalTooLarge s => "octal escape value " ++ s ++ " outside of range 0-0o377"
  | .codeTooLarge => "Python int too large to convert to C int"
  | .missingBrace => "missing \x7b"
  | .missingName what => "missing " ++ what
  | .unterminatedName t => "missing " ++ t ++ ", unterminated name"
  | .undefinedCharacter name => "undefined character name " ++ Text.literal name
  | .badGroupName name => "bad character in group name " ++ Text.literal name
  | .unknownGroup name => "unknown group name " ++ Text.literal name
  | .groupRedefined name index before =>
    "redefinition of group name " ++ Text.literal name ++ " as group " ++ toString index ++
      "; was group " ++ toString before
  | .openGroupReference => "cannot refer to an open group"
  | .sameLookbehindReference =>
    "cannot refer to group defined in the same lookbehind subpattern"
  | .invalidReference group => "invalid group reference " ++ toString group
  | .badGroupNumber => "bad group number"
  | .unterminatedSet => "unterminated character set"
  | .badRange lo hi => "bad character range " ++ lo ++ "-" ++ hi
  | .repeatBounds => "min repeat greater than max repeat"
  | .repeatTooLarge => "the repetition number is too large"
  | .nothingToRepeat => "nothing to repeat"
  | .multipleRepeat => "multiple repeat"
  | .unexpectedEnd => "unexpected end of pattern"
  | .unterminatedComment => "missing ), unterminated comment"
  | .unterminatedGroup => "missing ), unterminated subpattern"
  | .unbalanced => "unbalanced parenthesis"
  | .unknownExtension s => "unknown extension ?" ++ s
  | .threeBranches => "conditional backref with more than two branches"
  | .flagsNotAtStart => "global flags not at the start of the expression"
  | .flagLocale => "bad inline flags: cannot use 'L' flag with a str pattern"
  | .flagsIncompatible => "bad inline flags: flags 'a', 'u' and 'L' are incompatible"
  | .flagsUnknown => "unknown flag"
  | .flagsUnended => "missing -, : or )"
  | .flagTurnOnGlobal => "bad inline flags: cannot turn on global flag"
  | .flagTurnOffGlobal => "bad inline flags: cannot turn off global flag"
  | .flagTurnOffAlphabet => "bad inline flags: cannot turn off flags 'a', 'u' and 'L'"
  | .flagBoth => "bad inline flags: flag turned on and off"
  | .flagMissing => "missing flag"
  | .flagColonMissing => "missing :"
  | .lookbehindWidth => "look-behind requires fixed-width pattern"
  | .lookbehindTooLong => "looks too much behind"
  | .templateRepeat operation => "internal: unsupported template operator " ++ operation

/-- Why a text is no pattern. -/
inductive Fault where
  /-- It breaks a rule, at a position if there is one to name. -/
  | broken (cause : Cause) (position : Option Nat)
  /-- A repetition number has more digits than an integer may have. -/
  | digits (count : Nat)
  /-- Its options ask for both alphabets. -/
  | alphabets
  deriving DecidableEq, Repr

end MapQuery.Pattern
