import MapQuery.Calendar.Query
import MapQuery.Number.Read
import MapQuery.Pattern.Basic
import MapQuery.Query.Token

/-!
# Faults of queries

Why a query is refused, and what the message says. Two kinds are no fault of the query's form: an
integer with too many digits, and a date whose instant lies outside the calendar. `isSyntax` tells
them, and clashing pattern options, from the others.
-/

namespace MapQuery.Query

/-- What a place in a query asks for. -/
inductive Wanted where
  | id | changeset | version | range
  /-- Named by the caller. -/
  | other (message : String)
  deriving DecidableEq, Repr

/-- The message when what is asked for is not there. -/
def Wanted.message : Wanted → String
  | .id => "Primitive id expected"
  | .changeset => "Changeset id expected"
  | .version => "Version expected"
  | .range => "Range of numbers expected"
  | .other message => message

/-- Why a query is refused. -/
inductive Fault where
  /-- A character that starts no lexeme, counted from 1. -/
  | strayChar (c : Char) (position : Nat)
  | notQuoted (text : List Char)
  /-- A token left over behind a complete query. -/
  | leftOver (found : Token)
  | notClosed (found : Token)
  | noAlternative
  | noOperand
  | emptyKey
  | missing (what : Wanted)
  | badSpan
  | badDate (text : String)
  | badKind (name : String)
  | badPattern (pattern : String) (cause : Pattern.Cause) (position : Option Nat)
  | tooManyDigits (digits : Nat)
  | dateOutOfRange
  | clashingAlphabets
  deriving DecidableEq, Repr

namespace Fault

/-- A fault of the query's form. -/
def isSyntax : Fault → Bool
  | .tooManyDigits _ | .dateOutOfRange | .clashingAlphabets => false
  | _ => true

/-- The kind of a fault. -/
def kind : Fault → String
  | .tooManyDigits _ | .clashingAlphabets => "ValueError"
  | .dateOutOfRange => "OverflowError"
  | _ => "SearchParseError"

/-- What the message says. -/
def message : Fault → String
  | .strayChar c position =>
    "Unexpected character " ++ Text.literal (String.ofList [c]) ++ " at position " ++
      toString position
  | .notQuoted text => "Malformed quoted string " ++ Text.literal (String.ofList text)
  | .leftOver found => "Unexpected token: " ++ found.display
  | .notClosed found =>
    "Unexpected token. Expected " ++ TokenKind.rightParen.label ++ ", found " ++ found.display
  | .noAlternative => "Missing parameter for OR"
  | .noOperand => "Missing operand for NOT"
  | .emptyKey => "Key cannot be empty when tag operator is used. Sample use: key=value"
  | .missing what => what.message
  | .badSpan => "Expecting min/max after 'timestamp'"
  | .badDate text => "Invalid date: " ++ text
  | .badKind name =>
    "Unknown primitive type: " ++ name ++ ". Allowed values are node, way or relation"
  | .badPattern pattern cause position =>
    "The regex \"" ++ pattern ++ "\" had a parse error" ++
      (match position with
       | some p => " at offset " ++ toString p
       | none => "") ++ ", full error:\n\n" ++ cause.message
  | .tooManyDigits digits => Number.tooLongMessage digits
  | .dateOutOfRange => Calendar.MomentFault.outOfRange.message
  | .clashingAlphabets => "ASCII and UNICODE flags are incompatible"

/-- A fault of a pattern in a query. -/
def ofPattern (r : Pattern.Refusal) : Fault :=
  match r.fault with
  | .broken cause position => .badPattern r.pattern cause position
  | .digits n => .tooManyDigits n
  | .alphabets => .clashingAlphabets

/-- A fault of a date in a query. -/
def ofDate : Calendar.DateFault → Fault
  | .invalid text => .badDate text
  | .outOfRange => .dateOutOfRange

end Fault

end MapQuery.Query
