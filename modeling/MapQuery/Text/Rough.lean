import MapQuery.Text.Literal

/-!
# Rough texts

The codes from 0xD800 to 0xDFFF are halves: two of them together stand for one character, and none
is a character alone. In a rough text a half may stand alone. Escapes of a JSON document can say so,
and in a file name each byte that is no UTF-8 counts as such a half.

A rough text can be kept, compared, joined and shown as a literal. It can be written as bytes only
if it is clean, which means that no half stands alone in it.

* `Rough.points`, `Rough.ofPoints` -- a text as a list of its codes;
* `Rough.encode` -- the text if it is clean, or the first half that stands in the way;
* `Rough.plain` -- the text with a private character in place of each half;
* `Rough.literal` -- the text in quotation marks, halves escaped.
-/

namespace MapQuery

/-! ## 1. Codes -/

/-- A half of a pair, by how far its code lies behind 0xD800. -/
abbrev Half := Fin 0x800

namespace Half

/-- The code of a half. -/
def code (h : Half) : Nat := 0xD800 + h.val

/-- A half as an escape: `\ud800`. -/
def escaped (h : Half) : List Char := '\\' :: 'u' :: Text.hexPadded 4 h.code

/-- The private character that stands for a half where only characters can stand. -/
def standIn (h : Half) : Char := Char.ofNat (0x10F800 + h.val)

/-- Does a half stand for a byte, from 0x80 to 0xFF, of a file name? -/
def isByte (h : Half) : Bool := decide (0xDC80 ≤ h.code ∧ h.code ≤ 0xDCFF)

end Half

/-- A code of a rough text. -/
inductive CodePoint where
  | char (c : Char)
  | half (h : Half)
  deriving DecidableEq, Repr, Inhabited

namespace CodePoint

/-- The code with a number below 0x110000. -/
def ofNat (n : Nat) : CodePoint :=
  if h : n.isValidChar then .char (Char.ofNatAux n h) else .half (Fin.ofNat 0x800 (n - 0xD800))

/-- The number of a code. -/
def toNat : CodePoint → Nat
  | .char c => c.toNat
  | .half h => h.code

/-- The character, if the code is one. -/
def char? : CodePoint → Option Char
  | .char c => some c
  | .half _ => none

/-- A code inside a literal enclosed by `mark`. -/
def escape (mark : Char) : CodePoint → List Char
  | .char c => Text.Literal.escape mark c
  | .half h => h.escaped

end CodePoint

/-! ## 2. Texts -/

/-- A text in which halves may stand alone: the characters in front of the first half, and each half
    with the characters behind it. -/
structure Rough where
  head : String
  tail : List (Half × String) := []
  deriving DecidableEq, Repr, Inhabited

namespace Rough

/-- A text without halves. -/
@[coe] def ofString (s : String) : Rough := ⟨s, []⟩

instance : Coe String Rough := ⟨ofString⟩

/-- Characters, halves and characters behind each, and another text. -/
def joinTail (b : Rough) (head : String) : List (Half × String) → Rough
  | [] => ⟨head ++ b.head, b.tail⟩
  | (h, s) :: r =>
    let behind := joinTail b s r
    ⟨head, (h, behind.head) :: behind.tail⟩

instance : Append Rough := ⟨fun a b => joinTail b a.head a.tail⟩

/-- Texts with another one between each two of them. -/
def join (between : Rough) : List Rough → Rough
  | [] => ""
  | [w] => w
  | w :: r => w ++ between ++ join between r

/-- A text with all its runs of characters changed. -/
def mapRuns (f : String → String) (w : Rough) : Rough :=
  ⟨f w.head, w.tail.map fun p => (p.1, f p.2)⟩

/-- The codes of a text. -/
def points (w : Rough) : List CodePoint :=
  w.head.toList.map .char ++ w.tail.flatMap fun p => .half p.1 :: p.2.toList.map .char

/-- The characters in front of the first half of some codes, and each half with those behind it. -/
def runs : List CodePoint → List Char × List (Half × String)
  | [] => ([], [])
  | .char c :: r =>
    let (cs, tail) := runs r
    (c :: cs, tail)
  | .half h :: r =>
    let (cs, tail) := runs r
    ([], (h, String.ofList cs) :: tail)

/-- The text that consists of some codes. -/
def ofPoints (ps : List CodePoint) : Rough :=
  let (cs, tail) := runs ps
  ⟨String.ofList cs, tail⟩

/-- The number of codes. -/
def length (w : Rough) : Nat := w.points.length

/-- Are there no codes? -/
def isEmpty (w : Rough) : Bool := w.head.isEmpty && w.tail.isEmpty

/-- Texts in the order of the numbers of their codes. -/
def le (a b : Rough) : Bool :=
  !(b.points.map CodePoint.toNat).lex (a.points.map CodePoint.toNat) fun m n => decide (m < n)

/-! ## 3. Clean texts -/

/-- No half stands alone. -/
def Clean (w : Rough) : Prop := w.tail = []

instance (w : Rough) : Decidable w.Clean := inferInstanceAs (Decidable (w.tail = []))

/-- The text as one of characters, if it is clean. -/
def clean? (w : Rough) : Option String := if w.Clean then some w.head else none

/-- The text with the private characters that stand for halves. -/
def plain (w : Rough) : String :=
  w.tail.foldl (fun s p => s.push p.1.standIn ++ p.2) w.head

/-- The text with its halves escaped. -/
def escaped (w : Rough) : String :=
  w.tail.foldl (fun s p => s ++ String.ofList p.1.escaped ++ p.2) w.head

/-- A text as a quoted literal. -/
def literal (w : Rough) : String :=
  let mark := Text.Literal.enclosing (w.points.filterMap CodePoint.char?)
  String.ofList (mark :: (w.points.flatMap (CodePoint.escape mark) ++ [mark]))

/-- A half that stands in the way of writing a text: its place, and how many more halves follow it
    directly. -/
structure Fault where
  half : Half
  position : Nat
  more : Nat
  deriving DecidableEq, Repr

/-- How many halves follow directly behind some characters. -/
def halvesBehind : String → List (Half × String) → Nat
  | s, (_, s') :: r => if s.isEmpty then halvesBehind s' r + 1 else 0
  | _, [] => 0

/-- The first of some halves that is not let pass; `position` codes stand in front of them. -/
def faultFrom (passes : Half → Bool) (position : Nat) : List (Half × String) → Option Fault
  | [] => none
  | (h, s) :: r =>
    if passes h then faultFrom passes (position + 1 + s.length) r
    else some ⟨h, position, halvesBehind s r⟩

/-- The first half of a text that is not let pass. -/
def fault? (passes : Half → Bool) (w : Rough) : Option Fault :=
  faultFrom passes w.head.length w.tail

/-- A text that is to be written. -/
def encode (w : Rough) : Except Fault String :=
  match w.fault? fun _ => false with
  | none => .ok w.head
  | some e => .error e

/-- What the message of a fault says. -/
def Fault.message (e : Fault) : String :=
  let place := if e.more = 0 then
      "character '" ++ String.ofList e.half.escaped ++ "' in position " ++ toString e.position
    else
      "characters in position " ++ toString e.position ++ "-" ++ toString (e.position + e.more)
  "'utf-8' codec can't encode " ++ place ++ ": surrogates not allowed"

end Rough

end MapQuery
