/-!
# Reading UTF-8

Bytes as text. Where they are none, the fault tells which bytes break the rule and how: a byte that
starts no character, a byte that does not continue the one begun, or an end inside a character.
The bytes of a broken character that still belong together are reported together.
-/

namespace MapQuery.Text.Utf8

/-- How bytes fail to be text. -/
inductive Cause where
  | invalidStart | invalidContinuation | unexpectedEnd
  deriving DecidableEq, Repr

/-- What the message of a cause says. -/
def Cause.message : Cause → String
  | .invalidStart => "invalid start byte"
  | .invalidContinuation => "invalid continuation byte"
  | .unexpectedEnd => "unexpected end of data"

/-- Bytes that are no text: the first of them, its place, and how many belong together. -/
structure Fault where
  byte : Nat
  position : Nat
  count : Nat
  cause : Cause
  deriving DecidableEq, Repr

/-- How a character begins: how many bytes follow, the bits of the first byte, and the bounds of
    the second byte. -/
structure Lead where
  more : Nat
  bits : Nat
  lo : Nat
  hi : Nat
  deriving DecidableEq, Repr

/-- The character that a byte begins. -/
def leadOf (b : Nat) : Option Lead :=
  if b < 0x80 then some ⟨0, b, 0, 0⟩
  else if b < 0xC2 then none
  else if b < 0xE0 then some ⟨1, b - 0xC0, 0x80, 0xBF⟩
  else if b < 0xF0 then
    some ⟨2, b - 0xE0, if b = 0xE0 then 0xA0 else 0x80, if b = 0xED then 0x9F else 0xBF⟩
  else if b < 0xF5 then
    some ⟨3, b - 0xF0, if b = 0xF0 then 0x90 else 0x80, if b = 0xF4 then 0x8F else 0xBF⟩
  else none

/-- Takes `n` continuation bytes: the code with their bits, and the rest; or how many of them were
    good, and whether it was the end that came too early. -/
def continued : Nat → Nat → Nat → Nat → List UInt8 → Except (Nat × Cause) (Nat × List UInt8)
  | 0, _, _, code, rest => .ok (code, rest)
  | _ + 1, _, _, _, [] => .error (0, .unexpectedEnd)
  | n + 1, lo, hi, code, b :: rest =>
    if lo ≤ b.toNat ∧ b.toNat ≤ hi then
      match continued n 0x80 0xBF (code * 64 + (b.toNat - 0x80)) rest with
      | .ok r => .ok r
      | .error (good, cause) => .error (good + 1, cause)
    else .error (0, .invalidContinuation)

/-- The first character of some bytes, how many of them it takes, and the rest of them. -/
def first (position : Nat) (b : UInt8) (rest : List UInt8) :
    Except Fault (Char × Nat × List UInt8) :=
  match leadOf b.toNat with
  | none => .error ⟨b.toNat, position, 1, .invalidStart⟩
  | some lead =>
    match continued lead.more lead.lo lead.hi lead.bits rest with
    | .ok (code, rest) => .ok (Char.ofNat code, lead.more + 1, rest)
    | .error (good, cause) => .error ⟨b.toNat, position, good + 1, cause⟩

/-- Reads bytes from a position on, at most as many characters as the fuel says. -/
def decodeFrom : Nat → Nat → List UInt8 → List Char → Except Fault (List Char)
  | 0, _, _, done => .ok done.reverse
  | _ + 1, _, [], done => .ok done.reverse
  | n + 1, position, b :: rest, done =>
    match first position b rest with
    | .error e => .error e
    | .ok (c, size, left) => decodeFrom n (position + size) left (c :: done)

/-- The text that bytes stand for. -/
def decode (bytes : List UInt8) : Except Fault String :=
  (decodeFrom bytes.length 0 bytes []).map String.ofList

/-- What the message of a fault says. -/
def Fault.message (f : Fault) : String :=
  let hex (n : Nat) : String := String.ofList (Nat.toDigits 16 n)
  if f.count = 1 then
    "'utf-8' codec can't decode byte 0x" ++ hex f.byte ++ " in position " ++ toString f.position ++
      ": " ++ f.cause.message
  else
    "'utf-8' codec can't decode bytes in position " ++ toString f.position ++ "-" ++
      toString (f.position + f.count - 1) ++ ": " ++ f.cause.message

end MapQuery.Text.Utf8
