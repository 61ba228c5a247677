import DocGraph.Text.Quoted

/-!
# Reading UTF-8

The bytes of a text are read from left to right. The first sequence that is not the
encoding of a character is the fault; the encodings of surrogate halves, overlong
encodings and codes beyond the last character are not encodings of characters.

## Main definitions

* `Utf8Fault`: where and why bytes are not a text.
* `decodeUtf8`: the text of a list of bytes.
-/

namespace DocGraph

/-- Why bytes do not go on with a character. -/
inductive Utf8Reason where
  | badStart | badContinuation | unexpectedEnd
  deriving DecidableEq, Repr

/-- Bytes `first` to `last`, counted from zero, that are no character. -/
structure Utf8Fault where
  reason : Utf8Reason
  byte : Nat
  first : Nat
  last : Nat
  deriving DecidableEq, Repr

namespace Utf8Reason

def message : Utf8Reason → String
  | .badStart => "invalid start byte"
  | .badContinuation => "invalid continuation byte"
  | .unexpectedEnd => "unexpected end of data"

end Utf8Reason

namespace Utf8Fault

/-- The wording of a fault: one byte is shown, several are counted. -/
def message (f : Utf8Fault) : String :=
  if f.first = f.last then
    let byte := String.ofList (hexDigits 2 f.byte)
    s!"'utf-8' codec can't decode byte 0x{byte} in position {f.first}: {f.reason.message}"
  else
    s!"'utf-8' codec can't decode bytes in position {f.first}-{f.last}: {f.reason.message}"

end Utf8Fault

/-- How a first byte goes on: the bits it gives, and for each further byte the bounds
within which it must lie. -/
def utf8Shape? (first : Nat) : Option (Nat × List (Nat × Nat)) :=
  let any := (0x80, 0xbf)
  if first < 0x80 then some (first, [])
  else if first < 0xc2 then none
  else if first < 0xe0 then some (first - 0xc0, [any])
  else if first = 0xe0 then some (0, [(0xa0, 0xbf), any])
  else if first = 0xed then some (0xd, [(0x80, 0x9f), any])
  else if first < 0xf0 then some (first - 0xe0, [any, any])
  else if first = 0xf0 then some (0, [(0x90, 0xbf), any, any])
  else if first < 0xf4 then some (first - 0xf0, [any, any, any])
  else if first = 0xf4 then some (4, [(0x80, 0x8f), any, any])
  else none

/-- Takes further bytes within their bounds; a reason and the number of bytes taken when
one does not fit or is missing. -/
def takeContinuations (code taken : Nat) :
    List (Nat × Nat) → List Nat → Except (Utf8Reason × Nat) Nat
  | [], _ => .ok code
  | _ :: _, [] => .error (.unexpectedEnd, taken)
  | (low, high) :: shape, b :: bytes =>
    if low ≤ b && b ≤ high then takeContinuations (code * 64 + (b - 0x80)) (taken + 1) shape bytes
    else .error (.badContinuation, taken)

/-- The characters of bytes from a position on. The first number counts the bytes of a
character that are still to be passed over. -/
def decodeFrom : Nat → Nat → List Nat → Except Utf8Fault (List Char)
  | _, _, [] => .ok []
  | skip + 1, position, _ :: rest => decodeFrom skip (position + 1) rest
  | 0, position, b :: rest =>
    match utf8Shape? b with
    | none => .error ⟨.badStart, b, position, position⟩
    | some (bits, shape) =>
      match takeContinuations bits 0 shape rest with
      | .error (reason, taken) => .error ⟨reason, b, position, position + taken⟩
      | .ok code => do return Char.ofNat code :: (← decodeFrom shape.length (position + 1) rest)

def decodeUtf8 (bytes : List Nat) : Except Utf8Fault String := do
  return String.ofList (← decodeFrom 0 0 bytes)

end DocGraph
