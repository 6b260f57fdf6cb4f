import ZodValidators.Text.Basic

/-!
# The text of a file

`Utf8.decode` reads a sequence of bytes as text. A sequence that is not UTF-8 is refused with the
position of the broken sequence, the bytes of it that were well formed so far, and what broke it.
`unifyLineEnds` leaves the line feed as the only line end.
-/

set_option autoImplicit false

namespace ZodValidators.Text.Utf8

inductive Reason where
  | startByte
  | continuationByte
  | endOfData
deriving DecidableEq, Repr

/-- A broken sequence: where it starts, how many bytes belong to it, its first byte, and why. -/
structure Fault where
  position : Nat
  length : Nat
  first : UInt8
  reason : Reason
deriving DecidableEq, Repr

def Reason.message : Reason → String
  | .startByte => "invalid start byte"
  | .continuationByte => "invalid continuation byte"
  | .endOfData => "unexpected end of data"

/-- What is reported about a broken sequence: its byte, or the range of its bytes. -/
def Fault.message (fault : Fault) : String :=
  let bytes := if fault.length = 1 then
      "byte 0x" ++ String.ofList (hexadecimal 2 fault.first.toNat) ++ " in position " ++
        toString fault.position
    else
      "bytes in position " ++ toString fault.position ++ "-" ++
        toString (fault.position + fault.length - 1)
  "'utf-8' codec can't decode " ++ bytes ++ ": " ++ fault.reason.message

/-- The number of continuation bytes after a first byte, its payload, and the range that the
first continuation byte has to be in. -/
structure Lead where
  following : Nat
  payload : Nat
  least : Nat
  greatest : Nat

def lead? (first : UInt8) : Option Lead :=
  let byte := first.toNat
  if byte < 0x80 then some ⟨0, byte, 0x80, 0xBF⟩
  else if byte < 0xC2 then none
  else if byte < 0xE0 then some ⟨1, byte - 0xC0, 0x80, 0xBF⟩
  else if byte = 0xE0 then some ⟨2, 0, 0xA0, 0xBF⟩
  else if byte = 0xED then some ⟨2, 0xD, 0x80, 0x9F⟩
  else if byte < 0xF0 then some ⟨2, byte - 0xE0, 0x80, 0xBF⟩
  else if byte = 0xF0 then some ⟨3, 0, 0x90, 0xBF⟩
  else if byte < 0xF4 then some ⟨3, byte - 0xF0, 0x80, 0xBF⟩
  else if byte = 0xF4 then some ⟨3, 4, 0x80, 0x8F⟩
  else none

structure Pending where
  start : Nat
  first : UInt8
  taken : Nat
  missing : Nat
  value : Nat
  least : Nat
  greatest : Nat

/-- The characters of the bytes from `position` on, inside the sequence `pending` if there is
one. -/
def decodeFrom (position : Nat) : (pending : Option Pending) → List UInt8 → Except Fault (List Char)
  | none, [] => .ok []
  | some pending, [] => .error ⟨pending.start, pending.taken, pending.first, .endOfData⟩
  | none, byte :: rest =>
    match lead? byte with
    | none => .error ⟨position, 1, byte, .startByte⟩
    | some ⟨0, payload, _, _⟩ => do
      return Char.ofNat payload :: (← decodeFrom (position + 1) none rest)
    | some lead =>
      decodeFrom (position + 1)
        (some ⟨position, byte, 1, lead.following, lead.payload, lead.least, lead.greatest⟩) rest
  | some pending, byte :: rest =>
    if pending.least ≤ byte.toNat ∧ byte.toNat ≤ pending.greatest then
      let value := pending.value * 0x40 + (byte.toNat - 0x80)
      if pending.missing ≤ 1 then do
        return Char.ofNat value :: (← decodeFrom (position + 1) none rest)
      else
        decodeFrom (position + 1)
          (some ⟨pending.start, pending.first, pending.taken + 1, pending.missing - 1, value,
            0x80, 0xBF⟩) rest
    else .error ⟨pending.start, pending.taken, pending.first, .continuationByte⟩

def decode (bytes : List UInt8) : Except Fault (List Char) := decodeFrom 0 none bytes

def encode (content : String) : List UInt8 := content.toUTF8.toList

def encode? (text : Text) : Option (List UInt8) := text.string?.map encode

end ZodValidators.Text.Utf8

namespace ZodValidators.Text

/-- Every line end written as one line feed. -/
def unifyLineEnds : List Char → List Char
  | [] => []
  | '\r' :: '\n' :: rest => '\n' :: unifyLineEnds rest
  | '\r' :: rest => '\n' :: unifyLineEnds rest
  | character :: rest => character :: unifyLineEnds rest

end ZodValidators.Text
