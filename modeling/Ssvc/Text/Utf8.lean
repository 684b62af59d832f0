import Ssvc.Text.Blank

set_option autoImplicit false

/-! # UTF-8

Bytes are decoded from the left. The first byte of a character says how many bytes follow and
which range the next one is in; all later ones are continuation bytes. A fault names the bytes of
the character that cannot be one, and why. -/

namespace Ssvc.Text.Utf8

/-- Why bytes are no character. -/
inductive Reason where
  | badStart
  | badContinuation
  | endOfData
  deriving DecidableEq, Repr

/-- The words for a reason. -/
def Reason.text : Reason → String
  | .badStart => "invalid start byte"
  | .badContinuation => "invalid continuation byte"
  | .endOfData => "unexpected end of data"

/-- A fault: the place of its first byte, the bytes that belong to it, and the reason. -/
structure Fault where
  position : Nat
  bytes : List UInt8
  reason : Reason
  deriving DecidableEq, Repr

/-- The message of a fault. -/
def Fault.message (fault : Fault) : String :=
  let place := match fault.bytes with
    | [b] =>
      "byte 0x" ++ padLeft 2 '0' (String.ofList (Nat.toDigits 16 b.toNat)) ++ " in position "
        ++ toString fault.position
    | bytes =>
      "bytes in position " ++ toString fault.position ++ "-"
        ++ toString (fault.position + bytes.length - 1)
  "'utf-8' codec can't decode " ++ place ++ ": " ++ fault.reason.text

/-- The number of bytes behind a first byte, and the value of its own bits. -/
def leading? (b : UInt8) : Option (Nat × Nat) :=
  let n := b.toNat
  if n < 0x80 then some (0, n)
  else if 0xc2 ≤ n && n ≤ 0xdf then some (1, n - 0xc0)
  else if 0xe0 ≤ n && n ≤ 0xef then some (2, n - 0xe0)
  else if 0xf0 ≤ n && n ≤ 0xf4 then some (3, n - 0xf0)
  else none

/-- The range of the byte behind a first byte: it excludes codes that are too large, belong to
half of a pair, or have a shorter form. -/
def secondRange (b : UInt8) : Nat × Nat :=
  match b.toNat with
  | 0xe0 => (0xa0, 0xbf)
  | 0xed => (0x80, 0x9f)
  | 0xf0 => (0x90, 0xbf)
  | 0xf4 => (0x80, 0x8f)
  | _ => (0x80, 0xbf)

/-- Read `left` more bytes of a character, the next one in a range. `seen` are the bytes so far,
the last one first. -/
def readTail (position : Nat) (seen : List UInt8) (value : Nat) (range : Nat × Nat) :
    Nat → List UInt8 → Except Fault (Char × List UInt8)
  | 0, rest => .ok (Char.ofNat value, rest)
  | _ + 1, [] => .error ⟨position, seen.reverse, .endOfData⟩
  | left + 1, b :: rest =>
    if range.1 ≤ b.toNat && b.toNat ≤ range.2 then
      readTail position (b :: seen) (value * 64 + (b.toNat - 0x80)) (0x80, 0xbf) left rest
    else .error ⟨position, seen.reverse, .badContinuation⟩

/-- Decode bytes that start at a position. -/
def decodeFrom : Nat → Nat → List UInt8 → Except Fault (List Char)
  | 0, _, _ => .ok []
  | _ + 1, _, [] => .ok []
  | fuel + 1, position, b :: rest =>
    match leading? b with
    | none => .error ⟨position, [b], .badStart⟩
    | some (count, value) => do
      let (c, rest) ← readTail position [b] value (secondRange b) count rest
      return c :: (← decodeFrom fuel (position + count + 1) rest)

/-- Decode bytes as far as they are complete: the characters, and the bytes of the last character if
some of it are missing. -/
def decodePart (bytes : List UInt8) : Except Fault (List Char × List UInt8) :=
  match decodeFrom bytes.length 0 bytes with
  | .ok cs => .ok (cs, [])
  | .error fault =>
    if fault.reason = .endOfData then do
      let (complete, pending) := bytes.splitAt fault.position
      return (← decodeFrom complete.length 0 complete, pending)
    else .error fault

/-- The number of bytes that are taken from a stream at a time. -/
def chunkSize : Nat := 8192

/-- Decode bytes that are taken from a stream in chunks. Of a character that is cut the first bytes
wait for the next chunk, and places are counted from the start of what is decoded together. -/
def decodeChunks : Nat → List UInt8 → List UInt8 → Except Fault (List Char)
  | 0, _, _ => .ok []
  | _ + 1, pending, [] => decodeFrom pending.length 0 pending
  | fuel + 1, pending, bytes => do
    let (cs, pending) ← decodePart (pending ++ bytes.take chunkSize)
    return cs ++ (← decodeChunks fuel pending (bytes.drop chunkSize))

/-- Decode the bytes of a stream. -/
def decodeStream (bytes : List UInt8) : Except Fault String := do
  return String.ofList (← decodeChunks (bytes.length + 1) [] bytes)

/-- Decode bytes. -/
def decode (bytes : List UInt8) : Except Fault String := do
  return String.ofList (← decodeFrom bytes.length 0 bytes)

end Ssvc.Text.Utf8
