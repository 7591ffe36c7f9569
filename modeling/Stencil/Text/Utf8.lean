import Stencil.Text.Quoted

namespace Stencil

/-- A file's content. -/
abbrev Bytes := List UInt8

/-- Why bytes are no text. -/
inductive DecodeError.Cause where
  | invalidStart
  | invalidContinuation
  | unexpectedEnd
  | notAscii
deriving DecidableEq

/-- The offending bytes, from `start` up to and excluding `stop`, and the first of them. -/
structure DecodeError where
  cause : DecodeError.Cause
  start : Nat
  stop : Nat
  byte : UInt8
deriving DecidableEq

namespace DecodeError

def Cause.message : Cause → Text
  | invalidStart => Text.of "invalid start byte"
  | invalidContinuation => Text.of "invalid continuation byte"
  | unexpectedEnd => Text.of "unexpected end of data"
  | notAscii => Text.of "ordinal not in range(128)"

def Cause.codec : Cause → Text
  | notAscii => Text.of "ascii"
  | _ => Text.of "utf-8"

def message (e : DecodeError) : Text :=
  let range :=
    if e.stop = e.start + 1 then
      Text.of "byte 0x" ++ Text.hex 2 e.byte.toNat ++ Text.of " in position " ++ Text.ofNat e.start
    else
      Text.of "bytes in position " ++ Text.ofNat e.start ++ Text.of "-" ++ Text.ofNat (e.stop - 1)
  e.cause.codec.quoted ++ Text.of " codec can't decode " ++ range ++ Text.of ": " ++
    e.cause.message

end DecodeError

namespace Utf8

/-- The bytes of a code point that is no surrogate. -/
def encodeChar (c : CodePoint) : Bytes :=
  let n := c.val
  let tail (unit : Nat) : UInt8 := UInt8.ofNat (0x80 + n / unit % 64)
  if n < 0x80 then [UInt8.ofNat n]
  else if n < 0x800 then [UInt8.ofNat (0xC0 + n / 64), tail 1]
  else if n < 0x10000 then [UInt8.ofNat (0xE0 + n / 4096), tail 64, tail 1]
  else [UInt8.ofNat (0xF0 + n / 262144), tail 4096, tail 64, tail 1]

/-- The bytes of a text, unless it holds a surrogate. -/
def encode? (t : Text) : Option Bytes :=
  if t.hasSurrogate then none else some (t.flatMap encodeChar)

/-- A byte that continues a sequence. -/
def isTail (b : UInt8) : Bool := 0x80 ≤ b && b ≤ 0xBF

/-- The second byte allowed after a first byte of a sequence of three or four. -/
def isSecond (first second : UInt8) : Bool :=
  isTail second &&
    !(first == 0xE0 && second < 0xA0) && !(first == 0xED && second > 0x9F) &&
    !(first == 0xF0 && second < 0x90) && !(first == 0xF4 && second > 0x8F)

/-- The code point of a first byte's payload followed by continuation bytes. -/
def assemble (payload : Nat) (tails : Bytes) : CodePoint :=
  CodePoint.ofNat (tails.foldl (fun n b => n * 64 + b.toNat % 64) payload)

/-- Reads the bytes that stand at a position of a file. Overlong forms, encoded surrogates and
numbers above `U+10FFFF` are refused with the range of bytes at fault. -/
def decodeFrom (pos : Nat) : Bytes → Except DecodeError Text
  | [] => .ok []
  | b :: r =>
    if b < 0x80 then (decodeFrom (pos + 1) r).map (assemble b.toNat [] :: ·)
    else if b < 0xC2 || b > 0xF4 then .error ⟨.invalidStart, pos, pos + 1, b⟩
    else match r with
      | [] => .error ⟨.unexpectedEnd, pos, pos + 1, b⟩
      | b₁ :: r =>
        if b < 0xE0 then
          if isTail b₁ then (decodeFrom (pos + 2) r).map (assemble (b.toNat % 32) [b₁] :: ·)
          else .error ⟨.invalidContinuation, pos, pos + 1, b⟩
        else if !isSecond b b₁ then .error ⟨.invalidContinuation, pos, pos + 1, b⟩
        else match r with
          | [] => .error ⟨.unexpectedEnd, pos, pos + 2, b⟩
          | b₂ :: r =>
            if !isTail b₂ then .error ⟨.invalidContinuation, pos, pos + 2, b⟩
            else if b < 0xF0 then
              (decodeFrom (pos + 3) r).map (assemble (b.toNat % 16) [b₁, b₂] :: ·)
            else match r with
              | [] => .error ⟨.unexpectedEnd, pos, pos + 3, b⟩
              | b₃ :: r =>
                if isTail b₃ then
                  (decodeFrom (pos + 4) r).map (assemble (b.toNat % 8) [b₁, b₂, b₃] :: ·)
                else .error ⟨.invalidContinuation, pos, pos + 3, b⟩

def decode (bs : Bytes) : Except DecodeError Text := decodeFrom 0 bs

end Utf8

end Stencil
