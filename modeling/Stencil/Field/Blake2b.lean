import Stencil.Text.Utf8

namespace Stencil

namespace Blake2b

/-- Four words, one in each column. -/
structure Row where
  w0 : UInt64
  w1 : UInt64
  w2 : UInt64
  w3 : UInt64
deriving DecidableEq

namespace Row

def zip (f : UInt64 → UInt64 → UInt64) (a b : Row) : Row :=
  ⟨f a.w0 b.w0, f a.w1 b.w1, f a.w2 b.w2, f a.w3 b.w3⟩

def add (a b : Row) : Row := zip (· + ·) a b

def xor (a b : Row) : Row := zip (· ^^^ ·) a b

/-- Turns every word right by some bits. -/
def turnRight (n : UInt64) (a : Row) : Row :=
  let f (x : UInt64) : UInt64 := (x >>> n) ||| (x <<< (64 - n))
  ⟨f a.w0, f a.w1, f a.w2, f a.w3⟩

/-- Moves every word one column to the left. -/
def shift (a : Row) : Row := ⟨a.w1, a.w2, a.w3, a.w0⟩

end Row

/-- The four rows of working words. A round mixes the columns, then the diagonals. -/
structure Rows where
  a : Row
  b : Row
  c : Row
  d : Row

/-- Mixes two message words into each column. -/
def Rows.mix (v : Rows) (x y : Row) : Rows :=
  let a := (v.a.add v.b).add x
  let d := (v.d.xor a).turnRight 32
  let c := v.c.add d
  let b := (v.b.xor c).turnRight 24
  let a := (a.add b).add y
  let d := (d.xor a).turnRight 16
  let c := c.add d
  let b := (b.xor c).turnRight 63
  ⟨a, b, c, d⟩

/-- Mixes along the diagonals: the rows are shifted, mixed by columns and shifted back. -/
def Rows.mixDiagonals (v : Rows) (x y : Row) : Rows :=
  let w := Rows.mix ⟨v.a, v.b.shift, v.c.shift.shift, v.d.shift.shift.shift⟩ x y
  ⟨w.a, w.b.shift.shift.shift, w.c.shift.shift, w.d.shift⟩

/-- The initial words. -/
def iv0 : Row := ⟨0x6A09E667F3BCC908, 0xBB67AE8584CAA73B, 0x3C6EF372FE94F82B, 0xA54FF53A5F1D36F1⟩

def iv1 : Row := ⟨0x510E527FADE682D1, 0x9B05688C2B3E6C1F, 0x1F83D9ABFB41BD6B, 0x5BE0CD19137E2179⟩

/-- The order of the message words in each of the twelve rounds. -/
def schedule : List (List Nat) :=
  let s0 := [0, 1, 2, 3, 4, 5, 6, 7, 8, 9, 10, 11, 12, 13, 14, 15]
  let s1 := [14, 10, 4, 8, 9, 15, 13, 6, 1, 12, 0, 2, 11, 7, 5, 3]
  [s0, s1,
    [11, 8, 12, 0, 5, 2, 15, 13, 10, 14, 3, 6, 7, 1, 9, 4],
    [7, 9, 3, 1, 13, 12, 11, 14, 2, 6, 5, 10, 4, 0, 15, 8],
    [9, 0, 5, 7, 2, 4, 10, 15, 14, 1, 11, 12, 6, 8, 3, 13],
    [2, 12, 6, 10, 0, 11, 8, 3, 4, 13, 7, 5, 15, 14, 1, 9],
    [12, 5, 1, 15, 14, 13, 4, 10, 0, 7, 6, 3, 9, 2, 8, 11],
    [13, 11, 7, 14, 12, 1, 3, 9, 5, 0, 15, 4, 8, 6, 2, 10],
    [6, 15, 14, 9, 11, 3, 0, 8, 12, 2, 13, 7, 1, 4, 10, 5],
    [10, 2, 8, 4, 7, 6, 1, 5, 15, 11, 9, 14, 3, 12, 13, 0],
    s0, s1]

/-- One round with the message words in the order `s`. -/
def Rows.round (m : List UInt64) (v : Rows) (s : List Nat) : Rows :=
  let w (i : Nat) : UInt64 := m.getD (s.getD i 0) 0
  let v := v.mix ⟨w 0, w 2, w 4, w 6⟩ ⟨w 1, w 3, w 5, w 7⟩
  v.mixDiagonals ⟨w 8, w 10, w 12, w 14⟩ ⟨w 9, w 11, w 13, w 15⟩

/-- The eight words kept between blocks. -/
structure State where
  low : Row
  high : Row

/-- The state before the first block, for a digest of eight bytes and no key. -/
def State.initial : State := ⟨iv0.xor ⟨0x01010008, 0, 0, 0⟩, iv1⟩

/-- The little-endian word of up to eight bytes. -/
def word (bs : Bytes) : UInt64 := bs.foldr (fun b n => n * 256 + b.toUInt64) 0

/-- The sixteen words of a block, padded with zero bytes. -/
def words (block : Bytes) : List UInt64 :=
  (List.range 16).map fun i => word ((block.drop (8 * i)).take 8)

/-- Absorbs a block; `count` is the number of bytes absorbed so far, this block included. -/
def State.absorb (h : State) (block : Bytes) (count : Nat) (last : Bool) : State :=
  let flag : UInt64 := if last then 0xFFFFFFFFFFFFFFFF else 0
  let d := iv1.xor ⟨UInt64.ofNat count, UInt64.ofNat (count / Nat.pow 2 64), flag, 0⟩
  let v := schedule.foldl (Rows.round (words block)) ⟨h.low, h.high, iv0, d⟩
  ⟨h.low.xor (v.a.xor v.c), h.high.xor (v.b.xor v.d)⟩

/-- Absorbs a message in blocks of 128 bytes, of which only the last may be short or empty. -/
def State.absorbAll : (blocks : Nat) → (count : Nat) → Bytes → State → State
  | 0, count, bs, h => h.absorb bs (count + bs.length) true
  | blocks + 1, count, bs, h =>
    absorbAll blocks (count + 128) (bs.drop 128) (h.absorb (bs.take 128) (count + 128) false)

/-- The digest as a little-endian number. It is the first word of the last state. -/
def digest (bs : Bytes) : UInt64 :=
  (State.initial.absorbAll ((bs.length - 1) / 128) 0 bs).low.w0

end Blake2b

end Stencil
