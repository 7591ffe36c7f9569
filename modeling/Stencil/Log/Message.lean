import Stencil.Log.Slot

namespace Stencil

namespace Log

/-- The arguments that are left. They are taken in order, and all of them must be taken. A single
argument that is a mapping with entries can be asked for an entry by its key, and none of its
entries has to be taken. -/
inductive Supply where
  /-- Several arguments. -/
  | list (left : List Data)
  /-- The entries of a mapping, and the argument that is at hand: the mapping itself at first, then
  the entry that was asked for. -/
  | mapping (entries : List (Scalar × Data)) (current : Option Data)

namespace Supply

def ofArguments : List Data → Supply
  | [.mapping (e :: es)] => mapping (e :: es) (some (.mapping (e :: es)))
  | args => list args

/-- Whether an argument is left that must be taken. -/
def isLeftOver : Supply → Bool
  | list left => !left.isEmpty
  | mapping _ _ => false

/-- The next argument. -/
def next : Supply → Except MessageError (Data × Supply)
  | list (d :: ds) => .ok (d, list ds)
  | mapping es (some d) => .ok (d, mapping es none)
  | _ => .error .notEnough

/-- Turns to the entry of a key. -/
def select (name : Text) : Supply → Except MessageError Supply
  | list _ => .error .noMapping
  | mapping es _ =>
    match es.lookup (.text name) with
    | some d => .ok (mapping es (some d))
    | none => .error (.missingKey name)

end Supply

/-- A message that is being read. -/
structure Cursor where
  rest : Text
  /-- How many code points have been read. -/
  index : Nat
  supply : Supply

namespace Cursor

/-- Reads some code points. -/
def skip (c : Cursor) (n : Nat) : Cursor := { c with rest := c.rest.drop n, index := c.index + n }

/-- Reads one code point if it is one of some. -/
def take (c : Cursor) (letters : String) : Option (CodePoint × Cursor) :=
  match c.rest with
  | d :: _ => if (Text.of letters).contains d then some (d, c.skip 1) else none
  | [] => none

/-- The length of a key up to the parenthesis that closes it, and whether there is one. -/
def keyLength : (depth : Nat) → Text → Option Nat
  | _, [] => none
  | depth, c :: r =>
    if c.is ')' then
      match depth with
      | 0 => some 0
      | d + 1 => (keyLength d r).map (· + 1)
    else (keyLength (if c.is '(' then depth + 1 else depth) r).map (· + 1)

/-- Reads a key between parentheses, if there is one, and turns to its entry. -/
def readKey (c : Cursor) : Except MessageError Cursor :=
  match c.take "(" with
  | none => .ok c
  | some (_, inner) =>
    match c.supply, keyLength 0 inner.rest with
    | .list _, _ => .error .noMapping
    | .mapping _ _, none => .error .incompleteKey
    | supply, some n =>
      (supply.select (inner.rest.take n)).map fun supply => { inner.skip (n + 1) with supply }

/-- Reads the flags of a slot. -/
def readFlags (c : Cursor) : Text × Cursor :=
  let flags := c.rest.takeWhile fun d => (Text.of "-+ #0").contains d
  (flags, c.skip flags.length)

/-- Reads a number, or takes it from the arguments where a star stands for it. -/
def readNumber (c : Cursor) (limit : Nat) (tooBig starTooBig : MessageError) :
    Except MessageError (Option Int × Cursor) :=
  match c.take "*" with
  | some (_, c) => do
    let (d, supply) ← c.supply.next
    match wholeOf? d with
    | none => .error .unsuitableStar
    | some n => if limit < n.natAbs then .error starTooBig else .ok (some n, { c with supply })
  | none =>
    let digits := c.rest.takeWhile CodePoint.isDigit
    match Text.toNat? digits with
    | none => .ok (none, c)
    | some n => if limit < n then .error tooBig else .ok (some (n : Int), c.skip digits.length)

/-- Reads the width of a slot. -/
def readWidth (c : Cursor) : Except MessageError (Option Int × Cursor) :=
  c.readNumber (Nat.pow 2 63 - 1) .widthTooBig (.starTooBig true)

/-- Reads the precision of a slot; a point alone stands for zero, and so does a negative number. -/
def readPrecision (c : Cursor) : Except MessageError (Option Nat × Cursor) :=
  match c.take "." with
  | none => .ok (none, c)
  | some (_, c) =>
    (c.readNumber (Nat.pow 2 31 - 1) .precisionTooBig (.starTooBig false)).map fun r =>
      (some ((r.1.getD 0).toNat), r.2)

/-- Reads the letter of a slot, perhaps behind a letter for a size that says nothing. -/
def readLetter (c : Cursor) : Except MessageError (CodePoint × Cursor) :=
  let c := ((c.take "hlL").map Prod.snd).getD c
  match c.rest with
  | [] => .error .incompleteSlot
  | d :: _ => .ok (d, c.skip 1)

/-- Reads a slot behind its percent sign. A negative width stands for one to the left. -/
def readSlot (c : Cursor) : Except MessageError (Slot × Cursor) := do
  let c ← c.readKey
  let (flags, c) := c.readFlags
  let (width, c) ← c.readWidth
  let (precision, c) ← c.readPrecision
  let (letter, c) ← c.readLetter
  let has (d : Char) : Bool := flags.contains (CodePoint.ofChar d)
  return (
    { left := has '-' || width.any (· < 0)
      zeros := has '0'
      plus := has '+'
      blank := has ' '
      full := has '#'
      width := (width.getD 0).natAbs
      precision
      letter },
    c)

/-- Fills a slot behind its percent sign. -/
def fillSlot (c : Cursor) : Except MessageError (Text × Cursor) :=
  match c.take "%" with
  | some (_, c) => .ok (Text.of "%", c)
  | none => do
    let (slot, c) ← c.readSlot
    let (d, supply) ← c.supply.next
    let t ← slot.write (c.index - 1) d
    return (t, { c with supply })

/-- Fills what is left of a message. Every step reads a code point, so as many steps as there are
code points are enough. -/
def fill : (steps : Nat) → Cursor → Except MessageError Text
  | 0, c => if c.supply.isLeftOver then .error .leftOver else .ok []
  | n + 1, c =>
    match c.rest with
    | [] => if c.supply.isLeftOver then .error .leftOver else .ok []
    | d :: _ =>
      if d.is '%' then do
        let (t, c) ← (c.skip 1).fillSlot
        (fill n c).map (t ++ ·)
      else (fill n (c.skip 1)).map (d :: ·)

end Cursor

/-- A message with its arguments filled in. Without arguments a percent sign means itself. -/
def fill (message : Text) (args : List Data) : Except MessageError Text :=
  if args.isEmpty then .ok message
  else Cursor.fill message.length ⟨message, 0, Supply.ofArguments args⟩

/-- The notation of some arguments in a report: a single mapping stands for itself. -/
def argumentsNotation (args : List Data) : Notation :=
  match args with
  | [.mapping (e :: es)] => (Data.mapping (e :: es)).toNotation
  | args => .tuple (Data.itemNotations args)

end Log

end Stencil
