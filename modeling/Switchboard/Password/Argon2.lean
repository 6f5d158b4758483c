import Switchboard.Digest.Blake2b
import Switchboard.Limit

/-! # Argon2

A password is hashed through a memory of blocks, each made from the one before it
and another one further back.  The three variants differ in how that other block
is chosen: by what the block before holds, by its place alone, or by its place in
the first half of the first pass and by what the block before holds after that.

* `Argon2.Variant`, `Argon2.Version`, `Argon2.Cost` — what a hash depends on besides
  the password and the salt;
* `Argon2.hash` — the hash of a password. -/

namespace Switchboard.Argon2

/-- How the blocks that go into another are chosen. -/
inductive Variant where
  | dependent
  | independent
  | mixed
deriving DecidableEq, Repr

def Variant.number : Variant → Nat
  | .dependent => 0
  | .independent => 1
  | .mixed => 2

/-- The two versions: the earlier one writes over blocks in later passes, the later
one adds to them. -/
inductive Version where
  | first
  | second
deriving DecidableEq, Repr

def Version.number : Version → Nat
  | .first => 16
  | .second => 19

/-- The work that a hash takes: memory in blocks, passes over it, and lanes. -/
structure Cost where
  memory : Nat
  passes : Nat
  lanes : Nat
deriving DecidableEq, Repr

def Cost.isValid (c : Cost) : Bool :=
  8 ≤ c.memory ∧ 1 ≤ c.passes ∧ 1 ≤ c.lanes ∧ c.lanes < 16777216 ∧ 8 * c.lanes ≤ c.memory

/-! ## Blocks -/

/-- A block of 1024 bytes, as eight rows. -/
structure Block where
  r0 : Words
  r1 : Words
  r2 : Words
  r3 : Words
  r4 : Words
  r5 : Words
  r6 : Words
  r7 : Words
deriving Inhabited

namespace Block

def zero : Block :=
  ⟨.zero, .zero, .zero, .zero, .zero, .zero, .zero, .zero⟩

def xor (a b : Block) : Block :=
  ⟨a.r0.xor b.r0, a.r1.xor b.r1, a.r2.xor b.r2, a.r3.xor b.r3,
   a.r4.xor b.r4, a.r5.xor b.r5, a.r6.xor b.r6, a.r7.xor b.r7⟩

/-- A function of rows applied to each of them. -/
@[inline] def mapRows (f : Words → Words) (b : Block) : Block :=
  ⟨f b.r0, f b.r1, f b.r2, f b.r3, f b.r4, f b.r5, f b.r6, f b.r7⟩

/-- Columns as rows: a block is a square of eight by eight pairs of words. -/
def transpose (b : Block) : Block :=
  ⟨⟨b.r0.w0, b.r0.w1, b.r1.w0, b.r1.w1, b.r2.w0, b.r2.w1, b.r3.w0, b.r3.w1,
     b.r4.w0, b.r4.w1, b.r5.w0, b.r5.w1, b.r6.w0, b.r6.w1, b.r7.w0, b.r7.w1⟩,
    ⟨b.r0.w2, b.r0.w3, b.r1.w2, b.r1.w3, b.r2.w2, b.r2.w3, b.r3.w2, b.r3.w3,
     b.r4.w2, b.r4.w3, b.r5.w2, b.r5.w3, b.r6.w2, b.r6.w3, b.r7.w2, b.r7.w3⟩,
    ⟨b.r0.w4, b.r0.w5, b.r1.w4, b.r1.w5, b.r2.w4, b.r2.w5, b.r3.w4, b.r3.w5,
     b.r4.w4, b.r4.w5, b.r5.w4, b.r5.w5, b.r6.w4, b.r6.w5, b.r7.w4, b.r7.w5⟩,
    ⟨b.r0.w6, b.r0.w7, b.r1.w6, b.r1.w7, b.r2.w6, b.r2.w7, b.r3.w6, b.r3.w7,
     b.r4.w6, b.r4.w7, b.r5.w6, b.r5.w7, b.r6.w6, b.r6.w7, b.r7.w6, b.r7.w7⟩,
    ⟨b.r0.w8, b.r0.w9, b.r1.w8, b.r1.w9, b.r2.w8, b.r2.w9, b.r3.w8, b.r3.w9,
     b.r4.w8, b.r4.w9, b.r5.w8, b.r5.w9, b.r6.w8, b.r6.w9, b.r7.w8, b.r7.w9⟩,
    ⟨b.r0.w10, b.r0.w11, b.r1.w10, b.r1.w11, b.r2.w10, b.r2.w11, b.r3.w10, b.r3.w11,
     b.r4.w10, b.r4.w11, b.r5.w10, b.r5.w11, b.r6.w10, b.r6.w11, b.r7.w10, b.r7.w11⟩,
    ⟨b.r0.w12, b.r0.w13, b.r1.w12, b.r1.w13, b.r2.w12, b.r2.w13, b.r3.w12, b.r3.w13,
     b.r4.w12, b.r4.w13, b.r5.w12, b.r5.w13, b.r6.w12, b.r6.w13, b.r7.w12, b.r7.w13⟩,
    ⟨b.r0.w14, b.r0.w15, b.r1.w14, b.r1.w15, b.r2.w14, b.r2.w15, b.r3.w14, b.r3.w15,
     b.r4.w14, b.r4.w15, b.r5.w14, b.r5.w15, b.r6.w14, b.r6.w15, b.r7.w14, b.r7.w15⟩⟩

def toList (b : Block) : List UInt64 :=
  [b.r0, b.r1, b.r2, b.r3, b.r4, b.r5, b.r6, b.r7].flatMap Words.toList

def ofBytes (bytes : List UInt8) : Block :=
  let words := (Bytes.chunks 8 128 bytes).map fun b => UInt64.ofNat (Bytes.ofLittle b)
  let row (i : Nat) : Words := Words.ofList ((words.drop (16 * i)).take 16)
  ⟨row 0, row 1, row 2, row 3, row 4, row 5, row 6, row 7⟩

def bytes (b : Block) : List UInt8 := b.toList.flatMap fun w => Bytes.little 8 w.toNat

end Block

/-! ## Mixing -/

/-- A sum with a product in it, so that it takes a multiplier to compute. -/
@[inline] def add (a b : UInt64) : UInt64 :=
  a + b + 2 * (a &&& 0xffffffff) * (b &&& 0xffffffff)

/-- Mixes four words. -/
@[inline] def mix (_ : Nat) (a b c d : UInt64) : Words.Four :=
  let a := add a b
  let d := Words.rotate (d ^^^ a) 32
  let c := add c d
  let b := Words.rotate (b ^^^ c) 24
  let a := add a b
  let d := Words.rotate (d ^^^ a) 16
  let c := add c d
  let b := Words.rotate (b ^^^ c) 63
  ⟨a, b, c, d⟩

/-- Mixes a row, or a column. -/
def permute (v : Words) : Words := v.round mix

/-- Two blocks made into one: combined, mixed by rows and then by columns, and
combined again with what they were. -/
def compress (a b : Block) : Block :=
  let start := a.xor b
  (((start.mapRows permute).transpose.mapRows permute).transpose).xor start

/-! ## Digests of any length -/

/-- Digests of digests, of which the first halves are kept. -/
def longDigest (size : Nat) : Nat → List UInt8 → List UInt8
  | 0, v => Blake2b.digest size v
  | more + 1, v =>
    -- each digest is made of the one before, all of it
    let next := Blake2b.digest 64 v
    next.take 32 ++ longDigest (size - 32) more next

/-- A digest of `size` bytes, which may be more than 64. -/
def digest (size : Nat) (message : List UInt8) : List UInt8 :=
  let message := Bytes.little 4 size ++ message
  if size ≤ 64 then Blake2b.digest size message
  else longDigest size ((size + 31) / 32 - 2) message

/-! ## Filling the memory -/

/-- What a hash is made of. -/
structure Input where
  variant : Variant
  version : Version
  cost : Cost
  password : List UInt8
  salt : List UInt8
  data : List UInt8
  size : Nat

/-- The blocks of one lane. -/
def Cost.columns (c : Cost) : Nat := c.memory / (4 * c.lanes) * 4

/-- The blocks of a quarter of a lane. -/
def Cost.segment (c : Cost) : Nat := c.memory / (4 * c.lanes)

/-- Bytes with their number in front. -/
def counted (bytes : List UInt8) : List UInt8 := Bytes.little 4 bytes.length ++ bytes

/-- The digest that everything else is made from. -/
def seed (i : Input) : List UInt8 :=
  Blake2b.digest 64
    ([i.cost.lanes, i.size, i.cost.memory, i.cost.passes, i.version.number,
      i.variant.number].flatMap (Bytes.little 4)
      ++ counted i.password ++ counted i.salt ++ counted [] ++ counted i.data)

/-- The memory with the first two blocks of every lane in place. -/
def start (i : Input) : Array Block :=
  let h := seed i
  let block (column lane : Nat) : Block :=
    .ofBytes (digest 1024 (h ++ Bytes.little 4 column ++ Bytes.little 4 lane))
  let memory := Array.replicate (i.cost.columns * i.cost.lanes) Block.zero
  (List.range i.cost.lanes).foldl
    (fun m lane =>
      let first := lane * i.cost.columns
      (m.setIfInBounds first (block 0 lane)).setIfInBounds (first + 1) (block 1 lane))
    memory

/-- A place in the course of filling: pass, quarter and lane. -/
structure Segment where
  pass : Nat
  slice : Nat
  lane : Nat

/-- Whether the choices in a segment depend on the place alone. -/
def isIndependent (v : Variant) (s : Segment) : Bool :=
  match v with
  | .dependent => false
  | .independent => true
  | .mixed => s.pass = 0 ∧ s.slice < 2

/-- The numbers that make the choices in a segment by place: those of the 128 places
of each block of choices, one after the other. -/
def choices (i : Input) (s : Segment) : Array UInt64 :=
  let block (counter : Nat) : Block :=
    let place := [s.pass, s.lane, s.slice, i.cost.columns * i.cost.lanes, i.cost.passes,
      i.variant.number, counter]
    let input := { Block.zero with r0 := Words.ofList (place.map UInt64.ofNat) }
    compress .zero (compress .zero input)
  ((List.range ((i.cost.segment + 127) / 128)).flatMap fun n => (block (n + 1)).toList).toArray

/-- Where the other block lies, given the number that makes the choice. -/
def reference (c : Cost) (s : Segment) (index : Nat) (choice : UInt64) : Nat :=
  let lane := if s.pass = 0 ∧ s.slice = 0 then s.lane else (choice >>> 32).toNat % c.lanes
  let done := if s.pass = 0 then s.slice * c.segment else c.columns - c.segment
  -- of its own lane all blocks but the last, of another what the segments before have filled
  let area :=
    if lane = s.lane then done + index - 1 else if index = 0 then done - 1 else done
  let x := (choice &&& 0xffffffff).toNat
  let back := area * (x * x / Limit.bits32) / Limit.bits32
  let first := if s.pass = 0 ∨ s.slice = 3 then 0 else (s.slice + 1) * c.segment
  lane * c.columns + (first + (area - 1 - back)) % c.columns

def fillBlock (i : Input) (s : Segment) (byPlace : Option (Array UInt64)) (m : Array Block)
    (index : Nat) : Array Block :=
  let c := i.cost
  let column := s.slice * c.segment + index
  let here := s.lane * c.columns + column
  let before := s.lane * c.columns + (column + c.columns - 1) % c.columns
  let previous := m.getD before .zero
  let choice :=
    match byPlace with
    | some numbers => numbers.getD index 0
    | none => previous.r0.w0
  let made := compress previous (m.getD (reference c s index choice) .zero)
  -- later passes add to what is there; the first version wrote over it
  let made :=
    if s.pass = 0 ∨ i.version = .first then made else made.xor (m.getD here .zero)
  m.setIfInBounds here made

def fillSegment (i : Input) (m : Array Block) (s : Segment) : Array Block :=
  let byPlace := if isIndependent i.variant s then some (choices i s) else none
  let first := if s.pass = 0 ∧ s.slice = 0 then 2 else 0
  (List.range' first (i.cost.segment - first)).foldl (fillBlock i s byPlace) m

/-- The segments in the order in which they are filled. -/
def segments (c : Cost) : List Segment :=
  (List.range c.passes).flatMap fun pass =>
    (List.range 4).flatMap fun slice =>
      (List.range c.lanes).map fun lane => ⟨pass, slice, lane⟩

def hash (i : Input) : List UInt8 :=
  let c := i.cost
  let memory := (segments c).foldl (fillSegment i) (start i)
  let last := (List.range c.lanes).foldl
    (fun b lane => b.xor (memory.getD (lane * c.columns + (c.columns - 1)) .zero)) Block.zero
  digest i.size last.bytes

end Switchboard.Argon2
