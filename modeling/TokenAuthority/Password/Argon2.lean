import TokenAuthority.Password.Blake2b

/-!
The memory-hard password function in its three variants and two versions. `Argon2.hash` is a fixed
function of the password, the salt and the parameters; nothing else in this library looks inside it.
-/

namespace TokenAuthority.Password.Argon2

/-- How the blocks to mix are chosen: by the data, independently of it, or first the one and then
the other. -/
inductive Variant where
  | d
  | i
  | id
deriving DecidableEq

/-- Version 16 overwrites a block on later passes, version 19 adds to it. -/
inductive Version where
  | v16
  | v19
deriving DecidableEq

structure Parameters where
  /-- Memory in blocks of 1024 bytes. -/
  memory : Nat
  passes : Nat
  lanes : Nat
  data : List UInt8
  length : Nat

def Variant.number : Variant → Nat
  | .d => 0
  | .i => 1
  | .id => 2

def Version.number : Version → Nat
  | .v16 => 16
  | .v19 => 19

structure Block where
  r0 : Row
  r1 : Row
  r2 : Row
  r3 : Row
  r4 : Row
  r5 : Row
  r6 : Row
  r7 : Row

namespace Block

def zero : Block :=
  ⟨Row.zero, Row.zero, Row.zero, Row.zero, Row.zero, Row.zero, Row.zero, Row.zero⟩

def ofBytes (bytes : List UInt8) : Block :=
  let row (i : Nat) := Row.ofBytes ((bytes.drop (128 * i)).take 128)
  ⟨row 0, row 1, row 2, row 3, row 4, row 5, row 6, row 7⟩

def bytes (b : Block) : List UInt8 :=
  [b.r0, b.r1, b.r2, b.r3, b.r4, b.r5, b.r6, b.r7].flatMap Row.bytes

def word (b : Block) (i : Nat) : UInt64 :=
  match i / 16 with
  | 0 => b.r0.get (i % 16)
  | 1 => b.r1.get (i % 16)
  | 2 => b.r2.get (i % 16)
  | 3 => b.r3.get (i % 16)
  | 4 => b.r4.get (i % 16)
  | 5 => b.r5.get (i % 16)
  | 6 => b.r6.get (i % 16)
  | _ => b.r7.get (i % 16)

def xor (b c : Block) : Block :=
  ⟨b.r0.xor c.r0, b.r1.xor c.r1, b.r2.xor c.r2, b.r3.xor c.r3,
   b.r4.xor c.r4, b.r5.xor c.r5, b.r6.xor c.r6, b.r7.xor c.r7⟩

@[inline] def pairs (b : Block) (f g : Row → UInt64) : Row :=
  ⟨f b.r0, g b.r0, f b.r1, g b.r1, f b.r2, g b.r2, f b.r3, g b.r3,
   f b.r4, g b.r4, f b.r5, g b.r5, f b.r6, g b.r6, f b.r7, g b.r7⟩

/-- Rows and columns exchanged, a column being two words wide. -/
def transpose (b : Block) : Block :=
  ⟨b.pairs Row.w0 Row.w1, b.pairs Row.w2 Row.w3, b.pairs Row.w4 Row.w5, b.pairs Row.w6 Row.w7,
   b.pairs Row.w8 Row.w9, b.pairs Row.w10 Row.w11, b.pairs Row.w12 Row.w13,
   b.pairs Row.w14 Row.w15⟩

end Block

/-- Addition with the doubled product of the low halves. -/
@[inline] def multiplyAdd (x y : UInt64) : UInt64 :=
  x + y + 2 * (x &&& 0xffffffff) * (y &&& 0xffffffff)

@[inline] def mix (a b c d : UInt64) : Quad :=
  let a := multiplyAdd a b
  let d := rotateRight (d ^^^ a) 32
  let c := multiplyAdd c d
  let b := rotateRight (b ^^^ c) 24
  let a := multiplyAdd a b
  let d := rotateRight (d ^^^ a) 16
  let c := multiplyAdd c d
  let b := rotateRight (b ^^^ c) 63
  ⟨a, b, c, d⟩

def round (r : Row) : Row := r.round fun _ => mix

def rounds (b : Block) : Block :=
  ⟨round b.r0, round b.r1, round b.r2, round b.r3, round b.r4, round b.r5, round b.r6, round b.r7⟩

def compress (b c : Block) : Block :=
  let sum := b.xor c
  sum.xor (rounds (rounds sum).transpose).transpose

/-- The chain of digests that follows `v`, each contributing its first 32 bytes. -/
def stretch (v : List UInt8) : Nat → Nat → List UInt8
  | 0, _ => []
  | n + 1, size =>
    if n = 0 then Blake2b.hash size v
    else
      let next := Blake2b.hash 64 v
      next.take 32 ++ stretch next n size

def longHash (size : Nat) (message : List UInt8) : List UInt8 :=
  let message := lengthBytes size ++ message
  if size ≤ 64 then Blake2b.hash size message
  else
    let first := Blake2b.hash 64 message
    let middle := (size + 31) / 32 - 2
    first.take 32 ++ stretch first middle (size - 32 * middle)

def field (bytes : List UInt8) : List UInt8 := lengthBytes bytes.length ++ bytes

def seed (variant : Variant) (version : Version) (p : Parameters) (salt password : List UInt8) :
    List UInt8 :=
  Blake2b.hash 64 <|
    lengthBytes p.lanes ++ lengthBytes p.length ++ lengthBytes p.memory ++ lengthBytes p.passes ++
    lengthBytes version.number ++ lengthBytes variant.number ++
    field password ++ field salt ++ field [] ++ field p.data

/-- Where a block stands: pass, lane, quarter of the lane, and index within the quarter. -/
structure Position where
  pass : Nat
  lane : Nat
  slice : Nat
  index : Nat

/-- The block of 128 pseudo-random words that chooses blocks independently of the data. -/
def addresses (variant : Variant) (p : Parameters) (blocks : Nat) (place : Position)
    (counter : Nat) : Block :=
  let input : Row :=
    ⟨place.pass.toUInt64, place.lane.toUInt64, place.slice.toUInt64, blocks.toUInt64,
     p.passes.toUInt64, variant.number.toUInt64, counter.toUInt64, 0, 0, 0, 0, 0, 0, 0, 0, 0⟩
  compress Block.zero (compress Block.zero { Block.zero with r0 := input })

/-- The block that the pseudo-random word `random` names for a position: any finished block of the
chosen lane may be named, recent ones more often. -/
def reference (lanes laneLength : Nat) (place : Position) (random : UInt64) : Nat :=
  let quarter := laneLength / 4
  let lane :=
    if place.pass = 0 && place.slice = 0 then place.lane else (random >>> 32).toNat % lanes
  let finished := if place.pass = 0 then place.slice * quarter else laneLength - quarter
  let size :=
    if lane = place.lane then finished + place.index - 1
    else finished - (if place.index = 0 then 1 else 0)
  let low := random &&& 0xffffffff
  let square := (low * low) >>> 32
  let distance := ((size.toUInt64 * square) >>> 32).toNat
  let first := if place.pass = 0 then 0 else (place.slice + 1) * quarter
  lane * laneLength + (first + (size - 1 - distance)) % laneLength

def fillSegment (variant : Variant) (version : Version) (p : Parameters) (laneLength : Nat)
    (pass slice lane : Nat) (memory : Array Block) : Array Block := Id.run do
  let quarter := laneLength / 4
  let independent := variant == .i || (variant == .id && pass == 0 && slice < 2)
  let mut memory := memory
  let mut choices := Block.zero
  for index in [0:quarter] do
    let place : Position := ⟨pass, lane, slice, index⟩
    if independent && index % 128 == 0 then
      choices := addresses variant p (p.lanes * laneLength) place (index / 128 + 1)
    if pass != 0 || slice != 0 || 2 ≤ index then
      let column := slice * quarter + index
      let here := lane * laneLength + column
      let before := lane * laneLength + (column + laneLength - 1) % laneLength
      let previous := memory.getD before Block.zero
      let random := if independent then choices.word (index % 128) else previous.r0.w0
      let other := memory.getD (reference p.lanes laneLength place random) Block.zero
      let mixed := compress previous other
      let kept := pass != 0 && version == .v19
      let old := if kept then memory.getD here Block.zero else Block.zero
      memory := memory.setIfInBounds here (if kept then mixed.xor old else mixed)
  return memory

def hash (variant : Variant) (version : Version) (p : Parameters) (salt password : List UInt8) :
    List UInt8 := Id.run do
  let laneLength := 4 * (p.memory / (4 * p.lanes))
  let start := seed variant version p salt password
  let mut memory := Array.replicate (p.lanes * laneLength) Block.zero
  for lane in [0:p.lanes] do
    for column in [0:2] do
      let bytes := longHash 1024 (start ++ lengthBytes column ++ lengthBytes lane)
      memory := memory.setIfInBounds (lane * laneLength + column) (Block.ofBytes bytes)
  for pass in [0:p.passes] do
    for slice in [0:4] do
      for lane in [0:p.lanes] do
        memory := fillSegment variant version p laneLength pass slice lane memory
  let mut last := Block.zero
  for lane in [0:p.lanes] do
    last := last.xor (memory.getD (lane * laneLength + laneLength - 1) Block.zero)
  return longHash p.length last.bytes

end TokenAuthority.Password.Argon2
