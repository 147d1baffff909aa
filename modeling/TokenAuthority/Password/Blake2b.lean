import TokenAuthority.Password.Row

/-!
The unkeyed BLAKE2b hash, for digests of 1 to 64 bytes.
-/

namespace TokenAuthority.Password.Blake2b

structure Chain where
  h0 : UInt64
  h1 : UInt64
  h2 : UInt64
  h3 : UInt64
  h4 : UInt64
  h5 : UInt64
  h6 : UInt64
  h7 : UInt64

/-- The initial chaining words: the fractional bits of the square roots of the first primes. -/
def start : Chain :=
  ⟨0x6a09e667f3bcc908, 0xbb67ae8584caa73b, 0x3c6ef372fe94f82b, 0xa54ff53a5f1d36f1,
   0x510e527fade682d1, 0x9b05688c2b3e6c1f, 0x1f83d9abfb41bd6b, 0x5be0cd19137e2179⟩

def schedule : List (List Nat) :=
  [[0, 1, 2, 3, 4, 5, 6, 7, 8, 9, 10, 11, 12, 13, 14, 15],
   [14, 10, 4, 8, 9, 15, 13, 6, 1, 12, 0, 2, 11, 7, 5, 3],
   [11, 8, 12, 0, 5, 2, 15, 13, 10, 14, 3, 6, 7, 1, 9, 4],
   [7, 9, 3, 1, 13, 12, 11, 14, 2, 6, 5, 10, 4, 0, 15, 8],
   [9, 0, 5, 7, 2, 4, 10, 15, 14, 1, 11, 12, 6, 8, 3, 13],
   [2, 12, 6, 10, 0, 11, 8, 3, 4, 13, 7, 5, 15, 14, 1, 9],
   [12, 5, 1, 15, 14, 13, 4, 10, 0, 7, 6, 3, 9, 2, 8, 11],
   [13, 11, 7, 14, 12, 1, 3, 9, 5, 0, 15, 4, 8, 6, 2, 10],
   [6, 15, 14, 9, 11, 3, 0, 8, 12, 2, 13, 7, 1, 4, 10, 5],
   [10, 2, 8, 4, 7, 6, 1, 5, 15, 11, 9, 14, 3, 12, 13, 0],
   [0, 1, 2, 3, 4, 5, 6, 7, 8, 9, 10, 11, 12, 13, 14, 15],
   [14, 10, 4, 8, 9, 15, 13, 6, 1, 12, 0, 2, 11, 7, 5, 3]]

def arrange (m : Row) : List Nat → Row
  | [a, b, c, d, e, f, g, h, i, j, k, l, p, q, r, s] =>
    ⟨m.get a, m.get b, m.get c, m.get d, m.get e, m.get f, m.get g, m.get h,
     m.get i, m.get j, m.get k, m.get l, m.get p, m.get q, m.get r, m.get s⟩
  | _ => m

@[inline] def mix (x y a b c d : UInt64) : Quad :=
  let a := a + b + x
  let d := rotateRight (d ^^^ a) 32
  let c := c + d
  let b := rotateRight (b ^^^ c) 24
  let a := a + b + y
  let d := rotateRight (d ^^^ a) 16
  let c := c + d
  let b := rotateRight (b ^^^ c) 63
  ⟨a, b, c, d⟩

def round (m v : Row) : Row :=
  v.round fun i => mix (m.get (2 * i)) (m.get (2 * i + 1))

/-- Folds one message block into the chain; `count` is the number of bytes hashed so far, this
block included, and `last` says that no block follows. -/
def compress (h : Chain) (m : Row) (count : UInt64) (last : Bool) : Chain :=
  let v : Row :=
    ⟨h.h0, h.h1, h.h2, h.h3, h.h4, h.h5, h.h6, h.h7, start.h0, start.h1, start.h2, start.h3,
     start.h4 ^^^ count, start.h5, if last then ~~~start.h6 else start.h6, start.h7⟩
  let v := schedule.foldl (fun v order => round (arrange m order) v) v
  ⟨h.h0 ^^^ v.w0 ^^^ v.w8, h.h1 ^^^ v.w1 ^^^ v.w9, h.h2 ^^^ v.w2 ^^^ v.w10,
   h.h3 ^^^ v.w3 ^^^ v.w11, h.h4 ^^^ v.w4 ^^^ v.w12, h.h5 ^^^ v.w5 ^^^ v.w13,
   h.h6 ^^^ v.w6 ^^^ v.w14, h.h7 ^^^ v.w7 ^^^ v.w15⟩

def absorb (h : Chain) (count : Nat) (message : List UInt8) : Chain :=
  if message.length ≤ 128 then
    compress h (Row.ofBytes message) (count + message.length).toUInt64 true
  else
    absorb (compress h (Row.ofBytes message) (count + 128).toUInt64 false) (count + 128)
      (message.drop 128)
termination_by message.length
decreasing_by simp only [List.length_drop]; omega

/-- The digest of `size` bytes, for `1 ≤ size ≤ 64`. -/
def hash (size : Nat) (message : List UInt8) : List UInt8 :=
  let h := absorb { start with h0 := start.h0 ^^^ 0x01010000 ^^^ size.toUInt64 } 0 message
  ([h.h0, h.h1, h.h2, h.h3, h.h4, h.h5, h.h6, h.h7].flatMap wordBytes).take size

end TokenAuthority.Password.Blake2b
