/-!
The two compression functions behind a password hash work on sixteen 64-bit words at a time.
`Row` keeps the words unboxed, and `Row.round` applies a mixing step of four words first to the
columns and then to the diagonals of the 4 by 4 square.
-/

namespace TokenAuthority.Password

/-- Sixteen 64-bit words, read as a 4 by 4 square row by row. -/
structure Row where
  w0 : UInt64
  w1 : UInt64
  w2 : UInt64
  w3 : UInt64
  w4 : UInt64
  w5 : UInt64
  w6 : UInt64
  w7 : UInt64
  w8 : UInt64
  w9 : UInt64
  w10 : UInt64
  w11 : UInt64
  w12 : UInt64
  w13 : UInt64
  w14 : UInt64
  w15 : UInt64

structure Quad where
  a : UInt64
  b : UInt64
  c : UInt64
  d : UInt64

@[inline] def rotateRight (x : UInt64) (n : UInt64) : UInt64 := (x >>> n) ||| (x <<< (64 - n))

namespace Row

@[inline] def ofFn (f : Nat → UInt64) : Row :=
  ⟨f 0, f 1, f 2, f 3, f 4, f 5, f 6, f 7, f 8, f 9, f 10, f 11, f 12, f 13, f 14, f 15⟩

def zero : Row := ofFn fun _ => 0

/-- Word `i` of the row, zero past the end. -/
def get (r : Row) : Nat → UInt64
  | 0 => r.w0
  | 1 => r.w1
  | 2 => r.w2
  | 3 => r.w3
  | 4 => r.w4
  | 5 => r.w5
  | 6 => r.w6
  | 7 => r.w7
  | 8 => r.w8
  | 9 => r.w9
  | 10 => r.w10
  | 11 => r.w11
  | 12 => r.w12
  | 13 => r.w13
  | 14 => r.w14
  | 15 => r.w15
  | _ => 0

def xor (r s : Row) : Row :=
  ⟨r.w0 ^^^ s.w0, r.w1 ^^^ s.w1, r.w2 ^^^ s.w2, r.w3 ^^^ s.w3,
   r.w4 ^^^ s.w4, r.w5 ^^^ s.w5, r.w6 ^^^ s.w6, r.w7 ^^^ s.w7,
   r.w8 ^^^ s.w8, r.w9 ^^^ s.w9, r.w10 ^^^ s.w10, r.w11 ^^^ s.w11,
   r.w12 ^^^ s.w12, r.w13 ^^^ s.w13, r.w14 ^^^ s.w14, r.w15 ^^^ s.w15⟩

/-- Mixes the four columns, then the four diagonals; `mix i` is the step for the `i`-th of these
eight groups. -/
@[inline] def round (mix : Nat → UInt64 → UInt64 → UInt64 → UInt64 → Quad) (r : Row) : Row :=
  let c0 := mix 0 r.w0 r.w4 r.w8 r.w12
  let c1 := mix 1 r.w1 r.w5 r.w9 r.w13
  let c2 := mix 2 r.w2 r.w6 r.w10 r.w14
  let c3 := mix 3 r.w3 r.w7 r.w11 r.w15
  let d0 := mix 4 c0.a c1.b c2.c c3.d
  let d1 := mix 5 c1.a c2.b c3.c c0.d
  let d2 := mix 6 c2.a c3.b c0.c c1.d
  let d3 := mix 7 c3.a c0.b c1.c c2.d
  ⟨d0.a, d1.a, d2.a, d3.a, d3.b, d0.b, d1.b, d2.b, d2.c, d3.c, d0.c, d1.c, d1.d, d2.d, d3.d, d0.d⟩

end Row

def littleEndian (bytes : List UInt8) : UInt64 :=
  bytes.foldr (fun b acc => (acc <<< 8) ||| b.toUInt64) 0

def wordBytes (w : UInt64) : List UInt8 :=
  [w.toUInt8, (w >>> 8).toUInt8, (w >>> 16).toUInt8, (w >>> 24).toUInt8,
   (w >>> 32).toUInt8, (w >>> 40).toUInt8, (w >>> 48).toUInt8, (w >>> 56).toUInt8]

def lengthBytes (n : Nat) : List UInt8 := (wordBytes n.toUInt64).take 4

namespace Row

/-- The first 128 bytes as sixteen words; missing bytes count as zero. -/
def ofBytes (bytes : List UInt8) : Row :=
  ofFn fun i => littleEndian ((bytes.drop (8 * i)).take 8)

def bytes (r : Row) : List UInt8 := (List.range 16).flatMap fun i => wordBytes (r.get i)

end Row

end TokenAuthority.Password
