import StakeSnapshot.Bytes

/-!
# Keccak-256

The sponge with a rate of 136 bytes over the permutation of twenty-five 64 bit lanes, padded with
a single `1` bit. A state is kept as five rows of five lanes: the steps of a round act on a whole
row, on a whole column, or move lanes between rows.
-/

namespace StakeSnapshot.Keccak

/-- The lanes of one row, by their column. -/
structure Row where
  a : UInt64
  b : UInt64
  c : UInt64
  d : UInt64
  e : UInt64

structure State where
  r0 : Row
  r1 : Row
  r2 : Row
  r3 : Row
  r4 : Row

def Row.zero : Row := ⟨0, 0, 0, 0, 0⟩

def State.zero : State := ⟨.zero, .zero, .zero, .zero, .zero⟩

def Row.xor (p q : Row) : Row :=
  ⟨p.a ^^^ q.a, p.b ^^^ q.b, p.c ^^^ q.c, p.d ^^^ q.d, p.e ^^^ q.e⟩

/-- Rotation to the left by an amount from 1 to 63. -/
def rotate (lane : UInt64) (amount : UInt64) : UInt64 :=
  (lane <<< amount) ||| (lane >>> (64 - amount))

/-- Each lane takes in the parities of the two columns beside its own. -/
def theta (s : State) : State :=
  let c := s.r0.xor (s.r1.xor (s.r2.xor (s.r3.xor s.r4)))
  let d : Row :=
    ⟨c.e ^^^ rotate c.b 1, c.a ^^^ rotate c.c 1, c.b ^^^ rotate c.d 1, c.c ^^^ rotate c.e 1,
      c.d ^^^ rotate c.a 1⟩
  ⟨s.r0.xor d, s.r1.xor d, s.r2.xor d, s.r3.xor d, s.r4.xor d⟩

/-- Each lane is rotated by its own amount and moved to its new place: the lane in column `x` of
row `y` comes from column `x + 3y` of row `x`. -/
def rhoPi (s : State) : State :=
  ⟨⟨s.r0.a, rotate s.r1.b 44, rotate s.r2.c 43, rotate s.r3.d 21, rotate s.r4.e 14⟩,
    ⟨rotate s.r0.d 28, rotate s.r1.e 20, rotate s.r2.a 3, rotate s.r3.b 45, rotate s.r4.c 61⟩,
    ⟨rotate s.r0.b 1, rotate s.r1.c 6, rotate s.r2.d 25, rotate s.r3.e 8, rotate s.r4.a 18⟩,
    ⟨rotate s.r0.e 27, rotate s.r1.a 36, rotate s.r2.b 10, rotate s.r3.c 15, rotate s.r4.d 56⟩,
    ⟨rotate s.r0.c 62, rotate s.r1.d 55, rotate s.r2.e 39, rotate s.r3.a 41, rotate s.r4.b 2⟩⟩

/-- The only step that is not linear: a lane is combined with the next two of its row. -/
def Row.chi (r : Row) : Row :=
  ⟨r.a ^^^ (~~~r.b &&& r.c), r.b ^^^ (~~~r.c &&& r.d), r.c ^^^ (~~~r.d &&& r.e),
    r.d ^^^ (~~~r.e &&& r.a), r.e ^^^ (~~~r.a &&& r.b)⟩

def chi (s : State) : State :=
  ⟨s.r0.chi, s.r1.chi, s.r2.chi, s.r3.chi, s.r4.chi⟩

/-- A constant of its own for each round goes into the first lane. -/
def iota (constant : UInt64) (s : State) : State :=
  ⟨⟨s.r0.a ^^^ constant, s.r0.b, s.r0.c, s.r0.d, s.r0.e⟩, s.r1, s.r2, s.r3, s.r4⟩

def round (s : State) (constant : UInt64) : State :=
  iota constant (chi (rhoPi (theta s)))

def roundConstants : List UInt64 :=
  [0x0000000000000001, 0x0000000000008082, 0x800000000000808a, 0x8000000080008000,
    0x000000000000808b, 0x0000000080000001, 0x8000000080008081, 0x8000000000008009,
    0x000000000000008a, 0x0000000000000088, 0x0000000080008009, 0x000000008000000a,
    0x000000008000808b, 0x800000000000008b, 0x8000000000008089, 0x8000000000008003,
    0x8000000000008002, 0x8000000000000080, 0x000000000000800a, 0x800000008000000a,
    0x8000000080008081, 0x8000000000008080, 0x0000000080000001, 0x8000000080008008]

def permute (s : State) : State :=
  roundConstants.foldl round s

/-- The number of bytes taken in before each permutation. -/
def rate : Nat := 136

/-- The message, a `1` bit, zeros and a last `1` bit, up to a whole number of blocks. -/
def pad (message : Bytes) : Bytes :=
  let short := rate - message.length % rate
  if short = 1 then message ++ [0x81]
  else message ++ [0x01] ++ List.replicate (short - 2) 0 ++ [0x80]

/-- Eight bytes to a lane, least significant first. -/
def lanes : Bytes → List UInt64
  | b0 :: b1 :: b2 :: b3 :: b4 :: b5 :: b6 :: b7 :: rest =>
    (b0.toUInt64 ||| b1.toUInt64 <<< 8 ||| b2.toUInt64 <<< 16 ||| b3.toUInt64 <<< 24
      ||| b4.toUInt64 <<< 32 ||| b5.toUInt64 <<< 40 ||| b6.toUInt64 <<< 48
      ||| b7.toUInt64 <<< 56) :: lanes rest
  | _ => []

/-- Takes in the message lanes, a block of seventeen at a time. -/
def absorb : State → List UInt64 → State
  | s, a0 :: b0 :: c0 :: d0 :: e0 :: a1 :: b1 :: c1 :: d1 :: e1 :: a2 :: b2 :: c2 :: d2 :: e2
      :: a3 :: b3 :: rest =>
    absorb
      (permute
        ⟨s.r0.xor ⟨a0, b0, c0, d0, e0⟩, s.r1.xor ⟨a1, b1, c1, d1, e1⟩,
          s.r2.xor ⟨a2, b2, c2, d2, e2⟩, s.r3.xor ⟨a3, b3, 0, 0, 0⟩, s.r4⟩)
      rest
  | s, _ => s

/-- The bytes of a lane, least significant first. -/
def laneBytes (lane : UInt64) : Bytes :=
  [lane.toUInt8, (lane >>> 8).toUInt8, (lane >>> 16).toUInt8, (lane >>> 24).toUInt8,
    (lane >>> 32).toUInt8, (lane >>> 40).toUInt8, (lane >>> 48).toUInt8, (lane >>> 56).toUInt8]

end StakeSnapshot.Keccak

namespace StakeSnapshot

/-- The 32 byte digest of a message. -/
def keccak256 (message : Bytes) : Bytes :=
  let s := Keccak.absorb .zero (Keccak.lanes (Keccak.pad message))
  Keccak.laneBytes s.r0.a ++ Keccak.laneBytes s.r0.b ++ Keccak.laneBytes s.r0.c
    ++ Keccak.laneBytes s.r0.d

@[simp] theorem length_keccak256 (message : Bytes) : (keccak256 message).length = 32 := rfl

end StakeSnapshot
