/-
# The Keccak hash of thirty-two bytes

The sponge works on a state of twenty-five 64-bit lanes in a square of side five.
A message is padded to whole blocks of 136 bytes; every block is added to the
front of the state, which is then stirred by twenty-four rounds of the
permutation. The hash is the front of the final state.

Each step of a round is given as the new square in terms of the old one, lane by
lane, so that no step depends on the order in which lanes are visited.
-/

import CallTrace.Bytes.Fixed

namespace CallTrace.Keccak

/-- Twenty-five lanes; the lane in column `x` and row `y` stands at `x + 5 * y`. -/
abbrev State := Vector UInt64 25

/-- The lane in a column and row, both taken around the edge of the square. -/
def lane (state : State) (x y : Nat) : UInt64 :=
  state.get ⟨x % 5 + 5 * (y % 5), by omega⟩

/-- The square whose lane in column `x` and row `y` is `f x y`. -/
def square (f : Nat → Nat → UInt64) : State :=
  Vector.ofFn fun i => f (i.val % 5) (i.val / 5)

/-- The word with its bits moved up by `amount` places around the end. -/
def rotate (word : UInt64) (amount : UInt64) : UInt64 :=
  if amount = 0 then word else (word <<< amount) ||| (word >>> (64 - amount))

/-- The sum of a column. -/
def columnSum (state : State) (x : Nat) : UInt64 :=
  lane state x 0 ^^^ lane state x 1 ^^^ lane state x 2 ^^^ lane state x 3 ^^^ lane state x 4

/-- Adds to every lane the sums of the two columns beside its own. -/
def theta (state : State) : State :=
  let sums := Vector.ofFn fun (x : Fin 5) => columnSum state x.val
  let sum (x : Nat) : UInt64 := sums.get ⟨x % 5, by omega⟩
  square fun x y => lane state x y ^^^ sum (x + 4) ^^^ rotate (sum (x + 1)) 1

/-- How far each lane is rotated, listed row by row. -/
def rotations : Vector UInt64 25 :=
  #v[0, 1, 62, 28, 27,
    36, 44, 6, 55, 20,
    3, 10, 43, 25, 39,
    41, 45, 15, 21, 8,
    18, 2, 61, 56, 14]

/-- Rotates every lane by its own amount and moves it to its new place: the lane
that arrives at `(x, y)` comes from column `x + 3 * y` and row `x`. -/
def rhoPi (state : State) : State :=
  square fun x y =>
    let column := x + 3 * y
    rotate (lane state column x) (lane rotations column x)

/-- Combines each lane with the two lanes to its right. -/
def chi (state : State) : State :=
  square fun x y =>
    lane state x y ^^^ ((lane state (x + 1) y ^^^ 0xFFFFFFFFFFFFFFFF) &&& lane state (x + 2) y)

/-- Adds a round's constant to the first lane. -/
def iota (constant : UInt64) (state : State) : State :=
  state.set 0 (state[0] ^^^ constant)

/-- The constants of the twenty-four rounds, in order. -/
def roundConstants : List UInt64 :=
  [0x0000000000000001, 0x0000000000008082, 0x800000000000808A, 0x8000000080008000,
    0x000000000000808B, 0x0000000080000001, 0x8000000080008081, 0x8000000000008009,
    0x000000000000008A, 0x0000000000000088, 0x0000000080008009, 0x000000008000000A,
    0x000000008000808B, 0x800000000000008B, 0x8000000000008089, 0x8000000000008003,
    0x8000000000008002, 0x8000000000000080, 0x000000000000800A, 0x800000008000000A,
    0x8000000080008081, 0x8000000000008080, 0x0000000080000001, 0x8000000080008008]

/-- The permutation: all rounds in order. -/
def permute (state : State) : State :=
  roundConstants.foldl (fun s constant => iota constant (chi (rhoPi (theta s)))) state

/-- The number of message bytes taken in between two permutations. -/
def rate : Nat := 136

/-- The word that eight bytes stand for, least significant first. -/
def wordOfBytes (bytes : List UInt8) : UInt64 :=
  bytes.foldr (fun byte word => (word <<< 8) ||| byte.toUInt64) 0

/-- The eight bytes of a word, least significant first. -/
def bytesOfWord (word : UInt64) : List UInt8 :=
  (List.range 8).map fun i => (word >>> (8 * i).toUInt64).toUInt8

/-- Adds a block to the front of the state and stirs. -/
def absorb (state : State) (block : List UInt8) : State :=
  permute (Vector.ofFn fun (i : Fin 25) =>
    state[i] ^^^ wordOfBytes ((block.drop (8 * i.val)).take 8))

/-- What is appended to a message of `length` bytes to fill its last block: a one
bit right after the message and a one bit at the very end of the block. -/
def padding (length : Nat) : List UInt8 :=
  match rate - length % rate with
  | 1 => [0x81]
  | missing => 0x01 :: List.replicate (missing - 2) 0 ++ [0x80]

/-- Takes in `count` blocks from the front of the bytes. -/
def absorbBlocks : Nat → State → List UInt8 → State
  | 0, state, _ => state
  | count + 1, state, bytes =>
    absorbBlocks count (absorb state (bytes.take rate)) (bytes.drop rate)

theorem length_bytesOfWord (word : UInt64) : (bytesOfWord word).length = 8 := by
  simp [bytesOfWord]

/-- The hash of a byte string. -/
def hash (message : List UInt8) : Hash :=
  let state := absorbBlocks (message.length / rate + 1) (Vector.replicate 25 0)
    (message ++ padding message.length)
  ⟨bytesOfWord state[0] ++ bytesOfWord state[1] ++ bytesOfWord state[2] ++ bytesOfWord state[3],
    by simp [length_bytesOfWord]⟩

end CallTrace.Keccak
