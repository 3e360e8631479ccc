/-!
# A stream of random words

The stream of 32-bit words that a seed determines: the blocks of the ChaCha
cipher with twelve rounds, whose key is drawn from the seed by a congruential
generator.  A position in the stream is a number of words, so a generator is a
key and the number of words taken from it.
-/

namespace Dialogue.Random

/-! ## Blocks -/

/-- The sixteen words of a block. -/
abbrev Block : Type :=
  Vector UInt32 16

/-- Rotate a word to the left. -/
def rotateLeft (x : UInt32) (count : UInt32) : UInt32 :=
  (x <<< count) ||| (x >>> (32 - count))

/-- The quarter round on four words of a block. -/
def quarterRound (block : Block) (a b c d : Fin 16) : Block :=
  let block := block.set a (block[a] + block[b])
  let block := block.set d (rotateLeft (block[d] ^^^ block[a]) 16)
  let block := block.set c (block[c] + block[d])
  let block := block.set b (rotateLeft (block[b] ^^^ block[c]) 12)
  let block := block.set a (block[a] + block[b])
  let block := block.set d (rotateLeft (block[d] ^^^ block[a]) 8)
  let block := block.set c (block[c] + block[d])
  block.set b (rotateLeft (block[b] ^^^ block[c]) 7)

/-- A round on the columns of a block and one on its diagonals. -/
def doubleRound (block : Block) : Block :=
  let block := quarterRound block 0 4 8 12
  let block := quarterRound block 1 5 9 13
  let block := quarterRound block 2 6 10 14
  let block := quarterRound block 3 7 11 15
  let block := quarterRound block 0 5 10 15
  let block := quarterRound block 1 6 11 12
  let block := quarterRound block 2 7 8 13
  quarterRound block 3 4 9 14

/-- The eight words of a key. -/
abbrev Key : Type :=
  Vector UInt32 8

/-- The block that is scrambled into the block of a number: constants, key,
number and zeros. -/
def plainBlock (key : Key) (number : Nat) : Block :=
  #v[0x61707865, 0x3320646e, 0x79622d32, 0x6b206574,
    key[0], key[1], key[2], key[3], key[4], key[5], key[6], key[7],
    UInt32.ofNat number, UInt32.ofNat (number / UInt32.size), 0, 0]

/-- The block of a number. -/
def block (key : Key) (number : Nat) : Block :=
  let plain := plainBlock key number
  let scrambled := Nat.repeat doubleRound 6 plain
  scrambled.zipWith (· + ·) plain

/-! ## Keys -/

/-- The next state of the generator that spreads a seed over a key. -/
def nextSeed (seed : UInt64) : UInt64 :=
  seed * 6364136223846793005 + 11634580027462260723

/-- The key word of a state: some of its bits, rotated by its leading bits. -/
def seedWord (seed : UInt64) : UInt32 :=
  let mixed := ((((seed >>> 18) ^^^ seed) >>> 27)).toUInt32
  let count := (seed >>> 59).toUInt32
  (mixed >>> count) ||| (mixed <<< ((32 - count) % 32))

/-- The key of a seed. -/
def keyOfSeed (seed : UInt64) : Key :=
  Vector.ofFn fun index => seedWord (Nat.repeat nextSeed (index + 1) seed)

/-! ## Generators -/

/-- A key and the number of words taken from its stream. -/
structure Generator where
  key : Key
  taken : Nat := 0
deriving DecidableEq

namespace Generator

/-- The generator at the start of the stream of a seed. -/
def ofSeed (seed : UInt64) : Generator :=
  { key := keyOfSeed seed }

/-- The next word of the stream. -/
def word (g : Generator) : Nat :=
  ((block g.key (g.taken / 16)).toArray.getD (g.taken % 16) 0).toNat

/-- The generator behind the next word. -/
def advance (g : Generator) : Generator :=
  { g with taken := g.taken + 1 }

/-- A number below `count`, which is at most `2 ^ 32`.  A word times `count`
has the number in its upper half; where the lower half comes close to an
overflow, a second word says whether there is one. -/
def pick (g : Generator) (count : Nat) : Nat × Generator :=
  let product := g.word * count
  let high := product / UInt32.size
  let low := product % UInt32.size
  let g := g.advance
  if low > UInt32.size - count then
    let carry := low + g.word * count / UInt32.size ≥ UInt32.size
    (if carry then high + 1 else high, g.advance)
  else
    (high, g)

end Generator

end Dialogue.Random
