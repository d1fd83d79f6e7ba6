/-!
# The ChaCha8 stream

Seeded dice draw their numbers from the stream of the ChaCha cipher with eight rounds. The stream of
a key is cut into blocks of sixteen 32-bit words, and each block is a function of the key and the
number of the block alone. So a place in the stream is just a number, and nothing has to be
buffered.

The key is made from a 64-bit seed by eight steps of a linear congruential generator with a permuted
output.
-/

namespace Percentile

namespace ChaCha

/-- A block, or the state that it is made from. -/
abbrev Block := Vector UInt32 16

/-- A key. -/
abbrev Key := Vector UInt32 8

/-- Rotate a word to the left by less than 32 places. -/
def rotateLeft (x n : UInt32) : UInt32 := (x <<< n) ||| (x >>> (32 - n))

/-- Rotate a word to the right by less than 32 places. -/
def rotateRight (x n : UInt32) : UInt32 := if n = 0 then x else (x >>> n) ||| (x <<< (32 - n))

/-- Mix four words of a state. -/
def quarterRound (s : Block) (a b c d : Fin 16) : Block :=
  let s := s.set a (s[a] + s[b])
  let s := s.set d (rotateLeft (s[d] ^^^ s[a]) 16)
  let s := s.set c (s[c] + s[d])
  let s := s.set b (rotateLeft (s[b] ^^^ s[c]) 12)
  let s := s.set a (s[a] + s[b])
  let s := s.set d (rotateLeft (s[d] ^^^ s[a]) 8)
  let s := s.set c (s[c] + s[d])
  s.set b (rotateLeft (s[b] ^^^ s[c]) 7)

/-- Mix the columns of a state, then its diagonals. -/
def doubleRound (s : Block) : Block :=
  let s := quarterRound s 0 4 8 12
  let s := quarterRound s 1 5 9 13
  let s := quarterRound s 2 6 10 14
  let s := quarterRound s 3 7 11 15
  let s := quarterRound s 0 5 10 15
  let s := quarterRound s 1 6 11 12
  let s := quarterRound s 2 7 8 13
  quarterRound s 3 4 9 14

/-- The state that a block is made from: four constants, the key, the number of the block as a
64-bit word, and zero. -/
def initial (key : Key) (number : Nat) : Block :=
  #v[0x61707865, 0x3320646e, 0x79622d32, 0x6b206574,
    key[0], key[1], key[2], key[3], key[4], key[5], key[6], key[7],
    UInt32.ofNat number, UInt32.ofNat (number >>> 32), 0, 0]

/-- A block of the stream of a key. -/
def block (key : Key) (number : Nat) : Block :=
  let s := initial key number
  let mixed := doubleRound (doubleRound (doubleRound (doubleRound s)))
  mixed.zipWith (· + ·) s

/-- The number of words before the stream starts again: `2 ^ 64` blocks. -/
def period : Nat := 16 <<< 64

/-- A word of the stream of a key. -/
def word (key : Key) (position : Nat) : UInt32 :=
  (block key (position / 16)).get ⟨position % 16, Nat.mod_lt _ (by decide)⟩

/-- One step of the generator that keys are made with. -/
def advance (s : UInt64) : UInt64 := s * 6364136223846793005 + 11634580027462260723

/-- The output of that generator in a state. -/
def output (s : UInt64) : UInt32 :=
  rotateRight (((s >>> 18) ^^^ s) >>> 27).toUInt32 (s >>> 59).toUInt32

/-- The key of a seed. -/
def keyOfSeed (seed : UInt64) : Key :=
  let s₁ := advance seed
  let s₂ := advance s₁
  let s₃ := advance s₂
  let s₄ := advance s₃
  let s₅ := advance s₄
  let s₆ := advance s₅
  let s₇ := advance s₆
  let s₈ := advance s₇
  #v[output s₁, output s₂, output s₃, output s₄, output s₅, output s₆, output s₇, output s₈]

end ChaCha

end Percentile
