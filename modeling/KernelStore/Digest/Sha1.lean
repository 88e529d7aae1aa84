import KernelStore.Bytes

/-!
The SHA-1 hash, one byte at a time: four bytes make a word, sixteen words a block, and a full block
is mixed into the chaining words. Feeding two byte strings in turn is therefore feeding their
concatenation (`update_append`).
-/

namespace KernelStore.Sha1

structure Chain where
  a : UInt32
  b : UInt32
  c : UInt32
  d : UInt32
  e : UInt32

def Chain.initial : Chain :=
  ⟨0x67452301, 0xEFCDAB89, 0x98BADCFE, 0x10325476, 0xC3D2E1F0⟩

@[inline] def rotateLeft (word : UInt32) (places : UInt32) : UInt32 :=
  (word <<< places) ||| (word >>> (32 - places))

/-- Adds words to the ones at hand, each from four earlier ones. -/
def extend : (count : Nat) → Array UInt32 → Array UInt32
  | 0, words => words
  | count + 1, words =>
      let back (distance : Nat) : UInt32 := words.getD (words.size - distance) 0
      extend count (words.push (rotateLeft (back 3 ^^^ back 8 ^^^ back 14 ^^^ back 16) 1))

/-- The mixing function and constant of a round. -/
@[inline] def roundTerm (round : Nat) (b c d : UInt32) : UInt32 :=
  if round < 20 then ((b &&& c) ||| (~~~b &&& d)) + 0x5A827999
  else if round < 40 then (b ^^^ c ^^^ d) + 0x6ED9EBA1
  else if round < 60 then ((b &&& c) ||| (b &&& d) ||| (c &&& d)) + 0x8F1BBCDC
  else (b ^^^ c ^^^ d) + 0xCA62C1D6

def rounds (words : Array UInt32) : (count round : Nat) → (a b c d e : UInt32) → Chain
  | 0, _, a, b, c, d, e => ⟨a, b, c, d, e⟩
  | count + 1, round, a, b, c, d, e =>
      let mixed := rotateLeft a 5 + roundTerm round b c d + e + words.getD round 0
      rounds words count (round + 1) mixed a (rotateLeft b 30) c d

/-- Mixes the sixteen words of a full block into the chaining words. -/
def compress (chain : Chain) (block : Array UInt32) : Chain :=
  let mixed := rounds (extend 64 block) 80 0 chain.a chain.b chain.c chain.d chain.e
  ⟨chain.a + mixed.a, chain.b + mixed.b, chain.c + mixed.c, chain.d + mixed.d,
    chain.e + mixed.e⟩

structure State where
  chain : Chain
  words : Array UInt32
  /-- The bytes of the open word, the first one highest. -/
  word : UInt32
  length : Nat

/-- No words yet, with room for the eighty of a block. -/
def noWords : Array UInt32 := Array.emptyWithCapacity 80

def State.initial : State := ⟨Chain.initial, noWords, 0, 0⟩

def State.feed : State → UInt8 → State
  | ⟨chain, words, word, length⟩, byte =>
      let word := (word <<< 8) ||| byte.toUInt32
      if length % 4 = 3 then
        let words := words.push word
        if words.size = 16 then ⟨compress chain words, noWords, 0, length + 1⟩
        else ⟨chain, words, 0, length + 1⟩
      else ⟨chain, words, word, length + 1⟩

def State.update (state : State) (bytes : Bytes) : State := bytes.foldl State.feed state

theorem State.update_append (state : State) (front rest : Bytes) :
    state.update (front ++ rest) = (state.update front).update rest := by
  simp [State.update]

def bigEndian : (width value : Nat) → Bytes
  | 0, _ => []
  | width + 1, value => UInt8.ofNat (value >>> (8 * width)) :: bigEndian width value

@[simp] theorem length_bigEndian (width value : Nat) : (bigEndian width value).length = width := by
  induction width with
  | zero => rfl
  | succ width ih => simp [bigEndian, ih]

/-- A one bit, zeros up to the last eight bytes of a block, and the length in bits. -/
def padding (length : Nat) : Bytes :=
  0x80 :: (Bytes.zeros ((119 - length % 64) % 64) ++ bigEndian 8 (8 * length))

/-- The hash of everything fed so far, in twenty bytes. -/
def State.finish (state : State) : Bytes :=
  let chain := (state.update (padding state.length)).chain
  [chain.a, chain.b, chain.c, chain.d, chain.e].flatMap (fun word => bigEndian 4 word.toNat)

theorem State.length_finish (state : State) : state.finish.length = 20 := by
  simp [State.finish]

def hash (bytes : Bytes) : Bytes := (State.initial.update bytes).finish

end KernelStore.Sha1
