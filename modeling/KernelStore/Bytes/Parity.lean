import KernelStore.Bytes.Content

/-!
The parity of a byte string: its little-endian 32-bit words combined by exclusive or, a short last
word being zero-filled. It shows torn writes and flipped bits, not deliberate changes. The parity
of a content is taken byte by byte, each byte going to its place in the word (`parity_eq`).
-/

namespace KernelStore

namespace Parity

def word (b0 b1 b2 b3 : UInt8) : UInt32 :=
  b0.toUInt32 ||| (b1.toUInt32 <<< 8) ||| (b2.toUInt32 <<< 16) ||| (b3.toUInt32 <<< 24)

def absorb (acc : UInt32) : Bytes → UInt32
  | b0 :: b1 :: b2 :: b3 :: rest => absorb (acc ^^^ word b0 b1 b2 b3) rest
  | [b0, b1, b2] => acc ^^^ word b0 b1 b2 0
  | [b0, b1] => acc ^^^ word b0 b1 0 0
  | [b0] => acc ^^^ word b0 0 0 0
  | [] => acc

def parity (bytes : Bytes) : UInt32 := absorb 0 bytes

def verify (bytes : Bytes) (stored : UInt32) : Bool := parity bytes ^^^ stored == 0

theorem verify_eq_true_iff {bytes : Bytes} {stored : UInt32} :
    verify bytes stored = true ↔ parity bytes = stored := by
  rw [verify, beq_iff_eq, UInt32.xor_eq_zero_iff]

structure Lanes where
  word : UInt32
  shift : UInt32

def Lanes.feed (lanes : Lanes) (byte : UInt8) : Lanes :=
  ⟨lanes.word ^^^ (byte.toUInt32 <<< lanes.shift), (lanes.shift + 8) % 32⟩

/-- The bytes of a word do not overlap. -/
theorem word_eq_xor (b0 b1 b2 b3 : UInt8) :
    word b0 b1 b2 b3 = b0.toUInt32 ^^^ (b1.toUInt32 <<< 8) ^^^ (b2.toUInt32 <<< 16)
      ^^^ (b3.toUInt32 <<< 24) := by
  apply UInt32.toBitVec_inj.mp
  apply BitVec.eq_of_getLsbD_eq
  intro i small
  have outside (b : UInt8) (k : Nat) (far : 8 ≤ k) : b.toBitVec.getLsbD k = false :=
    BitVec.getLsbD_of_ge _ _ far
  simp [word]
  by_cases first : i < 8
  · simp [small, first, show i < 16 by omega, show i < 24 by omega]
  · by_cases second : i < 16
    · simp [small, first, second, show i < 24 by omega, outside b0 i (by omega)]
    · by_cases third : i < 24
      · simp [small, first, second, third, outside b0 i (by omega), outside b1 (i - 8) (by omega)]
      · simp [small, first, second, third, outside b0 i (by omega), outside b1 (i - 8) (by omega),
          outside b2 (i - 16) (by omega)]

theorem foldl_feed (acc : UInt32) (bytes : Bytes) :
    (bytes.foldl Lanes.feed ⟨acc, 0⟩).word = absorb acc bytes := by
  fun_induction absorb acc bytes with
  | case1 acc b0 b1 b2 b3 rest ih =>
    rw [← ih]
    simp [Lanes.feed, word_eq_xor, UInt32.xor_assoc]
  | case2 => simp [Lanes.feed, word_eq_xor, UInt32.xor_assoc]
  | case3 => simp [Lanes.feed, word_eq_xor, UInt32.xor_assoc]
  | case4 => simp [Lanes.feed, word_eq_xor]
  | case5 => rfl

end Parity

namespace Content

def parity (content : Content) : UInt32 := (content.foldl Parity.Lanes.feed ⟨0, 0⟩).word

theorem parity_eq (content : Content) : content.parity = Parity.parity content.bytes := by
  rw [parity, foldl_eq, Parity.foldl_feed, Parity.parity]

def hasParity (content : Content) (stored : UInt32) : Bool := content.parity ^^^ stored == 0

theorem hasParity_eq (content : Content) (stored : UInt32) :
    content.hasParity stored = Parity.verify content.bytes stored := by
  rw [hasParity, parity_eq, Parity.verify]

end Content

end KernelStore
