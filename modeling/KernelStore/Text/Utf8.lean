import KernelStore.Bytes

/-!
UTF-8: encoding a text, decoding exactly, and decoding with replacement. Decoding is exact: it
accepts a byte string just when it encodes some text, and yields that text.
-/

namespace KernelStore.Utf8

def encode (text : String) : Bytes := text.toUTF8.data.toList

def decode? (bytes : Bytes) : Option String := String.fromUTF8? ⟨bytes.toArray⟩

theorem decode?_encode (text : String) : decode? (encode text) = some text := by
  have whole : (⟨text.toUTF8.data.toList.toArray⟩ : ByteArray) = text.toUTF8 := by simp
  have valid : text.toUTF8.IsValidUTF8 := text.isValidUTF8
  simp only [decode?, encode, whole, String.fromUTF8?, valid, ↓reduceDIte]
  rfl

theorem encode_of_decode? {bytes : Bytes} {text : String} (decoded : decode? bytes = some text) :
    encode text = bytes := by
  simp only [decode?, String.fromUTF8?] at decoded
  split at decoded
  · simp only [Option.some.injEq] at decoded
    subst decoded
    simp [encode, String.fromUTF8]
  · cases decoded

/-- Whether a byte continues a character begun earlier. -/
def isContinuation (byte : UInt8) : Bool := 0x80 ≤ byte && byte ≤ 0xBF

/-- The least and greatest second byte after a leading byte of a longer character, and how many
bytes the character has. -/
def leading? (byte : UInt8) : Option (UInt8 × UInt8 × Nat) :=
  if 0xC2 ≤ byte && byte ≤ 0xDF then some (0x80, 0xBF, 2)
  else if byte == 0xE0 then some (0xA0, 0xBF, 3)
  else if byte == 0xED then some (0x80, 0x9F, 3)
  else if 0xE1 ≤ byte && byte ≤ 0xEF then some (0x80, 0xBF, 3)
  else if byte == 0xF0 then some (0x90, 0xBF, 4)
  else if byte == 0xF4 then some (0x80, 0x8F, 4)
  else if 0xF1 ≤ byte && byte ≤ 0xF3 then some (0x80, 0xBF, 4)
  else none

/-- How many bytes at the front belong together: a whole character, or the longest beginning of
one that the following byte spoils. -/
def unitLength : Bytes → Nat
  | [] => 0
  | byte :: rest =>
      match leading? byte with
      | none => 1
      | some (low, high, size) =>
          match rest with
          | second :: more =>
              if low ≤ second && second ≤ high then
                2 + ((more.take (size - 2)).takeWhile isContinuation).length
              else 1
          | [] => 1

/-- Decodes, each unit that is no character becoming one U+FFFD. -/
def decodeLossy (bytes : Bytes) : String :=
  String.join (go bytes.length bytes)
where
  go : Nat → Bytes → List String
    | 0, _ => []
    | _ + 1, [] => []
    | fuel + 1, byte :: rest =>
        let size := unitLength (byte :: rest)
        (decode? ((byte :: rest).take size)).getD "\uFFFD" :: go fuel ((byte :: rest).drop size)

end KernelStore.Utf8
