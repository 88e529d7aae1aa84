import KernelStore.Digest.Sha1
import KernelStore.Text.Hexadecimal

/-!
Digests of contents. Two contents with one digest count as equal. The digest of zeros stands for
contents that could not be read.
-/

namespace KernelStore

structure Digest where
  bytes : Bytes
  length_bytes : bytes.length = 20
  deriving DecidableEq

namespace Digest

/-- The digest with the given bytes, of which there must be twenty. -/
def ofRaw? (bytes : Bytes) : Option Digest :=
  if size : bytes.length = 20 then some ⟨bytes, size⟩ else none

/-- Stands for contents that could not be read. -/
def zero : Digest := ⟨Bytes.zeros 20, rfl⟩

def isZero (digest : Digest) : Bool := digest == zero

def ofBytes (content : Bytes) : Digest := ⟨Sha1.hash content, Sha1.State.length_finish _⟩

/-- The digest stored at the front of a file, if that is long enough. -/
def stored {ε : Type} : Except ε Bytes → Digest
  | .ok content => (ofRaw? (content.take 20)).getD zero
  | .error _ => zero

def hex (digest : Digest) : String := Hexadecimal.ofBytes digest.bytes

/-- The first four hexadecimal digits, enough to tell digests apart in a trace. -/
def brief (digest : Digest) : String :=
  "Digest(" ++ Hexadecimal.ofBytes (digest.bytes.take 2) ++ "..)"

end Digest

end KernelStore
