import KernelStore.Digest
import KernelStore.Json.Reading
import KernelStore.Json.Value

/-!
Digests as JSON: an array of twenty numbers below 256.
-/

namespace KernelStore.Digest

def toJson (digest : Digest) : Json :=
  .array (digest.bytes.map fun byte => .natural byte.toNat)

def ofRawJson? (value : RawJson) : Option Digest := do
  let bytes ← (← value.array?).mapM fun item => do
    let value ← item.natural?
    if value < 256 then some (UInt8.ofNat value) else none
  ofRaw? bytes

def ofJson? (text : String) : Option Digest := do ofRawJson? (← RawJson.document? text)

end KernelStore.Digest
