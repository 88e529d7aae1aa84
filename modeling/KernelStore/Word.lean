import KernelStore.Bytes

/-!
Arithmetic on words of 64 bits. Where a result could be no word, this is either tested for, and
then there is no result, or it must not come up, and then the steps are trapped.
-/

namespace KernelStore

/-- What steps on words must not come to. -/
inductive Trap
  | overflow
  | divisionByZero
  deriving DecidableEq

/-- Steps on words. Unless they are trapped, they end in a value or in a fault. -/
abbrev Trapping (ε : Type) := ExceptT ε (Except Trap)

namespace Trapping

variable {ε α : Type}

def trap (reason : Trap) : Trapping ε α := ExceptT.mk (.error reason)

/-- Goes on with a result if there is one. -/
def demand (reason : Trap) : Option α → Trapping ε α
  | some value => return value
  | none => trap reason

end Trapping

namespace Word

open Trapping

variable {ε : Type}

/-! ### Tested results -/

def sum? (first second : UInt64) : Option UInt64 :=
  if first.toNat + second.toNat < addressLimit then some (first + second) else none

def product? (first second : UInt64) : Option UInt64 :=
  if first.toNat * second.toNat < addressLimit then some (first * second) else none

def difference? (first second : UInt64) : Option UInt64 :=
  if second ≤ first then some (first - second) else none

/-! ### Results that there must be -/

def sum (first second : UInt64) : Trapping ε UInt64 := demand .overflow (sum? first second)

def product (first second : UInt64) : Trapping ε UInt64 :=
  demand .overflow (product? first second)

def difference (first second : UInt64) : Trapping ε UInt64 :=
  demand .overflow (difference? first second)

def quotient (first second : UInt64) : Trapping ε UInt64 :=
  if second = 0 then trap .divisionByZero else return first / second

def remainder (first second : UInt64) : Trapping ε UInt64 :=
  if second = 0 then trap .divisionByZero else return first % second

/-! ### Rounding to a power of two -/

/-- The next multiple up, unless the way there leads beyond all words. -/
def alignUp? (address unit : UInt64) : Trapping ε (Option UInt64) := do
  let mask ← difference unit 1
  return (sum? address mask).map (· &&& ~~~mask)

def alignDown (address unit : UInt64) : Trapping ε UInt64 := do
  let mask ← difference unit 1
  return address &&& ~~~mask

end Word

end KernelStore
