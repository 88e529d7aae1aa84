import KernelStore.Text.Blank

/-!
The floating-point precision that a kernel is compiled for. Kernels ask for less than full
precision by pragmas; the lowest precision asked for wins.
-/

namespace KernelStore

inductive Precision
  | full
  | relaxed
  | imprecise
  deriving DecidableEq

namespace Precision

def all : List Precision := [.full, .relaxed, .imprecise]

def name : Precision → String
  | full => "full"
  | relaxed => "relaxed"
  | imprecise => "imprecise"

def ofName? (text : String) : Option Precision := all.find? (·.name == text)

/-- The precision of that name, whatever its case and the white space around it. -/
def read? (text : String) : Option Precision := ofName? (Text.lowerCase (Text.trim text))

def unknownMessage (text : String) : String :=
  s!"unknown float precision '{text}' (expected full, relaxed or imprecise)"

def relaxedKey : String := "fp_relaxed"

def impreciseKey : String := "fp_imprecise"

/-- The pragma key that asks for a precision; full precision needs none. -/
def pragmaKey? : Precision → Option String
  | full => none
  | relaxed => some relaxedKey
  | imprecise => some impreciseKey

def isKey (key : String) : Bool := key == relaxedKey || key == impreciseKey

/-- The precision that pragma keys ask for together. -/
def ofKeys (keys : List String) : Precision :=
  if impreciseKey ∈ keys then imprecise
  else if relaxedKey ∈ keys then relaxed
  else full

/-- The same, found in one pass that ends where nothing later can matter. -/
def scan (isRelaxed : Bool) : List String → Precision
  | [] => if isRelaxed then relaxed else full
  | key :: rest =>
      if key = impreciseKey then imprecise
      else scan (isRelaxed || key == relaxedKey) rest

theorem scan_eq_ite (isRelaxed : Bool) (keys : List String) :
    scan isRelaxed keys =
      if impreciseKey ∈ keys then imprecise
      else if isRelaxed = true ∨ relaxedKey ∈ keys then relaxed
      else full := by
  induction keys generalizing isRelaxed with
  | nil => simp [scan]
  | cons key rest ih =>
      unfold scan
      by_cases lowest : key = impreciseKey
      · rw [if_pos lowest, if_pos (List.mem_cons.mpr (Or.inl lowest.symm))]
      · rw [if_neg lowest, ih]
        simp only [List.mem_cons, Ne.symm lowest, false_or, Bool.or_eq_true, beq_iff_eq, or_assoc,
          eq_comm (a := key)]

theorem scan_eq (keys : List String) : scan false keys = ofKeys keys := by
  rw [scan_eq_ite, ofKeys]
  simp

end Precision

end KernelStore
