import KernelStore.Arena
import KernelStore.Dependency
import KernelStore.Precision

/-!
Metadata: all that is recorded of a kernel beside its image. Main statement: after a precision is
set, the pragmas ask for that precision, and the ones that ask for none are as they were.
-/

namespace KernelStore

structure Pragma where
  key : String
  value : String
  deriving DecidableEq

structure ExportedVariable where
  name : String
  address : UInt64
  deriving DecidableEq

/-- A kernel's entry point. The signature says which arguments it takes. -/
structure KernelEntry where
  name : String
  signature : UInt32
  deriving DecidableEq

structure FunctionRecord where
  name : String
  address : UInt64
  size : UInt64
  deriving DecidableEq

def FunctionRecord.ofBody (body : Body) : FunctionRecord :=
  ⟨body.name, UInt64.ofNat body.start, UInt64.ofNat body.size⟩

structure Metadata where
  threadable : Bool := false
  debugInfo : Bool := false
  dependencies : List Dependency := []
  pragmas : List Pragma := []
  objectSlots : List UInt32 := []
  globals : List ExportedVariable := []
  functionNames : List String := []
  kernels : List KernelEntry := []
  functions : List FunctionRecord := []
  deriving DecidableEq

namespace Metadata

def precision (metadata : Metadata) : Precision := .ofKeys (metadata.pragmas.map (·.key))

def otherPragmas (metadata : Metadata) : List Pragma :=
  metadata.pragmas.filter (!Precision.isKey ·.key)

/-- Replaces all pragmas that ask for a precision by the one that asks for this precision. -/
def setPrecision (metadata : Metadata) (precision : Precision) : Metadata :=
  { metadata with
    pragmas := metadata.otherPragmas ++ (precision.pragmaKey?.map (⟨·, ""⟩ : String → Pragma)).toList }

def findVariable? (metadata : Metadata) (name : String) : Option ExportedVariable :=
  metadata.globals.find? (·.name == name)

def findFunction? (metadata : Metadata) (name : String) : Option FunctionRecord :=
  metadata.functions.find? (·.name == name)

theorem relaxedKey_notMem_otherPragmas (metadata : Metadata) :
    Precision.relaxedKey ∉ metadata.otherPragmas.map (·.key) := by
  simp only [otherPragmas, List.mem_map, List.mem_filter, not_exists, not_and, and_imp]
  intro pragma _ kept same
  simp [Precision.isKey, same] at kept

theorem impreciseKey_notMem_otherPragmas (metadata : Metadata) :
    Precision.impreciseKey ∉ metadata.otherPragmas.map (·.key) := by
  simp only [otherPragmas, List.mem_map, List.mem_filter, not_exists, not_and, and_imp]
  intro pragma _ kept same
  simp [Precision.isKey, same] at kept

theorem precision_setPrecision (metadata : Metadata) (precision : Precision) :
    (metadata.setPrecision precision).precision = precision := by
  have relaxed := metadata.relaxedKey_notMem_otherPragmas
  have imprecise := metadata.impreciseKey_notMem_otherPragmas
  have distinct : Precision.impreciseKey ≠ Precision.relaxedKey := by decide
  cases precision <;>
    simp only [Metadata.precision, setPrecision, Precision.pragmaKey?, Option.map_some,
      Option.map_none, Option.toList, List.append_nil, List.map_append, List.map_cons, List.map_nil,
      Precision.ofKeys, List.mem_append, List.mem_singleton] <;>
    simp [relaxed, imprecise, distinct]

theorem otherPragmas_setPrecision (metadata : Metadata) (precision : Precision) :
    (metadata.setPrecision precision).otherPragmas = metadata.otherPragmas := by
  simp only [setPrecision, otherPragmas, List.filter_append, List.filter_filter, Bool.and_self]
  cases precision <;> simp [Precision.pragmaKey?, Precision.isKey]

end Metadata

end KernelStore
