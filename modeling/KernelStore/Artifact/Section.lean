/-!
The lists of a metadata file, in the order of its section table.
-/

namespace KernelStore

inductive Section
  | names
  | dependencies
  | pragmas
  | objectSlots
  | globals
  | functionNames
  | kernels
  | functions
  deriving DecidableEq

namespace Section

def all : List Section :=
  [.names, .dependencies, .pragmas, .objectSlots, .globals, .functionNames, .kernels, .functions]

def index (part : Section) : Nat := all.idxOf part

/-- The size of one record, which for names is an entry of the pool. -/
def itemSize : Section → UInt32
  | names => 8
  | dependencies => 28
  | pragmas => 8
  | objectSlots => 4
  | globals => 16
  | functionNames => 4
  | kernels => 8
  | functions => 16

def title : Section → String
  | names => "string pool"
  | dependencies => "dependency table"
  | pragmas => "pragma list"
  | objectSlots => "object slot list"
  | globals => "exported variables"
  | functionNames => "exported functions"
  | kernels => "exported kernels"
  | functions => "function table"

def key : Section → String
  | names => "string_pool"
  | dependencies => "dependency"
  | pragmas => "pragma"
  | objectSlots => "object_slot"
  | globals => "export_var"
  | functionNames => "export_func"
  | kernels => "export_foreach"
  | functions => "function"

theorem mem_all (part : Section) : part ∈ all := by cases part <;> decide

theorem nodup_all : all.Nodup := by decide

end Section

end KernelStore
