import KernelStore.Precision

/-!
Settings of a store: where slots lie in memory, where cached kernels lie on disk, and which shared
libraries every kernel depends on. Each has a default.
-/

namespace KernelStore

/-- Where slots lie. Processes share cached kernels only if these agree. -/
structure MemorySettings where
  baseAddress : Nat := 0x600000000000
  slotCount : Nat := 8
  codeSize : Nat := 131072
  dataSize : Nat := 131072
  gotSize : Nat := 1024
  deriving DecidableEq

def MemorySettings.slotSize (memory : MemorySettings) : Nat := memory.codeSize + memory.dataSize

/-- A shared library. Its digest is stored in a file of its own, or taken from the library. -/
structure RuntimeLibrary where
  name : String
  path : Option String := none
  digestFile : Option String := none
  deriving DecidableEq

structure CacheSettings where
  dir : String := ".kiln-cache"
  enabled : Bool := true
  /-- Compile even what is cached, and cache it again. -/
  forceRecompile : Bool := false
  precision : Option Precision := none
  runtime : List RuntimeLibrary := []
  deriving DecidableEq

structure Settings where
  memory : MemorySettings := {}
  cache : CacheSettings := {}
  deriving DecidableEq

def settingsFile : String := "kiln.toml"

end KernelStore
