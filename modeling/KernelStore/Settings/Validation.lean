import KernelStore.Bytes
import KernelStore.Settings
import KernelStore.Text.Hexadecimal

/-!
What settings have to satisfy beyond their form: slots that are page-aligned and lie within the
address space, and libraries whose digest can be found.
-/

namespace KernelStore

inductive SlotPart
  | code
  | data
  deriving DecidableEq

def SlotPart.settingName : SlotPart → String
  | code => "code_size"
  | data => "data_size"

inductive SettingsFault
  | noSlots
  | baseAddress (address : Nat)
  | partSize (part : SlotPart) (size : Nat)
  | gotSize (got code : Nat)
  | pastAddressSpace
  | namelessLibrary
  | libraryWithoutDigest (name : String)
  deriving DecidableEq

namespace SettingsFault

def detail : SettingsFault → String
  | noSlots => "memory.slot_count must be non-zero"
  | baseAddress address =>
      s!"memory.base_address {Hexadecimal.address address} must be a non-zero multiple of "
        ++ Hexadecimal.address pageSize
  | partSize part size =>
      s!"memory.{part.settingName} {size} must be a non-zero multiple of {pageSize}"
  | gotSize got code =>
      s!"memory.got_size {got} must be smaller than memory.code_size {code}"
  | pastAddressSpace => "memory slots extend past the end of the address space"
  | namelessLibrary => "cache.runtime entry has an empty name"
  | libraryWithoutDigest name =>
      s!"cache.runtime '{name}' needs either `path` or `digest_file`"

def message (fault : SettingsFault) : String := "validation error: " ++ fault.detail

end SettingsFault

def isPages (size : Nat) : Bool := size != 0 && size % pageSize == 0

namespace Settings

def memoryFault? (memory : MemorySettings) : Option SettingsFault :=
  if memory.slotCount = 0 then some .noSlots
  else if !isPages memory.baseAddress then some (.baseAddress memory.baseAddress)
  else if !isPages memory.codeSize then some (.partSize .code memory.codeSize)
  else if !isPages memory.dataSize then some (.partSize .data memory.dataSize)
  else if memory.codeSize ≤ memory.gotSize then some (.gotSize memory.gotSize memory.codeSize)
  else if addressLimit ≤ memory.slotSize * memory.slotCount + memory.baseAddress then
    some .pastAddressSpace
  else none

def libraryFault? (library : RuntimeLibrary) : Option SettingsFault :=
  if library.name = "" then some .namelessLibrary
  else if library.path.isNone && library.digestFile.isNone then
    some (.libraryWithoutDigest library.name)
  else none

def fault? (settings : Settings) : Option SettingsFault :=
  (memoryFault? settings.memory).or (settings.cache.runtime.findSome? libraryFault?)

end Settings

end KernelStore
