import KernelStore.Artifact.InfoFile
import KernelStore.Digest.Json

/-!
Metadata files as JSON. Every field is there, in the order of its declaration.
-/

namespace KernelStore

def Bytes.toJson (bytes : Bytes) : Json := .array (bytes.map fun byte => .natural byte.toNat)

def Dependency.toJson (dependency : Dependency) : Json :=
  .object
    [ ("name", .text dependency.name)
    , ("kind", .text dependency.kind.name)
    , ("digest", dependency.digest.toJson) ]

def Pragma.toJson (pragma : Pragma) : Json :=
  .object [("key", .text pragma.key), ("value", .text pragma.value)]

def ExportedVariable.toJson (exported : ExportedVariable) : Json :=
  .object [("name", .text exported.name), ("address", .natural exported.address.toNat)]

def KernelEntry.toJson (kernel : KernelEntry) : Json :=
  .object [("name", .text kernel.name), ("signature", .natural kernel.signature.toNat)]

def FunctionRecord.toJson (function : FunctionRecord) : Json :=
  .object
    [ ("name", .text function.name)
    , ("address", .natural function.address.toNat)
    , ("size", .natural function.size.toNat) ]

def Metadata.toJson (metadata : Metadata) : Json :=
  .object
    [ ("threadable", .boolean metadata.threadable)
    , ("debug_info", .boolean metadata.debugInfo)
    , ("dependencies", .array (metadata.dependencies.map Dependency.toJson))
    , ("pragmas", .array (metadata.pragmas.map Pragma.toJson))
    , ("object_slots", .array (metadata.objectSlots.map fun slot => .natural slot.toNat))
    , ("export_vars", .array (metadata.globals.map ExportedVariable.toJson))
    , ("export_funcs", .array (metadata.functionNames.map .text))
    , ("export_foreach", .array (metadata.kernels.map KernelEntry.toJson))
    , ("functions", .array (metadata.functions.map FunctionRecord.toJson)) ]

def Host.toJson (host : Host) : Json :=
  .object
    [ ("endianness", .natural host.endianness.toNat)
    , ("off_t_size", .natural host.fileOffsetSize.toNat)
    , ("usize_size", .natural host.wordSize.toNat)
    , ("pointer_size", .natural host.pointerSize.toNat) ]

def SectionDescriptor.toJson (descriptor : SectionDescriptor) : Json :=
  .object
    [ ("offset", .natural descriptor.offset.toNat)
    , ("count", .natural descriptor.count.toNat)
    , ("item_size", .natural descriptor.itemSize.toNat) ]

def Header.toJson (header : Header) : Json :=
  .object
    [ ("magic", Bytes.toJson header.magic.val)
    , ("version", Bytes.toJson header.version.val)
    , ("host", header.host.toJson)
    , ("artifact_address", .natural header.imageAddress.toNat)
    , ("artifact_size", .natural header.imageSize.toNat)
    , ("checksum", .natural header.checksum.toNat)
    , ("flags", .natural header.flags.toNat)
    , ("string_data_size", .natural header.nameDataSize.toNat)
    , ("sections", .array (Section.all.map fun part => (header.sections.get part).toJson)) ]

def InfoFile.toJson (info : InfoFile) : Json :=
  .object [("header", info.header.toJson), ("metadata", info.metadata.toJson)]

end KernelStore
