import KernelStore.Artifact.InfoFile
import KernelStore.Text.Padding

/-!
The report on a metadata file: one fact or list to a line, the items of a list indented below it.
-/

namespace KernelStore.InfoFile

def bracketed (numbers : List UInt32) : String :=
  "[" ++ ", ".intercalate (numbers.map fun number => toString number.toNat) ++ "]"

def reportDependency (dependency : Dependency) : String :=
  s!"  {dependency.digest.hex}  " ++ Field.fit ⟨.left, 7, none, ' '⟩ dependency.kind.name
    ++ s!"  {dependency.name}"

def reportPragma (pragma : Pragma) : String := s!"  {pragma.key} = {Text.quoted pragma.value}"

def reportVariable (exported : ExportedVariable) : String :=
  s!"  {Hexadecimal.address exported.address.toNat}  {exported.name}"

def reportKernel (kernel : KernelEntry) : String :=
  s!"  {kernel.name} sig={Hexadecimal.address kernel.signature.toNat}"

def reportFunction (function : FunctionRecord) : String :=
  s!"  {Hexadecimal.address function.address.toNat}  "
    ++ Field.fit ⟨.right, 6, none, ' '⟩ (toString function.size.toNat) ++ s!"  {function.name}"

def reportList {α : Type} (title : String) (line : α → String) (items : List α) : List String :=
  s!"{title} ({items.length})" :: items.map line

def reportLines (info : InfoFile) : List String :=
  let header := info.header
  let metadata := info.metadata
  [ s!"address      {Hexadecimal.address header.imageAddress.toNat}"
  , s!"size         {header.imageSize.toNat}"
  , s!"checksum     {Hexadecimal.padded 8 header.checksum.toNat}"
  , s!"flags        threadable={header.threadable} debug_info={metadata.debugInfo}"
  , s!"precision    {metadata.precision.name}" ]
  ++ reportList "dependencies" reportDependency metadata.dependencies
  ++ reportList "pragmas" reportPragma metadata.pragmas
  ++ [s!"object slots {bracketed metadata.objectSlots}"]
  ++ reportList "export vars" reportVariable metadata.globals
  ++ ["export funcs " ++ ", ".intercalate metadata.functionNames]
  ++ reportList "kernels" reportKernel metadata.kernels
  ++ reportList "functions" reportFunction metadata.functions

def report (info : InfoFile) : String := String.join (info.reportLines.map (· ++ "\n"))

end KernelStore.InfoFile
