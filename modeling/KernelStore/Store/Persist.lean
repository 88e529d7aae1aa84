import KernelStore.Artifact.Encoding
import KernelStore.Store.Lookup

/-!
Writing a kernel's two files. What was there is removed first and never overwritten, so that
mappings of it keep their contents. If one of the files cannot be written, neither is left.
-/

namespace KernelStore

inductive PersistFault
  | notFixed
  | tooLarge (fault : TooLarge)
  | file (path : String) (fault : FileError)
  deriving DecidableEq

def PersistFault.message : PersistFault → String
  | notFixed => "kernel is not in a fixed slot and cannot be cached"
  | tooLarge fault => fault.message
  | file path fault => s!"cache I/O error at {path}: {fault.message}"

namespace Persist

/-- Makes the directory of a path, and removes the file that is at the path. -/
def clear (files : FileTree) (path : String) : Except PersistFault Unit × FileTree :=
  match FilePath.parent? path with
  | none => (.ok (), files.discard path)
  | some directory =>
      match files.makeDirectories directory with
      | (.error fault, files) => (.error (.file directory fault), files)
      | (.ok (), files) => (.ok (), files.discard path)

/-- Makes the two files, neither of which is there. -/
def create (files : FileTree) (disk : Disk) (paths : StoredPaths) (info image : Content) :
    Except PersistFault Unit × FileTree :=
  match files.createAndWrite disk paths.info info with
  | (.error fault, files) => (.error (.file paths.info fault), files)
  | (.ok (), files) =>
      match files.createAndWrite disk paths.object image with
      | (.error fault, files) => (.error (.file paths.object fault), files)
      | (.ok (), files) => (.ok (), files)

def replace (files : FileTree) (disk : Disk) (paths : StoredPaths) (info image : Content) :
    Except PersistFault Unit × FileTree :=
  match clear files paths.info with
  | (.error fault, files) => (.error fault, files)
  | (.ok (), files) =>
      match clear files paths.object with
      | (.error fault, files) => (.error fault, files)
      | (.ok (), files) =>
          match create files disk paths info image with
          | (.ok (), files) => (.ok (), files)
          | (.error fault, files) => (.error fault, (files.discard paths.info).discard paths.object)

def write (files : FileTree) (disk : Disk) (paths : StoredPaths) (lease : Lease)
    (metadata : Metadata) : Except PersistFault Unit × FileTree :=
  if lease.isFixed then
    match metadata.encode (UInt64.ofNat lease.address) lease.content with
    | .error fault => (.error (.tooLarge fault), files)
    | .ok info => replace files disk paths (.ofBytes info) lease.content
  else (.error .notFixed, files)

end Persist

end KernelStore
