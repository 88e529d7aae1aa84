import KernelStore.FileTree
import KernelStore.Settings.Reading

/-!
Settings from a file. Where the file may be missing, a missing one stands for the defaults.
-/

namespace KernelStore

inductive SettingsFileError
  | file (fault : FileError)
  | content (fault : SettingsError)
  deriving DecidableEq

def SettingsFileError.message : SettingsFileError → String
  | file fault => s!"failed to read configuration: {fault.message}"
  | content fault => fault.message

namespace Settings

def path (directory : String) : String := FilePath.join directory settingsFile

def ofFile (content : Except FileError Bytes) : Except SettingsFileError Settings :=
  match FileError.asText content with
  | .error fault => .error (.file fault)
  | .ok text => (read text).mapError .content

def ofFileOrDefault (content : Except FileError Bytes) : Except SettingsFileError Settings :=
  match content with
  | .error .notFound => .ok {}
  | _ => ofFile content

end Settings

end KernelStore
