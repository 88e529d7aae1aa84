import KernelStore.Artifact.Json
import KernelStore.Artifact.Report
import KernelStore.CommandLine.Arguments
import KernelStore.Diagnostic.Json
import KernelStore.Settings.File
import KernelStore.Settings.Toggles
import KernelStore.Store.Lookup

/-!
The commands. Each reads files by a function that it is given, and yields what is written and the
exit code.
-/

namespace KernelStore.CommandLine

structure Report where
  code : Nat := 0
  output : String := ""
  errors : String := ""
  deriving DecidableEq

namespace Report

def failure (message : String) : Report where
  code := 1
  errors := s!"error: {message}\n"

/-- One report after another. The greater exit code counts. -/
def andThen (first second : Report) : Report where
  code := max first.code second.code
  output := first.output ++ second.output
  errors := first.errors ++ second.errors

end Report

/-- How a command reaches what lies outside it. -/
structure Surroundings (m : Type → Type) where
  read : String → m (Except FileError Bytes)
  environment : String → Option String

variable {m : Type → Type} [Monad m]

def inspect (read : String → m (Except FileError Bytes)) (path : String) (format : ReportFormat) :
    m Report := do
  match ← read path with
  | .error fault => return .failure fault.message
  | .ok content =>
      match InfoFile.parse content with
      | .error fault =>
          return .failure s!"{path} is not a valid cache file: {fault.message}"
      | .ok info =>
          match format with
          | .text => return { output := info.report }
          | .json => return { output := info.toJson.pretty ++ "\n" }

/-- The line for one file. A file that cannot be read has the zero digest. -/
def hashLine (path : String) (digest : Digest) : Report :=
  if digest.isZero then .failure s!"cannot read {path}"
  else { output := s!"{digest.hex}  {path}\n" }

def hash (read : String → m (Except FileError Bytes)) (paths : List String) : m Report := do
  let lines ← paths.mapM fun path => do return hashLine path (.ofReadable (← read path))
  return lines.foldl .andThen {}

/-- The settings in the file named, or in the working directory's if there is one. -/
def settings (read : String → m (Except FileError Bytes)) (config : Option String) :
    m (Except SettingsFileError Settings) := do
  match config with
  | some path => return Settings.ofFile (← read path)
  | none => return Settings.ofFileOrDefault (← read settingsFile)

/-- The dependencies that source files make, or what is wrong with the first that cannot be read. -/
def sourceDependencies (read : String → m (Except FileError Bytes)) :
    List String → m (Except String (List Dependency))
  | [] => return .ok []
  | path :: rest => do
      match SourceInput.ofFile path (← read path) with
      | .error fault => return .error s!"cannot read {path}: {fault.message}"
      | .ok source =>
          return (← sourceDependencies read rest).map (source.dependency :: ·)

def verdict (quiet coloured : Bool) (format : ReportFormat) (name : String)
    (outcome : Except Miss InfoFile) : Report :=
  let log := (DiagnosticLog.mk []).reportMiss outcome
  let (diagnostics, _) := log.takeAtLeast (if quiet then .warning else .info)
  let reported : Report := match format with
    | .text => { errors := String.join (diagnostics.map (·.render coloured ++ "\n")) }
    | .json => { output := String.join (diagnostics.map (·.json ++ "\n")) }
  match outcome with
  | .error _ => { reported with code := 1 }
  | .ok info =>
      if quiet || format != .text then reported
      else
        let metadata := info.metadata
        { reported with
          errors := s!"    Verified {name} ({metadata.dependencies.length} dependencies, "
            ++ s!"{metadata.functions.length} functions)\n" }

/-- Tells whether the stored kernel was built from the given sources and the libraries of the
settings. -/
def verify (around : Surroundings m) (invocation : Invocation) (directory : Option String)
    (name : String) (sources : List String) (format : ReportFormat) : m Report := do
  match ← settings around.read invocation.config with
  | .error fault => return .failure fault.message
  | .ok settings =>
      match Toggles.resolve settings.cache around.environment with
      | .error fault => return .failure fault.message
      | .ok toggles =>
          match Layout.ofSettings settings.memory with
          | .error fault => return .failure fault.message
          | .ok _ =>
              let runtime ← settings.cache.runtime.mapM (RuntimeLibrary.dependency around.read)
              match ← sourceDependencies around.read sources with
              | .error message => return .failure message
              | .ok sources =>
                  let paths := StoredPaths.inDirectory (directory.getD settings.cache.dir) name
                  let wanted : Wanted := ⟨runtime ++ sources, toggles.precision⟩
                  let coloured := match invocation.colour with
                    | .auto => (around.environment "TERM").isSome
                    | .always => true
                    | .never => false
                  let outcome := Lookup.check (← around.read paths.info) wanted
                  return verdict invocation.quiet coloured format name outcome

def versionLine : String := "kiln 0.1.0\n"

def usageLine : String := "usage: kiln [OPTIONS] inspect|hash|verify ...\n"

def execute (around : Surroundings m) (arguments : List String) : m Report :=
  match parse arguments with
  | .version => return { output := versionLine }
  | .usageError => return { code := 2, errors := usageLine }
  | .run invocation =>
      match invocation.command with
      | .inspect path format => inspect around.read path format
      | .hash paths => hash around.read paths
      | .verify directory name sources format =>
          verify around invocation directory name sources format

end KernelStore.CommandLine
