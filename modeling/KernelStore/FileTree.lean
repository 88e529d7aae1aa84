import KernelStore.FileTree.Entry
import KernelStore.FileTree.Path
import KernelStore.Text.Utf8

/-!
A tree of files and directories, and the calls that read and change it. A call that fails changes
nothing, with two exceptions: making a directory with its parents keeps the parents it has made, and
a directory that cannot be removed is left empty.
-/

namespace KernelStore

inductive FileError
  | notFound
  | alreadyExists
  | notDirectory
  | isDirectory
  | nameTooLong
  | zeroCharacter
  | notUtf8
  | other (detail : String)
  deriving DecidableEq

def FileError.message : FileError → String
  | notFound => "No such file or directory (os error 2)"
  | alreadyExists => "File exists (os error 17)"
  | notDirectory => "Not a directory (os error 20)"
  | isDirectory => "Is a directory (os error 21)"
  | nameTooLong => "File name too long (os error 36)"
  | zeroCharacter => "file name contained an unexpected NUL byte"
  | notUtf8 => "stream did not contain valid UTF-8"
  | other detail => detail

/-- Takes content that was read for a text. -/
def FileError.asText (content : Except FileError Bytes) : Except FileError String :=
  match content with
  | .error fault => .error fault
  | .ok bytes =>
      match Utf8.decode? bytes with
      | some text => .ok text
      | none => .error .notUtf8

/-- How the disk takes the content of a new file: all of it, or so many bytes and then a fault. -/
structure Disk where
  refusal? : String → Content → Option (Nat × FileError)

def Disk.standard : Disk where
  refusal? _ _ := none

structure FileTree where
  entries : List (String × Entry) := []
  /-- Where paths start that do not start at the root. -/
  workingDirectory : Location := []
  /-- The size that the system reports for a directory with these entries. -/
  directorySize : List (String × Entry) → Nat := fun _ => 4096

namespace FileTree

/-! ### Entries -/

def root (tree : FileTree) : Entry := .directory tree.entries

def entryAt? (tree : FileTree) (location : Location) : Option Entry := tree.root.at? location

def isDirectory (tree : FileTree) (location : Location) : Bool := tree.root.isDirectoryAt location

def set (tree : FileTree) (location : Location) (entry : Entry) : FileTree :=
  { tree with entries := (tree.root.put entry location).entries }

/-- Removes what is at a location, with all that is in it. -/
def erase (tree : FileTree) (location : Location) : FileTree :=
  { tree with entries := (tree.root.put none location).entries }

def empty (tree : FileTree) (location : Location) : FileTree :=
  if location = [] then { tree with entries := [] } else tree.set location (.directory [])

/-! ### Finding the place of a path -/

/-- Names may have this many bytes, and paths fewer than `pathLimit`. -/
def nameLimit : Nat := 255

def pathLimit : Nat := 4096

def named (directory : Location) (name : String) : Except FileError Location :=
  if nameLimit < name.utf8ByteSize then .error .nameTooLong else .ok (directory ++ [name])

/-- The entry of a name in a directory, with its location. -/
def entryNamed (tree : FileTree) (directory : Location) (name : String) :
    Except FileError (Location × Entry) := do
  let location ← named directory name
  match tree.entryAt? location with
  | none => throw .notFound
  | some entry => return (location, entry)

def advance (tree : FileTree) (location : Location) : FilePath.Step → Except FileError Location
  | .here => .ok location
  | .up => .ok location.dropLast
  | .down name => (tree.entryNamed location name).map (·.1)

def follow (tree : FileTree) (location : Location) : List FilePath.Step → Except FileError Location
  | [] => if tree.isDirectory location then .ok location else .error .notDirectory
  | step :: rest =>
      if tree.isDirectory location then
        match tree.advance location step with
        | .error fault => .error fault
        | .ok next => tree.follow next rest
      else .error .notDirectory

inductive Place
  /-- A name in a directory, whether or not there is an entry. After a closing stroke the entry
  has to be a directory. -/
  | entry (directory : Location) (name : String) (closed : Bool)
  | directory (location : Location)

/-- Why no path has this text. -/
def pathFault? (path : String) : Option FileError :=
  if path.toList.contains '\x00' then some .zeroCharacter
  else if path == "" then some .notFound
  else if pathLimit ≤ path.utf8ByteSize then some .nameTooLong
  else none

def start (tree : FileTree) (path : String) : Location :=
  if FilePath.isAbsolute path then [] else tree.workingDirectory

/-- The place of a path. All directories on the way have to be there. -/
def place (tree : FileTree) (path : String) : Except FileError Place :=
  match pathFault? path with
  | some fault => .error fault
  | none =>
      let steps := FilePath.steps path
      match tree.follow (tree.start path) steps.dropLast with
      | .error fault => .error fault
      | .ok directory =>
          match steps.getLast? with
          | some (.down name) => .ok (.entry directory name (FilePath.isClosed path))
          | some .up => .ok (.directory directory.dropLast)
          | some .here | none => .ok (.directory directory)

def find (tree : FileTree) (path : String) : Except FileError (Location × Entry) :=
  match tree.place path with
  | .error fault => .error fault
  | .ok (.directory location) =>
      match tree.entryAt? location with
      | none => .error .notFound
      | some entry => .ok (location, entry)
  | .ok (.entry directory name closed) =>
      match tree.entryNamed directory name with
      | .error fault => .error fault
      | .ok (location, entry) =>
          if closed && !entry.isDirectory then .error .notDirectory
          else .ok (location, entry)

/-! ### Reading -/

def openFile (tree : FileTree) (path : String) : Except FileError Entry :=
  (tree.find path).map (·.2)

def content (tree : FileTree) (path : String) : Except FileError Content :=
  match tree.find path with
  | .error fault => .error fault
  | .ok (_, .directory _) => .error .isDirectory
  | .ok (_, .file content) => .ok content

def read (tree : FileTree) (path : String) : Except FileError Bytes :=
  (tree.content path).map Content.bytes

def list (tree : FileTree) (path : String) : Except FileError (List String) :=
  match tree.find path with
  | .error fault => .error fault
  | .ok (_, .file _) => .error .notDirectory
  | .ok (_, .directory entries) =>
      .ok ((entries.map (·.1)).mergeSort fun a b => !decide (b < a))

/-! ### Changing -/

def createNew (tree : FileTree) (path : String) (content : Content) : Except FileError FileTree :=
  match tree.place path with
  | .error fault => .error fault
  | .ok (.directory _) => .error .alreadyExists
  | .ok (.entry directory name closed) =>
      if closed then .error .isDirectory
      else match named directory name with
        | .error fault => .error fault
        | .ok location =>
            if (tree.entryAt? location).isSome then .error .alreadyExists
            else .ok (tree.set location (.file content))

/-- Makes a file that was not there before and writes to it. If the disk refuses, what it took is
left. -/
def createAndWrite (tree : FileTree) (disk : Disk) (path : String) (content : Content) :
    Except FileError Unit × FileTree :=
  match disk.refusal? path content with
  | none =>
      match tree.createNew path content with
      | .error fault => (.error fault, tree)
      | .ok made => (.ok (), made)
  | some (taken, refusal) =>
      match tree.createNew path (content.take taken) with
      | .error fault => (.error fault, tree)
      | .ok made => (.error refusal, made)

def write (tree : FileTree) (path : String) (content : Content) : Except FileError FileTree :=
  match tree.place path with
  | .error fault => .error fault
  | .ok (.directory _) => .error .isDirectory
  | .ok (.entry directory name closed) =>
      if closed then .error .isDirectory
      else match named directory name with
        | .error fault => .error fault
        | .ok location =>
            if tree.isDirectory location then .error .isDirectory
            else .ok (tree.set location (.file content))

def modify (tree : FileTree) (path : String) (change : Content → Content) :
    Except FileError FileTree :=
  match tree.find path with
  | .error fault => .error fault
  | .ok (_, .directory _) => .error .isDirectory
  | .ok (location, .file content) => .ok (tree.set location (.file (change content)))

def unlink (tree : FileTree) (path : String) : Except FileError FileTree :=
  match tree.find path with
  | .error fault => .error fault
  | .ok (_, .directory _) => .error .isDirectory
  | .ok (location, .file _) => .ok (tree.erase location)

/-- Removes a file if there is one, and does nothing otherwise. -/
def discard (tree : FileTree) (path : String) : FileTree :=
  match tree.unlink path with
  | .ok changed => changed
  | .error _ => tree

/-- What comes of removing an empty directory that a path calls by dots, or by a lone stroke. Only a
name can be removed; but if the way to the dots is gone as well, nothing is left to do. -/
def removeUnnamed (tree : FileTree) (path : String) : Except FileError Unit :=
  let steps := FilePath.steps path
  match tree.follow (tree.start path) steps.dropLast with
  | .error .notFound => .ok ()
  | .error fault => .error fault
  | .ok _ =>
      .error <| .other <| match steps.getLast? with
        | some .here => "Invalid argument (os error 22)"
        | some .up => "Directory not empty (os error 39)"
        | _ => "Device or resource busy (os error 16)"

def removeAll (tree : FileTree) (path : String) : Except FileError Unit × FileTree :=
  match tree.find path with
  | .error fault => (.error fault, tree)
  | .ok (location, .file _) => (.ok (), tree.erase location)
  | .ok (location, .directory _) =>
      match (FilePath.steps path).getLast? with
      | some (.down _) => (.ok (), tree.erase location)
      | _ =>
          let emptied := tree.empty location
          (emptied.removeUnnamed path, emptied)

/-- Makes the directories that are missing on the way that steps describe. Once one has been made
(`made`), a file in the way is refused under its own name, and before that as part of the way. A
directory is not made for the dots behind it. -/
def makeWay (tree : FileTree) (made : Bool) (location : Location) :
    List FilePath.Step → Except FileError Unit × FileTree
  | [] => (.ok (), tree)
  | .here :: rest => tree.makeWay made location rest
  | .up :: rest => tree.makeWay made location.dropLast rest
  | .down name :: rest =>
      let dotted := !rest.isEmpty && rest.all (· == .here)
      match named location name with
      | .error fault => (.error fault, tree)
      | .ok next =>
          match tree.entryAt? next with
          | some (.directory _) => tree.makeWay made next rest
          | some (.file _) =>
              let alone := rest.isEmpty || (made && !dotted)
              (.error (if alone then .alreadyExists else .notDirectory), tree)
          | none =>
              if dotted then (.error .notFound, tree)
              else (tree.set next (.directory [])).makeWay true next rest

/-- Makes a directory and those above it that are missing. The empty path has been made already. -/
def makeDirectories (tree : FileTree) (path : String) : Except FileError Unit × FileTree :=
  if path == "" then (.ok (), tree)
  else match pathFault? path with
    | some fault => (.error fault, tree)
    | none =>
        if tree.isDirectory (tree.start path) then
          tree.makeWay false (tree.start path) (FilePath.steps path)
        else (.error .notDirectory, tree)

end FileTree

end KernelStore
