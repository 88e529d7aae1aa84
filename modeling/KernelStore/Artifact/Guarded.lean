import KernelStore.Artifact.InfoFile

/-!
Reading a metadata file with a guard before every step that could go wrong in another way than by
a fault of the file: looking up a part of an array, adding and multiplying, making room, and relying
on bytes that the check of the header has counted. A reader's own moves need no guard: it looks
before it moves on, so that running past the end, or past all positions, is a short read.
-/

namespace KernelStore

/-- What no file may lead to. -/
inductive Hazard
  | index (size index : Nat)
  | slice (size start stop : Nat)
  | overflow
  /-- Room for more records than the file could hold. -/
  | reservation (part : Section)
  /-- A list that begins beyond the end of the file. -/
  | noSection (part : Section)
  /-- A list that goes on beyond the end of the file. -/
  | shortRead (part : Section)
  deriving DecidableEq

/-- Steps that end in a value, in a fault or in a hazard. -/
abbrev Guarded (ε : Type) := ExceptT ε (Except Hazard)

namespace Guarded

variable {ε φ α : Type}

def hazard (hazard : Hazard) : Guarded ε α := ExceptT.mk (.error hazard)

def ofExcept (outcome : Except ε α) : Guarded ε α := ExceptT.mk (.ok outcome)

def mapError (change : ε → φ) (steps : Guarded ε α) : Guarded φ α :=
  ExceptT.mk (steps.run.map (·.mapError change))

/-! ### Guards -/

/-- A number of 64 bits. -/
def long (value : Nat) : Guarded ε Nat :=
  if value < addressLimit then return value else hazard .overflow

def element (items : Array α) (index : Nat) : Guarded ε α :=
  match items[index]? with
  | some item => return item
  | none => hazard (.index items.size index)

def slice (items : Array α) (start stop : Nat) : Guarded ε (Array α) :=
  if start ≤ stop ∧ stop ≤ items.size then return items.extract start stop
  else hazard (.slice items.size start stop)

/-- Makes room for records of a list. -/
def reserve (file : Bytes) (part : Section) (count : Nat) : Guarded ε Unit :=
  if count * part.itemSize.toNat ≤ file.length then return () else hazard (.reservation part)

/-! ### The header -/

def descriptor (header : Header) (part : Section) : Guarded ε SectionDescriptor :=
  element (Section.all.map header.sections.get).toArray part.index

def sectionStop (header : Header) (part : Section) (descriptor : SectionDescriptor) :
    Guarded ε Nat := do
  let size ← long (descriptor.count.toNat * descriptor.itemSize.toNat)
  let stop ← long (descriptor.offset.toNat + size)
  if part = .names then long (stop + header.nameDataSize.toNat) else return stop

def checkSection (header : Header) (fileSize : Nat) (part : Section) : Guarded InfoFault Unit := do
  let descriptor ← descriptor header part
  ofExcept (require (descriptor.itemSize == part.itemSize) (.itemSize part descriptor.itemSize))
  ofExcept (require (descriptor.offset.toNat % wordAlignment == 0) (.misaligned part))
  let stop ← sectionStop header part descriptor
  ofExcept (require (Header.size ≤ descriptor.offset.toNat && stop ≤ fileSize) (.outOfBounds part))

def checkSections (header : Header) (fileSize : Nat) : List Section → Guarded InfoFault Unit
  | [] => return ()
  | part :: rest => do
      checkSection header fileSize part
      checkSections header fileSize rest

def check (header : Header) (fileSize : Nat) : Guarded InfoFault Unit := do
  ofExcept (require (header.magic == Header.currentMagic) .magic)
  ofExcept (require (header.version == Header.currentVersion)
    (.version (Utf8.decodeLossy header.version.val)))
  ofExcept (Header.checkHost header.host)
  checkSections header fileSize Section.all

/-! ### Lists -/

def fromSection (header : Header) (file : Bytes) (part : Section) : Guarded ε Bytes := do
  let descriptor ← descriptor header part
  match Cursor.at? file descriptor.offset.toNat with
  | some cursor => return cursor.rest
  | none => hazard (.noSection part)

/-- The end of a name is compared with the end of the data before anything is looked up. -/
def nameAt (data : Array UInt8) (offset length : UInt32) : Guarded NameFault String := do
  let stop := offset.toNat + length.toNat
  if addressLimit ≤ stop ∨ data.size ≤ stop then throw .outside
  if (← element data stop) ≠ 0 then throw .unterminated
  match Utf8.decode? (← slice data offset.toNat stop).toList with
  | none => throw .notUtf8
  | some name => return name

def namesFrom (data : Array UInt8) (index : Nat) :
    List (UInt32 × UInt32) → Guarded (Nat × NameFault) (List String)
  | [] => return []
  | (offset, length) :: rest => do
      let name ← mapError (index, ·) (nameAt data offset length)
      return name :: (← namesFrom data (index + 1) rest)

def readNames (header : Header) (file : Bytes) : Guarded InfoFault (List String) := do
  let count := (← descriptor header .names).count.toNat
  let input ← fromSection header file .names
  reserve file .names count
  match InfoFile.readEntries count input with
  | none => hazard (.shortRead .names)
  | some (entries, behind) =>
      match Reading.take header.nameDataSize.toNat behind with
      | none => hazard (.shortRead .names)
      | some (data, _) =>
          reserve file .names entries.length
          mapError (fun (index, fault) => .names (fault.message index))
            (namesFrom data.toArray 0 entries)

def readRecords (header : Header) (file : Bytes) (part : Section) (reading : RecordReading α) :
    Guarded InfoFault (List α) := do
  let count := (← descriptor header part).count.toNat
  let input ← fromSection header file part
  reserve file part count
  match RecordReading.many reading count 0 input with
  | .ok items => return items
  | .error (_, .truncated) => hazard (.shortRead part)
  | .error (index, _) => throw (.record part index)

def readLists (header : Header) (file : Bytes) (names : Array String) :
    Guarded InfoFault Metadata := do
  return {
    threadable := header.threadable
    debugInfo := header.debugInfo
    dependencies := ← readRecords header file .dependencies (.dependency names)
    pragmas := ← readRecords header file .pragmas (.pragma names)
    objectSlots := ← readRecords header file .objectSlots .objectSlot
    globals := ← readRecords header file .globals (.exportedVariable header names)
    functionNames := ← readRecords header file .functionNames (.name names)
    kernels := ← readRecords header file .kernels (.kernelEntry names)
    functions := ← readRecords header file .functions (.function header names) }

/-! ### The file -/

def parse (file : Bytes) : Guarded InfoFault InfoFile := do
  if file.length < Header.size then throw .tooSmall
  match Header.reading file with
  | none => throw .tooSmall
  | some (header, _) =>
      check header file.length
      let names ← readNames header file
      return ⟨header, ← readLists header file names.toArray⟩

end Guarded

end KernelStore
