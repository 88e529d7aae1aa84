import KernelStore.Proofs.Artifact.Acceptance
import KernelStore.Proofs.Artifact.RoundTrip

/-!
Writing again what was read. Files that are accepted can say one thing in many ways: sections may
overlap and come in any order, names may lie within one another or go unused, and flags and bytes
may stand for nothing. Main statement: what was read is written in one way, and that is read as the
same again.
-/

namespace KernelStore

open InfoFormat

namespace InfoFile

variable {file : Bytes} {info : InfoFile} (accepted : parse file = .ok info)

include accepted

/-- Of the flags those are kept that have a meaning. -/
theorem flags_of_parse :
    info.metadata.flags =
      info.header.flags &&& (Header.threadableFlag ||| Header.debugInfoFlag) := by
  obtain ⟨⟨header, metadata⟩, _⟩ := parse_ok_reads accepted
  have threadable : Header.threadableFlag.toNat = 2 ^ 0 := rfl
  have debugInfo : Header.debugInfoFlag.toNat = 2 ^ 1 := rfl
  have apart (flags first second : UInt32) :
      flags &&& (first ||| second) = flags &&& first ||| flags &&& second := by
    apply UInt32.toNat_inj.mp
    simp only [UInt32.toNat_and, UInt32.toNat_or, Nat.and_or_distrib_left]
  rw [header, metadata, apart, Header.and_flag_eq _ threadable, Header.and_flag_eq _ debugInfo]
  rfl

/-- The size of a function was read from four bytes. -/
theorem functionSize_of_parse :
    ∀ function ∈ info.metadata.functions, function.size.toNat < 2 ^ 32 := by
  obtain ⟨⟨_, metadata⟩, _⟩ := parse_ok_reads accepted
  rw [metadata]
  intro function member
  obtain ⟨index, _, rfl⟩ := mem_listOf member
  rw [functionAt, UInt32.toNat_toUInt64]
  exact UInt32.toNat_lt _

/-- In a header for the same range of addresses nothing lies outside the image. -/
theorem nothing_outside_of_parse {header : Header}
    (address : header.imageAddress = info.header.imageAddress)
    (size : header.imageSize = info.header.imageSize) :
    info.metadata.firstOutside? header = none := by
  obtain ⟨_, functions, globals⟩ := parse_ok_inside accepted
  have same (start length : Nat) (inside : info.header.Encloses start length) :
      header.holds start length = true := by
    rw [Header.holds_iff, Header.Encloses, address, size]
    exact inside
  apply Metadata.firstOutside?_eq_none
  · intro exported member
    exact same _ _ (globals exported member)
  · intro function member
    exact same _ _ (functions function member)

end InfoFile

/-- Whatever is read of a file that is accepted is read again, with its image's range of addresses
and the flags that have a meaning, of what is written for it, and that is written for it each time.
It is never the size of a function that keeps it from being written. -/
theorem accepted_is_normalised (file : Bytes) (info : InfoFile)
    (accepted : InfoFile.parse file = .ok info) (image : Content)
    (sized : image.size = info.header.imageSize.toNat) :
    (∀ again, info.metadata.encode info.header.imageAddress image = .ok again →
      ∃ other, InfoFile.parse again = .ok other ∧ other.metadata = info.metadata ∧
        other.header.imageAddress = info.header.imageAddress ∧
        other.header.imageSize = info.header.imageSize ∧
        other.header.flags =
          info.header.flags &&& (Header.threadableFlag ||| Header.debugInfoFlag) ∧
        other.metadata.encode other.header.imageAddress image = .ok again) ∧
    ∀ fault, info.metadata.encode info.header.imageAddress image = .error fault →
      fault.quantity ≠ .functionSize := by
  constructor
  · intro again written
    obtain ⟨fits, same⟩ := (info.metadata.encode_eq_ok_iff _ image again).mp written
    have size : UInt64.ofNat image.size = info.header.imageSize := by
      rw [sized, UInt64.ofNat_toNat]
    have inside : info.metadata.firstOutside?
        (info.metadata.headerFor info.header.imageAddress image) = none :=
      InfoFile.nothing_outside_of_parse accepted rfl size
    have read := Metadata.parse_fileFor fits info.header.imageAddress image
    rw [inside, ← same] at read
    exact ⟨_, read, rfl, rfl, size, InfoFile.flags_of_parse accepted, written⟩
  · intro fault refused named
    have cause := info.metadata.notHeld_encode _ image fault refused
    obtain ⟨function, member, size⟩ := cause.function named
    have small := InfoFile.functionSize_of_parse accepted function member
    have large := cause.large
    omega

/-- All sections but that of the functions share the entries of the names. -/
def overlappingHeader : Header where
  magic := Header.currentMagic
  version := Header.currentVersion
  host := Host.current
  imageAddress := 0xfffffffffffffffc
  imageSize := 4
  checksum := 7
  flags := 0xfffffffe
  nameDataSize := 3
  sections := .ofFn fun
    | .names => ⟨140, 3, 8⟩
    | .pragmas => ⟨140, 1, 8⟩
    | .functionNames => ⟨140, 6, 4⟩
    | .kernels => ⟨148, 2, 8⟩
    | .functions => ⟨168, 1, 16⟩
    | part => ⟨140, 0, part.itemSize⟩

/-- The second name lies in the first, the third is the second again, and the last byte is in no
section. -/
def overlappingFile : Bytes :=
  overlappingHeader.encode ++ [0, 2, 1, 1, 1, 1].flatMap LittleEndian.ofUInt32
    ++ Utf8.encode "ab" ++ [0, 0]
    ++ LittleEndian.ofUInt64 0xffffffffffffffff ++ [0, 1].flatMap LittleEndian.ofUInt32 ++ [9]

/-- The only function is an empty one behind the last address that the image can have. -/
def overlappingMetadata : Metadata where
  debugInfo := true
  pragmas := [⟨"ab", "b"⟩]
  functionNames := ["ab", "b", "b", "b", "b", "b"]
  kernels := [⟨"b", 1⟩, ⟨"b", 1⟩]
  functions := [⟨"b", 0xffffffffffffffff, 0⟩]

theorem accepted_is_normalised_overlapping :
    InfoFile.parse overlappingFile = .ok ⟨overlappingHeader, overlappingMetadata⟩ ∧
      ∃ again other,
        overlappingMetadata.encode 0xfffffffffffffffc (.ofBytes [1, 2, 3, 4]) = .ok again ∧
        InfoFile.parse again = .ok other ∧ other.metadata = overlappingMetadata ∧
        other.header.flags = 2 ∧
        other.metadata.encode 0xfffffffffffffffc (.ofBytes [1, 2, 3, 4]) = .ok again := by
  have accepted :
      InfoFile.parse overlappingFile = .ok ⟨overlappingHeader, overlappingMetadata⟩ := by
    decide +kernel
  obtain ⟨normalised, _⟩ := accepted_is_normalised _ _ accepted (.ofBytes [1, 2, 3, 4]) (by decide)
  have fits : overlappingMetadata.Fits :=
    ⟨by decide, by intro part; cases part <;> decide, by decide, by decide, by decide, by decide⟩
  have written := (overlappingMetadata.encode_eq_ok_iff 0xfffffffffffffffc (.ofBytes [1, 2, 3, 4])
    _).mpr ⟨fits, rfl⟩
  obtain ⟨other, read, same, address, _, flags, again⟩ := normalised _ written
  rw [address] at again
  exact ⟨accepted, _, other, written, read, same, flags, again⟩

end KernelStore
