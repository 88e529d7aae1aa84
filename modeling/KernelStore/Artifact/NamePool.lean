import KernelStore.Text.Utf8

/-!
Name pools: each name of a metadata file is stored once, and records refer to it by its index. In
the file a pool is a list of entries, offset and length, and then the names themselves, each
followed by a zero byte.
-/

namespace KernelStore

/-- Names in the order of their first use. -/
structure NamePool where
  names : List String := []
  distinct : names.Nodup := by simp
  deriving DecidableEq

namespace NamePool

def insert (pool : NamePool) (name : String) : NamePool :=
  if present : name ∈ pool.names then pool
  else
    { names := pool.names ++ [name]
      distinct := by
        rw [List.nodup_append]
        refine ⟨pool.distinct, by simp, ?_⟩
        intro a member b single same
        simp only [List.mem_singleton] at single
        exact present (single ▸ same ▸ member) }

def indexOf (pool : NamePool) (name : String) : Nat := pool.names.idxOf name

/-- Adds a name if need be, and yields its index. -/
def intern (pool : NamePool) (name : String) : Nat × NamePool :=
  let pool := pool.insert name
  (pool.indexOf name, pool)

def ofNames (names : List String) : NamePool := names.foldl insert {}

/-- The entries of names whose bytes begin at an offset. -/
def entriesFrom (offset : Nat) : List String → List (Nat × Nat)
  | [] => []
  | name :: rest =>
      (offset, name.utf8ByteSize) :: entriesFrom (offset + name.utf8ByteSize + 1) rest

def entries (pool : NamePool) : List (Nat × Nat) := entriesFrom 0 pool.names

def data (pool : NamePool) : Bytes := pool.names.flatMap fun name => Utf8.encode name ++ [0]

theorem mem_insert (pool : NamePool) (name : String) : name ∈ (pool.insert name).names := by
  unfold insert
  split
  · assumption
  · simp

end NamePool

inductive NameFault
  | outside
  | unterminated
  | notUtf8
  deriving DecidableEq

def NameFault.message (fault : NameFault) (index : Nat) : String :=
  match fault with
  | outside => s!"string {index} lies outside the string blob"
  | unterminated => s!"string {index} is not NUL-terminated"
  | notUtf8 => s!"string {index} is not valid UTF-8"

namespace NamePool

/-- The name of an entry. The byte behind it must be in the data, and zero. -/
def nameAt (data : Array UInt8) (offset length : Nat) : Except NameFault String :=
  match data[offset + length]? with
  | none => .error .outside
  | some last =>
      if last ≠ 0 then .error .unterminated
      else match Utf8.decode? (data.extract offset (offset + length)).toList with
        | none => .error .notUtf8
        | some name => .ok name

/-- The names of all entries from a given index on, or the first fault and its index. -/
def namesFrom (data : Array UInt8) (index : Nat) : List (UInt32 × UInt32) →
    Except (Nat × NameFault) (List String)
  | [] => .ok []
  | (offset, length) :: rest =>
      match nameAt data offset.toNat length.toNat with
      | .error fault => .error (index, fault)
      | .ok name => (namesFrom data (index + 1) rest).map (name :: ·)

def decode (entries : List (UInt32 × UInt32)) (data : Bytes) :
    Except (Nat × NameFault) (List String) :=
  namesFrom data.toArray 0 entries

end NamePool

end KernelStore
