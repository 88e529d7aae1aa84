import KernelStore.Settings.Validation
import KernelStore.Text.Utf8
import KernelStore.Toml.Document

/-!
Settings from a TOML document. Keys that are not known are passed over, and keys that are missing
keep their defaults. Instead of a table, an array gives its entries in order.
-/

namespace KernelStore

inductive SettingsError
  /-- The text is no TOML document, or a value has the wrong type. -/
  | form
  | invalid (fault : SettingsFault)
  deriving DecidableEq

namespace SettingsError

def message : SettingsError → String
  | form => "failed to parse configuration: the text does not have the form of a configuration"
  | invalid fault => fault.message

end SettingsError

namespace Settings

open Toml

/-- The node under a key; an array has one for each of `keys` in turn. -/
def part? (keys : List String) (node : Node) (key : String) : Option (Option Node) :=
  match node with
  | .table _ entries => some (entries.lookup key)
  | .array items => some (items[keys.idxOf key]?)
  | .tables elements => some ((elements.reverse.map (Node.table .header))[keys.idxOf key]?)
  | .moment => some none
  | _ => none

def optional {α : Type} (keys : List String) (read : Node → Option α) (node : Node)
    (key : String) (otherwise : α) : Option α := do
  match ← part? keys node key with
  | none => return otherwise
  | some part => read part

def text? : Node → Option String
  | .text value => some value
  | _ => none

def natural? : Node → Option Nat
  | .integer value => if 0 ≤ value then some value.toNat else none
  | _ => none

def truth? : Node → Option Bool
  | .boolean value => some value
  | _ => none

/-- Whether a node is a table or an array with nothing in it. -/
def isVoid : Node → Bool
  | .array items => items.isEmpty
  | .table _ entries => entries.isEmpty
  | .tables elements => elements.isEmpty
  | _ => false

/-- A precision is given by its exact name, as a text or as the only key of a table, with nothing
under it. -/
def precision? : Node → Option Precision
  | .text name => Precision.ofName? name
  | .table _ [(name, under)] => if isVoid under then Precision.ofName? name else none
  | _ => none

def memory? (node : Node) : Option MemorySettings := do
  let default : MemorySettings := {}
  let number := optional ["base_address", "slot_count", "code_size", "data_size", "got_size"]
    natural? node
  return {
    baseAddress := ← number "base_address" default.baseAddress
    slotCount := ← number "slot_count" default.slotCount
    codeSize := ← number "code_size" default.codeSize
    dataSize := ← number "data_size" default.dataSize
    gotSize := ← number "got_size" default.gotSize }

def library? (node : Node) : Option RuntimeLibrary := do
  let keys := ["name", "path", "digest_file"]
  let path? (node : Node) : Option (Option String) := (text? node).map some
  return {
    name := ← text? (← (← part? keys node "name"))
    path := ← optional keys path? node "path" none
    digestFile := ← optional keys path? node "digest_file" none }

def libraries? : Node → Option (List RuntimeLibrary)
  | .array items => items.mapM library?
  | .tables elements => elements.reverse.mapM (library? ∘ Node.table .header)
  | _ => none

def cache? (node : Node) : Option CacheSettings := do
  let keys := ["dir", "enabled", "force_recompile", "float_precision", "runtime"]
  let default : CacheSettings := {}
  return {
    dir := ← optional keys text? node "dir" default.dir
    enabled := ← optional keys truth? node "enabled" default.enabled
    forceRecompile := ← optional keys truth? node "force_recompile" default.forceRecompile
    precision := ← optional keys (fun node => (precision? node).map some) node "float_precision"
      default.precision
    runtime := ← optional keys libraries? node "runtime" default.runtime }

def ofEntries? (entries : Entries) : Option Settings := do
  let root := Node.table .header entries
  let keys := ["memory", "cache"]
  return {
    memory := ← optional keys memory? root "memory" {}
    cache := ← optional keys cache? root "cache" {} }

def read (text : String) : Except SettingsError Settings :=
  match document? text >>= ofEntries? with
  | none => .error .form
  | some settings =>
      match settings.fault? with
      | some fault => .error (.invalid fault)
      | none => .ok settings

end Settings

end KernelStore
