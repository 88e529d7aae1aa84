import KernelStore.Proofs.Artifact.HeaderReading
import KernelStore.Proofs.Artifact.Names
import KernelStore.Proofs.Artifact.SectionLayout

/-!
Reading a record inverts encoding it, over the pool that its names were put into. A record whose
addresses may lie outside the image is refused exactly when they do, and reading a list of such
records tells the index of the first.
-/

namespace KernelStore

namespace RecordReading

theorem bind_of_ok {α β : Type} {reading : RecordReading α} {input rest : Bytes} {value : α}
    (read : reading input = .ok (value, rest)) (next : α → RecordReading β) :
    (reading >>= next) input = next value rest := by
  change (reading input >>= fun result => next result.1 result.2) = _
  rw [read]
  rfl

theorem field_of_some {α : Type} {reading : Reading α} {input rest : Bytes} {value : α}
    (read : reading input = some (value, rest)) : field reading input = .ok (value, rest) := by
  simp only [field, read]

theorem u32_append (value : UInt32) (rest : Bytes) :
    field Reading.u32 (LittleEndian.ofUInt32 value ++ rest) = .ok (value, rest) :=
  field_of_some (Reading.u32_append value rest)

theorem u64_append (value : UInt64) (rest : Bytes) :
    field Reading.u64 (LittleEndian.ofUInt64 value ++ rest) = .ok (value, rest) :=
  field_of_some (Reading.u64_append value rest)

theorem demand_some {α : Type} (fault : RecordFault) (value : α) (input : Bytes) :
    demand fault (some value) input = .ok (value, input) := rfl

theorem demand_ite {α : Type} (fault : RecordFault) (condition : Bool) (value : α) (input : Bytes) :
    demand fault (if condition then some value else none) input =
      if condition then .ok (value, input) else .error fault := by
  cases condition <;> rfl

/-! ### Lists of records -/

/-- Each record is read back if it passes and refused if not, so the first that does not pass
decides about the list. -/
theorem many_flatMap {α : Type} {reading : RecordReading α} {encode : α → Bytes}
    (passes : α → Bool) (fault : RecordFault) (items : List α) (index : Nat) (rest : Bytes)
    (each : ∀ item ∈ items, ∀ behind, reading (encode item ++ behind) =
      if passes item then .ok (item, behind) else .error fault) :
    many reading items.length index (items.flatMap encode ++ rest) =
      match items.findIdx? (!passes ·) with
      | some failing => .error (index + failing, fault)
      | none => .ok items := by
  induction items generalizing index with
  | nil => rfl
  | cons item others ih =>
      have later := ih (index + 1) fun other member => each other (List.mem_cons_of_mem _ member)
      rw [List.flatMap_cons, List.append_assoc, List.length_cons, many,
        each item List.mem_cons_self, List.findIdx?_cons]
      cases passes item with
      | false => rfl
      | true =>
          simp only [if_true, later, Bool.not_true, Bool.false_eq_true, if_false]
          cases others.findIdx? (!passes ·) with
          | none => rfl
          | some failing =>
              simp only [Except.map, Option.map_some]
              rw [Nat.add_right_comm, Nat.add_assoc index failing 1]

/-! ### Each kind of record -/

section Records

variable {pool : NamePool} (small : pool.names.length < 2 ^ 32)

include small

theorem name_reference {text : String} (member : text ∈ pool.names) (rest : Bytes) :
    name pool.names.toArray (pool.reference text ++ rest) = .ok (text, rest) := by
  have index : (UInt32.ofNat (pool.indexOf text)).toNat = pool.indexOf text := by
    have below := NamePool.indexOf_lt member
    rw [UInt32.toNat_ofNat']
    omega
  unfold name NamePool.reference
  rw [bind_of_ok (u32_append _ _), index, List.getElem?_toArray, NamePool.getElem?_indexOf member]
  rfl

theorem dependency_encode (item : Dependency) (member : item.name ∈ pool.names) (rest : Bytes) :
    dependency pool.names.toArray (item.encode pool ++ rest) = .ok (item, rest) := by
  have digest : Reading.fixed 20 (item.digest.bytes ++ rest) =
      some (⟨item.digest.bytes, item.digest.length_bytes⟩, rest) :=
    Reading.fixed_append ⟨item.digest.bytes, item.digest.length_bytes⟩ rest
  unfold dependency Dependency.encode
  simp only [List.append_assoc]
  rw [bind_of_ok (name_reference small member _), bind_of_ok (u32_append _ _),
    ResourceKind.ofCode?_code, bind_of_ok (demand_some _ _ _), bind_of_ok (field_of_some digest)]
  rfl

theorem pragma_encode (item : Pragma) (key : item.key ∈ pool.names)
    (value : item.value ∈ pool.names) (rest : Bytes) :
    pragma pool.names.toArray (item.encode pool ++ rest) = .ok (item, rest) := by
  unfold pragma Pragma.encode
  rw [List.append_assoc, bind_of_ok (name_reference small key _),
    bind_of_ok (name_reference small value _)]
  rfl

theorem kernelEntry_encode (item : KernelEntry) (member : item.name ∈ pool.names) (rest : Bytes) :
    kernelEntry pool.names.toArray (item.encode pool ++ rest) = .ok (item, rest) := by
  unfold kernelEntry KernelEntry.encode
  rw [List.append_assoc, bind_of_ok (name_reference small member _), bind_of_ok (u32_append _ _)]
  rfl

theorem exportedVariable_encode (header : Header) (item : ExportedVariable)
    (member : item.name ∈ pool.names) (rest : Bytes) :
    exportedVariable header pool.names.toArray (item.encode pool ++ rest) =
      if header.holds item.address.toNat 1 then .ok (item, rest) else .error .outsideImage := by
  have unused : field Reading.u32 (Bytes.zeros 4 ++ rest) = .ok (0, rest) := u32_append 0 rest
  unfold exportedVariable ExportedVariable.encode
  simp only [List.append_assoc]
  rw [bind_of_ok (u64_append _ _), bind_of_ok (name_reference small member _), bind_of_ok unused]
  exact demand_ite _ _ _ _

theorem function_bytes (header : Header) (item : FunctionRecord) (fits : item.size.toNat < 2 ^ 32)
    (member : item.name ∈ pool.names) (rest : Bytes) :
    function header pool.names.toArray (item.bytes pool ++ rest) =
      if header.holds item.address.toNat item.size.toNat then .ok (item, rest)
      else .error .outsideImage := by
  have narrow : item.size.toUInt32.toNat = item.size.toNat := by
    rw [UInt64.toNat_toUInt32]
    omega
  have widened : item.size.toUInt32.toUInt64 = item.size := by
    apply UInt64.toNat_inj.mp
    rw [UInt32.toNat_toUInt64, narrow]
  unfold function FunctionRecord.bytes
  simp only [List.append_assoc]
  rw [bind_of_ok (u64_append _ _), bind_of_ok (u32_append _ _),
    bind_of_ok (name_reference small member _), narrow, widened]
  exact demand_ite _ _ _ _

end Records

end RecordReading

/-! ### The name pool -/

theorem Reading.readEntries_bytes (entries : List (Nat × Nat)) (rest : Bytes) :
    InfoFile.readEntries entries.length (entries.flatMap NamePool.entryBytes ++ rest) =
      some (entries.map NamePool.entryWords, rest) := by
  induction entries with
  | nil => rfl
  | cons entry others ih =>
      rw [List.flatMap_cons, List.append_assoc, NamePool.entryBytes, List.append_assoc,
        List.length_cons, InfoFile.readEntries, Reading.bind_of_some (Reading.u32_append _ _),
        Reading.bind_of_some (Reading.u32_append _ _), Reading.bind_of_some ih]
      rfl

end KernelStore
