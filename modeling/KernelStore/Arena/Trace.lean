import KernelStore.Arena

/-!
One-line texts that show a slot table, a lease or an arena in a trace.
-/

namespace KernelStore

def traceRecord (name : String) (fields : List (String × String)) : String :=
  name ++ " \x7b " ++ ", ".intercalate (fields.map fun (field, value) => field ++ ": " ++ value)
    ++ " \x7d"

def Layout.trace (layout : Layout) : String :=
  traceRecord "SlotLayout"
    [ ("base", toString layout.base)
    , ("slot_count", toString layout.count)
    , ("code_size", toString layout.codeSize)
    , ("data_size", toString layout.dataSize)
    , ("got_size", toString layout.gotSize) ]

def SlotTable.trace (table : SlotTable) (memory : Memory) : String :=
  traceRecord "SlotAllocator"
    [("layout", table.layout.trace), ("occupied", toString (memory.takenCount table))]

def Lease.trace (lease : Lease) : String :=
  traceRecord "SlotHandle"
    [ ("addr", Hexadecimal.address lease.address)
    , ("len", toString lease.size)
    , ("slot", match lease.slot with
        | some index => "Some(" ++ toString index ++ ")"
        | none => "None") ]

def Arena.trace (arena : Arena) : String :=
  traceRecord "RegionAllocator"
    [ ("slot", arena.lease.trace)
    , ("code_cursor", toString arena.codeCursor)
    , ("stub_cursor", toString arena.stubCursor)
    , ("global_cursor", toString arena.dataCursor)
    , ("writable", toString arena.writable)
    , ("functions", toString arena.bodies.length) ]

end KernelStore
