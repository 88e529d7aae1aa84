import KernelStore.Bytes

/-!
The contents of files and of mapped memory. A fresh mapping is all zero and may be huge, so zeros
in a row are counted and not spelled out. A content stands for its byte string (`Content.bytes`),
and each operation does to it what the operation of that name does to byte strings (`bytes_take`,
`bytes_drop`, `bytes_overwrite`, `foldl_eq`).
-/

namespace KernelStore

inductive Run
  | literal (bytes : Bytes)
  | zeros (count : Nat)
  deriving DecidableEq

namespace Run

def bytes : Run → Bytes
  | literal bytes => bytes
  | zeros count => Bytes.zeros count

def size : Run → Nat
  | literal bytes => bytes.length
  | zeros count => count

def take (count : Nat) : Run → Run
  | literal bytes => literal (bytes.take count)
  | zeros size => zeros (min count size)

def drop (count : Nat) : Run → Run
  | literal bytes => literal (bytes.drop count)
  | zeros size => zeros (size - count)

@[specialize] def foldl {α : Type} (step : α → UInt8 → α) (start : α) : Run → α
  | literal bytes => bytes.foldl step start
  | zeros count => Nat.repeat (step · 0) count start

theorem size_eq (run : Run) : run.size = run.bytes.length := by
  cases run <;> simp [size, bytes]

theorem bytes_take (run : Run) (count : Nat) : (run.take count).bytes = run.bytes.take count := by
  cases run <;> simp [take, bytes, Bytes.zeros]

theorem bytes_drop (run : Run) (count : Nat) : (run.drop count).bytes = run.bytes.drop count := by
  cases run <;> simp [drop, bytes, Bytes.zeros]

theorem foldl_eq {α : Type} (step : α → UInt8 → α) (start : α) (run : Run) :
    run.foldl step start = run.bytes.foldl step start := by
  cases run with
  | literal bytes => rfl
  | zeros count =>
    simp only [foldl, bytes, Bytes.zeros]
    induction count with
    | zero => rfl
    | succ count ih => simp [Nat.repeat, ih, List.replicate_succ']

end Run

/-- A byte string, as the runs that it is made of. -/
structure Content where
  runs : List Run
  deriving DecidableEq

namespace Content

/-- The bytes of runs, one after another. The bytes of the last run are not copied. -/
def concat : List Run → Bytes
  | [] => []
  | [run] => run.bytes
  | run :: rest => run.bytes ++ concat rest

def bytes (content : Content) : Bytes := concat content.runs

def size (content : Content) : Nat :=
  content.runs.foldr (fun run rest => run.size + rest) 0

def ofBytes (bytes : Bytes) : Content := ⟨[.literal bytes]⟩

def zeros (count : Nat) : Content := ⟨[.zeros count]⟩

def append (front rest : Content) : Content := ⟨front.runs ++ rest.runs⟩

instance : Append Content := ⟨append⟩

def takeRuns : Nat → List Run → List Run
  | _, [] => []
  | count, run :: rest =>
      if count ≤ run.size then [run.take count] else run :: takeRuns (count - run.size) rest

def take (content : Content) (count : Nat) : Content := ⟨takeRuns count content.runs⟩

def dropRuns : Nat → List Run → List Run
  | _, [] => []
  | count, run :: rest =>
      if count < run.size then run.drop count :: rest else dropRuns (count - run.size) rest

def drop (content : Content) (count : Nat) : Content := ⟨dropRuns count content.runs⟩

def part (content : Content) (start count : Nat) : Content := (content.drop start).take count

def resize (content : Content) (size : Nat) : Content :=
  content.take size ++ zeros (size - content.size)

def overwrite (content : Content) (start : Nat) (patch : Bytes) : Content :=
  if patch.isEmpty then content
  else content.resize start ++ ofBytes patch ++ content.drop (start + patch.length)

@[specialize] def foldl {α : Type} (step : α → UInt8 → α) (start : α) (content : Content) : α :=
  content.runs.foldl (Run.foldl step) start

/-! ### As byte strings -/

theorem bytes_eq (content : Content) : content.bytes = content.runs.flatMap Run.bytes := by
  obtain ⟨runs⟩ := content
  simp only [bytes]
  induction runs with
  | nil => rfl
  | cons run rest ih => cases rest <;> simp_all [concat]

theorem size_eq (content : Content) : content.size = content.bytes.length := by
  obtain ⟨runs⟩ := content
  simp only [size, bytes_eq]
  induction runs with
  | nil => rfl
  | cons run rest ih =>
    rw [List.foldr_cons, ih, Run.size_eq, List.flatMap_cons, List.length_append]

@[simp] theorem bytes_ofBytes (bytes : Bytes) : (ofBytes bytes).bytes = bytes := by
  simp [ofBytes, bytes_eq, Run.bytes]

@[simp] theorem bytes_zeros (count : Nat) : (zeros count).bytes = Bytes.zeros count := by
  simp [zeros, bytes_eq, Run.bytes]

@[simp] theorem bytes_append (front rest : Content) :
    (front ++ rest).bytes = front.bytes ++ rest.bytes := by
  change (Content.append front rest).bytes = _
  simp [append, bytes_eq]

@[simp] theorem bytes_take (content : Content) (count : Nat) :
    (content.take count).bytes = content.bytes.take count := by
  obtain ⟨runs⟩ := content
  simp only [take, bytes_eq]
  induction runs generalizing count with
  | nil => simp [takeRuns]
  | cons run rest ih =>
    unfold takeRuns
    split
    · rename_i within
      rw [Run.size_eq] at within
      simp [Run.bytes_take, List.take_append, Nat.sub_eq_zero_of_le within]
    · rename_i beyond
      rw [Run.size_eq] at beyond ⊢
      rw [List.flatMap_cons, List.flatMap_cons, List.take_append, ih,
        List.take_of_length_le (by omega : run.bytes.length ≤ count)]

@[simp] theorem bytes_drop (content : Content) (count : Nat) :
    (content.drop count).bytes = content.bytes.drop count := by
  obtain ⟨runs⟩ := content
  simp only [drop, bytes_eq]
  induction runs generalizing count with
  | nil => simp [dropRuns]
  | cons run rest ih =>
    unfold dropRuns
    split
    · rename_i within
      rw [Run.size_eq] at within
      simp [Run.bytes_drop, List.drop_append, Nat.sub_eq_zero_of_le (Nat.le_of_lt within)]
    · rename_i beyond
      rw [Run.size_eq] at beyond ⊢
      rw [List.flatMap_cons, List.drop_append, ih,
        List.drop_of_length_le (by omega : run.bytes.length ≤ count), List.nil_append]

@[simp] theorem bytes_part (content : Content) (start count : Nat) :
    (content.part start count).bytes = Bytes.part content.bytes start count := by
  simp [part, Bytes.part]

@[simp] theorem bytes_resize (content : Content) (size : Nat) :
    (content.resize size).bytes = Bytes.resize content.bytes size := by
  simp only [resize, Bytes.resize, bytes_append, bytes_take, bytes_zeros, size_eq,
    List.length_take]
  congr 2
  omega

@[simp] theorem bytes_overwrite (content : Content) (start : Nat) (patch : Bytes) :
    (content.overwrite start patch).bytes = Bytes.overwrite content.bytes start patch := by
  unfold overwrite Bytes.overwrite
  split <;> simp

theorem foldl_eq {α : Type} (step : α → UInt8 → α) (start : α) (content : Content) :
    content.foldl step start = content.bytes.foldl step start := by
  obtain ⟨runs⟩ := content
  simp only [foldl, bytes_eq]
  induction runs generalizing start with
  | nil => rfl
  | cons run rest ih => simp [ih, Run.foldl_eq]

end Content

end KernelStore
