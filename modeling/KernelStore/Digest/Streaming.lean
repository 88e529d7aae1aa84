import KernelStore.Digest

/-!
The digest of what a source brings, request by request. One buffer serves all requests. Each fills
its front, and just that much of it is hashed. A request that fills nothing is the end, an
interrupted one is made again, and any other fault ends the reading without a digest.
-/

namespace KernelStore

/-- The size of the buffer through which sources are read. -/
def Digest.bufferSize : Nat := 8192

/-- How a request to fill a buffer ends. -/
inductive Answer (ε : Type)
  | filled (bytes : Bytes) (fits : bytes.length ≤ Digest.bufferSize)
  | interrupted
  | failed (fault : ε)

namespace Digest

abbrev Buffer := FixedBytes bufferSize

namespace Buffer

def empty : Buffer := ⟨.zeros bufferSize, Bytes.length_zeros _⟩

/-- Writes over the front. What earlier requests have left behind it stays. -/
def fill (buffer : Buffer) (bytes : Bytes) (fits : bytes.length ≤ bufferSize) : Buffer where
  val := buffer.val.overwrite 0 bytes
  property := by
    rw [Bytes.length_overwrite]
    · exact buffer.property
    · rw [buffer.property, Nat.zero_add]
      exact fits

def front (buffer : Buffer) (count : Nat) : Bytes := buffer.val.take count

end Buffer

variable {ε : Type}

/-- Hashes what the answers of a source bring. Behind the last of them it has nothing left. -/
def hashAnswers (buffer : Buffer) (state : Sha1.State) : List (Answer ε) → Except ε Sha1.State
  | [] => .ok state
  | .filled bytes fits :: rest =>
      if bytes.length = 0 then .ok state
      else
        let buffer := buffer.fill bytes fits
        hashAnswers buffer (state.update (buffer.front bytes.length)) rest
  | .interrupted :: rest => hashAnswers buffer state rest
  | .failed fault :: _ => .error fault

def ofAnswers (answers : List (Answer ε)) : Except ε Digest :=
  (hashAnswers .empty Sha1.State.initial answers).map fun state =>
    ⟨state.finish, state.length_finish⟩

/-- The digest of what a source brings, or the zero digest if the source fails. -/
def ofSource (answers : List (Answer ε)) : Digest :=
  match ofAnswers answers with
  | .ok digest => digest
  | .error _ => zero

/-- The digest of a file that is opened and then read, or the zero digest if one of these fails. -/
def ofOpened : Except ε (List (Answer ε)) → Digest
  | .ok answers => ofSource answers
  | .error _ => zero

/-- The answers of a file with this content. Each request but the last one fills the buffer. -/
def answersOf (content : Bytes) : List (Answer ε) :=
  go content.length content
where
  go : (fuel : Nat) → Bytes → List (Answer ε)
    | 0, _ => []
    | _ + 1, [] => []
    | fuel + 1, content =>
        .filled (content.take bufferSize) (List.length_take_le _ _)
          :: go fuel (content.drop bufferSize)

/-- The digest of a file with this content. -/
def ofFile (content : Bytes) : Digest := ofSource (answersOf content : List (Answer Unit))

def ofReadable : Except ε Bytes → Digest
  | .ok content => ofFile content
  | .error _ => zero

end Digest

end KernelStore
