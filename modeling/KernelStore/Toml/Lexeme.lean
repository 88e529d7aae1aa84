/-!
The small pieces of a TOML document: blanks, comments, line ends, quoted texts and keys. A reading
yields what it read and the rest of the source, or nothing when the source is malformed. Its fuel
has to exceed the length of the source.
-/

namespace KernelStore.Toml

abbrev Source := List Char

def isBlank (c : Char) : Bool := c == ' ' || c == '\t'

/-- Characters that may stand in comments and quoted texts: no control character but the tab. -/
def isText (c : Char) : Bool := c == '\t' || (0x20 ≤ c.toNat && c.toNat ≤ 0x7E) || 0x80 ≤ c.toNat

def skipBlanks (source : Source) : Source := source.dropWhile isBlank

/-- The source past a line feed, which a carriage return may precede. -/
def newline? : Source → Option Source
  | '\n' :: rest => some rest
  | '\r' :: '\n' :: rest => some rest
  | _ => none

def skipComment : Source → Source
  | '#' :: rest => rest.dropWhile isText
  | source => source

/-- The source past blanks, a comment and the end of the line. -/
def lineEnd? (source : Source) : Option Source :=
  match skipComment (skipBlanks source) with
  | [] => some []
  | rest => newline? rest

def skipLines : (fuel : Nat) → Source → Source
  | 0, source => source
  | fuel + 1, source =>
      let rest := skipComment (skipBlanks source)
      match newline? rest with
      | some rest => skipLines fuel rest
      | none => rest

def skipEmpty : (fuel : Nat) → Source → Source
  | 0, source => source
  | fuel + 1, source =>
      let rest := skipBlanks source
      match newline? rest with
      | some rest => skipEmpty fuel rest
      | none => rest

def hexDigit? (c : Char) : Option Nat :=
  if '0' ≤ c ∧ c ≤ '9' then some (c.toNat - '0'.toNat)
  else if 'a' ≤ c ∧ c ≤ 'f' then some (c.toNat - 'a'.toNat + 10)
  else if 'A' ≤ c ∧ c ≤ 'F' then some (c.toNat - 'A'.toNat + 10)
  else none

/-- The character with the code point that the first `count` characters write in hexadecimal. -/
def codePoint? (count : Nat) (source : Source) : Option (Char × Source) := do
  let shown := source.take count
  if shown.length < count then none
  let point ← shown.foldlM (fun n c => do return 16 * n + (← hexDigit? c)) 0
  if h : point.isValidChar then return (⟨point.toUInt32, by
      have small : point < UInt32.size := by
        simp only [Nat.isValidChar] at h
        simp only [UInt32.size]
        omega
      simpa [UInt32.isValidChar, UInt32.toNat_ofNat_of_lt' small] using h⟩, source.drop count)
  else none

/-- The character that an escape denotes, from after its backslash on. -/
def escape? : Source → Option (Char × Source)
  | 'b' :: rest => some ('\x08', rest)
  | 't' :: rest => some ('\t', rest)
  | 'n' :: rest => some ('\n', rest)
  | 'f' :: rest => some ('\x0c', rest)
  | 'r' :: rest => some ('\r', rest)
  | '"' :: rest => some ('"', rest)
  | '\\' :: rest => some ('\\', rest)
  | 'u' :: rest => codePoint? 4 rest
  | 'U' :: rest => codePoint? 8 rest
  | _ => none

/-- A one-line text with escapes, from after its opening quote on. -/
def basicLine? : (fuel : Nat) → Source → Option (List Char × Source)
  | 0, _ => none
  | fuel + 1, source =>
      match source with
      | '"' :: rest => some ([], rest)
      | '\\' :: rest => do
          let (c, rest) ← escape? rest
          let (text, rest) ← basicLine? fuel rest
          return (c :: text, rest)
      | c :: rest => do
          if !isText c then none
          let (text, rest) ← basicLine? fuel rest
          return (c :: text, rest)
      | [] => none

/-- A one-line text without escapes, from after its opening quote on. -/
def literalLine? (source : Source) : Option (List Char × Source) :=
  let inside (c : Char) : Bool := isText c && c != '\''
  match source.dropWhile inside with
  | '\'' :: rest => some (source.takeWhile inside, rest)
  | _ => none

/-- What a run of quotes inside a text of several lines means: three end the text, and up to two
before those belong to it. -/
def quoteRun (quote : Char) (source : Source) : Nat × Bool × Source :=
  let run := (source.takeWhile (· == quote)).length
  if run < 3 then (run, false, source.drop run)
  else
    let kept := min run 5 - 3
    (kept, true, source.drop (kept + 3))

/-- A text of several lines, from after its three opening quotes on. A backslash at the end of a
line hides it and all blank space that follows; escapes are read only if `escapes` says so. -/
def severalLines? (quote : Char) (escapes : Bool) :
    (fuel : Nat) → Source → Option (List Char × Source)
  | 0, _ => none
  | fuel + 1, source =>
      let more (front : List Char) (rest : Source) : Option (List Char × Source) :=
        (severalLines? quote escapes fuel rest).map fun (text, rest) => (front ++ text, rest)
      match newline? source, source with
      | some rest, _ => more ['\n'] rest
      | none, [] => none
      | none, c :: rest =>
          if c == quote then
            let (kept, ended, rest) := quoteRun quote source
            let front := List.replicate kept quote
            if ended then some (front, rest) else more front rest
          else if escapes && c == '\\' then
            match newline? (skipBlanks rest) with
            | some rest => more [] (skipEmpty fuel rest)
            | none => do
                let (c, rest) ← escape? rest
                more [c] rest
          else if isText c then more [c] rest
          else none

/-- A text of several lines, without the line end that may come right after its opening. -/
def severalLinesText? (quote : Char) (escapes : Bool) (fuel : Nat) (source : Source) :
    Option (List Char × Source) :=
  severalLines? quote escapes fuel ((newline? source).getD source)

def quotedText? (fuel : Nat) : Source → Option (String × Source)
  | '"' :: '"' :: '"' :: rest => do
      let (text, rest) ← severalLinesText? '"' true fuel rest
      return (String.ofList text, rest)
  | '\'' :: '\'' :: '\'' :: rest => do
      let (text, rest) ← severalLinesText? '\'' false fuel rest
      return (String.ofList text, rest)
  | '"' :: rest => do
      let (text, rest) ← basicLine? fuel rest
      return (String.ofList text, rest)
  | '\'' :: rest => do
      let (text, rest) ← literalLine? rest
      return (String.ofList text, rest)
  | _ => none

def isBareKey (c : Char) : Bool := c.isAlphanum || c == '_' || c == '-'

def keyPart? (fuel : Nat) (source : Source) : Option (String × Source) :=
  match source with
  | '"' :: rest => do
      let (text, rest) ← basicLine? fuel rest
      return (String.ofList text, rest)
  | '\'' :: rest => do
      let (text, rest) ← literalLine? rest
      return (String.ofList text, rest)
  | _ =>
      let bare := source.takeWhile isBareKey
      if bare.isEmpty then none
      else some (String.ofList bare, source.dropWhile isBareKey)

/-- A key: parts with dots between them, and blanks around each part. -/
def keyParts? : (fuel : Nat) → Source → Option (List String × Source)
  | 0, _ => none
  | fuel + 1, source => do
      let (part, rest) ← keyPart? (fuel + 1) (skipBlanks source)
      match skipBlanks rest with
      | '.' :: rest =>
          let (parts, rest) ← keyParts? fuel rest
          return (part :: parts, rest)
      | rest => return ([part], rest)

/-- Values and keys may not nest as deep as this. -/
def depthLimit : Nat := 80

def key? (fuel : Nat) (source : Source) : Option (List String × Source) := do
  let (parts, rest) ← keyParts? fuel source
  if parts.length < depthLimit then return (parts, rest) else none

end KernelStore.Toml
