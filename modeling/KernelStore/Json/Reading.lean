/-!
Reading JSON. A document becomes a tree in which a string is still the units that it is written in,
and a number its digits: what a part has to be is settled where it is read, and a part that nobody
reads may hold an escape that denotes no character.
-/

namespace KernelStore

inductive RawJson
  | null
  | boolean (value : Bool)
  | natural (digits : List Char)
  | otherNumber
  | text (units : List Nat)
  | array (items : List RawJson)
  | object (members : List (List Nat × RawJson))

namespace RawJson

abbrev Source := List Char

def isSpace (c : Char) : Bool := c == ' ' || c == '\n' || c == '\t' || c == '\r'

def skipSpace (source : Source) : Source := source.dropWhile isSpace

def hexValue? (c : Char) : Option Nat :=
  if c.isDigit then some (c.toNat - '0'.toNat)
  else if 'a' ≤ c ∧ c ≤ 'f' then some (c.toNat - 'a'.toNat + 10)
  else if 'A' ≤ c ∧ c ≤ 'F' then some (c.toNat - 'A'.toNat + 10)
  else none

def fourDigits? : Source → Option (Nat × Source)
  | a :: b :: c :: d :: rest => do
      return ((((← hexValue? a) * 16 + (← hexValue? b)) * 16 + (← hexValue? c)) * 16
        + (← hexValue? d), rest)
  | _ => none

/-- The units of a string after its opening quote: code points, and surrogates as the escapes
give them. -/
def units? : (fuel : Nat) → Source → Option (List Nat × Source)
  | 0, _ => none
  | fuel + 1, source =>
      let keep (unit : Nat) (rest : Source) : Option (List Nat × Source) :=
        (units? fuel rest).map fun (units, rest) => (unit :: units, rest)
      match source with
      | '"' :: rest => some ([], rest)
      | '\\' :: 'u' :: rest => do
          let (unit, rest) ← fourDigits? rest
          keep unit rest
      | '\\' :: '"' :: rest => keep '"'.toNat rest
      | '\\' :: '\\' :: rest => keep '\\'.toNat rest
      | '\\' :: '/' :: rest => keep '/'.toNat rest
      | '\\' :: 'b' :: rest => keep 8 rest
      | '\\' :: 'f' :: rest => keep 12 rest
      | '\\' :: 'n' :: rest => keep 10 rest
      | '\\' :: 'r' :: rest => keep 13 rest
      | '\\' :: 't' :: rest => keep 9 rest
      | '\\' :: _ => none
      | c :: rest => if c.toNat < 0x20 then none else keep c.toNat rest
      | [] => none

/-- The characters that units denote: a high surrogate needs a low one right after it, and a low
one stands nowhere else. -/
def characters? : List Nat → Option (List Char)
  | [] => some []
  | high :: low :: rest =>
      if 0xD800 ≤ high ∧ high < 0xDC00 then
        if 0xDC00 ≤ low ∧ low < 0xE000 then
          (characters? rest).map
            (Char.ofNat (0x10000 + (high - 0xD800) * 0x400 + (low - 0xDC00)) :: ·)
        else none
      else if 0xDC00 ≤ high ∧ high < 0xE000 then none
      else (characters? (low :: rest)).map (Char.ofNat high :: ·)
  | [unit] => if 0xD800 ≤ unit ∧ unit < 0xE000 then none else some [Char.ofNat unit]

/-- The source past a number: no leading zeros, digits on both sides of a point, digits in an
exponent. -/
def pastNumber? (source : Source) : Option Source := do
  let unsigned := match source with
    | '-' :: rest => rest
    | _ => source
  let whole ← match unsigned with
    | '0' :: rest => some rest
    | c :: rest => if c.isDigit then some (rest.dropWhile Char.isDigit) else none
    | [] => none
  let fraction ← match whole with
    | '.' :: c :: rest => if c.isDigit then some (rest.dropWhile Char.isDigit) else none
    | '.' :: [] => none
    | _ => some whole
  let afterSign (rest : Source) : Option Source := match rest with
    | c :: more => if c.isDigit then some (more.dropWhile Char.isDigit) else none
    | [] => none
  let exponent (rest : Source) : Option Source := match rest with
    | '+' :: more => afterSign more
    | '-' :: more => afterSign more
    | _ => afterSign rest
  match fraction with
  | 'e' :: rest => exponent rest
  | 'E' :: rest => exponent rest
  | _ => some fraction

def number? (source : Source) : Option (RawJson × Source) := do
  let rest ← pastNumber? source
  let digits := source.takeWhile Char.isDigit
  match digits, source.dropWhile Char.isDigit with
  | [], _ | _, '.' :: _ | _, 'e' :: _ | _, 'E' :: _ => return (.otherNumber, rest)
  | _, _ => return (.natural digits, rest)

/-- A value still open, with the parts it has so far, the last one first. -/
inductive Frame
  | array (items : List RawJson)
  | object (members : List (List Nat × RawJson))
  /-- An object whose next member has its key but not yet its value. -/
  | member (members : List (List Nat × RawJson)) (key : List Nat)

inductive Expecting
  | value
  | valueOrEnd
  | key
  | keyOrEnd
  | separator

/-- A value, and the source past it. The source is read token by token, with the open values on a
stack. The fuel has to exceed the length of the source. -/
def read? : (fuel : Nat) → Expecting → List Frame → Source → Option (RawJson × Source)
  | 0, _, _, _ => none
  | fuel + 1, expecting, frames, source =>
      let source := skipSpace source
      let settled (value : RawJson) (frames : List Frame) (rest : Source) :
          Option (RawJson × Source) :=
        match frames with
        | [] => some (value, rest)
        | .array items :: outer => read? fuel .separator (.array (value :: items) :: outer) rest
        | .member members key :: outer =>
            read? fuel .separator (.object ((key, value) :: members) :: outer) rest
        | .object _ :: _ => none
      match expecting, frames, source with
      | .valueOrEnd, .array items :: outer, ']' :: rest
      | .separator, .array items :: outer, ']' :: rest =>
          settled (.array items.reverse) outer rest
      | .keyOrEnd, .object members :: outer, '\x7d' :: rest
      | .separator, .object members :: outer, '\x7d' :: rest =>
          settled (.object members.reverse) outer rest
      | .separator, .array _ :: _, ',' :: rest => read? fuel .value frames rest
      | .separator, .object _ :: _, ',' :: rest => read? fuel .key frames rest
      | .separator, _, _ => none
      | .key, .object members :: outer, '"' :: rest
      | .keyOrEnd, .object members :: outer, '"' :: rest => do
          let (key, rest) ← units? fuel rest
          match skipSpace rest with
          | ':' :: rest => read? fuel .value (.member members key :: outer) rest
          | _ => none
      | .key, _, _ => none
      | .keyOrEnd, _, _ => none
      | _, _, '[' :: rest => read? fuel .valueOrEnd (.array [] :: frames) rest
      | _, _, '\x7b' :: rest => read? fuel .keyOrEnd (.object [] :: frames) rest
      | _, _, '"' :: rest => do
          let (units, rest) ← units? fuel rest
          settled (.text units) frames rest
      | _, _, 'n' :: 'u' :: 'l' :: 'l' :: rest => settled .null frames rest
      | _, _, 't' :: 'r' :: 'u' :: 'e' :: rest => settled (.boolean true) frames rest
      | _, _, 'f' :: 'a' :: 'l' :: 's' :: 'e' :: rest => settled (.boolean false) frames rest
      | _, _, _ => do
          let (value, rest) ← number? source
          settled value frames rest

def document? (text : String) : Option RawJson := do
  let source := text.toList
  let (value, rest) ← read? (source.length + 1) .value [] source
  if (skipSpace rest).isEmpty then return value else none

def textOf? (units : List Nat) : Option String := (characters? units).map String.ofList

def text? : RawJson → Option String
  | text units => textOf? units
  | _ => none

def natural? : RawJson → Option Nat
  | natural digits => some (digits.foldl (fun n c => 10 * n + (c.toNat - '0'.toNat)) 0)
  | _ => none

def array? : RawJson → Option (List RawJson)
  | array items => some items
  | _ => none

/-- The value of a member that has to be there once. -/
def member? (members : List (String × RawJson)) (name : String) : Option RawJson :=
  match members.filter (·.1 == name) with
  | [(_, value)] => some value
  | _ => none

/-- The members of an object, whose names have to be texts. -/
def named? (members : List (List Nat × RawJson)) : Option (List (String × RawJson)) :=
  members.mapM fun (key, value) => do return (← textOf? key, value)

/-- The parts of a record: its named members, or an array with exactly those parts in order. -/
def record? (names : List String) : RawJson → Option (List RawJson)
  | object members => do names.mapM (member? (← named? members))
  | array items => if items.length = names.length then some items else none
  | _ => none

/-- The name of a choice: a text, or an object whose one member has that name and is null. -/
def choice? : RawJson → Option String
  | text units => textOf? units
  | object [(key, null)] => textOf? key
  | _ => none

end RawJson

end KernelStore
