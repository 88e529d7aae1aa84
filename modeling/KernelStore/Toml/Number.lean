import KernelStore.Toml.Lexeme

/-!
Numbers and moments in time. Whole numbers have 64 bits and a sign; of a fraction only its form
and that it is not beyond the largest double are of interest, of a moment only its form and that
the day exists.
-/

namespace KernelStore.Toml

def decimalDigit? (c : Char) : Option Nat := if c.isDigit then some (c.toNat - '0'.toNat) else none

def octalDigit? (c : Char) : Option Nat :=
  if '0' ≤ c ∧ c ≤ '7' then some (c.toNat - '0'.toNat) else none

def binaryDigit? (c : Char) : Option Nat :=
  if c = '0' then some 0 else if c = '1' then some 1 else none

/-- The digits after the first one, single underscores allowed between digits. -/
def moreDigits? (digit? : Char → Option Nat) : Source → Option (List Nat × Source)
  | '_' :: c :: rest =>
      match digit? c with
      | some d => (moreDigits? digit? rest).map fun (digits, rest) => (d :: digits, rest)
      | none => none
  | ['_'] => none
  | c :: rest =>
      match digit? c with
      | some d => (moreDigits? digit? rest).map fun (digits, rest) => (d :: digits, rest)
      | none => some ([], c :: rest)
  | [] => some ([], [])

def digits? (digit? : Char → Option Nat) : Source → Option (List Nat × Source)
  | c :: rest => do
      let d ← digit? c
      let (digits, rest) ← moreDigits? digit? rest
      return (d :: digits, rest)
  | [] => none

def ofDigits (base : Nat) (digits : List Nat) : Nat := digits.foldl (fun n d => base * n + d) 0

def significant (digits : List Nat) : List Nat := digits.dropWhile (· == 0)

/-- Whether a sign stands in front, and is a minus. -/
def sign : Source → Bool × Source
  | '+' :: rest => (false, rest)
  | '-' :: rest => (true, rest)
  | source => (false, source)

/-- Decimal digits with no leading zero. -/
def wholeDigits? : Source → Option (List Nat × Source)
  | '0' :: rest => some ([0], rest)
  | source => digits? decimalDigit? source

def largestInteger : Int := 0x7fffffffffffffff

/-- A whole number that fits 64 bits with a sign. More than 64 digits do not, whatever their
base. -/
def ranged? (negative : Bool) (base : Nat) (digits : List Nat) : Option Int :=
  let digits := significant digits
  if 64 < digits.length then none
  else
    let size : Int := ofDigits base digits
    let value := if negative then -size else size
    if -largestInteger - 1 ≤ value ∧ value ≤ largestInteger then some value else none

/-- A whole number: decimal with a sign, or unsigned hexadecimal, octal or binary. -/
def integer? (source : Source) : Option (Int × Source) :=
  let based (base : Nat) (digit? : Char → Option Nat) (rest : Source) : Option (Int × Source) := do
    let (digits, rest) ← digits? digit? rest
    return (← ranged? false base digits, rest)
  match source with
  | '0' :: 'x' :: rest => based 16 hexDigit? rest
  | '0' :: 'o' :: rest => based 8 octalDigit? rest
  | '0' :: 'b' :: rest => based 2 binaryDigit? rest
  | _ => do
      let (negative, rest) := sign source
      let (digits, rest) ← wholeDigits? rest
      return (← ranged? negative 10 digits, rest)

/-- The middle between the largest double and the next power of two. What is below it rounds to a
double, the rest to infinity. -/
def doubleLimit : Nat := 1 <<< 1024 - 1 <<< 970

/-- How many digits the limit has. -/
def limitDigits : Nat := 309

/-- Whether decimal digits, moved by a power of ten, write a number that rounds to a double. It
depends on how many digits stand before the point, and, if these are as many as the limit has, on
them alone. -/
def isFinite (digits : List Nat) (exponent : Int) : Bool :=
  let digits := significant digits
  let size := digits.length + exponent
  let whole := ofDigits 10 ((digits.rightpad limitDigits 0).take limitDigits)
  digits.isEmpty || size < limitDigits || (size == limitDigits && whole < doubleLimit)

/-- Where an exponent stops to grow. -/
def exponentLimit : Nat := 1 <<< 16

/-- The size of an exponent. Once it has reached the limit, further digits are passed over. -/
def ofExponentDigits (digits : List Nat) : Nat :=
  digits.foldl (fun n d => if n < exponentLimit then 10 * n + d else n) 0

/-- The exponent of a fraction, if it has one. -/
def exponent? (source : Source) : Option (Option Int × Source) :=
  let read (rest : Source) : Option (Option Int × Source) := do
    let (negative, rest) := sign rest
    let (digits, rest) ← digits? decimalDigit? rest
    let value : Int := ofExponentDigits digits
    return (some (if negative then -value else value), rest)
  match source with
  | 'e' :: rest => read rest
  | 'E' :: rest => read rest
  | _ => some (none, source)

/-- The source past a number with a fraction or an exponent. A positive one must not round to
infinity. -/
def pastFraction? (source : Source) : Option Source := do
  let (negative, rest) := sign source
  let (whole, rest) ← wholeDigits? rest
  let (fraction, rest) ← match rest with
    | '.' :: rest => (digits? decimalDigit? rest).map fun (digits, rest) => (some digits, rest)
    | _ => some (none, rest)
  let (exponent, rest) ← exponent? rest
  if fraction.isNone && exponent.isNone then none
  let scale : Int := exponent.getD 0 - (fraction.getD []).length
  if negative || isFinite (whole ++ fraction.getD []) scale then return rest else none

/-- The source past infinity or the number that is none, with or without a sign. -/
def pastSpecial? (source : Source) : Option Source :=
  match (sign source).2 with
  | 'i' :: 'n' :: 'f' :: rest => some rest
  | 'n' :: 'a' :: 'n' :: rest => some rest
  | _ => none

def fixedDigits? (count : Nat) (source : Source) : Option (Nat × Source) := do
  let shown := source.take count
  if shown.length < count then none
  return (ofDigits 10 (← shown.mapM decimalDigit?), source.drop count)

def within? (low high : Nat) (read : Option (Nat × Source)) : Option (Nat × Source) := do
  let (value, rest) ← read
  if low ≤ value ∧ value ≤ high then return (value, rest) else none

def expect? (c : Char) : Source → Option Source
  | d :: rest => if d == c then some rest else none
  | [] => none

def isLeapYear (year : Nat) : Bool := year % 4 == 0 && (year % 100 != 0 || year % 400 == 0)

def daysIn (year month : Nat) : Nat :=
  if month = 2 then (if isLeapYear year then 29 else 28)
  else if month ∈ [4, 6, 9, 11] then 30
  else 31

def pastDate? (source : Source) : Option Source := do
  let (year, rest) ← fixedDigits? 4 source
  let rest ← expect? '-' rest
  let (month, rest) ← within? 1 12 (fixedDigits? 2 rest)
  let rest ← expect? '-' rest
  let (_, rest) ← within? 1 (daysIn year month) (fixedDigits? 2 rest)
  return rest

/-- The source past a time of day, the seconds of which may have decimals. -/
def pastTime? (source : Source) : Option Source := do
  let (_, rest) ← within? 0 23 (fixedDigits? 2 source)
  let rest ← expect? ':' rest
  let (_, rest) ← within? 0 59 (fixedDigits? 2 rest)
  let rest ← expect? ':' rest
  let (_, rest) ← within? 0 60 (fixedDigits? 2 rest)
  match rest with
  | '.' :: c :: more => if c.isDigit then return more.dropWhile Char.isDigit else return rest
  | _ => return rest

/-- The source past an offset from universal time, if one stands there. -/
def pastOffset? (source : Source) : Option Source :=
  let read (rest : Source) : Option Source := do
    let (_, rest) ← within? 0 23 (fixedDigits? 2 rest)
    let rest ← expect? ':' rest
    let (_, rest) ← within? 0 59 (fixedDigits? 2 rest)
    return rest
  match source with
  | 'Z' :: rest => some rest
  | 'z' :: rest => some rest
  | '+' :: rest => read rest
  | '-' :: rest => read rest
  | _ => some source

/-- Whether a time of day begins here: two digits and a colon. -/
def startsTime (source : Source) : Bool :=
  match source with
  | a :: b :: ':' :: _ => a.isDigit && b.isDigit
  | _ => false

/-- Whether a date begins here: four digits and a hyphen. -/
def startsDate (source : Source) : Bool :=
  (source.take 4).length == 4 && (source.take 4).all Char.isDigit
    && (source.drop 4).head? == some '-'

/-- The source past a moment: a date, a time, or both with an offset. -/
def pastMoment? (source : Source) : Option Source :=
  if startsDate source then do
    let rest ← pastDate? source
    match rest with
    | c :: more =>
        if (c == 'T' || c == 't' || c == ' ') && startsTime more then
          pastOffset? (← pastTime? more)
        else return rest
    | [] => return rest
  else if startsTime source then pastTime? source
  else none

end KernelStore.Toml
