import KernelStore.Toml.Node
import KernelStore.Toml.Number

/-!
Values: texts, numbers, moments, truth values, arrays and tables between braces.
-/

namespace KernelStore.Toml

def scalar? (source : Source) : Option (Node × Source) :=
  if startsDate source || startsTime source then
    (pastMoment? source).map fun rest => (.moment, rest)
  else
    match pastFraction? source, pastSpecial? source with
    | some rest, _ => some (.fraction, rest)
    | none, some rest => some (.fraction, rest)
    | none, none => do
        let (value, rest) ← integer? source
        match rest with
        | '.' :: _ => none
        | 'e' :: _ => none
        | 'E' :: _ => none
        | _ => return (.integer value, rest)

/-- Array items from after an opening bracket or a comma on. A comma may stand after the last
item, and lines may break anywhere. -/
def items? (value? : Nat → Source → Option (Node × Source)) :
    (fuel : Nat) → Source → Option (List Node × Source)
  | 0, _ => none
  | fuel + 1, source =>
      match skipLines (fuel + 1) source with
      | ']' :: rest => some ([], rest)
      | source => do
          let (item, rest) ← value? (fuel + 1) source
          match skipLines (fuel + 1) rest with
          | ',' :: rest =>
              let (items, rest) ← items? value? fuel rest
              return (item :: items, rest)
          | ']' :: rest => return ([item], rest)
          | _ => none

/-- The entries of a table between braces, from after the brace or a comma on. The table stays on
one line and has no comma after its last entry. -/
def inlineEntries? (value? : Nat → Source → Option (Node × Source)) :
    (fuel : Nat) → Entries → Source → Option (Entries × Source)
  | 0, _, _ => none
  | fuel + 1, entries, source => do
      let (key, rest) ← key? (fuel + 1) source
      let rest ← expect? '=' rest
      let (value, rest) ← value? fuel (skipBlanks rest)
      let entries ← entries.insert key value
      match skipBlanks rest with
      | ',' :: rest => inlineEntries? value? fuel entries rest
      | '\x7d' :: rest => return (entries, rest)
      | _ => none

/-- A value in which brackets and braces nest at most `depth` levels. -/
def value? (depth fuel : Nat) (source : Source) : Option (Node × Source) :=
  match depth, source with
  | 0, '[' :: _ => none
  | 0, '\x7b' :: _ => none
  | depth + 1, '[' :: rest => do
      let (items, rest) ← items? (value? depth) fuel rest
      return (.array items, rest)
  | depth + 1, '\x7b' :: rest =>
      match skipBlanks rest with
      | '\x7d' :: rest => some (.table .inline [], rest)
      | rest => do
          let (entries, rest) ← inlineEntries? (value? depth) fuel [] rest
          return (.table .inline entries, rest)
  | _, 't' :: 'r' :: 'u' :: 'e' :: rest => some (.boolean true, rest)
  | _, 'f' :: 'a' :: 'l' :: 's' :: 'e' :: rest => some (.boolean false, rest)
  | _, '"' :: _ => (quotedText? fuel source).map fun (text, rest) => (.text text, rest)
  | _, '\'' :: _ => (quotedText? fuel source).map fun (text, rest) => (.text text, rest)
  | _, _ => scalar? source

end KernelStore.Toml
