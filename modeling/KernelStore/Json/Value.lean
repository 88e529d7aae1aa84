import KernelStore.Text.Hexadecimal
import KernelStore.Text.Padding

/-!
JSON values and their two written forms: on one line without spaces, and indented by two spaces a
level. Members of an object are written in the order given.
-/

namespace KernelStore

inductive Json
  | boolean (value : Bool)
  | natural (value : Nat)
  | text (value : String)
  | array (items : List Json)
  | object (members : List (String × Json))

namespace Json

def escapedChar (c : Char) : String :=
  if c = '"' then "\\\""
  else if c = '\\' then "\\\\"
  else if c = '\x08' then "\\b"
  else if c = '\x0c' then "\\f"
  else if c = '\n' then "\\n"
  else if c = '\r' then "\\r"
  else if c = '\t' then "\\t"
  else if c.toNat < 0x20 then "\\u00" ++ Hexadecimal.ofBytes [UInt8.ofNat c.toNat]
  else c.toString

def string (text : String) : String :=
  "\"" ++ String.join (text.toList.map escapedChar) ++ "\""

mutual

def compact : Json → String
  | boolean value => toString value
  | natural value => toString value
  | text value => string value
  | array items => "[" ++ ",".intercalate (compactItems items) ++ "]"
  | object members => "\x7b" ++ ",".intercalate (compactMembers members) ++ "\x7d"

def compactItems : List Json → List String
  | [] => []
  | item :: rest => item.compact :: compactItems rest

def compactMembers : List (String × Json) → List String
  | [] => []
  | (name, value) :: rest => (string name ++ ":" ++ value.compact) :: compactMembers rest

end

/-- Puts items one to a line between brackets; without items the brackets touch. -/
def block (opening closing : String) (depth : Nat) (items : List String) : String :=
  let indent (levels : Nat) : String := "\n" ++ String.ofList (List.replicate (2 * levels) ' ')
  if items.isEmpty then opening ++ closing
  else opening ++ ",".intercalate (items.map (indent (depth + 1) ++ ·)) ++ indent depth ++ closing

mutual

/-- The value over several lines, its own line being indented `depth` levels. -/
def indented (depth : Nat) : Json → String
  | boolean value => toString value
  | natural value => toString value
  | text value => string value
  | array items => block "[" "]" depth (indentedItems (depth + 1) items)
  | object members => block "\x7b" "\x7d" depth (indentedMembers (depth + 1) members)

def indentedItems (depth : Nat) : List Json → List String
  | [] => []
  | item :: rest => indented depth item :: indentedItems depth rest

def indentedMembers (depth : Nat) : List (String × Json) → List String
  | [] => []
  | (name, value) :: rest =>
      (string name ++ ": " ++ indented depth value) :: indentedMembers depth rest

end

def pretty (value : Json) : String := indented 0 value

end Json

end KernelStore
