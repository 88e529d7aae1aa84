import KernelStore.Text.Hexadecimal
import KernelStore.Text.Invisible

/-!
A text between double quotes, for reports. The quote, the backslash and the characters that would
not show are escaped; a single quote stands as it is.
-/

namespace KernelStore.Text

def quotedChar (c : Char) : String :=
  if c = '"' then "\\\""
  else if c = '\\' then "\\\\"
  else if c = '\n' then "\\n"
  else if c = '\r' then "\\r"
  else if c = '\t' then "\\t"
  else if c = '\x00' then "\\0"
  else if isInvisible c then "\\u\x7b" ++ Hexadecimal.digits c.toNat ++ "\x7d"
  else c.toString

def quoted (text : String) : String :=
  "\"" ++ String.join (text.toList.map quotedChar) ++ "\""

end KernelStore.Text
