import KernelStore.Diagnostic
import KernelStore.Json.Reading
import KernelStore.Json.Value

/-!
Diagnostics as JSON: one object to a line, its members in the order severity, code, message, notes.
Reading also takes an array with those parts in that order, and passes over members it does not
know.
-/

namespace KernelStore

namespace DiagnosticCode

def toJson (code : DiagnosticCode) : Json :=
  .object [("category", .text code.category.name), ("number", .natural code.number.toNat)]

def ofRawJson? (value : RawJson) : Option DiagnosticCode := do
  match ← value.record? ["category", "number"] with
  | [category, number] =>
      let number ← number.natural?
      if number < 1 <<< 16 then
        return ⟨← Category.ofName? (← category.choice?), UInt16.ofNat number⟩
      else none
  | _ => none

end DiagnosticCode

namespace Diagnostic

def toJson (diagnostic : Diagnostic) : Json :=
  .object
    [ ("severity", .text diagnostic.severity.name)
    , ("code", diagnostic.code.toJson)
    , ("message", .text diagnostic.message)
    , ("notes", .array (diagnostic.notes.map .text)) ]

def json (diagnostic : Diagnostic) : String := diagnostic.toJson.compact

def ofRawJson? (value : RawJson) : Option Diagnostic := do
  match ← value.record? ["severity", "code", "message", "notes"] with
  | [severity, code, message, notes] =>
      let severity ← Severity.ofName? (← severity.choice?)
      let code ← DiagnosticCode.ofRawJson? code
      let message ← message.text?
      let notes ← (← notes.array?).mapM RawJson.text?
      return { severity, code, message, notes }
  | _ => none

def ofJson? (text : String) : Option Diagnostic := do ofRawJson? (← RawJson.document? text)

end Diagnostic

end KernelStore
