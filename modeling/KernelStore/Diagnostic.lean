import KernelStore.Text.Padding

/-!
Diagnostics: what happened, how severe it is, a code for its kind, and notes that explain it.
-/

namespace KernelStore

inductive Severity
  | info
  | warning
  | error
  deriving DecidableEq

namespace Severity

def all : List Severity := [.info, .warning, .error]

def name : Severity → String
  | info => "info"
  | warning => "warning"
  | error => "error"

def ofName? (text : String) : Option Severity := all.find? (·.name == text)

def rank : Severity → Nat
  | info => 0
  | warning => 1
  | error => 2

instance : LE Severity := ⟨fun a b => a.rank ≤ b.rank⟩

instance (a b : Severity) : Decidable (a ≤ b) := inferInstanceAs (Decidable (a.rank ≤ b.rank))

def colour : Severity → String
  | info => "36"
  | warning => "33"
  | error => "31"

end Severity

inductive Category
  | cache
  | dependency
  | memory
  | write
  deriving DecidableEq

namespace Category

def all : List Category := [.cache, .dependency, .memory, .write]

def name : Category → String
  | cache => "Cache"
  | dependency => "Dependency"
  | memory => "Memory"
  | write => "Write"

def ofName? (text : String) : Option Category := all.find? (·.name == text)

def letter : Category → Char
  | cache => 'C'
  | dependency => 'D'
  | memory => 'M'
  | write => 'W'

end Category

structure DiagnosticCode where
  category : Category
  number : UInt16
  deriving DecidableEq

/-- The category's letter and at least three digits. -/
def DiagnosticCode.text (code : DiagnosticCode) : String :=
  code.category.letter.toString ++ zeroPadded 3 code.number.toNat

structure Diagnostic where
  severity : Severity
  code : DiagnosticCode
  message : String
  notes : List String := []
  deriving DecidableEq

namespace Diagnostic

/-- The severity as a terminal shows it, in bold colour if wanted. -/
def severityText (coloured : Bool) (severity : Severity) : String :=
  if coloured then s!"\x1b[1;{severity.colour}m{severity.name}\x1b[0m" else severity.name

def render (diagnostic : Diagnostic) (coloured : Bool) : String :=
  s!"{severityText coloured diagnostic.severity}[{diagnostic.code.text}]: {diagnostic.message}"
    ++ String.join (diagnostic.notes.map ("\n   = note: " ++ ·))

end Diagnostic

/-- Collects diagnostics in the order of their arrival. -/
structure DiagnosticLog where
  held : List Diagnostic := []

namespace DiagnosticLog

def emit (log : DiagnosticLog) (diagnostic : Diagnostic) : DiagnosticLog :=
  ⟨log.held ++ [diagnostic]⟩

/-- The diagnostics held that are at least this severe. -/
def atLeast (log : DiagnosticLog) (least : Severity) : List Diagnostic :=
  log.held.filter (fun diagnostic => least ≤ diagnostic.severity)

def countAtLeast (log : DiagnosticLog) (least : Severity) : Nat := (log.atLeast least).length

def contains (log : DiagnosticLog) (code : DiagnosticCode) : Bool :=
  log.held.any (·.code == code)

def takeAtLeast (log : DiagnosticLog) (least : Severity) : List Diagnostic × DiagnosticLog :=
  (log.atLeast least, {})

def takeAll (log : DiagnosticLog) : List Diagnostic × DiagnosticLog := (log.held, {})

end DiagnosticLog

end KernelStore
