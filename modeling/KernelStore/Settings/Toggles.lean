import KernelStore.Settings

/-!
Toggles: what the settings say about caching, unless a variable of the environment says otherwise.
-/

namespace KernelStore

structure Toggles where
  /-- Whether cached kernels are looked up and written at all. -/
  enabled : Bool := true
  forceRecompile : Bool := false
  precision : Option Precision := none
  deriving DecidableEq

/-- A variable whose value means nothing. -/
structure ToggleFault where
  name : String
  value : String
  deriving DecidableEq

def ToggleFault.message (fault : ToggleFault) : String :=
  s!"invalid value '{fault.value}' for environment variable {fault.name}"

namespace Toggles

def noCache : String := "KILN_NO_CACHE"

def recompile : String := "KILN_FORCE_RECOMPILE"

def requiredPrecision : String := "KILN_FP_PRECISION"

/-- A yes or no, whatever its case and the white space around it; blank means no. -/
def flag (name value : String) : Except ToggleFault Bool :=
  let word := Text.lowerCase (Text.trim value)
  if word ∈ ["1", "true", "yes", "on"] then .ok true
  else if word ∈ ["", "0", "false", "no", "off"] then .ok false
  else .error ⟨name, value⟩

/-- A precision; blank lifts the requirement. -/
def precisionValue (name value : String) : Except ToggleFault (Option Precision) :=
  if Text.trim value = "" then .ok none
  else match Precision.read? value with
    | some precision => .ok (some precision)
    | none => .error ⟨name, value⟩

/-- The value a variable has under `read`, or `otherwise` when it is not set. -/
def override {α : Type} (environment : String → Option String) (name : String)
    (read : String → String → Except ToggleFault α) (otherwise : α) : Except ToggleFault α :=
  match environment name with
  | none => .ok otherwise
  | some value => read name value

/-- The toggles in force. The variables are read in a fixed order, and the first that means
nothing is reported. -/
def resolve (cache : CacheSettings) (environment : String → Option String) :
    Except ToggleFault Toggles := do
  let disabled ← override environment noCache flag (!cache.enabled)
  let forceRecompile ← override environment recompile flag cache.forceRecompile
  let precision ← override environment requiredPrecision precisionValue cache.precision
  return { enabled := !disabled, forceRecompile, precision }

end Toggles

end KernelStore
