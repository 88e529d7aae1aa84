/-!
Text in a field of a given width: cut to a greatest length, then filled to a least one.
-/

namespace KernelStore

inductive Alignment
  | left
  | right
  | centre
  deriving DecidableEq

/-- How a text is fitted into a field. -/
structure Field where
  alignment : Alignment := .left
  width : Nat := 0
  most : Option Nat := none
  fill : Char := ' '

namespace Field

/-- Cuts the text, then fills the field. A centred text has the odd fill character on its
right. -/
def fit (field : Field) (text : String) : String :=
  let kept := match field.most with
    | none => text.toList
    | some most => text.toList.take most
  let spare := field.width - kept.length
  let before := match field.alignment with
    | .left => 0
    | .right => spare
    | .centre => spare / 2
  String.ofList (List.replicate before field.fill ++ kept
    ++ List.replicate (spare - before) field.fill)

end Field

/-- The decimal digits of a number, zero-filled to at least `width` digits. -/
def zeroPadded (width value : Nat) : String :=
  Field.fit ⟨.right, width, none, '0'⟩ (toString value)

end KernelStore
