import RecordSynthesis.Document.Value

/-!
# Reading shapes from values

Small decoders from document values to the types that a reader of documents wants. A value of
another form gives `none`.
-/

set_option autoImplicit false

namespace RecordSynthesis.Document

/-- The content of a text. -/
def Value.text? : Value → Option String
  | .text content => some content
  | _ => none

/-- The truth value of a boolean. -/
def Value.boolean? : Value → Option Bool
  | .boolean truth => some truth
  | _ => none

/-- The elements of an array, each decoded. -/
def Value.elements? {α : Type} (decode : Value → Option α) : Value → Option (List α)
  | .array _ elements => elements.mapM decode
  | _ => none

namespace Entries

variable {α : Type}

/-- Whether no key is unknown. -/
def onlyKeys (entries : Entries) (known : List String) : Bool := entries.all fun e => e.1 ∈ known

/-- The value of a key that must be there. -/
def required (entries : Entries) (key : String) (decode : Value → Option α) : Option α :=
  (entries.lookup key).bind decode

/-- The value of a key that may be missing. -/
def possible (entries : Entries) (key : String) (decode : Value → Option α) : Option (Option α) :=
  match entries.lookup key with
  | none => some none
  | some value => (decode value).map some

/-- The value of a key, or a default where the key is missing. -/
def withDefault (entries : Entries) (key : String) (default : α) (decode : Value → Option α) :
    Option α :=
  match entries.lookup key with
  | none => some default
  | some value => decode value

end Entries

/-- The element at a position, or a default behind the end. -/
def elementOr {α : Type} (elements : List Value) (position : Nat) (default : α)
    (decode : Value → Option α) : Option α :=
  match elements[position]? with
  | none => some default
  | some value => decode value

end RecordSynthesis.Document
