import RecordSynthesis.Descriptor.Basic
import RecordSynthesis.Text.Alphanumeric
import RecordSynthesis.Text.Blank

/-!
# Reading declared types

A type text is a name, then optionally a list of types in angle brackets, then any number of empty
square brackets, with white space allowed between all of these. The reader takes one character at
a time. Its state is the stack of argument lists that are still open and the stage that the type
at the top has reached, so a text is refused at the first character that no type text can have at
that place (`Descriptor.read`).

The one refusal that looks back is that of a primitive with type arguments: it comes when the list
closes, and is placed behind the closing bracket.
-/

set_option autoImplicit false

namespace RecordSynthesis.Descriptor

open RecordSynthesis.Text

/-! ## Refusals -/

/-- Why a text is no type. -/
inductive Problem where
  | expectedName
  | expectedSeparator
  | primitiveArguments (kind : Primitive)
  | expectedBracket
  | unexpected (c : Char)
  deriving DecidableEq

/-- The wording of a problem. -/
def Problem.message : Problem → String
  | .expectedName => "expected a type name"
  | .expectedSeparator => "expected ',' or '>' in type arguments"
  | .primitiveArguments kind => "primitive '" ++ kind.name ++ "' cannot take type arguments"
  | .expectedBracket => "expected ']'"
  | .unexpected c => "unexpected '" ++ c.toString ++ "' after type"

/-- A problem and the number of bytes before the place where it shows. -/
structure Fault where
  problem : Problem
  offset : Nat
  deriving DecidableEq

/-- The wording of a fault. -/
def Fault.reason (f : Fault) : String :=
  f.problem.message ++ " at offset " ++ toString f.offset

/-! ## The state of the reader -/

/-- A character of a type name. -/
def isNameChar (c : Char) : Bool := isAlphanumeric c || c == '_' || c == '$' || c == '.'

/-- An argument list that is still open: the name in front of it and the arguments that are
complete, the last one first. -/
structure OpenList where
  name : String
  args : List Descriptor

/-- How far the type at the top of the stack has come. -/
inductive Stage where
  /-- A type begins here. -/
  | expectName
  /-- Inside a name, of which the letters so far are kept in reverse. -/
  | inName (letters : List Char)
  /-- A name is complete, and an argument list may follow. -/
  | afterName (name : String)
  /-- A type is complete, and an array bracket may follow. -/
  | complete (type : Descriptor)
  /-- An array bracket over the type is open. -/
  | inBracket (type : Descriptor)

/-- The open argument lists, innermost first, and the stage of the type being read. -/
structure State where
  stack : List OpenList
  stage : Stage

/-- Before the first character. -/
def State.initial : State := ⟨[], .expectName⟩

/-! ## One character -/

/-- The name that the reversed letters spell. -/
def spelled (letters : List Char) : String := String.ofList letters.reverse

/-- Takes a character behind a complete type. -/
def takeAfterType (stack : List OpenList) (type : Descriptor) (c : Char) : Except Problem State :=
  if isBlank c then .ok ⟨stack, .complete type⟩
  else if c = '[' then .ok ⟨stack, .inBracket type⟩
  else
    match stack with
    | [] => .error (.unexpected c)
    | ⟨name, args⟩ :: outer =>
      if c = ',' then .ok ⟨⟨name, type :: args⟩ :: outer, .expectName⟩
      else if c = '>' then
        match Primitive.ofName? name with
        | some kind => .error (.primitiveArguments kind)
        | none => .ok ⟨outer, .complete (.declared name (type :: args).reverse)⟩
      else .error .expectedSeparator

/-- Takes a character behind a complete name. -/
def takeAfterName (stack : List OpenList) (name : String) (c : Char) : Except Problem State :=
  if isBlank c then .ok ⟨stack, .afterName name⟩
  else if c = '<' then .ok ⟨⟨name, []⟩ :: stack, .expectName⟩
  else takeAfterType stack (ofName name) c

/-- Takes one character. -/
def State.take (s : State) (c : Char) : Except Problem State :=
  match s.stage with
  | .expectName =>
    if isBlank c then .ok s
    else if isNameChar c then .ok ⟨s.stack, .inName [c]⟩
    else .error .expectedName
  | .inName letters =>
    if isNameChar c then .ok ⟨s.stack, .inName (c :: letters)⟩
    else takeAfterName s.stack (spelled letters) c
  | .afterName name => takeAfterName s.stack name c
  | .complete type => takeAfterType s.stack type c
  | .inBracket type =>
    if isBlank c then .ok s
    else if c = ']' then .ok ⟨s.stack, .complete (.array type)⟩
    else .error .expectedBracket

/-- The type that a complete top of the stack gives at the end of the text. -/
def State.closed (stack : List OpenList) (type : Descriptor) : Except Problem Descriptor :=
  match stack with
  | [] => .ok type
  | _ :: _ => .error .expectedSeparator

/-- Takes the end of the text. -/
def State.finish (s : State) : Except Problem Descriptor :=
  match s.stage with
  | .expectName => .error .expectedName
  | .inName letters => State.closed s.stack (ofName (spelled letters))
  | .afterName name => State.closed s.stack (ofName name)
  | .complete type => State.closed s.stack type
  | .inBracket _ => .error .expectedBracket

/-! ## Whole texts -/

/-- The bytes of the refused character that lie before the place of the problem. -/
def Problem.width (c : Char) : Problem → Nat
  | .primitiveArguments _ => c.utf8Size
  | _ => 0

/-- Reads the rest of a text whose first `offset` bytes led to the state. -/
def State.read (s : State) (offset : Nat) : List Char → Except Fault Descriptor
  | [] =>
    match s.finish with
    | .ok type => .ok type
    | .error problem => .error ⟨problem, offset⟩
  | c :: rest =>
    match s.take c with
    | .ok next => next.read (offset + c.utf8Size) rest
    | .error problem => .error ⟨problem, offset + problem.width c⟩

/-- The type that a text spells. -/
def read (s : String) : Except Fault Descriptor := State.initial.read 0 s.toList

end RecordSynthesis.Descriptor
