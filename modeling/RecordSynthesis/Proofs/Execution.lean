import RecordSynthesis.Declaration.Source

/-!
# Executing declarations

What the methods and constructors of generated classes do when they run. A value is a scalar, a
list or an object; an object has a class and the fields that were set, in the order in which they
were set first. Nothing is shared: a method that sets fields leaves a changed receiver behind, and
a local variable that was the target of the call holds it from then on.

A program knows the declaration of each class and the accessors of the classes that implement
models; what else its code calls, the helper for lists, is a parameter. Methods are found by name
and number of arguments. Execution is limited in depth, the number of calls inside each other;
`Program.Yields` says that a call gives a value whatever the limit, if only it is large enough, and
which conversions it makes on the way.
-/

set_option autoImplicit false

namespace RecordSynthesis

/-! ## Values -/

/-- A value at run time, over scalars `α`. -/
inductive Datum (α : Type) where
  | scalar (a : α)
  | list (items : List (Datum α))
  | object (type : ClassName) (fields : List (String × Datum α))

namespace Datum

variable {α : Type}

instance : Inhabited (Datum α) := ⟨.list []⟩

/-- The field of an object. -/
def field? : Datum α → String → Option (Datum α)
  | .object _ fields, name => fields.lookup name
  | _, _ => none

/-- The fields with one of them set. -/
def setField (name : String) (v : Datum α) : List (String × Datum α) → List (String × Datum α)
  | [] => [(name, v)]
  | (other, w) :: rest =>
    if other = name then (name, v) :: rest else (other, w) :: setField name v rest

/-- The object with a field set. -/
def withField? : Datum α → String → Datum α → Option (Datum α)
  | .object type fields, name, v => some (.object type (setField name v fields))
  | _, _, _ => none

mutual

/-- All objects in a value, each before those in its fields. -/
def objects : Datum α → List (Datum α)
  | .scalar _ => []
  | .list items => objectsOfAll items
  | .object type fields => .object type fields :: objectsOfFields fields

/-- All objects in the values of a list. -/
def objectsOfAll : List (Datum α) → List (Datum α)
  | [] => []
  | v :: rest => v.objects ++ objectsOfAll rest

/-- All objects in fields. -/
def objectsOfFields : List (String × Datum α) → List (Datum α)
  | [] => []
  | (_, v) :: rest => v.objects ++ objectsOfFields rest

end

theorem objects_list (items : List (Datum α)) :
    (Datum.list items).objects = items.flatMap objects := by
  rw [objects]
  induction items with
  | nil => rfl
  | cons v rest ih => rw [objectsOfAll, ih, List.flatMap_cons]

theorem objects_object (type : ClassName) (fields : List (String × Datum α)) :
    (Datum.object type fields).objects =
      .object type fields :: fields.flatMap fun field => field.2.objects := by
  rw [objects]
  congr 1
  induction fields with
  | nil => rfl
  | cons field rest ih => rw [objectsOfFields, ih, List.flatMap_cons]

end Datum

/-! ## Computations -/

variable {α β γ : Type}

/-- A call of a method on an object. -/
structure Call (α : Type) where
  method : String
  receiver : Datum α

/-- A computation that may fail and notes the conversions that it makes. -/
abbrev Exec (α : Type) := StateT (List (Call α)) Option

namespace Exec

/-- A value that must be there. -/
def ofOption (x : Option β) : Exec α β := fun calls => x.map (·, calls)

/-- Notes a call. -/
def note (call : Call α) : Exec α Unit := fun calls => some ((), calls ++ [call])

end Exec

/-- What code calls outside of its own body. -/
structure Routines (α : Type) where
  /-- A method on an object; the result, if there is one, and the object afterwards. -/
  invoke : Datum α → String → List (Datum α) → Exec α (Option (Datum α) × Datum α)
  /-- A new object. -/
  create : ClassName → List (Datum α) → Exec α (Datum α)
  /-- A static method. -/
  invokeStatic : ClassName → String → List (Datum α) → Exec α (Datum α)

/-- The result of a method. -/
def Routines.result (r : Routines α) (v : Datum α) (method : String) (args : List (Datum α)) :
    Exec α (Datum α) := do
  let (result, _) ← r.invoke v method args
  Exec.ofOption result

/-! ## Bodies -/

/-- The receiver of a running method and its local variables, the newest first. -/
structure Frame (α : Type) where
  self : Datum α
  locals : List (String × Datum α)

/-- A bare name: a local variable, else a field of the receiver. -/
def Frame.named? (f : Frame α) (name : String) : Option (Datum α) :=
  (f.locals.lookup name).or (f.self.field? name)

mutual

/-- The value of an expression. -/
def evaluate (r : Routines α) (f : Frame α) : Expression → Exec α (Datum α)
  | .named name => Exec.ofOption (f.named? name)
  | .this => pure f.self
  | .field target name => do
    let v ← evaluate r f target
    Exec.ofOption (v.field? name)
  | .call method args => do
    let values ← evaluateAll r f args
    r.result f.self method values
  | .invoke target method args => do
    let v ← evaluate r f target
    let values ← evaluateAll r f args
    r.result v method values
  | .invokeStatic owner method args => do
    let values ← evaluateAll r f args
    r.invokeStatic owner method values
  | .construct type args => do
    let values ← evaluateAll r f args
    r.create type values

/-- The values of arguments. -/
def evaluateAll (r : Routines α) (f : Frame α) : List Expression → Exec α (List (Datum α))
  | [] => pure []
  | arg :: more => do
    let v ← evaluate r f arg
    let values ← evaluateAll r f more
    return v :: values

end

/-- Hands arguments to the constructor of the superclass, which stores each under the name of the
parameter that it comes from. -/
def storeAll (r : Routines α) (f : Frame α) : List Expression → Exec α (Frame α)
  | [] => pure f
  | .named name :: more => do
    let v ← evaluate r f (.named name)
    let self ← Exec.ofOption (f.self.withField? name v)
    storeAll r { f with self } more
  | _ :: _ => failure

/-- A statement that goes on to the next one. -/
def executeStep (r : Routines α) (f : Frame α) : Statement → Exec α (Frame α)
  | .declareLocal _ name value => do
    let v ← evaluate r f value
    return { f with locals := (name, v) :: f.locals }
  | .evaluate (.invoke (.named name) method args) =>
    match f.locals.lookup name with
    | some v => do
      let values ← evaluateAll r f args
      let (_, after) ← r.invoke v method values
      return { f with locals := Datum.setField name after f.locals }
    | none => do
      let _ ← evaluate r f (.invoke (.named name) method args)
      return f
  | .evaluate expression => do
    let _ ← evaluate r f expression
    return f
  | .assign (.field .this name) value => do
    let v ← evaluate r f value
    let self ← Exec.ofOption (f.self.withField? name v)
    return { f with self }
  | .superCall args => storeAll r f args
  | .assign _ _ => failure
  | .giveBack _ => failure

/-- Runs statements up to the first return. -/
def execute (r : Routines α) (f : Frame α) : List Statement → Exec α (Option (Datum α) × Frame α)
  | [] => pure (none, f)
  | .giveBack value :: _ => do
    let v ← evaluate r f value
    return (some v, f)
  | statement :: more => do
    let f ← executeStep r f statement
    execute r f more

/-! ## Programs -/

/-- The helper for lists: its class, the method, how it calls a method without arguments on an
object, and its arguments. -/
abbrev ListHelper (α : Type) :=
  ClassName → String → (String → Datum α → Exec α (Datum α)) → List (Datum α) → Exec α (Datum α)

/-- Classes that can run. -/
structure Program (α : Type) where
  declaration? : ClassName → Option TypeDeclaration
  /-- The property that an accessor of a class reads. -/
  property? : ClassName → String → Option String
  helper : ListHelper α

/-- The method of a name with a number of parameters. -/
def TypeDeclaration.findOverload? (d : TypeDeclaration) (name : String) (arity : Nat) :
    Option MethodDeclaration :=
  d.methods.find? fun m => m.name? = some name ∧ m.parameters.length = arity

/-- The frame in which a member runs. -/
def MethodDeclaration.frame (m : MethodDeclaration) (self : Datum α) (args : List (Datum α)) :
    Frame α :=
  ⟨self, (m.parameters.map (·.name)).zip args⟩

namespace Program

variable (p : Program α)

/-- Calls a method: the declared one, and otherwise the accessor of a property. Methods without
parameters are conversions and noted. -/
def invoke (r : Routines α) (v : Datum α) (method : String) (args : List (Datum α)) :
    Exec α (Option (Datum α) × Datum α) :=
  match v with
  | .object type _ =>
    match (p.declaration? type).bind (·.findOverload? method args.length) with
    | some m => do
      if args.isEmpty then Exec.note ⟨method, v⟩
      let (result, f) ← execute r (m.frame v args) m.body
      return (result, f.self)
    | none =>
      if args.isEmpty then do
        let w ← Exec.ofOption ((p.property? type method).bind v.field?)
        return (some w, v)
      else failure
  | _ => failure

/-- Makes a new object. Its constructor must take all arguments; a class without constructor takes
none. -/
def create (r : Routines α) (type : ClassName) (args : List (Datum α)) : Exec α (Datum α) :=
  match p.declaration? type with
  | some d =>
    match d.constructor? with
    | some m =>
      if m.parameters.length = args.length then do
        let (_, f) ← execute r (m.frame (.object type []) args) m.body
        return f.self
      else failure
    | none => if args.isEmpty then return .object type [] else failure
  | none => failure

/-- What code can call when so many calls may be inside each other. -/
def routines : Nat → Routines α
  | 0 => ⟨fun _ _ _ => failure, fun _ _ => failure, fun _ _ _ => failure⟩
  | depth + 1 =>
    let r := routines depth
    { invoke := p.invoke r
      create := p.create r
      invokeStatic := fun owner method args =>
        p.helper owner method (fun m v => r.result v m []) args }

/-- A method without arguments gives a value, with these conversions, whatever the limit of depth
from some limit on. -/
def Yields (v : Datum α) (method : String) (w : Datum α) (calls : List (Call α)) : Prop :=
  ∃ enough, ∀ depth ≥ enough, ∀ earlier,
    ((p.routines depth).result v method []).run earlier = some (w, earlier ++ calls)

end Program

/-! ## What computations give -/

/-- The computation succeeds with a value and notes these calls. -/
def Gives (x : Exec α β) (b : β) (calls : List (Call α)) : Prop :=
  ∀ earlier, x.run earlier = some (b, earlier ++ calls)

namespace Gives

variable {x : Exec α β} {f : β → Exec α γ} {b : β} {c : γ} {calls more : List (Call α)}

theorem pure (b : β) : Gives (α := α) (Pure.pure b) b [] := fun earlier => by simp

theorem ofOption {o : Option β} (found : o = some b) : Gives (α := α) (Exec.ofOption o) b [] := by
  intro earlier
  simp [Exec.ofOption, StateT.run, found]

theorem note (call : Call α) : Gives (Exec.note call) () [call] := fun _ => rfl

theorem bind (first : Gives x b calls) (second : Gives (f b) c more) :
    Gives (x >>= f) c (calls ++ more) := by
  intro earlier
  rw [StateT.run_bind, first earlier, Option.bind_eq_bind, Option.bind_some, second,
    List.append_assoc]

/-- A first part that notes nothing. -/
theorem quietly (first : Gives x b []) (second : Gives (f b) c more) : Gives (x >>= f) c more :=
  first.bind second

/-- A last part that notes nothing. -/
theorem thenQuietly (first : Gives x b calls) (second : Gives (f b) c []) :
    Gives (x >>= f) c calls := by
  rw [← List.append_nil calls]
  exact first.bind second

theorem map (first : Gives x b calls) (f : β → γ) : Gives (f <$> x) (f b) calls := by
  intro earlier
  rw [StateT.run_map, first earlier]
  rfl

/-- The same for every element of a list, in order. -/
theorem mapM {ι : Type} {step : ι → Exec α β} {result : ι → β} {noted : ι → List (Call α)}
    {items : List ι} (each : ∀ i ∈ items, Gives (step i) (result i) (noted i)) :
    Gives (items.mapM step) (items.map result) (items.flatMap noted) := by
  induction items with
  | nil => exact .pure _
  | cons i items ih =>
      obtain ⟨first, others⟩ := List.forall_mem_cons.1 each
      rw [List.mapM_cons]
      exact first.bind ((ih others).thenQuietly (.pure _))

end Gives

section Bodies

variable {r : Routines α} {f : Frame α}

theorem evaluateAll_gives {ι : Type} {expression : ι → Expression} {value : ι → Datum α}
    {noted : ι → List (Call α)} {items : List ι}
    (each : ∀ i ∈ items, Gives (evaluate r f (expression i)) (value i) (noted i)) :
    Gives (evaluateAll r f (items.map expression)) (items.map value) (items.flatMap noted) := by
  induction items with
  | nil => exact .pure _
  | cons i items ih =>
      obtain ⟨first, others⟩ := List.forall_mem_cons.1 each
      exact first.bind ((ih others).thenQuietly (.pure _))

theorem evaluate_call_nil (method : String) :
    evaluate r f (.call method []) = r.result f.self method [] := by
  rw [evaluate, evaluateAll, pure_bind]

/-- Runs a step and then the others. -/
theorem execute_step_gives {f' f'' : Frame α} {statement : Statement} {more : List Statement}
    {result : Option (Datum α)} {calls later : List (Call α)}
    (step : Gives (executeStep r f statement) f' calls)
    (others : Gives (execute r f' more) (result, f'') later) :
    Gives (execute r f (statement :: more)) (result, f'') (calls ++ later) := by
  cases statement with
  | giveBack value =>
      have failed := step []
      cases failed
  | declareLocal type name value => exact step.bind others
  | evaluate expression => exact step.bind others
  | assign target value => exact step.bind others
  | superCall args => exact step.bind others

theorem evaluateAll_gives_singleton {expression : Expression} {v : Datum α} {calls : List (Call α)}
    (value : Gives (evaluate r f expression) v calls) :
    Gives (evaluateAll r f [expression]) [v] calls :=
  value.thenQuietly (.quietly (.pure _) (.pure _))

/-- A call on a local variable leaves the changed object in it. -/
theorem executeStep_gives_of_local {name method : String} {args : List Expression}
    {values : List (Datum α)} {v after : Datum α} {result : Option (Datum α)}
    {calls later : List (Call α)} (found : f.locals.lookup name = some v)
    (evaluated : Gives (evaluateAll r f args) values calls)
    (invoked : Gives (r.invoke v method values) (result, after) later) :
    Gives (executeStep r f (.evaluate (.invoke (.named name) method args)))
      { f with locals := Datum.setField name after f.locals } (calls ++ later) := by
  rw [executeStep, found]
  exact evaluated.bind (invoked.thenQuietly (.pure _))

/-- A setter sets the field of its parameter. -/
theorem execute_setField_gives (type : ClassName) (fields : List (String × Datum α)) (name : String)
    (v : Datum α) :
    Gives (execute r ⟨.object type fields, [(name, v)]⟩
        [.assign (.field .this name) (.named name)])
      (none, ⟨.object type (Datum.setField name v fields), [(name, v)]⟩) [] := by
  have found : Frame.named? ⟨.object type fields, [(name, v)]⟩ name = some v := by
    rw [Frame.named?, List.lookup_cons_self, Option.some_or]
  have step : Gives (executeStep r ⟨.object type fields, [(name, v)]⟩
      (.assign (.field .this name) (.named name))) _ [] :=
    Gives.quietly (.ofOption found) (.quietly (.ofOption rfl) (.pure _))
  exact execute_step_gives step (.pure _)

end Bodies

/-! ## What calls give -/

namespace Program

variable {p : Program α} {r : Routines α} {type : ClassName} {fields : List (String × Datum α)}
  {method : String} {d : TypeDeclaration} {m : MethodDeclaration}

/-- A declared method with one parameter runs its body. -/
theorem invoke_gives_of_singleton {v : Datum α} {result : Option (Datum α)} {f : Frame α}
    {calls : List (Call α)} (declared : p.declaration? type = some d)
    (found : d.findOverload? method 1 = some m)
    (runs : Gives (execute r (m.frame (.object type fields) [v]) m.body) (result, f) calls) :
    Gives (p.invoke r (.object type fields) method [v]) (result, f.self) calls := by
  rw [invoke, declared, Option.bind_some, List.length_singleton, found]
  exact runs.thenQuietly (.pure _)

/-- A declared method without parameters notes its call and runs its body. -/
theorem invoke_gives_of_nil {result : Option (Datum α)} {f : Frame α} {calls : List (Call α)}
    (declared : p.declaration? type = some d) (found : d.findOverload? method 0 = some m)
    (runs : Gives (execute r (m.frame (.object type fields) []) m.body) (result, f) calls) :
    Gives (p.invoke r (.object type fields) method []) (result, f.self)
      (⟨method, .object type fields⟩ :: calls) := by
  rw [invoke, declared, Option.bind_some, List.length_nil, found]
  exact Gives.bind (.note _) (runs.thenQuietly (.pure _))

/-- Without a declared method the accessor of a property reads its field. -/
theorem invoke_gives_of_accessor {name : String} {v : Datum α}
    (declared : p.declaration? type = some d) (missing : d.findOverload? method 0 = none)
    (property : p.property? type method = some name) (field : fields.lookup name = some v) :
    Gives (p.invoke r (.object type fields) method []) (some v, .object type fields) [] := by
  rw [invoke, declared, Option.bind_some, List.length_nil, missing]
  refine Gives.quietly (.ofOption ?_) (.pure _)
  rw [property, Option.bind_some]
  exact field

theorem invokeStatic_routines (p : Program α) (depth : Nat) (owner : ClassName) (method : String)
    (args : List (Datum α)) :
    (p.routines (depth + 1)).invokeStatic owner method args =
      p.helper owner method (fun m v => (p.routines depth).result v m []) args := rfl

theorem result_gives {depth : Nat} {v w after : Datum α} {calls : List (Call α)}
    (invoked : Gives (p.invoke (p.routines depth) v method []) (some w, after) calls) :
    Gives ((p.routines (depth + 1)).result v method []) w calls :=
  invoked.thenQuietly (.ofOption rfl)

/-- A class without constructor makes objects without fields. -/
theorem create_gives_of_none (declared : p.declaration? type = some d)
    (missing : d.constructor? = none) : Gives (p.create r type []) (.object type []) [] := by
  simp only [create, declared, missing]
  exact .pure _

/-- A constructor runs its body on a new object. -/
theorem create_gives_of_some {args : List (Datum α)} {result : Option (Datum α)} {f : Frame α}
    {calls : List (Call α)} (declared : p.declaration? type = some d)
    (found : d.constructor? = some m) (arity : m.parameters.length = args.length)
    (runs : Gives (execute r (m.frame (.object type []) args) m.body) (result, f) calls) :
    Gives (p.create r type args) f.self calls := by
  simp only [create, declared, found, if_pos arity]
  exact runs.thenQuietly (.pure _)

end Program

end RecordSynthesis
