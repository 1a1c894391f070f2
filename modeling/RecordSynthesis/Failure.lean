import RecordSynthesis.Text.Segments

/-!
# Failures

Everything that can go wrong, as causes. `Failure.message` holds all wording. A failure has one of
seven kinds, and several causes may share a kind.
-/

set_option autoImplicit false

namespace RecordSynthesis

open RecordSynthesis.Text

/-! ## Causes -/

/-- What the file system refuses. -/
inductive SystemError where
  | notFound
  | alreadyExists
  | notADirectory
  | isADirectory
  | invalidArgument
  | nameTooLong
  | nulInName
  | notUtf8
  deriving DecidableEq, Inhabited

/-- The wording of a system error. -/
def SystemError.message : SystemError → String
  | .notFound => "No such file or directory (os error 2)"
  | .alreadyExists => "File exists (os error 17)"
  | .notADirectory => "Not a directory (os error 20)"
  | .isADirectory => "Is a directory (os error 21)"
  | .invalidArgument => "Invalid argument (os error 22)"
  | .nameTooLong => "File name too long (os error 36)"
  | .nulInName => "file name contained an unexpected NUL byte"
  | .notUtf8 => "stream did not contain valid UTF-8"

/-- What is wrong with settings or schemas. -/
inductive ConfigurationProblem where
  /-- A setting for a method name is empty or holds a dot. -/
  | notBareMethodName (key value : String)
  /-- Both conversion methods have the same name. -/
  | sameConversionMethods
  /-- The indentation holds something other than spaces and tabs. -/
  | badIndent
  /-- A model name has an empty segment. -/
  | badModelName (name : String)
  /-- Two accessors of a model give the same property name. -/
  | repeatedProperty (model property : String)
  /-- A schema file cannot be read. -/
  | unreadableSchema (path : String) (cause : SystemError)
  /-- A schema file holds no schema. -/
  | malformedSchema (path : String)
  /-- A class without trigger was to be generated. -/
  | noTrigger (model method : String)
  /-- The trigger of a class is not the configured method. -/
  | foreignTrigger (model trigger method : String)
  /-- More than one class has the qualified name. -/
  | declaredTwice (model : String)
  /-- A problem that a host states in its own words. -/
  | stated (text : String)
  deriving DecidableEq, Inhabited

/-- The wording of a problem. -/
def ConfigurationProblem.message : ConfigurationProblem → String
  | .notBareMethodName key value => key ++ " must be a bare method name, got '" ++ value ++ "'"
  | .sameConversionMethods => "to_storage_method and to_model_method must differ"
  | .badIndent => "indent may only contain spaces and tabs"
  | .badModelName name => "Invalid model name '" ++ name ++ "'"
  | .repeatedProperty model property =>
    "Model '" ++ model ++ "' declares property '" ++ property ++ "' more than once"
  | .unreadableSchema path cause =>
    "Failed to read schema file '" ++ path ++ "': " ++ cause.message
  | .malformedSchema path => "Failed to parse schema file '" ++ path ++ "': TOML parse error"
  | .noTrigger model method => model ++ " declares no " ++ method ++ " accessor"
  | .foreignTrigger model trigger method =>
    model ++ " uses trigger " ++ trigger ++ " but the generated implementation overrides " ++ method
  | .declaredTwice model => model ++ " is declared by more than one schema"
  | .stated text => text

/-- Why loading or generating failed. -/
inductive Failure where
  /-- A property has a type that a record cannot hold. -/
  | unsupportedProperty (owner property type : String)
  /-- A property refers to a model without storage record. -/
  | unresolvedReference (owner property type : String)
  /-- The class reaches a cycle of references. -/
  | cyclicReference (owner : String) (cycle : List String)
  /-- A text is no type. -/
  | invalidType (text reason : String)
  | configuration (problem : ConfigurationProblem)
  /-- A schema file was read, but its models are in error. -/
  | inSchemaFile (path : String) (cause : Failure)
  | system (cause : SystemError)
  /-- A text is no document of the expected shape. -/
  | malformedDocument
  deriving DecidableEq, Inhabited

/-! ## Kinds and wording -/

/-- The kinds of failures. -/
inductive FailureKind where
  | unsupportedProperty
  | unresolvedReference
  | cyclicReference
  | invalidType
  | configuration
  | system
  | malformedDocument
  deriving DecidableEq, Inhabited

namespace Failure

/-- The kind of a failure. Errors within a schema file are configuration errors. -/
def kind : Failure → FailureKind
  | .unsupportedProperty _ _ _ => .unsupportedProperty
  | .unresolvedReference _ _ _ => .unresolvedReference
  | .cyclicReference _ _ => .cyclicReference
  | .invalidType _ _ => .invalidType
  | .configuration _ => .configuration
  | .inSchemaFile _ _ => .configuration
  | .system _ => .system
  | .malformedDocument => .malformedDocument

/-- The wording of a failure. -/
def message : Failure → String
  | .unsupportedProperty owner property type =>
    owner ++ "." ++ property ++ " is of a non supported type: " ++ type
  | .unresolvedReference owner property type =>
    owner ++ "." ++ property ++ " references " ++ type ++
      ", which has no generated storage record in this pass"
  | .cyclicReference owner cycle =>
    owner ++ " is part of a cyclic model graph: " ++ joined " -> " cycle
  | .invalidType text reason => "Invalid type '" ++ text ++ "': " ++ reason
  | .configuration problem => "Configuration error: " ++ problem.message
  | .inSchemaFile path cause => "Configuration error: " ++ path ++ ": " ++ cause.message
  | .system cause => cause.message
  | .malformedDocument => "TOML parse error"

end Failure

/-- The one report of a failed class, by its qualified name. -/
structure Diagnostic where
  owner : String
  failure : Failure
  deriving DecidableEq, Inhabited

/-- The wording of a diagnostic. -/
def Diagnostic.message (d : Diagnostic) : String := d.owner ++ ": " ++ d.failure.message

end RecordSynthesis
