import WidgetBindings.Api.Basic

namespace WidgetBindings

/-! Declarations as a C parser reports them, and the functions they declare.

A parser may leave out any spelling, and an empty spelling says no more than a missing one.
-/

inductive Linkage
  | none
  | internal
  | uniqueExternal
  | external
  | invalid
deriving DecidableEq, Repr

structure DeclaredParam where
  name : Option Text
  type : Option Text
deriving DecidableEq, Repr

structure Declaration where
  isFunction : Bool
  linkage : Linkage
  name : Option Text
  result : Option Text
  params : List DeclaredParam
deriving DecidableEq, Repr

/-- Why a declaration cannot be read as a function. -/
inductive Defect
  | unnamed
  | noResultType (func : Text)
  | unnamedParam (func : Text)
  | untypedParam (func param : Text)
deriving DecidableEq, Repr

def Defect.message : Defect → Text
  | .unnamed => "Function declaration without a name"
  | .noResultType func => "Can not determine the result type of " ++ func
  | .unnamedParam func => "Parameter without a name in declaration of " ++ func
  | .untypedParam func param => "Parameter '" ++ param ++ "' of " ++ func ++ " has no type"

def present? (spelling : Option Text) : Option Text :=
  spelling.filter (· ≠ [])

def DeclaredParam.param (func : Text) (declared : DeclaredParam) : Except Defect Param :=
  match present? declared.name, present? declared.type with
  | none, _ => .error (.unnamedParam func)
  | some name, none => .error (.untypedParam func name)
  | some name, some type => .ok ⟨name, ⟨type⟩⟩

namespace Declaration

/-- A function without a value is declared with the result `void`. -/
def resultType (spelling : Text) : Option CType :=
  if spelling = ("void" : Text) then none else some ⟨spelling⟩

/-- The declared function, or the first defect: the name, the result, and then each parameter. -/
def func (declaration : Declaration) : Except Defect Func :=
  match present? declaration.name with
  | none => .error .unnamed
  | some name =>
      match present? declaration.result with
      | none => .error (.noResultType name)
      | some result => do
          let params ← declaration.params.mapM (DeclaredParam.param name)
          pure ⟨name, params, resultType result⟩

/-- The name of a function that other units can call. -/
def exported? (declaration : Declaration) : Option Text :=
  if declaration.isFunction && declaration.linkage != .internal then present? declaration.name
  else none

def isCandidate (lib : Text) (declaration : Declaration) : Bool :=
  match declaration.exported? with
  | none => false
  | some name => lib.isPrefixOf name

end Declaration

/-- The functions read up to the first defective candidate, and its defect. -/
structure Scan where
  functions : List Func
  defect : Option Defect
deriving DecidableEq, Repr

/-- Other declarations are not looked at, so that defects in them do no harm. -/
def scan (lib : Text) : List Declaration → Scan
  | [] => ⟨[], none⟩
  | declaration :: rest =>
      if declaration.isCandidate lib then
        match declaration.func with
        | .error defect => ⟨[], some defect⟩
        | .ok func =>
            let later := scan lib rest
            ⟨func :: later.functions, later.defect⟩
      else scan lib rest

/-! What passes between the generator and a C parser.

The parser itself is a function from an invocation to a source unit. It may refuse the file,
and then says why in its own words.
-/

structure Diagnostic where
  severity : Int
  text : Text
  file : Option Text
  line : Int
deriving DecidableEq, Repr

/-- Severities from 3 on are errors; warnings and notes lie below. -/
def Diagnostic.isError (diagnostic : Diagnostic) : Bool :=
  3 ≤ diagnostic.severity

structure SourceUnit where
  declarations : List Declaration
  diagnostics : List Diagnostic
deriving DecidableEq, Repr

structure Invocation where
  path : Text
  arguments : List Text
deriving DecidableEq, Repr

abbrev CParser := Invocation → Except Text SourceUnit

/-- The input is one preprocessed C file, whatever it is called. -/
def languageArguments : List Text :=
  ["-x", "c", "-std=c99"]

inductive LoadError
  | notFound (path : Text)
  | unparsable (path reason : Text)
  | defective (defect : Defect)
deriving DecidableEq, Repr

def LoadError.message : LoadError → Text
  | .notFound path => "Translation unit not found: " ++ path
  | .unparsable path reason => "Failed to parse translation unit " ++ path ++ ": " ++ reason
  | .defective defect => defect.message

end WidgetBindings
