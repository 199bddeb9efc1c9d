import JavaSource.JavaType.Display
import JavaSource.Member

/-!
# `ClassDecl.Error` — why a declaration refuses a change

A `DeclarationError` is the cause of a refusal, with what the message needs; `message` words it.
-/

namespace JavaSource

/-- The kinds of refusal. -/
inductive ErrorKind where
  | invalidArgument
  | invalidState
  | unsupportedOperation
  deriving DecidableEq, Repr

/-- The words a message begins with. -/
def ErrorKind.phrase : ErrorKind → String
  | .invalidArgument => "invalid argument"
  | .invalidState => "invalid state"
  | .unsupportedOperation => "unsupported operation"

/-- The two places for supertypes in the head of a declaration. -/
inductive SupertypeRole where
  | superclass
  | interface
  deriving DecidableEq, Repr

namespace SupertypeRole

def word : SupertypeRole → String
  | .superclass => "superclass"
  | .interface => "interface"

/-- The kind a type in that place has to be of. -/
def kind : SupertypeRole → ClassKind
  | .superclass => .ordinary
  | .interface => .interface

/-- The kind with its article. -/
def kindPhrase : SupertypeRole → String
  | .superclass => "a class"
  | .interface => "an interface"

end SupertypeRole

/-- Where a type is used: as a supertype, or in a member. -/
inductive UseSite where
  | supertype (role : SupertypeRole)
  | member (name : MemberName)
  deriving DecidableEq, Repr

def UseSite.describe : UseSite → String
  | .supertype role => role.word
  | .member name => name.describe

/-- Why a change of a declaration is refused. -/
inductive DeclarationError where
  /-- A type variable is to be declared without a bound. -/
  | unboundedVariable (name : String)
  /-- An interface is to be given a superclass. -/
  | superclassOfInterface (name : String)
  /-- A supertype has no class at its head. -/
  | notAClassType (role : SupertypeRole) (type : JavaType)
  /-- A supertype is headed by a class of the wrong kind. -/
  | wrongKind (role : SupertypeRole) (head : ClassRef)
  /-- A type variable is declared where types are used. -/
  | declaredAtUseSite (site : UseSite) (variableName : String)
  /-- A member belongs to a declaration already. -/
  | alreadyOwned (member : MemberName) (owner : ClassRef)
  deriving DecidableEq, Repr

namespace DeclarationError

def kind : DeclarationError → ErrorKind
  | .unboundedVariable _ | .notAClassType _ _ | .wrongKind _ _ | .declaredAtUseSite _ _ =>
    .invalidArgument
  | .superclassOfInterface _ => .unsupportedOperation
  | .alreadyOwned _ _ => .invalidState

/-- What went wrong, without the kind. -/
def detail : DeclarationError → String
  | .unboundedVariable name => "type variable `" ++ name ++ "` declares no bound"
  | .superclassOfInterface name => "interface `" ++ name ++ "` cannot declare a superclass"
  | .notAClassType role type =>
    role.word ++ " must be a class type or a parameterized class type, got `" ++ type.display ++ "`"
  | .wrongKind role head => role.word ++ " `" ++ head.fullName ++ "` must be " ++ role.kindPhrase
  | .declaredAtUseSite site name =>
    site.describe ++ " declares type variable `" ++ name ++ "` at a use site; use a variable reference"
  | .alreadyOwned member owner =>
    member.describe ++ " is already owned by `" ++ owner.fullName ++ "`"

/-- The whole message. -/
def message (e : DeclarationError) : String := e.kind.phrase ++ ": " ++ e.detail

end DeclarationError

/-- A type variable is fit to be declared when it has a bound. -/
def TypeVariable.validate (v : TypeVariable) : Except DeclarationError Unit :=
  if v.isBounded then .ok () else .error (.unboundedVariable v.name)

end JavaSource
