import TaintTriage.Log
import TaintTriage.Value.Fault

/-!
Calls of a component's logger by the name of the method, as hosts make them.  The context of a
call is a list of named values; what a method knows under a name of its own is no context.
-/

namespace TaintTriage

/-- The methods of a component's logger. -/
inductive LogMethod where
  | debug | info | warning | error | exception
deriving DecidableEq, Repr

namespace LogMethod

def all : List LogMethod := [.debug, .info, .warning, .error, .exception]

def name : LogMethod → String
  | .debug => "debug"
  | .info => "info"
  | .warning => "warning"
  | .error => "error"
  | .exception => "exception"

def level : LogMethod → Level
  | .debug => .debug
  | .info => .info
  | .warning => .warning
  | .error | .exception => .error

def ofName? (name : String) : Option LogMethod :=
  all.find? (·.name == name)

end LogMethod

/-- What a component's logger has under a name. -/
inductive LogMember where
  | method (method : LogMethod)
  /-- What puts a message together. -/
  | layout
  /-- What puts a context together; it takes no message. -/
  | context
  /-- Something that cannot be called. -/
  | part (shape : Value.Shape)
deriving DecidableEq

namespace LogMember

def layoutName : String := "_format_message"

def contextName : String := "_extra"

def ofName? (logger : Logger) (name : String) : Option LogMember :=
  match LogMethod.ofName? name with
  | some found => some (.method found)
  | none =>
      if name = layoutName then some .layout
      else if name = contextName then some .context
      else if name = "component" then some (.part logger.component.shape)
      else if name = "_logger" then some (.part .channel)
      else none

end LogMember

/-- A call of a method by its name, which need not be a text.  `error` tells what was given as the
error, if anything was: nothing, or an error with a text. -/
structure LogCall where
  method : Value
  message : String
  context : List (String × Value) := []
  error : Option (Option String) := none

namespace LogCall

/-- Why a call fails. -/
inductive Fault where
  | unknownMethod (method : String)
  /-- The name of the method is no text. -/
  | unnamedMethod (found : Value.Shape)
  /-- What is called is no method. -/
  | notCallable (found : Value.Shape)
  /-- The context has a name that the method gives to its message or to its logger. -/
  | takenName (method name : String)
  /-- A message is given to what takes none. -/
  | surplusMessage (method : String)
  /-- A part of the context has no text. -/
  | unusable (cause : ValueFault)

def Fault.message : Fault → String
  | .unknownMethod method => (ValueFault.noMember .logger method).message
  | .unnamedMethod found => (ValueFault.notAttribute found).message
  | .notCallable found => (ValueFault.notCallable found).message
  | .takenName method name =>
      "ComponentLogger." ++ method ++ "() got multiple values for argument '" ++ name ++ "'"
  | .surplusMessage method =>
      "ComponentLogger." ++ method ++ "() takes 1 positional argument but 2 were given"
  | .unusable cause => cause.message

def Fault.category : Fault → ValueFault.Category
  | .unknownMethod _ => .member
  | .unusable cause => cause.category
  | _ => .shape

/-- The name under which every method knows its logger. -/
def selfName : String := "self"

/-- The names that no context of a method with a message can have. -/
def takenNames : List String := [selfName, "msg"]

def errorText (message : String) : String :=
  if message.isEmpty then "ValueError" else "ValueError: " ++ message

/-- The text for an error that is asked for where there is none. -/
def noErrorText : String := "NoneType: None"

def errorName : String := "exc"

/-- What goes with a record as its error.  The method for errors takes it under a name of its own,
the method for exceptions looks for one that is being handled, and none is. -/
def exceptionText (method : LogMethod) (call : LogCall) : Option String :=
  match method with
  | .exception => some noErrorText
  | .error =>
      match call.error with
      | some given => given.map errorText
      | none =>
          match call.context.lookup errorName with
          | some v => if v.isTruthy then some noErrorText else none
          | none => none
  | _ => none

/-- The context of a call: what the method does not take under a name of its own. -/
def contextOf (method : LogMethod) (call : LogCall) : List (String × Value) :=
  if method = .error then call.context.filter (·.1 != errorName)
  else
    match call.error with
    | none => call.context
    | some given =>
        call.context.filter (·.1 != errorName) ++
          [(errorName, (given.map Value.str).getD .null)]

def memberOf (logger : Logger) (call : LogCall) : Except Fault LogMember :=
  match call.method with
  | .str name =>
      match LogMember.ofName? logger name with
      | some member => .ok member
      | none => .error (.unknownMethod name)
  | v => .error (.unnamedMethod v.shape)

def requireFree (method : String) (names : List String) (call : LogCall) : Except Fault Unit :=
  match call.context.find? fun (name, _) => names.contains name with
  | some (name, _) => .error (.takenName method name)
  | none => .ok ()

def record? (logger : Logger) (call : LogCall) : Except Fault (Option LogRecord) := do
  match ← call.memberOf logger with
  | .method method =>
      call.requireFree method.name takenNames
      let r ← (logger.recordSupplied method.level call.message (call.contextOf method)
        (call.exceptionText method)).mapError .unusable
      return some r
  | .layout =>
      call.requireFree LogMember.layoutName takenNames
      call.context.forM fun (_, v) => discard (v.display.mapError .unusable)
      return none
  | .context =>
      call.requireFree LogMember.contextName [selfName]
      throw (.surplusMessage LogMember.contextName)
  | .part shape => throw (.notCallable shape)

def recordAll (logger : Logger) (calls : List LogCall) :
    List LogRecord × List (Option Fault) :=
  let outcomes := calls.map (record? logger)
  (outcomes.filterMap fun
    | .ok found => found
    | .error _ => none,
   outcomes.map fun
    | .ok _ => none
    | .error f => some f)

end LogCall

end TaintTriage
