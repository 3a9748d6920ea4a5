import TaintTriage.Characteristic
import TaintTriage.Text.Letters

/-!
The characteristics that every query uses: the sinks that an analysis without boosting already
knows, arguments whose callee shows that they are no endpoints, values that are unlikely to be
any, and values that have been sanitized.
-/

namespace TaintTriage.Characteristic

/-- The class under which an analysis without boosting reports the sinks of each shipped type. -/
def sinkClasses : List (EndpointType × String) :=
  [(.sqlInjectionSink, "sql-injection"), (.nosqlInjectionSink, "nosql-injection"),
   (.xssSink, "xss"), (.taintedPathSink, "tainted-path"),
   (.shellCommandInjectionSink, "shell-command-injection")]

/-- The class of a type, if it is a shipped endpoint. -/
def sinkClass? (type : EndpointType) : Option String :=
  (sinkClasses.find? fun entry => type == entry.1).map (·.2)

def knownSinkOfClass (type : EndpointType) (sinkClass : String) : Characteristic :=
  ofFamily (sinkClass ++ "-sink") .knownSink (fun n => .ok (n.knownSinks.contains sinkClass))
    [type]

def knownSink? (type : EndpointType) : Option Characteristic :=
  (sinkClass? type).map (knownSinkOfClass type)

/-- Whether the value of a field is one of some names.  The names are a set, in which not every
value can be looked for. -/
def isOneOf (names : List String) (v : Value) : Except RuleFailure Bool := do
  orFail v.requireSought
  return names.any fun name => v.equals (.str name)

/-- Whether the node is an argument of a callee with one of some names. -/
def calleeIn (names : List String) : Rule := fun n =>
  if n.isArgument then isOneOf names n.calleeName else .ok false

def loggerMethods : List String :=
  ["log", "debug", "info", "warn", "warning", "error", "trace", "fatal", "exception"]

def isLoggerMethod (s : String) : Bool :=
  loggerMethods.any fun method => Text.beforeFinalBreak (Text.fold s) == method.toList

/-- Whether a text names a logger. -/
def isLoggerReceiver (s : String) : Bool :=
  let name := Text.beforeFinalBreak (Text.fold s)
  name == "console".toList || name == "log".toList || name == "logging".toList ||
    "logger".toList.isSuffixOf name

/-- Arguments of a logger's methods, and of a bare `print`. -/
def isLoggerArgument : Rule := fun n => do
  if !n.isArgument || !n.calleeName.isTruthy then return false
  match n.receiverName with
  | .null => return n.calleeName.equals (.str "print")
  | receiver =>
      if isLoggerReceiver (← orFail receiver.text) then
        return isLoggerMethod (← orFail n.calleeName.text)
      else return false

/-- Words that stand in the names of cryptographic functions. -/
def cryptoWords : List String :=
  ["crypto", "cipher", "hmac", "encrypt", "decrypt", "createhash", "digest"]

/-- Whether a name is that of a cryptographic function or module. -/
def isCryptoName (s : String) : Bool :=
  (cryptoWords.any fun word => Text.hasWord word.toList (Text.fold s)) ||
    Text.beforeFinalBreak (Text.fold s) == "sign".toList

/-- Arguments of cryptographic functions.  The callee is looked at before the receiver. -/
def isCryptoArgument : Rule := fun n => do
  if !n.isArgument then return false
  if n.calleeName.isTruthy then
    if isCryptoName (← orFail n.calleeName.text) then return true
  if n.receiverName.isTruthy then
    return isCryptoName (← orFail n.receiverName.text)
  return false

/-- Receivers that stand for the object itself. -/
def isReceiverStorage : Rule := fun n =>
  .ok (n.kind.equals (.str "receiver") &&
    (n.receiverName.equals (.str "this") || n.receiverName.equals (.str "self")))

def timerCallees : List String := ["setTimeout", "setInterval", "setImmediate", "nextTick"]

/-- Functions that test a text. -/
def stringTestCallees : List String :=
  ["startsWith", "endsWith", "startswith", "endswith", "includes", "indexOf", "test", "match"]

/-- Functions that register or remove a listener. -/
def eventRegistrationCallees : List String :=
  ["on", "once", "addEventListener", "addListener", "removeListener", "off"]

def eventDispatchCallees : List String := ["emit", "dispatchEvent", "trigger", "fire"]

/-- Functions that make or format a date. -/
def dateCallees : List String :=
  ["Date", "moment", "dayjs", "strftime", "strptime", "fromtimestamp"]

/-- Functions that a language has built in. -/
def builtinCallees : List String :=
  ["parseInt", "parseFloat", "isNaN", "isFinite", "Number", "String", "Boolean", "Array", "Object",
   "len", "int", "float", "str", "bool", "isinstance", "hasattr", "getattr", "repr", "hash", "id",
   "type"]

/-- The rules that speak for the negative class with high confidence, by name. -/
def confidentNegatives : List (String × Rule) :=
  [("logger-method-argument", isLoggerArgument),
   ("timeout-argument", calleeIn timerCallees),
   ("receiver-storage", isReceiverStorage),
   ("string-test-argument", calleeIn stringTestCallees),
   ("event-registration-argument", calleeIn eventRegistrationCallees),
   ("event-dispatch-argument", calleeIn eventDispatchCallees),
   ("cryptographic-argument", isCryptoArgument),
   ("date-argument", calleeIn dateCallees)]

/-- The rules that speak for the negative class with medium confidence, by name. -/
def likelyNegatives : List (String × Rule) :=
  [("constant-value", fun n => .ok n.isConstant),
   ("builtin-function-argument", calleeIn builtinCallees),
   ("in-test-file", fun n => .ok n.inTestFile)]

/-- Sanitized values are no sinks of queries whose sanitizers work on text. -/
def sanitizedValue : Characteristic :=
  ofFamily "sanitized-value" .standardFilter (fun n => .ok (!n.sanitizes.isEmpty))
    [.sqlInjectionSink, .nosqlInjectionSink, .xssSink]

/-- The characteristics shared by all queries. -/
def shipped : List Characteristic :=
  sinkClasses.map (fun (type, sinkClass) => knownSinkOfClass type sinkClass) ++
    confidentNegatives.map (fun (name, rule) => ofFamily name .notASink rule) ++
    likelyNegatives.map (fun (name, rule) => ofFamily name .likelyNotASink rule) ++
    [sanitizedValue]

example : (validate shipped).isOk = true := by decide

end TaintTriage.Characteristic
