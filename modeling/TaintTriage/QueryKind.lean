import TaintTriage.Text.Case
import TaintTriage.Text.Quoted

/-!
The supported kinds of queries and the spellings under which they are known: letters in any case,
underscores for hyphens.
-/

namespace TaintTriage

/-- A kind of vulnerability that is queried for. -/
inductive QueryKind where
  | sqlInjection | nosqlInjection | xss | taintedPath | shellCommandInjection
deriving DecidableEq, Repr

namespace QueryKind

def all : List QueryKind :=
  [.sqlInjection, .nosqlInjection, .xss, .taintedPath, .shellCommandInjection]

def id : QueryKind → String
  | .sqlInjection => "sql-injection"
  | .nosqlInjection => "nosql-injection"
  | .xss => "xss"
  | .taintedPath => "tainted-path"
  | .shellCommandInjection => "shell-command-injection"

def name : QueryKind → String
  | .sqlInjection => "SQL_INJECTION"
  | .nosqlInjection => "NOSQL_INJECTION"
  | .xss => "XSS"
  | .taintedPath => "TAINTED_PATH"
  | .shellCommandInjection => "SHELL_COMMAND_INJECTION"

/-- A spelling brought to the form of ids. -/
def normalize (spelling : String) : String :=
  String.ofList ((Text.toLower spelling).toList.map fun c => if c = '_' then '-' else c)

def ofSpelling? (spelling : String) : Option QueryKind :=
  all.find? (·.id == normalize spelling)

/-- A spelling that belongs to no kind, in normal form. -/
structure Unknown where
  spelling : String
deriving DecidableEq, Repr

/-- The wording for an unknown spelling. -/
def Unknown.message (u : Unknown) : String :=
  Text.quoted u.spelling ++ " is not a valid QueryKind"

def ofSpelling (spelling : String) : Except Unknown QueryKind :=
  match ofSpelling? spelling with
  | some kind => .ok kind
  | none => .error ⟨normalize spelling⟩

/-- The id of a kind is one of its spellings. -/
theorem ofSpelling?_id (kind : QueryKind) : ofSpelling? kind.id = some kind := by
  cases kind <;> decide +kernel

end QueryKind

end TaintTriage
