import TaintTriage.Log
import TaintTriage.Settings
import TaintTriage.Text.Case
import TaintTriage.Value.Convert

/-!
Log files.  A file holds the records whose level reaches that of the root logger, as JSON objects
or as lines of text.  Levels are given by name or by number, and a name is sought among all that is
known under names in capital letters.
-/

namespace TaintTriage

/-- The numbers of levels by name.  Two levels have a second name, and one lies below all. -/
def levelNumbers : List (String × Int) :=
  Level.all.map (fun level => (level.name, level.number)) ++
    [("WARN", Level.number .warning), ("FATAL", Level.number .critical), ("NOTSET", 0)]

/-- What a level with some number or name is called: a number by its name, a name by its number,
and all else by its text. -/
def levelLabel (level : Value) : Except ValueFault Value := do
  level.requireHashable
  let byNumber := levelNumbers.find? fun (_, n) => level.equals (.int n)
  let byName := levelNumbers.find? fun (name, _) => level.equals (.str name)
  match byNumber, byName with
  | some (name, _), _ => return .str name
  | _, some (_, n) => return .int n
  | none, none => return .str ("Level " ++ (← level.display))

/-- What stands for the layout of a record when nothing else is said. -/
def basicLayout : String := "%(levelname)s:%(name)s:%(message)s"

/-- What is known under names in capital letters and is no level: a layout, and the layouts by
their marks. -/
inductive NotLevel where
  | layout | layouts
deriving DecidableEq, Repr

namespace NotLevel

/-- The names in capital letters under which something else than a level is known. -/
def ofName? (name : String) : Option NotLevel :=
  if name = "BASIC_FORMAT" then some .layout
  else if name = "_STYLES" then some .layouts
  else none

def styleText (mark kind layout : String) : String :=
  Text.quoted mark ++ ": (<class 'logging." ++ kind ++ "'>, " ++ Text.quoted layout ++ ")"

def message : NotLevel → String
  | .layout => "Unknown level: " ++ Text.quoted basicLayout
  | .layouts =>
      "Level not an integer or a valid string: \x7b" ++
        ", ".intercalate
          [styleText "%" "PercentStyle" basicLayout,
           styleText "\x7b" "StrFormatStyle" "\x7blevelname\x7d:\x7bname\x7d:\x7bmessage\x7d",
           styleText "$" "StringTemplateStyle"
             "$\x7blevelname\x7d:$\x7bname\x7d:$\x7bmessage\x7d"] ++ "\x7d"

end NotLevel

/-- Why records cannot be put out in the way that is asked for. -/
inductive LogSetupFault where
  | notLevel (found : NotLevel)
  | unusable (cause : ValueFault)

def LogSetupFault.message : LogSetupFault → String
  | .notLevel found => found.message
  | .unusable cause => cause.message

def LogSetupFault.category : LogSetupFault → ValueFault.Category
  | .notLevel .layout => .content
  | .notLevel .layouts => .shape
  | .unusable cause => cause.category

/-- The number of a level by its name, in any case; unknown names are those of the usual level. -/
def levelNumber (name : String) : Except LogSetupFault Int :=
  let name := Text.toUpper name
  match NotLevel.ofName? name with
  | some found => .error (.notLevel found)
  | none => .ok ((levelNumbers.lookup name).getD (Level.number .info))

/-- How the records of all components are put out. -/
structure LogSetup where
  /-- The number of the root logger's level. -/
  number : Int := Level.number .info
  jsonFormat : Bool := false
  toFile : Bool := true

namespace LogSetup

/-- How records are put out under some settings. -/
def ofSettings (s : LoggingSettings) : LogSetup :=
  ⟨s.level.number, s.jsonFormat, s.file.isSome⟩

/-- The size of a file must be a number; a text or a list can be repeated, but is no size. -/
def requireSize (size : Value) : Except ValueFault Unit :=
  match size with
  | .bool _ | .int _ | .float _ => .ok ()
  | .str _ | .bytes _ | .list _ | .pair _ _ => .error (.incomparable ">" size.shape .int)
  | _ => .error (.notOperand "*" size.shape .int)

/-- How records are put out under loosely typed settings. -/
def ofValues (level : Value) (jsonFormat toFile : Bool) (size : Value) :
    Except LogSetupFault LogSetup := do
  match level with
  | .str name =>
      let number ← levelNumber name
      if toFile then (requireSize size).mapError .unusable
      return ⟨number, jsonFormat, toFile⟩
  | v => throw (.unusable (.noMember v.shape "upper"))

/-- The least number that a record needs.  A root logger without a level of its own takes that of
the logger above it, which lets warnings through. -/
def threshold (setup : LogSetup) : Int :=
  if setup.number = 0 then Level.number .warning else setup.number

/-- The kinds of handlers with the least level that each lets through: the console's, then the
file's. -/
def handlers (setup : LogSetup) : List (String × Int) :=
  (if setup.jsonFormat then "StreamHandler" else "RichHandler", setup.number) ::
    if setup.toFile then [("RotatingFileHandler", Level.number .debug)] else []

/-- The records that are put out. -/
def written (setup : LogSetup) (records : List LogRecord) : List LogRecord :=
  records.filter fun r => setup.threshold ≤ r.level.number

end LogSetup

namespace LogRecord

/-- The entries of a record in JSON form, without its time. -/
def document (level logger : Value) (message : String) (exception : Option String)
    (context : Option Value) : Value :=
  .map ([(.str "level", level), (.str "logger", logger), (.str "message", .str message)]
    ++ (exception.map fun text => (Value.str "exception", Value.str text)).toList
    ++ (context.map fun c => (Value.str "context", c)).toList)

/-- A record in JSON form. -/
def toDocument (r : LogRecord) : Value :=
  document (.str r.level.name) (.str r.logger) r.message r.exception
    (some (.object r.context))

/-- A record in JSON form without its error, as collectors of records keep it. -/
def summaryDocument (r : LogRecord) : Value :=
  { r with exception := none }.toDocument

/-- A record as text, without its time.  An error begins a line of its own. -/
def text (r : LogRecord) : String :=
  let head := r.logger ++ " | " ++ r.level.name ++ " | " ++ r.message
  match r.exception with
  | none => head
  | some exception =>
      if head.toList.getLast? = some '\n' then head ++ exception
      else head ++ "\n" ++ exception

def isLineEnd (c : Char) : Bool :=
  ('\n' ≤ c && c ≤ '\r') || ('\x1c' ≤ c && c ≤ '\x1e') || c = '\u0085' || c = '\u2028' ||
    c = '\u2029'

/-- A text cut at its line ends, without a last empty line.  The line read so far comes in
reverse. -/
def lines : List Char → List Char → List (List Char)
  | read, [] => if read.isEmpty then [] else [read.reverse]
  | read, '\r' :: '\n' :: rest => read.reverse :: lines [] rest
  | read, c :: rest => if isLineEnd c then read.reverse :: lines [] rest else lines (c :: read) rest

def partMark : List Char := " | ".toList

/-- What comes behind the first mark of a line, if there is one. -/
def behindMark? : List Char → Option (List Char)
  | [] => none
  | c :: rest =>
      if partMark.isPrefixOf (c :: rest) then some ((c :: rest).drop partMark.length)
      else behindMark? rest

/-- The two characters that every time begins with. -/
def centuryMark : List Char := ['2', '0']

/-- A line without its time: what begins as a time does up to the first mark is left out. -/
def withoutTime (line : List Char) : List Char :=
  if centuryMark.isPrefixOf line then (behindMark? line).getD line else line

/-- The lines of a record.  The first one begins with its time, so its first mark is the one behind
that.  A text with half of a character cannot be written. -/
def textLines (r : LogRecord) : List String :=
  let text := r.text.toList
  if text.any Text.isHalf then []
  else
    match lines [] (text ++ ['\n']) with
    | [] => []
    | first :: others => String.ofList first :: others.map fun l => String.ofList (withoutTime l)

end LogRecord

def LogSetup.fileLines (setup : LogSetup) (records : List LogRecord) : List Value :=
  let written := setup.written records
  if setup.jsonFormat then written.map (·.toDocument)
  else (written.flatMap (·.textLines)).map .str

end TaintTriage
