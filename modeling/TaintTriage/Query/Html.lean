import TaintTriage.Rule

/-!
Signs that a value ends up in HTML: tags in the texts that it is put together with, names of
functions and properties that take markup.
-/

namespace TaintTriage.Html

/-- Whether a tag name starts here, behind an optional slash; `continues` judges what follows the
slash. -/
def startsName (continues : List Char → Bool) : List Char → Bool
  | '/' :: rest => continues rest
  | s => continues s

/-- Whether a text runs to a closing bracket without another bracket before it. -/
def closes : List Char → Bool
  | [] => false
  | c :: rest => if c = '>' then true else if c = '<' then false else closes rest

/-- Whether the text behind an opening bracket is a tag: a letter, then anything but brackets, then
a closing bracket. -/
def isTagBody : List Char → Bool :=
  startsName fun
    | [] => false
    | c :: rest => Text.isLetter c && closes rest

/-- Whether a text holds a complete opening or closing tag. -/
def hasTag : List Char → Bool
  | [] => false
  | c :: rest => (c == '<' && isTagBody rest) || hasTag rest

/-- Whether the text behind an opening bracket begins like markup. -/
def beginsMarkup : List Char → Bool
  | [] => false
  | c :: _ => Text.isLetter c || c == '!' || c == '/'

/-- Whether a text holds something that begins like a tag. -/
def hasTagStart : List Char → Bool
  | [] => false
  | c :: rest => (c == '<' && beginsMarkup rest) || hasTagStart rest

/-- Whether the node is an argument of library code, directly or through flow. -/
def isLikelyExternalCallArgument (n : Node) : Bool :=
  (n.isArgument && n.isExternalCall) || n.flowsToExternalCall

/-- Whether the node is put together with a text that holds a tag. -/
def isHtmlConcatenation (n : Node) : Bool :=
  n.concatenationParts.any fun part => hasTag part.toList

/-- Whether the text of the node begins like markup somewhere. -/
def matchesHtmlTag (n : Node) : Except RuleFailure Bool := do
  if n.stringValue.isTruthy then return hasTagStart (← orFail n.stringValue.text).toList
  return false

def hasAnyWord (words : List String) (v : Value) : Except RuleFailure Bool := do
  let s ← orFail v.orEmpty.text
  return words.any fun word => Text.hasWord word.toList (Text.fold s)

def isRenderCallArgument (n : Node) : Except RuleFailure Bool := do
  if n.isArgument then hasAnyWord ["render", "html"] n.calleeName else return false

/-- Whether the node is written to a property that takes markup. -/
def isHtmlPropertyWrite (n : Node) : Except RuleFailure Bool := do
  if n.isPropertyWrite then hasAnyWord ["html"] n.propertyName else return false

/-- Whether anything about the node suggests that it reaches markup.  The signs are looked at in
turn, and the first that is there ends the search. -/
def isLikelyXssSink (n : Node) : Except RuleFailure Bool := do
  if isLikelyExternalCallArgument n || isHtmlConcatenation n || n.isHtmlConcatenationLeaf then
    return true
  if ← matchesHtmlTag n then return true
  if ← isRenderCallArgument n then return true
  isHtmlPropertyWrite n

example : hasTag "a <B x='1'>".toList = true ∧ hasTag "1 < 2 > 0".toList = false := by decide

end TaintTriage.Html
