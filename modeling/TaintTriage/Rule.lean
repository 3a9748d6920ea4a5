import TaintTriage.Node.Content

/-!
Rules over nodes.  A rule answers yes or no about a node or fails, because the node holds a value
that the rule cannot use or because the rule's author lets it fail.

A query is described in a document with rules written down as data.  A term looks at the fields of
a node, and terms are combined from left to right: what is not needed for the answer is not looked
at.
-/

namespace TaintTriage

/-- Why a rule has no answer. -/
inductive RuleFailure where
  /-- A value of the node cannot be used as the rule uses it. -/
  | unusable (cause : ValueFault)
  /-- The rule refuses to answer, with a reason of its own. -/
  | refused (reason : String)
deriving DecidableEq

def RuleFailure.message : RuleFailure → String
  | .unusable cause => cause.message
  | .refused reason => reason

/-- A yes-or-no question about a node. -/
abbrev Rule := Node → Except RuleFailure Bool

/-- The result of using a value, as part of a rule. -/
def orFail {α : Type} (result : Except ValueFault α) : Except RuleFailure α :=
  result.mapError .unusable

/-- A rule written down as data. -/
inductive RuleTerm where
  /-- The same answer for every node. -/
  | constant (v : Value)
  /-- Whether a field counts as true. -/
  | field (name : Value)
  /-- Whether a field holds a value. -/
  | fieldEquals (name v : Value)
  /-- Whether something is in what a field holds. -/
  | fieldContains (name v : Value)
  | negation (term : RuleTerm)
  | any (terms : List RuleTerm)
  | all (terms : List RuleTerm)
  /-- No answer, for a reason. -/
  | refuse (reason : String)
  /-- A value where a rule should stand. -/
  | misplaced (v : Value)
deriving Inhabited

namespace RuleTerm

mutual

def holds : RuleTerm → Rule
  | .constant v, _ => .ok v.isTruthy
  | .field name, n => do return (← orFail (n.contentOf name)).isTruthy
  | .fieldEquals name v, n => do return (← orFail (n.contentOf name)).equals v
  | .fieldContains name v, n => do orFail ((← orFail (n.contentOf name)).contains v)
  | .negation term, n => do return !(← term.holds n)
  | .any terms, n => someHold terms n
  | .all terms, n => allHold terms n
  | .refuse reason, _ => .error (.refused reason)
  | .misplaced v, _ => .error (.unusable (.notCallable v.shape))

/-- Whether one of some terms holds.  The first that does decides. -/
def someHold : List RuleTerm → Rule
  | [], _ => .ok false
  | term :: rest, n => do if ← term.holds n then return true else someHold rest n

/-- Whether all of some terms hold.  The first that does not decides. -/
def allHold : List RuleTerm → Rule
  | [], _ => .ok true
  | term :: rest, n => do if ← term.holds n then allHold rest n else return false

end

/-- What is supplied where a rule is expected: a term is one, unless it is a value. -/
def supplied : RuleTerm → Supplied Rule
  | .misplaced v => .other v
  | term => .expected term.holds

/-- The rule of a term.  A value in its place fails for every node. -/
def rule (term : RuleTerm) : Rule := term.holds

end RuleTerm

end TaintTriage
