/-!
Text without the distinction of case, as patterns over names use it: ASCII letters in either case
are the same, and so are the dotted and dotless forms of `i`, the long `s` and the Kelvin sign
with the letters they go back to.
-/

namespace TaintTriage.Text

/-- The small letter that a character counts as; itself if it is no variant of an ASCII letter. -/
def foldLetter (c : Char) : Char :=
  if c = '\u0130' ∨ c = '\u0131' then 'i'
  else if c = '\u017f' then 's'
  else if c = '\u212a' then 'k'
  else c.toLower

/-- Whether a character counts as a letter from `a` to `z`. -/
def isLetter (c : Char) : Bool :=
  'a' ≤ foldLetter c && foldLetter c ≤ 'z'

/-- A text with every letter folded. -/
def fold (s : String) : List Char :=
  s.toList.map foldLetter

/-- Whether a word occurs in a text. -/
def hasWord (word : List Char) : List Char → Bool
  | [] => word.isEmpty
  | c :: rest => word.isPrefixOf (c :: rest) || hasWord word rest

/-- A text without one line break at its end.  The end of a text, as patterns see it, is before
such a break too. -/
def beforeFinalBreak (s : List Char) : List Char :=
  if s.getLast? = some '\n' then s.dropLast else s

/-- A small letter stands 32 codes behind its capital. -/
theorem toNat_toLower (c : Char) :
    c.toLower.toNat = if 'A' ≤ c ∧ c ≤ 'Z' then c.toNat + 32 else c.toNat := by
  by_cases h : 'A' ≤ c ∧ c ≤ 'Z'
  · have hcode : 65 ≤ c.toNat ∧ c.toNat ≤ 90 := h
    have hlower : c.toLower.val = c.val + 32 := congrArg Char.val (dif_pos h)
    rw [if_pos h, Char.toNat, hlower, UInt32.toNat_add]
    exact Nat.mod_eq_of_lt (show c.toNat + 32 < 4294967296 by omega)
  · rw [if_neg h]
    exact congrArg Char.toNat (dif_neg h)

example : hasWord "html".toList (fold "innerHTML") = true := by decide
example : beforeFinalBreak "log\n".toList = "log".toList := by decide

end TaintTriage.Text
