import TaintTriage.Text.Quoted
import TaintTriage.Value

/-!
What can go wrong when a loosely typed value is used as something that it is not.  Each fault is
a cause; `message` is the only place with wording.
-/

namespace TaintTriage

/-- A use that a value does not allow. -/
inductive ValueFault where
  /-- Its items were asked for. -/
  | notIterable (found : Value.Shape)
  /-- Something was looked for in it. -/
  | notContainer (found : Value.Shape)
  /-- It was looked for in a text. -/
  | notPartOfText (found : Value.Shape)
  /-- It was looked for in bytes. -/
  | notPartOfBytes (found : Value.Shape)
  /-- A part of it was asked for by name. -/
  | notSubscriptable (found : Value.Shape)
  /-- It has parts at positions, and a part of it was asked for by name. -/
  | namedPosition (found : Value.Shape)
  /-- It was used as a key or as a member of a set. -/
  | unhashable (found : Value.Shape)
  /-- It was searched for a pattern of text. -/
  | notText (found : Value.Shape)
  /-- It was applied as a rule. -/
  | notCallable (found : Value.Shape)
  /-- Its length was asked for. -/
  | unsized (found : Value.Shape)
  /-- A member that it does not have was asked for. -/
  | noMember (found : Value.Shape) (member : String)
  /-- It was used as the name of a member. -/
  | notAttribute (found : Value.Shape)
  /-- A number cannot be combined with it. -/
  | notOperand (operation : String) (left right : Value.Shape)
  /-- It has no negative. -/
  | notNegatable (found : Value.Shape)
  /-- A number was divided by zero; `double` tells whether doubles were divided. -/
  | zeroDivisor (double : Bool)
  /-- Two things were compared that have no order. -/
  | incomparable (relation : String) (left right : Value.Shape)
  /-- An integer was expected and this shape has none. -/
  | noInteger (found : Value.Shape)
  /-- An integer was expected where only integers will do. -/
  | notInteger (found : Value.Shape)
  /-- The text of an integer to a base was expected, and this was found. -/
  | badInteger (base : Nat) (shown : String)
  /-- The text of an integer has more digits than are read. -/
  | longInteger (digits : Nat)
  /-- The integer has more digits than are written. -/
  | unwrittenInteger
  /-- An integer was expected, not the double that is no number. -/
  | integerOfNotANumber
  /-- An integer was expected, not an infinite double. -/
  | integerOfInfinity
  /-- A double was expected and this shape has none. -/
  | noDouble (found : Value.Shape)
  /-- The text of a number was expected, and this was found. -/
  | badDouble (shown : String)
  /-- The integer is too large for a double. -/
  | hugeInteger
  /-- The numbers of a day or of a moment are wrong. -/
  | badMoment (fault : MomentFault)
  /-- The code of a character is beyond all codes. -/
  | badCode
  /-- The code of a character is too large for a number of the machine. -/
  | hugeCode
  /-- A count is too large for a number of the machine. -/
  | hugeCount
  /-- It was used as what divides a text. -/
  | notDivider (found : Value.Shape)
  /-- It was to be taken apart into items. -/
  | notUnpackable (found : Value.Shape)
  /-- It has fewer items than it was to be taken apart into. -/
  | tooFewItems (expected found : Nat)
  /-- It has more items than it was to be taken apart into. -/
  | tooManyItems (expected : Nat)
  /-- The text that shows it is none. -/
  | textNotText (found : Value.Shape)
  /-- It was given in place of values with names. -/
  | notByName (receiver : String) (found : Value.Shape)
  /-- A text to be joined is none. -/
  | notJoinable (position : Nat) (found : Value.Shape)
  /-- A key that is not there. -/
  | missingKey (key : String)
  /-- A key that is not there and is no text; this shows it. -/
  | missingEntry (shown : String)
  /-- A position behind the end of a list. -/
  | missingPosition
  /-- A position behind the end of a text. -/
  | missingCharacter
deriving DecidableEq, Repr

/-- The length at which a text that is no integer is cut off in messages. -/
def ValueFault.maxShown : Nat := 200

def ValueFault.message : ValueFault → String
  | .notIterable found => "'" ++ found.word ++ "' object is not iterable"
  | .notContainer found => "argument of type '" ++ found.word ++ "' is not iterable"
  | .notPartOfText found =>
      "'in <string>' requires string as left operand, not " ++ found.word
  | .notPartOfBytes found => "a bytes-like object is required, not '" ++ found.word ++ "'"
  | .notSubscriptable found => "'" ++ found.word ++ "' object is not subscriptable"
  | .namedPosition .str => "string indices must be integers, not 'str'"
  | .namedPosition .bytes => "byte indices must be integers or slices, not str"
  | .namedPosition found => found.word ++ " indices must be integers or slices, not str"
  | .unhashable found => "unhashable type: '" ++ found.word ++ "'"
  | .notText found => "expected string or bytes-like object, got '" ++ found.word ++ "'"
  | .notCallable found => "'" ++ found.word ++ "' object is not callable"
  | .unsized found => "object of type '" ++ found.word ++ "' has no len()"
  | .noMember found member =>
      "'" ++ found.word ++ "' object has no attribute '" ++ member ++ "'"
  | .notAttribute found => "attribute name must be string, not '" ++ found.word ++ "'"
  | .notOperand operation left right =>
      "unsupported operand type(s) for " ++ operation ++ ": '" ++ left.word ++ "' and '" ++
        right.word ++ "'"
  | .notNegatable found => "bad operand type for unary -: '" ++ found.word ++ "'"
  | .zeroDivisor double =>
      if double then "float floor division by zero" else "integer division or modulo by zero"
  | .incomparable relation left right =>
      "'" ++ relation ++ "' not supported between instances of '" ++ left.word ++ "' and '" ++
        right.word ++ "'"
  | .noInteger found =>
      "int() argument must be a string, a bytes-like object or a real number, not '" ++
        found.word ++ "'"
  | .notInteger found => "'" ++ found.word ++ "' object cannot be interpreted as an integer"
  | .badInteger base shown =>
      "invalid literal for int() with base " ++ toString base ++ ": " ++
        String.ofList (shown.toList.take maxShown)
  | .longInteger digits =>
      "Exceeds the limit (4300 digits) for integer string conversion: value has " ++
        toString digits ++ " digits; use sys.set_int_max_str_digits() to increase the limit"
  | .unwrittenInteger =>
      "Exceeds the limit (4300 digits) for integer string conversion; " ++
        "use sys.set_int_max_str_digits() to increase the limit"
  | .integerOfNotANumber => "cannot convert float NaN to integer"
  | .integerOfInfinity => "cannot convert float infinity to integer"
  | .noDouble found =>
      "float() argument must be a string or a real number, not '" ++ found.word ++ "'"
  | .badDouble shown => "could not convert string to float: " ++ shown
  | .hugeInteger => "int too large to convert to float"
  | .badMoment fault => fault.message
  | .badCode => "chr() arg not in range(0x110000)"
  | .hugeCode => "Python int too large to convert to C int"
  | .hugeCount => "Python int too large to convert to C ssize_t"
  | .notDivider found => "must be str or None, not " ++ found.word
  | .notUnpackable found => "cannot unpack non-iterable " ++ found.word ++ " object"
  | .tooFewItems expected found =>
      "not enough values to unpack (expected " ++ toString expected ++ ", got " ++
        toString found ++ ")"
  | .tooManyItems expected =>
      "too many values to unpack (expected " ++ toString expected ++ ")"
  | .textNotText found => "__str__ returned non-string (type " ++ found.word ++ ")"
  | .notByName receiver found =>
      receiver ++ "() argument after ** must be a mapping, not " ++ found.word
  | .notJoinable position found =>
      "sequence item " ++ toString position ++ ": expected str instance, " ++ found.word ++
        " found"
  | .missingKey key => Text.quoted key
  | .missingEntry shown => shown
  | .missingPosition => "list index out of range"
  | .missingCharacter => "string index out of range"

/-- The kinds of faults that callers tell apart: a wrong shape, a wrong text or number, a number
out of range, a division by zero, an unknown member, key or position. -/
inductive ValueFault.Category where
  | shape | content | range | division | member | key | position
deriving DecidableEq, Repr

def ValueFault.category : ValueFault → ValueFault.Category
  | .badInteger _ _ | .longInteger _ | .unwrittenInteger | .integerOfNotANumber | .badDouble _
  | .badMoment _ | .badCode | .tooFewItems _ _ | .tooManyItems _ => .content
  | .integerOfInfinity | .hugeInteger | .hugeCode | .hugeCount => .range
  | .zeroDivisor _ => .division
  | .noMember _ _ => .member
  | .missingKey _ | .missingEntry _ => .key
  | .missingPosition | .missingCharacter => .position
  | _ => .shape

end TaintTriage
