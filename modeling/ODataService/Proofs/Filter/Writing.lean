import ODataService.Filter.Token
import ODataService.Filter.Tree

/-!
# Writing filters

The text form of a filter: one blank between words, and parentheses around a connective that is an
operand of something. Strings stand in quotes with a backslash in front of every quote inside.

`isWritable` says which filters have a text form: those whose connectives have two operands or more,
whose properties are names, and whose values can be written. A property that is compared must not be
called `not`, since a text that starts with that word is a negation.
-/

namespace ODataService.Filter

/-- Whether a property has a name that can stand in a filter text. -/
def isPropertyName (field : String) : Bool :=
  match field.toList with
  | c :: cs => isNameStart c && cs.all isNamePart
  | [] => false

/-- Whether a text can be written in quotes: a backslash at its end would hide the closing one. -/
def isQuotable (s : String) : Bool := s.toList.getLast? != some '\\'

/-- Whether a value can be written as a literal. Numbers have no fraction and at most 4300 digits. -/
def isWritableLiteral : Scalar → Bool
  | .null => true
  | .bool _ => true
  | .int n => (toString n.natAbs).length ≤ 4300
  | .real _ => false
  | .str s => isQuotable s

mutual

/-- Whether a filter has a text form. -/
def isWritable : Filter → Bool
  | .compare field _ value => isPropertyName field && field != "not" && isWritableLiteral value
  | .logical _ operands => 2 ≤ operands.length && areWritable operands
  | .not operand => isWritable operand
  | .text _ field argument => isPropertyName field && isQuotable argument
  | .oneOf .. => false

/-- Whether all of the filters have text forms. -/
def areWritable : List Filter → Bool
  | [] => true
  | f :: fs => isWritable f && areWritable fs

end

/-! ## Texts -/

/-- The characters of a string with a backslash in front of every quote. -/
def escaped : List Char → List Char
  | [] => []
  | '\'' :: cs => '\\' :: '\'' :: escaped cs
  | c :: cs => c :: escaped cs

/-- A string in quotes. -/
def quotedText (s : String) : List Char := '\'' :: (escaped s.toList ++ ['\''])

/-- The text of a literal; numbers with a fraction have none. -/
def literalText : Scalar → List Char
  | .null => "null".toList
  | .bool true => "true".toList
  | .bool false => "false".toList
  | .int n => (toString n).toList
  | .real _ => []
  | .str s => quotedText s

/-- The text of a call. The property comes first, except in a call of `substringof`. -/
def callText (function : TextFunction) (field argument : String) : List Char :=
  match function with
  | .substringof =>
    function.name.toList ++ '(' :: (quotedText argument ++ ',' :: (field.toList ++ [')']))
  | _ => function.name.toList ++ '(' :: (field.toList ++ ',' :: (quotedText argument ++ [')']))

mutual

/-- The text of a filter as an operand. -/
def operandText : Filter → List Char
  | .compare field op value => field.toList ++ ' ' :: (op.name.toList ++ ' ' :: literalText value)
  | .logical op operands => '(' :: (operandsText op operands ++ [')'])
  | .not operand => "not".toList ++ ' ' :: operandText operand
  | .text function field argument => callText function field argument
  | .oneOf .. => []

/-- The text of a connective without parentheses around it. -/
def operandsText (op : Connective) : List Filter → List Char
  | [] => []
  | f :: fs => operandText f ++ furtherText op fs

/-- The text of the operands behind the first one, each with the connective in front. -/
def furtherText (op : Connective) : List Filter → List Char
  | [] => []
  | f :: fs => ' ' :: (op.name.toList ++ ' ' :: (operandText f ++ furtherText op fs))

end

/-- The text of a filter. -/
def write (f : Filter) : String :=
  match f with
  | .logical op operands => String.ofList (operandsText op operands)
  | f => String.ofList (operandText f)

end ODataService.Filter
