import QueryAssist.Text.Lower
/-!
# Matching without case

A label matches a word by its beginning or by any part of it, both in lower case.
-/

namespace QueryAssist.Text

def hasInfix (part : List Char) : List Char → Bool
  | [] => part.isEmpty
  | c :: rest => part.isPrefixOf (c :: rest) || hasInfix part rest

def beginsWith (label word : String) : Bool :=
  (lowerChars word.toList).isPrefixOf (lowerChars label.toList)

def containsWord (label word : String) : Bool :=
  hasInfix (lowerChars word.toList) (lowerChars label.toList)

end QueryAssist.Text
