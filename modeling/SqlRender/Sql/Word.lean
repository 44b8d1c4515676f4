/-!
# Sql/Word — plain words and reserved words
-/

namespace SqlRender

/-- An ASCII letter or an underscore. -/
def isWordStart (c : Char) : Bool := c.isAlpha || c == '_'

/-- An ASCII letter, a digit or an underscore. -/
def isWordChar (c : Char) : Bool := c.isAlphanum || c == '_'

/-- A word: a letter or underscore, then letters, digits or underscores. -/
def isWord (name : String) : Bool :=
  match name.toList with
  | [] => false
  | c :: rest => isWordStart c && rest.all isWordChar

/-- Words that are quoted when they name something, in lower case. -/
def reservedWords : List String := [
  "all", "and", "as", "asc", "between", "by", "case", "delete", "desc", "distinct", "else",
  "end", "exists", "from", "group", "having", "in", "insert", "into", "is", "join", "like",
  "limit", "not", "null", "offset", "on", "or", "order", "select", "set", "table", "then",
  "union", "update", "values", "when", "where"]

/-- The name with its ASCII letters in lower case. -/
def lowerCase (name : String) : String := String.ofList (name.toList.map Char.toLower)

/-- A word that names something without quotes. -/
def isPlainName (name : String) : Bool :=
  isWord name && !reservedWords.contains (lowerCase name)

/-- The text with every `q` written twice. -/
def doubled (q : Char) (s : String) : String :=
  String.ofList (s.toList.flatMap fun c => if c = q then [q, q] else [c])

end SqlRender
