/-!
Identifiers: the words that packages, directories and files of modules are named with.

An identifier is a run of letters, digits and underscores whose first character other
than an underscore is a letter. The name of the language itself is reserved.
-/

namespace BriskModules

/-- The word that is no valid name although it is written like one. -/
def reservedWord : String := "brisk"

/-- A letter, a digit or an underscore of ASCII. -/
def isWordChar (c : Char) : Bool :=
  c = '_' || c.isAlphanum

/-- Whether a word is written like an identifier. -/
def isIdentifierWord (word : List Char) : Bool :=
  match word.dropWhile (· = '_') with
  | c :: rest => c.isAlpha && rest.all isWordChar
  | [] => false

/-- Whether a text may name a package, a directory or a file of a module. -/
def isIdentifier (text : String) : Bool :=
  text ≠ reservedWord && isIdentifierWord text.toList

end BriskModules
