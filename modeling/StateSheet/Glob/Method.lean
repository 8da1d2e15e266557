import StateSheet.Glob.Token

/-!
# Methods of comparison

How a set of path filters compares a glob with a path. Many globs come down to
a comparison of texts: of the whole path, of its start, of its end, or of its
last name or the extension of that name. A glob that ends in an extension is
compared by its expression, but only with paths whose last name has that
extension. All other globs are compared by their expressions alone.

The methods agree on which paths a glob matches, with one exception: two dots
at the end of a path are the way to the enclosing directory and no name, so no
method that looks at the last name finds anything there.
-/

set_option autoImplicit false

namespace StateSheet.Glob

/-- A way to compare a glob with paths. -/
inductive Method where
  /-- The path, its start or its end is a given text. -/
  | text
  /-- The last name, or the extension of it, is a given text. -/
  | name
  /-- The extension of the last name is a given text, and the path is what the
  expression of the glob stands for. -/
  | nameAndExpression
  /-- The path is what the expression of the glob stands for. -/
  | expression
deriving DecidableEq, Repr

namespace Method

/-- The text of tokens that stand for single characters, if all do. -/
def literalText? (tokens : List Token) : Option Text := tokens.mapM Token.literal?

/-- Do tokens stand for a text, and one of these? -/
def areText (tokens : List Token) (allowed : Text → Bool) : Bool :=
  (literalText? tokens).any allowed

/-- Is a text a name or a part of one? -/
def isInName (text : Text) : Bool := !text.contains '/'

/-- The tokens behind the directories that they may start with. -/
def behindDirectories : List Token → List Token
  | .leadingDirectories :: rest => rest
  | tokens => tokens

/-- Do tokens stand for a last name in any directory? -/
def isName : List Token → Bool
  | .leadingDirectories :: rest => areText rest fun text => !text.isEmpty && isInName text
  | _ => false

/-- Do tokens stand for an extension of the last name? -/
def isExtension (tokens : List Token) : Bool :=
  match behindDirectories tokens with
  | .many :: .literal '.' :: rest => areText rest fun text => isInName text && !text.contains '.'
  | _ => false

/-- Do tokens stand for a whole path? -/
def isWhole (tokens : List Token) : Bool := areText tokens fun text => !text.isEmpty

/-- Do tokens stand for the start of a path? -/
def isStart (tokens : List Token) : Bool :=
  match tokens.getLast? with
  | some .many => isWhole tokens.dropLast
  | some .trailingEntries => areText tokens.dropLast fun _ => true
  | _ => false

/-- Do tokens stand for the end of a path? -/
def isEnd (tokens : List Token) : Bool :=
  match tokens with
  | .leadingDirectories :: .literal c :: rest => areText (.literal c :: rest) fun _ => true
  | _ =>
      match behindDirectories tokens with
      | .many :: rest => areText rest fun text => !text.isEmpty && text != ['/']
      | _ => false

/-- Do tokens end in an extension, whatever stands in front of it? -/
def hasExtension (tokens : List Token) : Bool :=
  let inExtension (token : Token) : Bool := token.literal?.any fun c => c != '.' && c != '/'
  match tokens.reverse.dropWhile inExtension with
  | .literal '.' :: _ => true
  | _ => false

/-- The way to compare the glob that tokens make with paths. -/
def ofTokens (tokens : List Token) : Method :=
  if isName tokens then .name
  else if isWhole tokens then .text
  else if isExtension tokens then .name
  else if isStart tokens || isEnd tokens then .text
  else if hasExtension tokens then .nameAndExpression
  else .expression

/-- Does a way of comparing look at the last name of a path? -/
def looksAtName : Method → Bool
  | name | nameAndExpression => true
  | text | expression => false

end Method

end StateSheet.Glob
