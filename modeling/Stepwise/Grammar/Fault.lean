import Stepwise.Token.Opening

/-!
# Faults of a program text

Each way in which a text fails to be a program, the place it is reported at and the words that
report it.
-/

namespace Stepwise

/-- The three kinds of brackets. -/
inductive Bracket where
  | paren
  | square
  | brace
deriving DecidableEq, Repr

namespace Bracket

/-- The bracket that opens. -/
def opener : Bracket → String
  | paren => "("
  | square => "["
  | brace => "\x7b"

/-- The bracket that closes. -/
def closer : Bracket → String
  | paren => ")"
  | square => "]"
  | brace => "\x7d"

end Bracket

/-- What is wrong with a program text. -/
inductive SyntaxCause where
  /-- The text does not open as it has to. -/
  | opening (missing : MissingOpening)
  /-- A token that starts with a digit is no 32-bit integer. -/
  | badLiteral (token : String)
  /-- A token has no place in an expression. -/
  | unexpectedToken (token : String)
  /-- An operator lacks an operand. -/
  | missingOperand
  /-- Something other than a variable stands where one is assigned or read. -/
  | notAVariable
  /-- A reading operator without the input stream on its left. -/
  | strayExtract
  /-- A printing operator without the output stream on its left. -/
  | strayInsert
  /-- A comma with nothing on its left. -/
  | nothingBeforeComma
  /-- Something other than a name is called. -/
  | notCallable
  /-- Something other than a variable is indexed. -/
  | notIndexable
  /-- A closing bracket without its opening one. -/
  | unmatched (bracket : Bracket)
  /-- An opening bracket that the expression never closes. -/
  | openExpression
  /-- Two operands without an operator. -/
  | missingOperator
  /-- A list of expressions outside a call. -/
  | strayComma
  /-- Parentheses without content. -/
  | missingExpression
  /-- An else branch without its if. -/
  | strayElse
  /-- The header of a for loop does not have two semicolons. -/
  | badForHeader (found : Nat)
  /-- A declaration lacks a name. -/
  | missingDeclarator
  /-- An equals sign without a value after it. -/
  | missingInitializer (name : String)
  /-- A declarator goes on in an unknown way. -/
  | badDeclarator (token name : String)
  /-- The tokens end where a statement is due. -/
  | missingStatement
  /-- A statement without its semicolon. -/
  | missingSemicolon
  /-- Something other than a declaration stands outside functions. -/
  | badItem (token : String)
  /-- A second function of one name. -/
  | duplicate (name : String)
  /-- A parameter that is not a type and a name. -/
  | badParameter (routine : String)
  /-- A function without a body. -/
  | missingBody (routine : String)
  /-- A token that is no name stands where one is due. -/
  | notAName (token : String)
  /-- An opening bracket is due. -/
  | missingOpener (bracket : Bracket)
  /-- An opening bracket that is never closed. -/
  | unclosed (bracket : Bracket)
deriving DecidableEq, Repr

/-- The words for what is wrong. -/
def SyntaxCause.message : SyntaxCause → String
  | opening missing => missing.message
  | badLiteral token => s!"Invalid integer literal '{token}'"
  | unexpectedToken token => s!"Unexpected token '{token}' in expression"
  | missingOperand => "Expected an operand"
  | notAVariable => "Expected a variable"
  | strayExtract => "'>>' must follow 'cin'"
  | strayInsert => "'<<' must follow 'cout'"
  | nothingBeforeComma => "Expected expression before ','"
  | notCallable => "Only named functions can be called"
  | notIndexable => "Only variables can be indexed"
  | unmatched bracket => s!"Unmatched '{bracket.closer}'"
  | openExpression => "Unclosed bracket in expression"
  | missingOperator => "Missing operator between operands"
  | strayComma => "Unexpected ',' outside a call"
  | missingExpression => "Expected expression"
  | strayElse => "'else' without a matching 'if'"
  | badForHeader found => s!"Expected two ';' in 'for' header, found {found}"
  | missingDeclarator => "Expected a name in declaration"
  | missingInitializer name => s!"Missing initializer for '{name}'"
  | badDeclarator token name => s!"Unexpected '{token}' in declaration of '{name}'"
  | missingStatement => "Expected a statement"
  | missingSemicolon => "Expected ';' at end of statement"
  | badItem token => s!"Expected 'int' at top level, found '{token}'"
  | duplicate name => s!"Function '{name}' is defined more than once"
  | badParameter routine => s!"Expected 'int <name>' in parameters of '{routine}'"
  | missingBody routine => s!"Expected '\x7b' before body of '{routine}'"
  | notAName token => s!"Expected identifier, found '{token}'"
  | missingOpener bracket => s!"Expected '{bracket.opener}'"
  | unclosed bracket => s!"Unclosed '{bracket.opener}'"

/-- What is wrong with a program text, and where. -/
structure SyntaxFault where
  /-- What is wrong. -/
  cause : SyntaxCause
  /-- Where it is reported. -/
  loc : Location
deriving DecidableEq, Repr

/-- The full text of the error. -/
def SyntaxFault.message (fault : SyntaxFault) : String :=
  s!"Parse error at {fault.loc.describe}: {fault.cause.message}"

end Stepwise
