import Offside.Text.Basic

/-!
# Syntax faults

A source text that is no program is refused with one problem and the place where it shows.  The
wording of a problem is fixed here; the message puts the line in front of it.  Columns count
from one.  A column is an integer, since a token that spans several lines may count its column
from the line on which it ends.
-/

namespace Offside

namespace Source

/-- What is wrong with a source text. -/
inductive Problem where
  -- tokens
  | illegal
  | unexpected (token : Text)
  | unexpectedEnd
  | unexpectedIdentifier
  | unexpectedNumber
  | unexpectedString
  | unexpectedTemplate (token : Text)
  | unexpectedReserved
  | misplaced
  | escapedKeyword
  | hexEscape
  | templateOctal
  | brokenPattern
  | unterminatedPattern
  -- assignments and loops
  | assignmentTarget
  | forInTarget
  | forOfTarget
  | forInInitializer
  | missingInitializer
  | lexicalLet
  -- functions, classes and objects
  | getterArity
  | setterArity
  | setterRest
  | restNotLast
  | restDefault
  | repeatedConstructor
  | asyncConstructor
  | specialConstructor
  | staticPrototype
  | repeatedProto
  -- statements
  | illegalBreak
  | illegalContinue
  | illegalReturn
  | unknownLabel (name : Text)
  | repeatedLabel (name : Text)
  | repeatedDefault
  | newlineAfterThrow
  | bareTry
  | repeatedBinding (name : Text)
  | legacyGenerator
  -- strict mode
  | strictDirective
  | strictReserved
  | strictOctal
  | strictWith
  | strictDelete
  | strictFunction
  | strictFunctionName
  | strictParameterName
  | strictParameterTwice
  | strictVariableName
  | strictCatchName
  | strictAssignment
  | strictPostfix
  | strictPrefix
deriving DecidableEq

/-- The wording of a problem. -/
def Problem.wording : Problem → Text
  | .illegal => "Unexpected token ILLEGAL"
  | .unexpected token => "Unexpected token " ++ token
  | .unexpectedEnd => "Unexpected end of input"
  | .unexpectedIdentifier => "Unexpected identifier"
  | .unexpectedNumber => "Unexpected number"
  | .unexpectedString => "Unexpected string"
  | .unexpectedTemplate token => "Unexpected quasi " ++ token
  | .unexpectedReserved => "Unexpected reserved word"
  | .misplaced => "Unexpected token"
  | .escapedKeyword => "Keyword must not contain escaped characters"
  | .hexEscape => "Invalid hexadecimal escape sequence"
  | .templateOctal => "Octal literals are not allowed in template strings."
  | .brokenPattern => "Invalid regular expression"
  | .unterminatedPattern => "Invalid regular expression: missing /"
  | .assignmentTarget => "Invalid left-hand side in assignment"
  | .forInTarget => "Invalid left-hand side in for-in"
  | .forOfTarget => "Invalid left-hand side in for-loop"
  | .forInInitializer => "for-in loop variable declaration may not have an initializer"
  | .missingInitializer => "Missing initializer in const declaration"
  | .lexicalLet => "let is disallowed as a lexically bound name"
  | .getterArity => "Getter must not have any formal parameters"
  | .setterArity => "Setter must have exactly one formal parameter"
  | .setterRest => "Setter function argument must not be a rest parameter"
  | .restNotLast => "Rest parameter must be last formal parameter"
  | .restDefault => "Unexpected token ="
  | .repeatedConstructor => "A class may only have one constructor"
  | .asyncConstructor => "Class constructor may not be an async method"
  | .specialConstructor => "Class constructor may not be an accessor"
  | .staticPrototype => "Classes may not have static property named prototype"
  | .repeatedProto => "Duplicate __proto__ fields are not allowed in object literals"
  | .illegalBreak => "Illegal break statement"
  | .illegalContinue => "Illegal continue statement"
  | .illegalReturn => "Illegal return statement"
  | .unknownLabel name => "Undefined label '" ++ name ++ "'"
  | .repeatedLabel name => "Label '" ++ name ++ "' has already been declared"
  | .repeatedDefault => "More than one default clause in switch statement"
  | .newlineAfterThrow => "Illegal newline after throw"
  | .bareTry => "Missing catch or finally after try"
  | .repeatedBinding name => "Duplicate binding " ++ name
  | .legacyGenerator => "Generator declarations are not allowed in legacy contexts"
  | .strictDirective =>
    "Illegal 'use strict' directive in function with non-simple parameter list"
  | .strictReserved => "Use of future reserved word in strict mode"
  | .strictOctal => "Octal literals are not allowed in strict mode."
  | .strictWith => "Strict mode code may not include a with statement"
  | .strictDelete => "Delete of an unqualified identifier in strict mode."
  | .strictFunction =>
    "In strict mode code, functions can only be declared at top level or inside a block"
  | .strictFunctionName => "Function name may not be eval or arguments in strict mode"
  | .strictParameterName => "Parameter name eval or arguments is not allowed in strict mode"
  | .strictParameterTwice => "Strict mode function may not have duplicate parameter names"
  | .strictVariableName => "Variable name may not be eval or arguments in strict mode"
  | .strictCatchName => "Catch variable may not be eval or arguments in strict mode"
  | .strictAssignment => "Assignment to eval or arguments is not allowed in strict mode"
  | .strictPostfix =>
    "Postfix increment/decrement may not have eval or arguments operand in strict mode"
  | .strictPrefix =>
    "Prefix increment/decrement may not have eval or arguments operand in strict mode"

/-- A problem and the place where it shows. -/
structure Fault where
  problem : Problem
  line : Nat
  column : Int
deriving DecidableEq

/-- The message about a fault. -/
def Fault.message (fault : Fault) : Text :=
  "Line " ++ Text.ofNat fault.line ++ ": " ++ fault.problem.wording

end Source

end Offside
