/-!
# Findings

What a diagnosis has found, and the two sentences it says about each: an explanation and a
suggestion.

## Main definitions

* `Finding` — the causes that are told apart.
* `Finding.explanation`, `Finding.suggestion` — what is said about them.
-/

namespace ScriptPress

inductive Finding where
  /-- The line ends in a bare block keyword. -/
  | bareKeyword
  /-- A block header lacks its colon. -/
  | missingColon (keyword : String)
  | assignmentInCondition
  | unclosedParenthesis
  | extraParenthesis
  | unclosedBracket
  | printStatement
  | unexpectedEnd
  | unterminatedString
  | invalidSyntax
  | unmatchedBracket
  | expectedColon
  | badIndentation
  | unknownSyntax
  | undefinedName (name : String)
  | wrongType
  | missingMember (owner member : String)
  | failedImport (name : String)
  | badIndex
  | badKey
  | exception
  | timeout
  | noOutput
  | system
  deriving DecidableEq, Repr

namespace Finding

def explanation : Finding → String
  | bareKeyword | missingColon _ =>
    "Python block statements (if, for, while, def, class, try…) must end with a colon."
  | assignmentInCondition =>
    "A single `=` assigns a value; conditions compare values with `==`."
  | unclosedParenthesis => "An opening parenthesis `(` is never closed."
  | extraParenthesis => "There is a closing parenthesis `)` without a matching `(`."
  | unclosedBracket => "An opening bracket `[` is never closed."
  | printStatement => "`print` is a function in Python 3, not a statement."
  | unexpectedEnd => "The code ended while a statement, bracket or block was still open."
  | unterminatedString => "A string literal is missing its closing quote."
  | invalidSyntax => "Python could not understand this line."
  | unmatchedBracket => "A closing bracket does not match any opening bracket."
  | expectedColon => "Python expected a colon here, usually at the end of a block statement."
  | badIndentation =>
    "Python uses indentation to group statements, and this line is indented inconsistently."
  | unknownSyntax => "The code is not valid Python syntax."
  | undefinedName name => s!"`{name}` is used before it was defined or imported."
  | wrongType => "A value of the wrong type was passed to an operation or function."
  | missingMember owner member => s!"`{owner}` has no attribute `{member}`."
  | failedImport name => s!"The module `{name}` could not be imported."
  | badIndex => "A list or sequence was indexed past its end."
  | badKey => "A dictionary was asked for a key it does not contain."
  | exception => "An error occurred while running your code."
  | timeout => "The code kept running past the time limit, often because of an endless loop."
  | noOutput =>
    "Your code ran without errors but did not save a PDF, print anything, or define a function " ++
      "that does."
  | system => "The conversion machinery itself failed, not your code."

def suggestion : Finding → String
  | bareKeyword | expectedColon => "Add a missing colon (:) at the end of the line."
  | missingColon keyword =>
    s!"Add a missing colon (:) at the end of the `{keyword}` statement."
  | assignmentInCondition => "Replace `=` with `==` to compare the two values."
  | unclosedParenthesis => "Add the missing closing parenthesis `)`."
  | extraParenthesis => "Remove the extra closing parenthesis `)`."
  | unclosedBracket => "Add the missing closing bracket `]`."
  | printStatement => "Call it with parentheses: print(\"text\") instead of print \"text\"."
  | unexpectedEnd =>
    "Check the last lines for unclosed brackets, parentheses or an unfinished block."
  | unterminatedString => "Close the string with the same quote character it was opened with."
  | invalidSyntax | unknownSyntax =>
    "Check for missing parentheses, matching quotes, or correct colons at the end of statements."
  | unmatchedBracket => "Remove the stray closing bracket or add the opening one it belongs to."
  | badIndentation =>
    "Check your code indentation. Python relies on consistent spacing (tabs vs spaces)."
  | undefinedName name =>
    s!"Define or import `{name}` before using it, and check its spelling."
  | wrongType => "Check the argument types and the number of arguments in the failing call."
  | missingMember _ member =>
    s!"Check the spelling of `{member}` and the library documentation for the right method name."
  | failedImport _ =>
    "The library you are trying to import might not be available in this environment."
  | badIndex =>
    "Check the length of the sequence before indexing, and remember indexes start at 0."
  | badKey => "Check the key's spelling, or use dict.get(key, default) for optional keys."
  | exception => "Review the error details above to identify the issue."
  | timeout => "Look for loops whose exit condition is never reached, or raise the timeout."
  | noOutput => "Make sure you call `pdf.output('filename.pdf')` at the end."
  | system => "Try again; if it keeps failing, report the error message."

end Finding

end ScriptPress
