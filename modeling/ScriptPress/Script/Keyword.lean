import ScriptPress.Text.Blank
import ScriptPress.Text.Piece
import ScriptPress.Text.Word

/-!
# Keywords of block statements

The words that begin or end a block header, found as whole words: a keyword counts where no further
word character stands beside it.

## Main definitions

* `blockKeyword?` — the keyword of the block statement that a line begins.
* `endsWithKeyword` — the line ends in a bare keyword.
* `startsCondition` — the line begins with `if` or `elif`.
* `mentionsIf` — the word `if` stands somewhere on the line.
-/

namespace ScriptPress.Script

open Text

/-- The keywords that may stand at the end of a line only with a colon behind them. -/
def headerKeywords : List (List Char) :=
  ["if".toList, "elif".toList, "else".toList, "for".toList, "while".toList, "def".toList,
    "class".toList, "try".toList, "except".toList, "finally".toList]

def blockKeywords : List (List Char) := headerKeywords ++ ["with".toList]

def firstWord (s : List Char) : List Char := s.takeWhile isWord

def lastWord (s : List Char) : List Char := takeEndWhile isWord s

/-- The keyword of the block statement that the line begins, behind any indentation. -/
def blockKeyword? (s : List Char) : Option (List Char) :=
  let word := firstWord (trimStart s)
  if word ∈ blockKeywords then some word else none

def endsWithKeyword (s : List Char) : Bool := lastWord (trimEnd s) ∈ headerKeywords

def startsCondition (s : List Char) : Bool :=
  firstWord s ∈ ["if".toList, "elif".toList]

def mentionsIf (s : List Char) : Bool := "if".toList ∈ pieces (!isWord ·) s

def endsWith (c : Char) (s : List Char) : Bool := s.getLast? == some c

end ScriptPress.Script
