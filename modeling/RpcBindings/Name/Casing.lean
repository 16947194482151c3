import RpcBindings.Text.Upper
import RpcBindings.Text.Lower
import RpcBindings.Text.Digit
import RpcBindings.Text.CaseMap

/-!
# Casing in any script (SPEC §4.1)

Two renderings of a separated name, character by character.  In camel case underscores vanish, the
letter behind one, behind a digit or at the start is raised, and a capital that follows a capital is
lowered.  In snake case everything is lowered and an underscore marks each change between small
letters, capitals and digits.
-/

set_option autoImplicit false

namespace RpcBindings.Name

open Text (isUpper isLower isDigit toUpper toLower)

/-! ## Camel case -/

/-- Lowers a capital that follows a capital; `prevUpper` tells whether one was just written. -/
def collapseFrom (prevUpper : Bool) : List Char → List Char
  | [] => []
  | c :: cs =>
      let out := if prevUpper && isUpper c then toLower c else c
      out :: collapseFrom (isUpper out) cs

/-- The text without a capital directly behind a written capital. -/
def collapse (cs : List Char) : List Char := collapseFrom false cs

/-- What a letter is written as: `raise` asks for a capital, `prevCap` tells that the letter read
before was one, `prevUpper` that the character written before is one. -/
def camelChar (raise prevCap prevUpper : Bool) (c : Char) : Char :=
  let cased :=
    if raise then toUpper c
    else if prevCap && isUpper c then toLower c
    else c
  if prevUpper && isUpper cased then toLower cased else cased

/-- Camel case from the middle of a name on. -/
def camelFrom (raise prevCap prevUpper : Bool) : List Char → List Char
  | [] => []
  | c :: cs =>
      if c = '_' then camelFrom true false prevUpper cs
      else if isDigit c then c :: camelFrom true false false cs
      else
        let out := camelChar raise prevCap prevUpper c
        out :: camelFrom false (isUpper c) (isUpper out) cs

/-- A separated name in camel case. -/
def camel (cs : List Char) : List Char := camelFrom true false false cs

/-! ## Snake case -/

/-- Two neighbouring characters belong to different words: a capital before a small letter or a
digit, a small letter before a capital or a digit, a digit before a letter that has a case. -/
def changes (c next : Char) : Bool :=
  (isUpper c && (isLower next || isDigit next)) ||
  (isLower c && (isUpper next || isDigit next)) ||
  (isDigit c && (isUpper next || isLower next))

/-- What is written for a character between the capital or other before it and the one after it.
The last capital of a row that a small letter follows starts a word of its own. -/
def snakeChar (prevCap : Bool) (c : Char) (next : Option Char) : List Char :=
  match next with
  | none => [toLower c]
  | some d =>
      if changes c d then
        (if isUpper c && isLower d && prevCap then ['_'] else []) ++ [toLower c] ++
        (if isLower c || isDigit c || isDigit d then ['_'] else [])
      else [toLower c]

/-- Snake case from the middle of a name on. -/
def snakeFrom (prevCap : Bool) : List Char → List Char
  | [] => []
  | c :: cs => snakeChar prevCap c cs.head? ++ snakeFrom (isUpper c) cs

/-- A separated name in snake case. -/
def snake (cs : List Char) : List Char := snakeFrom false cs

end RpcBindings.Name
