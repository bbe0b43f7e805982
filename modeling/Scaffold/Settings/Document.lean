import Scaffold.Text.Hexadecimal

/-!
Contract: the text of a settings document.

Owns:
- the keys of a TOML document and the texts that they are set to.

A settings document sets keys to strings and holds nothing else: no tables, and no values of
other sorts. A document that holds anything else is refused as a whole, so only the part of the
format that spells keys, strings and comments has to be read.
-/

namespace Scaffold.Settings.Document

/-- A blank inside of a line. -/
def isInlineBlank (char : Char) : Bool :=
  char == ' ' || char == '\t'

/-- Is the character printable, or a tab? Comments and strings hold no others. -/
def isPrintable (char : Char) : Bool :=
  char == '\t' || (0x20 ≤ char.toNat && char.toNat != 0x7F)

/-- A text without the blanks at its front. -/
def skipBlanks (text : List Char) : List Char :=
  text.dropWhile isInlineBlank

/-- What follows the end of a line; the end of the text ends a line too. -/
def afterLineEnd : List Char → Option (List Char)
  | [] => some []
  | '\n' :: rest => some rest
  | '\r' :: '\n' :: rest => some rest
  | _ => none

/-- What follows the rest of a line that holds blanks and a comment at most. -/
def afterLine (text : List Char) : Option (List Char) :=
  match skipBlanks text with
  | '#' :: comment => afterLineEnd (comment.dropWhile isPrintable)
  | rest => afterLineEnd rest

/-! ## Strings -/

/-- The number that a row of hexadecimal digits spells. -/
def hexNumber? (digits : List Char) : Option Nat :=
  digits.foldlM
    (fun value digit => (Text.hexValue? digit).map fun next => value * 16 + next) 0

/-- The character that `count` hexadecimal digits stand for. -/
def codePoint (count : Nat) (text : List Char) : Option (Char × List Char) := do
  let digits := text.take count
  if digits.length < count then none
  else
    let value ← hexNumber? digits
    if Text.isScalar value then some (Char.ofNat value, text.drop count) else none

/-- The character of an escape, from behind its backslash on. -/
def escape : List Char → Option (Char × List Char)
  | 'b' :: rest => some ('\x08', rest)
  | 't' :: rest => some ('\t', rest)
  | 'n' :: rest => some ('\n', rest)
  | 'f' :: rest => some ('\x0c', rest)
  | 'r' :: rest => some ('\r', rest)
  | 'e' :: rest => some ('\x1b', rest)
  | '"' :: rest => some ('"', rest)
  | '\\' :: rest => some ('\\', rest)
  | 'x' :: rest => codePoint 2 rest
  | 'u' :: rest => codePoint 4 rest
  | 'U' :: rest => codePoint 8 rest
  | _ => none

/-- The string behind an opening quote, up to the closing one on the same line. `escapes` tells
if a backslash begins an escape. -/
def lineString
    (quote : Char)
    (escapes : Bool) :
    Nat → List Char → Option (List Char × List Char)
  | 0, _ => none
  | _ + 1, [] => none
  | fuel + 1, char :: rest =>
      if char = quote then some ([], rest)
      else if escapes && char == '\\' then do
        let (value, after) ← escape rest
        let (string, behind) ← lineString quote escapes fuel after
        some (value :: string, behind)
      else if isPrintable char then do
        let (string, behind) ← lineString quote escapes fuel rest
        some (char :: string, behind)
      else none

/-- What follows the end of a line behind a backslash, with all blanks and ends of lines behind
it, if nothing else stands on the line. -/
def afterContinuation (text : List Char) : Option (List Char) :=
  match skipBlanks text with
  | '\n' :: rest => some (skipSpace rest)
  | '\r' :: '\n' :: rest => some (skipSpace rest)
  | _ => none
where
  /-- A text without the blanks and ends of lines at its front. -/
  skipSpace : List Char → List Char
    | '\r' :: '\n' :: rest => skipSpace rest
    | '\n' :: rest => skipSpace rest
    | char :: rest => if isInlineBlank char then skipSpace rest else char :: rest
    | [] => []

/-- The string behind three opening quotes, up to the three closing ones. Up to two quotes more
belong to the string. -/
def blockString
    (quote : Char)
    (escapes : Bool) :
    Nat → List Char → Option (List Char × List Char)
  | 0, _ => none
  | _ + 1, [] => none
  | fuel + 1, char :: rest =>
      if char = quote then
        let quotes := (char :: rest).takeWhile (· == quote)
        let behind := (char :: rest).dropWhile (· == quote)
        if quotes.length < 3 then do
          let (string, after) ← blockString quote escapes fuel behind
          some (quotes ++ string, after)
        else if quotes.length ≤ 5 then some (quotes.drop 3, behind)
        else none
      else if escapes && char == '\\' then
        match afterContinuation rest with
        | some after => blockString quote escapes fuel after
        | none => do
            let (value, after) ← escape rest
            let (string, behind) ← blockString quote escapes fuel after
            some (value :: string, behind)
      else
        match char, rest with
        | '\r', '\n' :: after => do
            let (string, behind) ← blockString quote escapes fuel after
            some ('\r' :: '\n' :: string, behind)
        | _, _ =>
            if isPrintable char || char == '\n' then do
              let (string, behind) ← blockString quote escapes fuel rest
              some (char :: string, behind)
            else none

/-- A text without the end of a line at its front. -/
def withoutFirstLineEnd : List Char → List Char
  | '\n' :: rest => rest
  | '\r' :: '\n' :: rest => rest
  | text => text

/-- A string of any sort. -/
def string : List Char → Option (List Char × List Char)
  | '"' :: '"' :: '"' :: rest =>
      blockString '"' true (rest.length + 1) (withoutFirstLineEnd rest)
  | '\'' :: '\'' :: '\'' :: rest =>
      blockString '\'' false (rest.length + 1) (withoutFirstLineEnd rest)
  | '"' :: rest => lineString '"' true (rest.length + 1) rest
  | '\'' :: rest => lineString '\'' false (rest.length + 1) rest
  | _ => none

/-! ## Lines -/

/-- A character of a key that is not quoted. -/
def isKeyChar (char : Char) : Bool :=
  char.isAlphanum || char == '-' || char == '_'

/-- A key, quoted or not. -/
def key : List Char → Option (List Char × List Char)
  | '"' :: rest => lineString '"' true (rest.length + 1) rest
  | '\'' :: rest => lineString '\'' false (rest.length + 1) rest
  | text =>
      let name := text.takeWhile isKeyChar
      if name.isEmpty then none else some (name, text.dropWhile isKeyChar)

/-- A key and the string that it is set to. -/
def setting (text : List Char) : Option ((String × String) × List Char) := do
  let (name, afterKey) ← key text
  match skipBlanks afterKey with
  | '=' :: rest =>
      let (value, after) ← string (skipBlanks rest)
      some ((String.ofList name, String.ofList value), after)
  | _ => none

/-- The settings of a text, line by line. -/
def settingsFrom : Nat → List Char → Option (List (String × String))
  | 0, text => if text.isEmpty then some [] else none
  | _ + 1, [] => some []
  | fuel + 1, text =>
      match afterLine text with
      | some rest => settingsFrom fuel rest
      | none => do
          let (found, after) ← setting (skipBlanks text)
          let rest ← afterLine after
          return found :: (← settingsFrom fuel rest)

/-- The settings of a document in their order, keys and texts. A mark of the byte order in front
does not count. -/
def settings? (text : String) : Option (List (String × String)) :=
  let chars :=
    match text.toList with
    | first :: rest => if first.toNat = 0xFEFF then rest else first :: rest
    | [] => []
  settingsFrom (chars.length + 1) chars

end Scaffold.Settings.Document
