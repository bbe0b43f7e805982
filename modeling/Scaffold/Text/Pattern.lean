import Scaffold.Text.Blank
import Scaffold.Text.Hexadecimal
import Scaffold.Text.Letters

/-!
Contract: which texts are patterns that other texts are matched with.

Owns:
- escapes, classes of characters, and groups with their flags;
- `Pattern.isWellFormed`: is a text a pattern?

A pattern is a row of characters, escapes, classes and groups, with bars between alternatives
and marks of repetition behind what is repeated. Patterns are found inside of braces, so they
hold no closing brace: an opening one would begin a count or a name that never ends. Patterns
match characters. What would match a single byte of one is refused, and so is the test for the
border of a word, unless words are those of ASCII.
-/

namespace Scaffold.Text.Pattern

/-- How a part of a pattern is read: with characters rather than bytes in mind, and with blanks
and comments that do not count. -/
structure Mode where
  matchesCharacters : Bool := true
  skipsBlanks : Bool := false
  deriving DecidableEq, Repr

/-- The text behind blanks and comments; `inComment` tells that a comment has begun. A comment
goes from a hash mark to the end of its line. -/
def behindBlanks (inComment : Bool) : List Char → List Char
  | [] => []
  | char :: rest =>
      if inComment then behindBlanks (char != '\n') rest
      else if char = '#' then behindBlanks true rest
      else if isBlank char then behindBlanks false rest
      else char :: rest

/-- The text behind what does not count. -/
def Mode.skip (mode : Mode) (text : List Char) : List Char :=
  if mode.skipsBlanks then behindBlanks false text else text

/-! ## Escapes -/

/-- What an escape stands for: one character, a set of them, or a test of a place. -/
inductive Escaped where
  | literal (code : Nat)
  | set
  | place
  deriving DecidableEq, Repr

/-- The character that `count` hexadecimal digits spell behind the number `value`, and what
follows them. -/
def codePoint? : Nat → Nat → List Char → Option (Nat × List Char)
  | 0, value, rest => if isScalar value then some (value, rest) else none
  | count + 1, value, char :: rest => do
      let digit ← hexValue? char
      codePoint? count (value * 16 + digit) rest
  | _ + 1, _, [] => none

/-- How many hexadecimal digits follow a letter that they belong to. -/
def hexDigitCount? (letter : Char) : Option Nat :=
  if letter = 'x' then some 2
  else if letter = 'u' then some 4
  else if letter = 'U' then some 8
  else none

/-- The control character that a letter stands for. -/
def controlCode? (letter : Char) : Option Nat :=
  if letter = 'a' then some 0x07
  else if letter = 'f' then some 0x0C
  else if letter = 't' then some 0x09
  else if letter = 'n' then some 0x0A
  else if letter = 'r' then some 0x0D
  else if letter = 'v' then some 0x0B
  else none

/-- The letters that name a group of characters; they may be small. -/
def groupLetters : List Char :=
  ['C', 'L', 'M', 'N', 'P', 'S', 'Z']

/-- Read the escape by number behind its letter. Two digits are a byte where bytes are
matched. -/
def escapeByNumber?
    (mode : Mode)
    (count : Nat)
    (digits : List Char) :
    Option (Escaped × List Char) := do
  let (code, after) ← codePoint? count 0 digits
  if mode.matchesCharacters || count != 2 || code < 0x80 then
    return (.literal code, after)
  else none

/-- Read an escape behind its backslash. Digits, which would refer to what was matched, are
refused, and so is a letter without a meaning. -/
def escape? (mode : Mode) : List Char → Option (Escaped × List Char)
  | [] => none
  | char :: rest =>
      match hexDigitCount? char, controlCode? char with
      | some count, _ => escapeByNumber? mode count (mode.skip rest)
      | none, some code => some (.literal code, rest)
      | none, none =>
          if char = 'p' || char = 'P' then
            match mode.skip rest with
            | group :: after =>
                if mode.matchesCharacters && groupLetters.contains group.toUpper then
                  some (.set, after)
                else none
            | [] => none
          else if char = 'd' || char = 's' || char = 'w' then some (.set, rest)
          else if char = 'D' || char = 'S' || char = 'W' then
            if mode.matchesCharacters then some (.set, rest) else none
          else if char = 'A' || char = 'z' then some (.place, rest)
          else if char = 'b' || char = 'B' || char = '<' || char = '>' then
            if mode.matchesCharacters then none else some (.place, rest)
          else if char.toNat < 0x80 && !isAsciiLetter char && !isAsciiDigit char then
            some (.literal char.toNat, rest)
          else none

/-! ## Classes -/

/-- The names of the classes of ASCII. -/
def asciiClasses : List String :=
  ["alnum", "alpha", "ascii", "blank", "cntrl", "digit", "graph", "lower", "print", "punct",
    "space", "upper", "word", "xdigit"]

/-- Read a class of ASCII behind its bracket, and tell whether it is negated. -/
def asciiClass? : List Char → Option (Bool × List Char)
  | ':' :: rest =>
      let (negated, named) :=
        match rest with
        | '^' :: after => (true, after)
        | after => (false, after)
      match named.dropWhile (· != ':') with
      | ':' :: ']' :: after =>
          if asciiClasses.contains (String.ofList (named.takeWhile (· != ':'))) then
            some (negated, after)
          else none
      | _ => none
  | _ => none

/-- Read one element of a class. Where bytes are matched it is one of ASCII. -/
def classElement? (mode : Mode) : List Char → Option (Escaped × List Char)
  | [] => none
  | '\\' :: rest =>
      match escape? mode rest with
      | some (.place, _) => none
      | some (.literal code, after) =>
          if mode.matchesCharacters || code < 0x80 then some (.literal code, after) else none
      | read => read
  | char :: rest =>
      if mode.matchesCharacters || char.toNat < 0x80 then some (.literal char.toNat, rest)
      else none

/-- Is a dash ahead that stands between the ends of a range? One in front of a bracket or of
another dash does not. -/
def atRange (mode : Mode) : List Char → Bool
  | '-' :: rest =>
      match mode.skip rest with
      | ']' :: _ => false
      | '-' :: _ => false
      | _ => true
  | _ => false

/-- Read an element of a class, or the range that it begins. -/
def classRange? (mode : Mode) (text : List Char) : Option (List Char) := do
  let (first, behindFirst) ← classElement? mode text
  let ahead := mode.skip behindFirst
  if atRange mode ahead then
    let (last, after) ← classElement? mode (mode.skip (ahead.drop 1))
    match first, last with
    | .literal low, .literal high => if low ≤ high then some after else none
    | _, _ => none
  else some ahead

/-- Read the beginning of a class behind its bracket. A dash there stands for itself, and so does
a closing bracket that is the first element. -/
def classStart? (mode : Mode) (text : List Char) : Option (List Char) :=
  let elements (ahead : List Char) : List Char :=
    match ahead with
    | ']' :: rest => rest
    | _ => ahead.dropWhile fun char => char == '-' || (mode.skipsBlanks && isBlank char)
  match mode.skip text with
  | '^' :: rest => if mode.matchesCharacters then some (elements (mode.skip rest)) else none
  | ahead => some (elements ahead)

/-- What follows a class, with `depth` more classes open around it. -/
def afterClass? (mode : Mode) : Nat → Nat → List Char → Option (List Char)
  | 0, _, _ => none
  | fuel + 1, depth, text =>
      match mode.skip text with
      | [] => none
      | '[' :: rest =>
          match asciiClass? rest with
          | some (negated, after) =>
              if negated && !mode.matchesCharacters then none
              else afterClass? mode fuel depth after
          | none => do
              afterClass? mode fuel (depth + 1) (← classStart? mode rest)
      | ']' :: rest =>
          match depth with
          | 0 => some rest
          | outer + 1 => afterClass? mode fuel outer rest
      | '&' :: '&' :: rest => afterClass? mode fuel depth rest
      | '-' :: '-' :: rest => afterClass? mode fuel depth rest
      | '~' :: '~' :: rest => afterClass? mode fuel depth rest
      | ahead => do
          afterClass? mode fuel depth (← classRange? mode ahead)

/-! ## Groups -/

/-- What an opening parenthesis begins: a change of the mode up to the end of the group around
it, or a group, which may have a name. -/
inductive Opened where
  | change (mode : Mode)
  | group (mode : Mode) (name : Option (List Char))
  deriving DecidableEq, Repr

/-- The letters of flags. -/
def flagLetters : List Char :=
  ['i', 'm', 's', 'U', 'u', 'x', 'R']

/-- The mode under a flag. -/
def Mode.withFlag (mode : Mode) (flag : Char) (on : Bool) : Mode :=
  if flag = 'u' then { mode with matchesCharacters := on }
  else if flag = 'x' then { mode with skipsBlanks := on }
  else mode

/-- Read flags up to the mark behind them. `seen` are the letters and the dash read so far, the
last one first: none may come twice, and a letter has to follow the dash. -/
def flags?
    (mode : Mode)
    (seen : List Char) :
    List Char → Option (Opened × List Char)
  | [] => none
  | ':' :: rest => if seen.head? = some '-' then none else some (.group mode none, rest)
  | ')' :: rest =>
      if seen.isEmpty || seen.head? = some '-' then none else some (.change mode, rest)
  | char :: rest =>
      if seen.contains char || !(char = '-' || flagLetters.contains char) then none
      else flags? (mode.withFlag char (!seen.contains '-')) (char :: seen) rest

/-- May the character stand in the name of a group? -/
def continuesName (char : Char) : Bool :=
  isAlphanumeric char || ['_', '.', '[', ']'].contains char

/-- May the name of a group begin with the character? -/
def startsName (char : Char) : Bool :=
  char == '_' || (isAlphanumeric char && !isAsciiDigit char)

/-- Read the name of a group and the bracket behind it. -/
def groupName? (text : List Char) : Option (List Char × List Char) :=
  let name := text.takeWhile continuesName
  match name, text.dropWhile continuesName with
  | first :: _, '>' :: rest => if startsName first then some (name, rest) else none
  | _, _ => none

/-- Read what an opening parenthesis begins, behind it. -/
def opened? (mode : Mode) (text : List Char) : Option (Opened × List Char) :=
  match mode.skip text with
  | '?' :: 'P' :: '<' :: rest =>
      (groupName? rest).map fun read => (.group mode (some read.1), read.2)
  | '?' :: '<' :: rest =>
      (groupName? rest).map fun read => (.group mode (some read.1), read.2)
  | '?' :: rest => flags? mode [] rest
  | ahead => some (.group mode none, ahead)

/-! ## Patterns -/

/-- Is the rest of a pattern well formed? `outer` are the modes of the groups around it, `names`
those of all groups so far, and `repeatable` tells if a mark of repetition may follow. -/
def isWellFormedFrom :
    Nat → Mode → List Mode → List (List Char) → Bool → List Char → Bool
  | 0, _, _, _, _, _ => false
  | fuel + 1, mode, outer, names, repeatable, text =>
      let goOn := isWellFormedFrom fuel mode outer names
      match mode.skip text with
      | [] => outer.isEmpty
      | '(' :: rest =>
          match opened? mode rest with
          | none => false
          | some (.change changed, after) =>
              isWellFormedFrom fuel changed outer names false after
          | some (.group inner none, after) =>
              isWellFormedFrom fuel inner (mode :: outer) names false after
          | some (.group inner (some name), after) =>
              !names.contains name
                && isWellFormedFrom fuel inner (mode :: outer) (name :: names) false after
      | ')' :: rest =>
          match outer with
          | [] => false
          | before :: others => isWellFormedFrom fuel before others names true rest
      | '|' :: rest => goOn false rest
      | '[' :: rest =>
          match (classStart? mode rest).bind (afterClass? mode fuel 0) with
          | some after => goOn true after
          | none => false
      | '\\' :: rest =>
          match escape? mode rest with
          | some (_, after) => goOn true after
          | none => false
      | char :: rest =>
          if char = '?' || char = '*' || char = '+' then
            repeatable
              && goOn true
                (match rest with
                  | '?' :: after => after
                  | _ => rest)
          else if char.toNat = 0x7B then false
          else if char = '.' && !mode.matchesCharacters then false
          else goOn true rest

/-- Is a text a pattern? Every step takes a character at least, so the length of the text bounds
the steps. -/
def isWellFormed (text : List Char) : Bool :=
  isWellFormedFrom (text.length + 2) {} [] [] false text

end Scaffold.Text.Pattern
