import Scaffold.Source.Token

/-!
Contract: reading a row of tokens from the front.

Owns:
- tests on the tokens ahead, over one, two or three token trees;
- readers of words, marks, literals, lifetimes and groups;
- the loops over separated elements.

A reader answers with its value and the tokens that follow, or with nothing. It never says
why it failed: only whether the text is well formed is of interest. A group's content ends at
the closing token, which no test and no reader of single tokens takes for anything else.
-/

namespace Scaffold.Source

/-- A reader of tokens. -/
abbrev Parser := StateT (List Token) Option

namespace Parser

/-- A test on the tokens ahead. -/
abbrev Test := List Token → Bool

/-! ## Tests -/

/-- Does the content end here? -/
def atEnd : Test
  | [] => true
  | .closing _ :: _ => true
  | _ => false

/-- Is this word ahead? -/
def atWord (text : String) : Test
  | .word ahead :: _ => ahead == text
  | _ => false

/-- Is any word ahead, keyword or not? -/
def atAnyWord : Test
  | .word _ :: _ => true
  | _ => false

/-- Words that are no identifiers. -/
def keywords : List String :=
  ["_", "abstract", "as", "async", "await", "become", "box", "break", "const", "continue",
    "crate", "do", "dyn", "else", "enum", "extern", "false", "final", "fn", "for", "if",
    "impl", "in", "let", "loop", "macro", "match", "mod", "move", "mut", "override", "priv",
    "pub", "ref", "return", "Self", "self", "static", "struct", "super", "trait", "true",
    "try", "type", "typeof", "unsafe", "unsized", "use", "virtual", "where", "while",
    "yield"]

/-- Is an identifier ahead? -/
def atIdentifier : Test
  | .word ahead :: _ => !keywords.contains ahead
  | _ => false

/-- Are the marks of an operator ahead? All but the last have to be joined to the next; what
stands behind the last does not matter. -/
def atMarkChars : List Char → Test
  | [], _ => true
  | [last], .mark ahead _ :: _ => ahead == last
  | char :: rest, .mark ahead spacing :: tokens =>
      ahead == char && spacing == .joint && atMarkChars rest tokens
  | _, _ => false

/-- Is this operator ahead? -/
def atMarks (operator : String) : Test :=
  atMarkChars operator.toList

/-- Is one of these operators ahead? -/
def atAnyMarks (operators : List String) : Test :=
  fun tokens => operators.any fun operator => atMarks operator tokens

/-- Is a group in these delimiters ahead? -/
def atOpening (delimiter : Delimiter) : Test
  | .opening ahead :: _ => ahead == delimiter
  | _ => false

/-- Is a group in parentheses ahead? -/
def atParenthesis : Test := atOpening .parenthesis

/-- Is a group in brackets ahead? -/
def atBracket : Test := atOpening .bracket

/-- Is a group in braces ahead? -/
def atBrace : Test := atOpening .brace

/-- Is a lifetime ahead? -/
def atLifetime : Test
  | .mark '\'' .joint :: .word _ :: _ => true
  | _ => false

/-- Is the literal a number? -/
def isNumber (text : String) : Bool :=
  match text.toList with
  | first :: _ => 0x30 ≤ first.toNat && first.toNat ≤ 0x39
  | [] => false

/-- Is the literal a string, cooked or raw? -/
def isString (text : String) : Bool :=
  match text.toList with
  | '"' :: _ => true
  | 'r' :: _ => true
  | _ => false

/-- Is a literal ahead: a literal token, a truth value, or a number with a minus sign? -/
def atLiteral : Test
  | .literal _ :: _ => true
  | .word ahead :: _ => ahead == "true" || ahead == "false"
  | .mark '-' _ :: .literal text :: _ => isNumber text
  | _ => false

/-- Is a string literal ahead? -/
def atString : Test
  | .literal text :: _ => isString text
  | _ => false

/-- A test on what stands behind the first token tree. -/
def second (test : Test) : Test :=
  fun tokens => test (Token.afterTree tokens)

/-- A test on what stands behind the first two token trees. -/
def third (test : Test) : Test :=
  fun tokens => test (Token.afterTree (Token.afterTree tokens))

/-- Does a test hold of the tokens ahead? -/
def peek (test : Test) : Parser Bool := do
  return test (← get)

/-! ## Readers of single tokens -/

/-- The reader that always fails. -/
def refuse {α : Type} : Parser α :=
  fun _ => none

/-- Fail unless the condition holds. -/
def require (condition : Bool) : Parser Unit :=
  if condition then pure () else refuse

/-- Read a given word. -/
def word (text : String) : Parser Unit := fun tokens =>
  match tokens with
  | .word ahead :: rest => if ahead = text then some ((), rest) else none
  | _ => none

/-- Read any word. -/
def anyWord : Parser String := fun tokens =>
  match tokens with
  | .word ahead :: rest => some (ahead, rest)
  | _ => none

/-- Read an identifier. -/
def identifier : Parser String := do
  require (← peek atIdentifier)
  anyWord

/-- Read the marks of an operator. -/
def marks (operator : String) : Parser Unit := fun tokens =>
  if atMarks operator tokens then some ((), tokens.drop operator.length) else none

/-- Read a word if it is ahead, and tell whether it was. -/
def optionalWord (text : String) : Parser Bool := do
  if ← peek (atWord text) then
    word text
    return true
  else
    return false

/-- Read an operator if it is ahead, and tell whether it was. -/
def optionalMarks (operator : String) : Parser Bool := do
  if ← peek (atMarks operator) then
    marks operator
    return true
  else
    return false

/-- Read a lifetime; its name comes without the quote. -/
def lifetime : Parser String := fun tokens =>
  match tokens with
  | .mark '\'' .joint :: .word name :: rest => some (name, rest)
  | _ => none

/-- Read a lifetime if one is ahead. -/
def optionalLifetime : Parser (Option String) := do
  if ← peek atLifetime then
    return some (← lifetime)
  else
    return none

/-- Read a literal; a minus sign belongs to its text. -/
def literal : Parser String := fun tokens =>
  match tokens with
  | .literal text :: rest => some (text, rest)
  | .word ahead :: rest => if ahead = "true" || ahead = "false" then some (ahead, rest) else none
  | .mark '-' _ :: .literal text :: rest =>
      if isNumber text then some ("-" ++ text, rest) else none
  | _ => none

/-- Read a part if the test holds ahead. -/
def optionally
    {α : Type}
    (test : Test)
    (part : Parser α) :
    Parser (Option α) := do
  if ← peek test then
    return some (← part)
  else
    return none

/-- Read a part if that succeeds; where it fails nothing is read. -/
def attempt
    {α : Type}
    (part : Parser α) :
    Parser (Option α) := fun tokens =>
  match part tokens with
  | some (value, rest) => some (some value, rest)
  | none => some (none, tokens)

/-- Does a part succeed on the tokens ahead? Nothing is read. -/
def succeeds
    {α : Type}
    (part : Parser α) :
    Parser Bool := fun tokens =>
  some ((part tokens).isSome, tokens)

/-- The tokens read since the row ahead was `start`. -/
def readSince (start : List Token) : Parser (List Token) := do
  return start.take (start.length - (← get).length)

/-! ## Groups -/

/-- Read the whole content of a group in the given delimiters. -/
def inside
    {α : Type}
    (delimiter : Delimiter)
    (content : Parser α) :
    Parser α := fun tokens =>
  match tokens with
  | .opening ahead :: rest =>
      if ahead = delimiter then
        match content rest with
        | some (value, .closing _ :: after) => some (value, after)
        | _ => none
      else none
  | _ => none

/-- Read a group in any delimiters, its content as it stands. -/
def anyGroup : Parser (Delimiter × List Token) := fun tokens =>
  match tokens with
  | .opening delimiter :: rest =>
      (Token.splitGroup 0 rest).map fun parts => ((delimiter, parts.1), parts.2)
  | _ => none

/-! ## Loops

Each loop is bounded by the number of tokens ahead: every element that is read, and every
separator, takes at least one of them, or the loop ends in failure. -/

/-- Read elements as long as the test holds, at most `fuel` of them. -/
def whileFrom
    {α : Type}
    (test : Test)
    (element : Parser α) :
    Nat → Parser (List α)
  | 0 => refuse
  | fuel + 1 => do
      if ← peek test then
        let value ← element
        return value :: (← whileFrom test element fuel)
      else
        return []

/-- Read elements as long as the test holds. -/
def repeatWhile
    {α : Type}
    (test : Test)
    (element : Parser α) :
    Parser (List α) := do
  whileFrom test element ((← get).length + 1)

/-- Read elements up to the end of the content. -/
def repeatToEnd
    {α : Type}
    (element : Parser α) :
    Parser (List α) :=
  repeatWhile (fun tokens => !atEnd tokens) element

/-- The elements of a separated list, and whether a separator follows the last one. -/
structure Separated (α : Type) where
  elements : List α
  trailing : Bool
  deriving Repr

/-- Put an element that a separator follows in front of a list. -/
def Separated.cons
    {α : Type}
    (head : α)
    (tail : Separated α) :
    Separated α where
  elements := head :: tail.elements
  trailing := tail.elements.isEmpty || tail.trailing

/-- Read separated elements. The list ends where `stop` holds in front of an element, or where
`enough` holds behind one; there must be a separator everywhere else. -/
def separatedFrom
    {α : Type}
    (stop : Test)
    (enough : Test)
    (separator : String)
    (element : Parser α) :
    Nat → Parser (Separated α)
  | 0 => refuse
  | fuel + 1 => do
      if ← peek stop then
        return ⟨[], false⟩
      else
        let value ← element
        if ← peek enough then
          return ⟨[value], false⟩
        else
          marks separator
          return .cons value (← separatedFrom stop enough separator element fuel)

/-- Read separated elements up to where `stop` holds. -/
def separatedTo
    {α : Type}
    (stop : Test)
    (separator : String)
    (element : Parser α) :
    Parser (Separated α) := do
  separatedFrom stop stop separator element ((← get).length + 1)

/-- Read separated elements up to where `stop` holds or no separator follows. -/
def separatedWhile
    {α : Type}
    (stop : Test)
    (separator : String)
    (element : Parser α) :
    Parser (Separated α) := do
  separatedFrom stop (fun tokens => !atMarks separator tokens) separator element
    ((← get).length + 1)

/-- Read elements separated by commas up to the end of the content. -/
def commaList
    {α : Type}
    (element : Parser α) :
    Parser (Separated α) :=
  separatedTo atEnd "," element

/-- The elements of a list read before, with one more in front, and a comma between. -/
def commaListBehind
    {α : Type}
    (first : α)
    (element : Parser α) :
    Parser (Separated α) := do
  if ← peek atEnd then
    return ⟨[first], false⟩
  else
    marks ","
    return .cons first (← commaList element)

end Parser

end Scaffold.Source
