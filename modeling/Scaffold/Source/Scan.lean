import Scaffold.Source.Literal
import Scaffold.Source.Token
import Scaffold.Text.Blank
import Scaffold.Text.Quoted

/-!
Contract: source text cut into tokens.

Owns:
- the blanks and comments between tokens;
- documentation comments, which become attributes;
- words, marks and literals, a broken literal among them, and the balance of delimiters.

Text that is no row of tokens with balanced delimiters has no tokens at all.
-/

namespace Scaffold.Source.Scan

open Scaffold.Text

/-- A blank between tokens: white space and the two direction marks. -/
def isGap (char : Char) : Bool :=
  isBlank char || char.toNat == 0x200E || char.toNat == 0x200F

/-- A line up to its end, and the text from the line feed on; a carriage return in front of
the line feed belongs to neither. -/
def splitLine : List Char → List Char × List Char
  | [] => ([], [])
  | '\n' :: rest => ([], '\n' :: rest)
  | '\r' :: '\n' :: rest => ([], '\n' :: rest)
  | char :: rest =>
      let (line, after) := splitLine rest
      (char :: line, after)

/-- What follows a block comment; block comments nest. -/
def afterBlock
    (depth : Nat) :
    List Char → Option (List Char)
  | [] => none
  | '/' :: '*' :: rest => afterBlock (depth + 1) rest
  | '*' :: '/' :: rest => if depth ≤ 1 then some rest else afterBlock (depth - 1) rest
  | _ :: rest => afterBlock depth rest

/-- Is there a comment here that documents nothing? Four slashes and three stars make a plain
comment again. -/
def startsPlainLine : List Char → Bool
  | '/' :: '/' :: '/' :: '/' :: _ => true
  | '/' :: '/' :: '/' :: _ => false
  | '/' :: '/' :: '!' :: _ => false
  | '/' :: '/' :: _ => true
  | _ => false

/-- Is there a block comment here that documents nothing? -/
def startsPlainBlock : List Char → Bool
  | '/' :: '*' :: '*' :: '*' :: _ => true
  | '/' :: '*' :: '*' :: '/' :: _ => true
  | '/' :: '*' :: '*' :: _ => false
  | '/' :: '*' :: '!' :: _ => false
  | '/' :: '*' :: _ => true
  | _ => false

/-- The text behind blanks and plain comments. A block comment that is never closed stays. -/
def skipGaps : Nat → List Char → List Char
  | 0, text => text
  | _ + 1, [] => []
  | fuel + 1, char :: rest =>
      if startsPlainLine (char :: rest) then
        skipGaps fuel (splitLine (char :: rest)).2
      else if startsPlainBlock (char :: rest) then
        match char :: rest with
        | '/' :: '*' :: '*' :: '/' :: after => skipGaps fuel after
        | text =>
            match afterBlock 0 text with
            | some after => skipGaps fuel after
            | none => text
      else if isGap char then
        skipGaps fuel rest
      else
        char :: rest

/-- A documentation comment. -/
structure DocComment where
  inner : Bool
  contents : List Char
  after : List Char
  deriving DecidableEq, Repr

/-- A block documentation comment behind its opening of three characters. -/
def docBlock
    (inner : Bool)
    (text : List Char) :
    Option DocComment := do
  let after ← afterBlock 0 text
  let length := text.length - after.length
  return ⟨inner, (text.take (length - 2)).drop 3, after⟩

/-- The documentation comment at the front of a text. -/
def docComment? (text : List Char) : Option DocComment :=
  match text with
  | '/' :: '/' :: '!' :: rest =>
      let (line, after) := splitLine rest
      some ⟨true, line, after⟩
  | '/' :: '*' :: '!' :: _ => docBlock true text
  | '/' :: '/' :: '/' :: '/' :: _ => none
  | '/' :: '/' :: '/' :: rest =>
      let (line, after) := splitLine rest
      some ⟨false, line, after⟩
  | '/' :: '*' :: '*' :: '*' :: _ => none
  | '/' :: '*' :: '*' :: _ => docBlock false text
  | _ => none

/-- Does every carriage return have a line feed behind it? -/
def hasNoBareReturn : List Char → Bool
  | [] => true
  | '\r' :: '\n' :: rest => hasNoBareReturn rest
  | '\r' :: _ => false
  | _ :: rest => hasNoBareReturn rest

/-- The attribute that a documentation comment stands for. -/
def docTokens (doc : DocComment) : List Token :=
  .mark '#' .alone :: (if doc.inner then [.mark '!' .alone] else [])
    ++ Token.group .bracket
      [.word "doc", .mark '=' .alone, .literal (quoted doc.contents)]

/-- A mark at the front of a text. The slash of a comment is none. -/
def markChar? : List Char → Option (Char × List Char)
  | '/' :: '/' :: _ => none
  | '/' :: '*' :: _ => none
  | char :: rest =>
      if ("~!@#$%^&*-=+|;:,<.>/?'".toList).contains char then some (char, rest) else none
  | [] => none

/-- Words that no raw mark can be put in front of. -/
def unrawableWords : List String :=
  ["_", "super", "self", "Self", "crate"]

/-- A word without a raw mark, and what follows it. -/
def plainWord? : List Char → Option (String × List Char)
  | [] => none
  | char :: rest =>
      if Literal.startsWord char then
        some (String.ofList (char :: rest.takeWhile continuesIdentifier),
          rest.dropWhile continuesIdentifier)
      else none

/-- A word with its raw mark, if it has one, and what follows it. -/
def anyWord? : List Char → Option (String × List Char)
  | 'r' :: '#' :: rest =>
      match plainWord? rest with
      | none => none
      | some (name, after) =>
          if unrawableWords.contains name then none else some ("r#" ++ name, after)
  | text => plainWord? text

/-- The openings of literals, which are no words even where the literal is broken. -/
def literalOpenings : List (List Char) :=
  ["r\"", "r#\"", "r##", "b\"", "b'", "br\"", "br#", "c\"", "cr\"", "cr#"].map String.toList

/-- A word that no literal opens with. -/
def word? (text : List Char) : Option (String × List Char) :=
  if literalOpenings.any fun opening => opening.isPrefixOf text then none
  else anyWord? text

/-- A mark with its spacing. A quote is the mark of a lifetime, and has to stand in front of a
word with no quote or hash mark behind it. -/
def mark? (text : List Char) : Option (Token × List Char) := do
  let (char, rest) ← markChar? text
  if char = '\'' then
    let (_, after) ← anyWord? rest
    match after with
    | '\'' :: _ => none
    | '#' :: _ =>
        match rest with
        | 'r' :: '#' :: _ => some (.mark '\'' .joint, rest)
        | _ => none
    | _ => some (.mark '\'' .joint, rest)
  else
    some (.mark char (if (markChar? rest).isSome then .joint else .alone), rest)

/-- The spelling of a literal that has none. It is one token, although it looks like a group. -/
def brokenLiteral : String := "(/*ERROR*/)"

/-- What follows a broken literal. -/
def afterBroken? (text : List Char) : Option (List Char) :=
  if brokenLiteral.toList.isPrefixOf text then some (text.drop brokenLiteral.length) else none

/-- The token at the front of a text that is no delimiter. -/
def leaf? (text : List Char) : Option (Token × List Char) :=
  match Literal.after text with
  | some after =>
      some (.literal (String.ofList (text.take (text.length - after.length))), after)
  | none =>
      match mark? text with
      | some found => some found
      | none =>
          match word? text with
          | some found => some (.word found.1, found.2)
          | none => (afterBroken? text).map fun after => (.literal brokenLiteral, after)

/-- The delimiter that a text opens with. -/
def opened? : List Char → Option Delimiter
  | '(' :: rest => if (afterBroken? ('(' :: rest)).isSome then none else some .parenthesis
  | '[' :: _ => some .bracket
  | '\x7b' :: _ => some .brace
  | _ => none

/-- The delimiter that a character closes. -/
def closedBy? (char : Char) : Option Delimiter :=
  if char = ')' then some .parenthesis
  else if char = ']' then some .bracket
  else if char.toNat = 0x7D then some .brace
  else none

/-- The tokens of a text inside the delimiters `pending`, the innermost first. Every step takes
at least one character, so the length of the text bounds the steps, and what is left of that
bound also covers the gap in front of the next token. -/
def tokensFrom : Nat → List Delimiter → List Char → Option (List Token)
  | 0, _, _ => none
  | fuel + 1, pending, text =>
      match skipGaps fuel text with
      | [] => if pending.isEmpty then some [] else none
      | char :: rest =>
          match docComment? (char :: rest) with
          | some doc =>
              if hasNoBareReturn doc.contents then
                (tokensFrom fuel pending doc.after).map (docTokens doc ++ ·)
              else none
          | none =>
              match opened? (char :: rest) with
              | some delimiter =>
                  (tokensFrom fuel (delimiter :: pending) rest).map (.opening delimiter :: ·)
              | none =>
                  match closedBy? char with
                  | some delimiter =>
                      match pending with
                      | innermost :: outer =>
                          if innermost = delimiter then
                            (tokensFrom fuel outer rest).map (.closing delimiter :: ·)
                          else none
                      | [] => none
                  | none =>
                      match leaf? (char :: rest) with
                      | some (token, after) =>
                          (tokensFrom fuel pending after).map (token :: ·)
                      | none => none

/-- The text without a byte order mark in front. -/
def withoutByteOrderMark : List Char → List Char
  | [] => []
  | char :: rest => if char.toNat = 0xFEFF then rest else char :: rest

/-- The tokens of a source text. -/
def tokens? (text : List Char) : Option (List Token) :=
  let body := withoutByteOrderMark text
  tokensFrom (body.length + 1) [] body

end Scaffold.Source.Scan
