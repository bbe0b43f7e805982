/-!
Contract: the tokens of source text and the text that a row of tokens is printed as.

Owns:
- the five sorts of tokens;
- balanced groups in a flat row of tokens;
- the printing of a row of tokens on one line.

A row of tokens is flat: a group is what stands between an opening token and the closing
token that balances it. Two tokens are printed with one blank between them, except behind a
mark that is joined to what follows, and just inside of parentheses and brackets.
-/

namespace Scaffold.Source

/-- Whether a mark runs into the mark behind it, as the parts of an operator do. -/
inductive Spacing where
  | alone
  | joint
  deriving DecidableEq, Repr

/-- The three pairs of delimiters. -/
inductive Delimiter where
  | parenthesis
  | bracket
  | brace
  deriving DecidableEq, Repr

/-- The opening character of a pair. -/
def Delimiter.openingText : Delimiter → String
  | .parenthesis => "("
  | .bracket => "["
  | .brace => "\x7b"

/-- The closing character of a pair. -/
def Delimiter.closingText : Delimiter → String
  | .parenthesis => ")"
  | .bracket => "]"
  | .brace => "\x7d"

/-- A token. Words are identifiers and keywords, in their own spelling; a lifetime is the mark
of its quote, joined, and the word behind it; literals keep their spelling. -/
inductive Token where
  | word (text : String)
  | mark (char : Char) (spacing : Spacing)
  | literal (text : String)
  | opening (delimiter : Delimiter)
  | closing (delimiter : Delimiter)
  deriving DecidableEq, Repr

namespace Token

/-- The marks that spell an operator: all but the last are joined to the next. -/
def marksOf : List Char → List Token
  | [] => []
  | [last] => [.mark last .alone]
  | char :: rest => .mark char .joint :: marksOf rest

/-- The marks that spell an operator. -/
def marks (operator : String) : List Token :=
  marksOf operator.toList

/-- The two tokens of a lifetime with the given name. -/
def lifetime (name : String) : List Token :=
  [.mark '\'' .joint, .word name]

/-- A row of tokens put between delimiters. -/
def group
    (delimiter : Delimiter)
    (inner : List Token) :
    List Token :=
  .opening delimiter :: inner ++ [.closing delimiter]

/-- The row up to the end of the group that is open at `depth` levels, and what follows the
closing token; nothing if the group is never closed. -/
def splitGroup
    (depth : Nat) :
    List Token → Option (List Token × List Token)
  | [] => none
  | token :: rest =>
      match token, depth with
      | .closing _, 0 => some ([], rest)
      | .closing _, outer + 1 =>
          (splitGroup outer rest).map fun parts => (token :: parts.1, parts.2)
      | .opening _, _ =>
          (splitGroup (depth + 1) rest).map fun parts => (token :: parts.1, parts.2)
      | _, _ => (splitGroup depth rest).map fun parts => (token :: parts.1, parts.2)

/-- The row behind its first tree: a group counts as one, and so does a lifetime. -/
def afterTree : List Token → List Token
  | .opening _ :: rest =>
      match splitGroup 0 rest with
      | some parts => parts.2
      | none => []
  | .mark '\'' .joint :: .word _ :: rest => rest
  | .closing delimiter :: rest => .closing delimiter :: rest
  | _ :: rest => rest
  | [] => []

/-! ## Printing -/

/-- What stands in front of the token to be printed next. -/
inductive Before where
  | start
  | joinedMark
  | opened (delimiter : Delimiter)
  | token
  deriving DecidableEq, Repr

/-- The blank in front of a token that is no closing one. -/
def Before.gap : Before → String
  | .token => " "
  | _ => ""

/-- The blank in front of a closing token: only a group in braces that holds something is
spaced on the inside. -/
def Before.closingGap : Before → Delimiter → String
  | .opened _, _ => ""
  | _, .brace => " "
  | _, _ => ""

/-- The text of a row of tokens behind `before`. -/
def textFrom
    (before : Before) :
    List Token → String
  | [] => ""
  | .word text :: rest => before.gap ++ text ++ textFrom .token rest
  | .literal text :: rest => before.gap ++ text ++ textFrom .token rest
  | .mark char spacing :: rest =>
      before.gap ++ char.toString
        ++ textFrom (if spacing = .joint then .joinedMark else .token) rest
  | .opening delimiter :: rest =>
      before.gap ++ delimiter.openingText ++ (if delimiter = .brace then " " else "")
        ++ textFrom (.opened delimiter) rest
  | .closing delimiter :: rest =>
      before.closingGap delimiter ++ delimiter.closingText ++ textFrom .token rest

/-- The text of a row of tokens, on one line. -/
def textOf (tokens : List Token) : String :=
  textFrom .start tokens

end Token

end Scaffold.Source
