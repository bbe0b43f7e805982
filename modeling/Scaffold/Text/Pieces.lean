/-!
Contract: cutting text at characters and replacing literal pieces of it.

Owns:
- the pieces between the characters of a class;
- replacement of every occurrence of a literal piece, left to right and without overlap;
- removal of a repeated ending.

Does not own: what counts as blank, or any meaning of the pieces.
-/

namespace Scaffold.Text

/-- The pieces of a text between the characters of the class `cut`, empty pieces included.
There is always at least one piece, and one more than there are cutting characters. -/
def splitAtAll
    (cut : Char → Bool) :
    List Char → List (List Char)
  | [] => [[]]
  | char :: rest =>
      if cut char then
        [] :: splitAtAll cut rest
      else
        match splitAtAll cut rest with
        | [] => [[char]]
        | piece :: pieces => (char :: piece) :: pieces

/-- The pieces that hold at least one character, as texts. -/
def nonemptyPieces
    (cut : Char → Bool)
    (text : String) :
    List String :=
  ((splitAtAll cut text.toList).filter (fun piece => !piece.isEmpty)).map String.ofList

/-- What is left of `text` after the literal `lead`, if `text` begins with it. -/
def afterLiteral : List Char → List Char → Option (List Char)
  | [], text => some text
  | _ :: _, [] => none
  | wanted :: lead, char :: text =>
      if wanted = char then afterLiteral lead text else none

/-- Replace every occurrence of `source`, scanning from the left; a character inside a
replaced occurrence takes no part in another one. `skip` counts the characters of the
current occurrence that are still to be passed over. An empty `source` replaces nothing. -/
def replaceFrom
    (source target : List Char)
    (skip : Nat) :
    List Char → List Char
  | [] => []
  | char :: rest =>
      match skip with
      | remaining + 1 => replaceFrom source target remaining rest
      | 0 =>
          match source with
          | [] => char :: replaceFrom source target 0 rest
          | _ :: tail =>
              if (afterLiteral source (char :: rest)).isSome then
                target ++ replaceFrom source target tail.length rest
              else
                char :: replaceFrom source target 0 rest

/-- `text` with every occurrence of `source` replaced by `target`. -/
def replaceAll
    (source target text : String) :
    String :=
  String.ofList (replaceFrom source.toList target.toList 0 text.toList)

/-- Remove a literal from the front of a text as often as it stands there; `fuel` bounds the
number of removals. -/
def dropLeads
    (lead : List Char) :
    Nat → List Char → List Char
  | 0, text => text
  | fuel + 1, text =>
      match lead with
      | [] => text
      | _ :: _ =>
          match afterLiteral lead text with
          | some shorter => dropLeads lead fuel shorter
          | none => text

/-- `text` without any of the copies of `ending` that it ends in. -/
def trimEnding
    (ending text : String) :
    String :=
  String.ofList
    (dropLeads ending.toList.reverse text.length text.toList.reverse).reverse

/-- The part of a text in front of the first occurrence of a literal; all of it where the
literal does not occur. -/
def beforeLiteral
    (literal : List Char) :
    List Char → List Char
  | [] => []
  | char :: rest =>
      if (afterLiteral literal (char :: rest)).isSome then []
      else char :: beforeLiteral literal rest

/-- The part of a text behind the last occurrence of `separator`, read from the right; all
of it where the separator does not occur. -/
def lastPiece
    (separator text : String) :
    String :=
  String.ofList
    (beforeLiteral separator.toList.reverse text.toList.reverse).reverse

/-- The lines of a text: a line ends at a line feed, which with a carriage return right
before it belongs to no line, and nothing after the last line feed is no line. -/
def lines
    (text : String) :
    List String :=
  let pieces := splitAtAll (· == '\n') text.toList
  let kept :=
    match pieces.reverse with
    | [] :: before => before.reverse
    | _ => pieces
  kept.map fun line =>
    String.ofList
      (match line.reverse with
        | '\r' :: before => before.reverse
        | _ => line)

end Scaffold.Text
