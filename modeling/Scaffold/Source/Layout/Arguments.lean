import Scaffold.Source.Layout.Piece
import Scaffold.Source.Token

/-!
Contract: the layout of tokens that no tree is read from.

Owns:
- the spacing of the arguments of macros, and of the rules that define one;
- the spacing of the arguments of attributes.

Whether two tokens of a macro stand apart is decided by the token at hand and by what came
before it. Marks that are joined stay so, names keep what calls them, and a group is spaced as
if it stood alone.
-/

namespace Scaffold.Source.Layout

/-- What came before a token. -/
inductive Before where
  | start
  | dollar
  | fragmentName
  | fragmentColon
  | repetition
  | repetitionMark
  | pound
  | poundBang
  | dot
  | colon
  | pathColons
  | name
  | nameBang
  | group
  | other
  deriving DecidableEq, Repr

/-- The keywords that stand apart even behind a dot. -/
def keywords : List String :=
  ["as", "async", "await", "box", "break", "const", "continue", "crate", "dyn", "else", "enum",
    "extern", "fn", "for", "if", "impl", "in", "let", "loop", "macro", "match", "mod", "move",
    "mut", "pub", "ref", "return", "static", "struct", "trait", "type", "unsafe", "use",
    "where", "while", "yield"]

/-- Does a blank stand in front of a token, and what has come before the next one? With
`matching`, the tokens are what a rule matches. -/
def Before.step
    (matching : Bool)
    (before : Before) :
    Token → Bool × Before
  | .word text =>
      match before with
      | .dollar =>
          (false,
            if matching then .fragmentName else if text = "crate" then .name else .other)
      | .fragmentColon => (false, .other)
      | .repetition => (false, .repetitionMark)
      | _ =>
          if keywords.contains text then (true, .other)
          else (before != .dot && before != .pathColons, .name)
  | .literal text =>
      match before with
      | .repetition => (false, .repetitionMark)
      | _ => (before != .dot, if text.endsWith "." then .other else .name)
  | .opening delimiter =>
      match before, delimiter with
      | .dollar, .parenthesis => (false, .repetition)
      | .pound, .bracket => (false, .other)
      | .poundBang, .bracket => (false, .other)
      | .name, .parenthesis => (false, .group)
      | .name, .bracket => (false, .group)
      | .nameBang, .parenthesis => (false, .other)
      | .nameBang, .bracket => (false, .other)
      | _, .brace => (true, .other)
      | _, _ => (true, .group)
  | .mark char spacing =>
      match before, char, spacing with
      | .fragmentName, ':', .alone => (false, .fragmentColon)
      | .repetition, _, .joint => (false, .repetition)
      | .repetition, _, .alone =>
          (false, if char = '+' || char = '*' || char = '?' then .other else .repetitionMark)
      | .repetitionMark, '+', _ => (false, .other)
      | .repetitionMark, '*', _ => (false, .other)
      | .pound, '!', _ => (false, .poundBang)
      | .name, '!', .alone => (false, .nameBang)
      | .colon, ':', _ => (false, .pathColons)
      | _, ',', _ => (false, .other)
      | _, ';', _ => (false, .other)
      | _, '.', _ =>
          if matching then (true, .other) else (before != .name && before != .group, .dot)
      | _, ':', .joint => (before != .name, .colon)
      | _, '$', _ => (true, .dollar)
      | _, '#', _ => (true, .pound)
      | _, _, _ => (true, .other)
  | .closing _ => (false, .other)

/-- The gap in front of a token. A token that runs into the one before it has none; a dot that
needs no blank may still begin a line. -/
def gapBefore
    (joined needsBlank : Bool)
    (token : Token) :
    List Piece :=
  if joined then []
  else if needsBlank then space
  else
    match token with
    | .mark '.' _ => seam
    | _ => []

/-- Does the next token run into this one? -/
def joinsNext : Token → Bool
  | .mark char spacing => spacing == .joint || char == '$'
  | _ => false

/-- The tokens of a macro. `outer` holds, for each open group, what has come before the token
behind it. -/
def macroTokens
    (matching : Bool)
    (before : Before)
    (joined : Bool)
    (outer : List Before) :
    List Token → List Piece
  | [] => []
  | .closing delimiter :: rest =>
      (if delimiter = .brace && before != .start then space else [])
        ++ word delimiter.closingText
        ++ macroTokens matching (outer.headD .other) false outer.tail rest
  | .opening delimiter :: rest =>
      let token := Token.opening delimiter
      let (needsBlank, after) := before.step matching token
      let isFilled :=
        match rest with
        | .closing _ :: _ => false
        | _ => true
      gapBefore joined needsBlank token ++ word delimiter.openingText
        ++ (if delimiter = .brace && isFilled then space else [])
        ++ macroTokens matching .start true (after :: outer) rest
  | token :: rest =>
      let (needsBlank, after) := before.step matching token
      gapBefore joined needsBlank token ++ word (Token.textOf [token])
        ++ macroTokens matching after (joinsNext token) outer rest

/-- A row of tokens of a macro. -/
def macroRow (matching : Bool) (tokens : List Token) : List Piece :=
  macroTokens matching .start true [] tokens

/-- Tokens between delimiters that are written already: nothing if there are none, else in a
box, with the given gap on both sides. -/
def macroBody
    (matching : Bool)
    (edge : List Piece)
    (tokens : List Token) :
    List Piece :=
  if tokens.isEmpty then []
  else deeper (pulledBack (edge ++ filling 0 (macroRow matching tokens) ++ edge))

/-- The arguments of a macro behind its name. -/
def macroArguments
    (delimiter : Delimiter)
    (tokens : List Token) :
    List Piece :=
  match delimiter with
  | .parenthesis => word "(" ++ macroBody false seam tokens ++ word ")"
  | .bracket => word "[" ++ macroBody false seam tokens ++ word "]"
  | .brace => word " \x7b" ++ macroBody false newline tokens ++ word "\x7d"

/-! ## Rules -/

/-- How far a rule has been read: nothing, what it matches, its arrow, what it expands to. -/
inductive RuleStage where
  | start
  | matched
  | arrow
  | expanded
  deriving DecidableEq, Repr

/-- The rules that define a macro, each ended by a semicolon. The rest of a row that is no list
of rules is laid out as tokens. -/
def ruleRows
    (stage : RuleStage) :
    Nat → List Token → List Piece
  | 0, tokens => macroRow false tokens
  | _ + 1, [] =>
      match stage with
      | .start => []
      | .expanded => word ";" ++ newline
      | _ => newline
  | fuel + 1, token :: rest =>
      match stage, token, rest with
      | .start, .opening delimiter, _ =>
          match Token.splitGroup 0 rest with
          | some (inner, after) =>
              word delimiter.openingText ++ macroBody true seam inner
                ++ word delimiter.closingText ++ ruleRows .matched fuel after
          | none => macroRow false (token :: rest)
      | .matched, .mark '=' .joint, .mark '>' .alone :: after =>
          word " =" ++ word ">" ++ ruleRows .arrow fuel after
      | .arrow, .opening _, _ =>
          match Token.splitGroup 0 rest with
          | some (inner, after) =>
              word " \x7b" ++ joint ++ macroBody false newline inner ++ word "\x7d"
                ++ ruleRows .expanded fuel after
          | none => macroRow false (token :: rest)
      | .expanded, .mark ';' .alone, _ => word ";" ++ newline ++ ruleRows .start fuel rest
      | _, _, _ => macroRow false (token :: rest)

/-- The definition of a macro by its rules. -/
def macroDefinition
    (name : String)
    (tokens : List Token) :
    List Piece :=
  word "macro_rules! " ++ word name ++ word " \x7b"
    ++ deeper (pulledBack (newlineUnlessLast ++ ruleRows .start tokens.length tokens))
    ++ word "\x7d"

/-! ## Attributes -/

/-- What came before a token in the arguments of an attribute. -/
inductive AttributeBefore where
  | word
  | mark
  | lastComma
  deriving DecidableEq, Repr

/-- The tokens of the arguments of an attribute. Groups in parentheses are boxes. -/
def attributeArguments
    (before : AttributeBefore) :
    List Token → List Piece
  | [] => []
  | .word text :: rest =>
      (if before = .word then space else []) ++ Layout.word text
        ++ attributeArguments .word rest
  | .literal text :: rest =>
      (if before = .word then space else []) ++ Layout.word text
        ++ attributeArguments .word rest
  | .mark char _ :: rest =>
      match char, rest with
      | ',', .closing delimiter :: _ =>
          (if delimiter = .parenthesis then pulledBack (comma true) else comma true)
            ++ attributeArguments .lastComma rest
      | _, _ =>
          (if char = '=' && before = .word then blank else []) ++ Layout.word char.toString
            ++ (if char = '=' then blank else if char = ',' then space else [])
            ++ attributeArguments .mark rest
  | .opening .parenthesis :: rest =>
      Layout.word "(" ++ [.opening indentWidth .column] ++ seam ++ attributeArguments .mark rest
  | .opening delimiter :: rest =>
      Layout.word delimiter.openingText ++ attributeArguments .mark rest
  | .closing .parenthesis :: rest =>
      (if before = .lastComma then [] else pulledBack seam) ++ [.closing] ++ Layout.word ")"
        ++ attributeArguments .mark rest
  | .closing delimiter :: rest =>
      Layout.word delimiter.closingText ++ attributeArguments .mark rest

end Scaffold.Source.Layout
