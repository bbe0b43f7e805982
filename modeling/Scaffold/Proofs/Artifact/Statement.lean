import Scaffold.Proofs.Artifact.Lexeme
import Scaffold.Proofs.Source.Imports

/-!
Contract: what the lexemes of a line declare.

Owns:
- the imports that lexemes spell, and the exact tokens of such lexemes;
- the public name that lexemes declare;
- the delimiters behind lexemes that import nothing from a generated module.

Does not own: which parts of a line are what they are said to be.
-/

namespace Scaffold.Artifact

open Source Source.Scan

/-! ### Words of a line -/

/-- The word of a run of glyphs. -/
def wordOf (run : List Glyph) : String :=
  String.ofList (Glyph.charactersOf run)

namespace Lexeme

/-- Is a run a word of a declaration that names what it declares right behind itself? -/
def isDeclaring : List Glyph → Bool
  | [.known 'f', .known 'n'] => true
  | [.known 's', .known 't', .known 'r', .known 'u', .known 'c', .known 't'] => true
  | _ => false

/-- Is a run the word that makes a declaration public? -/
def isPublic : List Glyph → Bool
  | [.known 'p', .known 'u', .known 'b'] => true
  | _ => false

/-- Is a run the word that renames an import? -/
def isAs : List Glyph → Bool
  | [.known 'a', .known 's'] => true
  | _ => false

/-- Is a run the word that leaves an import without a name? -/
def isUnderscore : List Glyph → Bool
  | [.known '_'] => true
  | _ => false

theorem wordOf_of_isUse {run : List Glyph} (found : isUse run = true) : wordOf run = "use" := by
  unfold isUse at found
  split at found
  · rfl
  · contradiction

theorem wordOf_of_isPublic {run : List Glyph} (found : isPublic run = true) : wordOf run = "pub" := by
  unfold isPublic at found
  split at found
  · rfl
  · contradiction

theorem wordOf_of_isAs {run : List Glyph} (found : isAs run = true) : wordOf run = "as" := by
  unfold isAs at found
  split at found
  · rfl
  · contradiction

theorem wordOf_of_isUnderscore {run : List Glyph} (found : isUnderscore run = true) :
    wordOf run = "_" := by
  unfold isUnderscore at found
  split at found
  · rfl
  · contradiction

theorem contains_declaringWords {run : List Glyph} (found : isDeclaring run = true) :
    declaringWords.contains (wordOf run) = true := by
  unfold isDeclaring at found
  split at found
  · decide
  · decide
  · contradiction

/-! ### Rows that are known -/

variable {lexemes : List Lexeme} {row : List Token}

theorem DescribesAll.nil_inv (describes : DescribesAll [] row) : row = [] := by
  cases describes
  rfl

theorem DescribesAll.word_inv
    {run : List Glyph}
    (describes : DescribesAll (.word run :: lexemes) row) :
    ∃ behind, row = .word (wordOf run) :: behind ∧ DescribesAll lexemes behind := by
  cases describes with
  | cons first rest =>
      obtain ⟨rfl, -⟩ := first
      exact ⟨_, rfl, rest⟩

theorem DescribesAll.mark_inv
    {char : Char}
    {spacing : Spacing}
    (describes : DescribesAll (.mark char (some spacing) :: lexemes) row) :
    ∃ behind, row = .mark char spacing :: behind ∧ DescribesAll lexemes behind := by
  cases describes with
  | cons first rest =>
      obtain ⟨other, rfl, same⟩ := first
      rw [same spacing rfl]
      exact ⟨_, rfl, rest⟩

theorem DescribesAll.blank_inv (describes : DescribesAll (.blank :: lexemes) row) :
    DescribesAll lexemes row := by
  cases describes with
  | cons first rest =>
      cases first
      exact rest

theorem DescribesAll.opening_inv
    {delimiter : Delimiter}
    (describes : DescribesAll (.opening delimiter :: lexemes) row) :
    ∃ behind, row = .opening delimiter :: behind ∧ DescribesAll lexemes behind := by
  cases describes with
  | cons first rest =>
      cases first
      exact ⟨_, rfl, rest⟩

theorem DescribesAll.closing_inv
    {delimiter : Delimiter}
    (describes : DescribesAll (.closing delimiter :: lexemes) row) :
    ∃ behind, row = .closing delimiter :: behind ∧ DescribesAll lexemes behind := by
  cases describes with
  | cons first rest =>
      cases first
      exact ⟨_, rfl, rest⟩

/-! ### Imports -/

/-- The names of a group of imports, behind what opens it. -/
def group? : List Lexeme → Option (List String)
  | [.word run, .closing .brace, .mark ';' (some .alone)] => some [wordOf run]
  | .word run :: .mark ',' (some .alone) :: .blank :: rest => (group? rest).map (wordOf run :: ·)
  | _ => none

/-- The names that are imported from a module, and the end of the declaration. -/
def names? : List Lexeme → Option ImportedNames
  | [.mark '*' (some .joint), .mark ';' (some .alone)] => some .all
  | [.word run, .mark ';' (some .alone)] => some (.one (wordOf run))
  | [.word run, .blank, .word as, .blank, .word hidden, .mark ';' (some .alone)] =>
      if isAs as && isUnderscore hidden then some (.hidden (wordOf run)) else none
  | .opening .brace :: rest => (group? rest).map .group
  | _ => none

/-- How the colons in front of the rest of a path run into it. -/
def colonSpacing (path : List (List Glyph)) (names : ImportedNames) : Spacing :=
  match path with
  | [] => names.spacing
  | _ :: _ => .alone

/-- The modules of a path, and the names that are imported from the last of them. -/
def tree? : List Lexeme → Option (List (List Glyph) × ImportedNames)
  | .word run :: .mark ':' (some .joint) :: .mark ':' (some spacing) :: rest =>
      match tree? rest with
      | some (path, names) =>
          if spacing = colonSpacing path names then some (run :: path, names) else none
      | none => none
  | lexemes => (names? lexemes).map fun names => ([], names)

theorem tokens_of_group?
    {names : List String}
    (describes : DescribesAll lexemes row)
    (found : group? lexemes = some names) :
    names ≠ [] ∧ row = commaNames names ++ [.closing .brace, .mark ';' .alone] := by
  fun_induction group? lexemes generalizing row names with
  | case1 run =>
      cases found
      obtain ⟨_, rfl, closes⟩ := describes.word_inv
      obtain ⟨_, rfl, ends⟩ := closes.closing_inv
      obtain ⟨_, rfl, nothing⟩ := ends.mark_inv
      cases nothing.nil_inv
      exact ⟨List.cons_ne_nil _ _, rfl⟩
  | case2 run rest inductionHypothesis =>
      obtain ⟨more, foundMore, rfl⟩ := Option.map_eq_some_iff.mp found
      obtain ⟨_, rfl, comma⟩ := describes.word_inv
      obtain ⟨_, rfl, blank⟩ := comma.mark_inv
      obtain ⟨something, rfl⟩ := inductionHypothesis blank.blank_inv foundMore
      refine ⟨List.cons_ne_nil _ _, ?_⟩
      cases more with
      | nil => contradiction
      | cons next more => rfl
  | case3 => contradiction

theorem tokens_of_names?
    {names : ImportedNames}
    (describes : DescribesAll lexemes row)
    (found : names? lexemes = some names) :
    row = names.tokens := by
  unfold names? at found
  split at found
  · cases found
    obtain ⟨_, rfl, ends⟩ := describes.mark_inv
    obtain ⟨_, rfl, nothing⟩ := ends.mark_inv
    cases nothing.nil_inv
    rfl
  · cases found
    obtain ⟨_, rfl, ends⟩ := describes.word_inv
    obtain ⟨_, rfl, nothing⟩ := ends.mark_inv
    cases nothing.nil_inv
    rfl
  · obtain ⟨checked, same⟩ := Option.ite_none_right_eq_some.mp found
    cases same
    rw [Bool.and_eq_true] at checked
    obtain ⟨_, rfl, renamed⟩ := describes.word_inv
    obtain ⟨_, rfl, hidden⟩ := renamed.blank_inv.word_inv
    obtain ⟨_, rfl, ends⟩ := hidden.blank_inv.word_inv
    obtain ⟨_, rfl, nothing⟩ := ends.mark_inv
    cases nothing.nil_inv
    rw [wordOf_of_isAs checked.1, wordOf_of_isUnderscore checked.2]
    rfl
  · obtain ⟨members, foundMembers, rfl⟩ := Option.map_eq_some_iff.mp found
    obtain ⟨_, rfl, inside⟩ := describes.opening_inv
    rw [(tokens_of_group? inside foundMembers).2]
    rfl
  · contradiction

theorem colonSpacing_eq (path : List (List Glyph)) (names : ImportedNames) (run : List Glyph) :
    ImportLine.treeTokens names ((run :: path).map wordOf)
      = .word (wordOf run) :: .mark ':' .joint :: .mark ':' (colonSpacing path names)
        :: ImportLine.treeTokens names (path.map wordOf) := by
  cases path <;> rfl

theorem tokens_of_tree?
    {path : List (List Glyph)}
    {names : ImportedNames}
    (describes : DescribesAll lexemes row)
    (found : tree? lexemes = some (path, names)) :
    row = ImportLine.treeTokens names (path.map wordOf) := by
  fun_induction tree? lexemes generalizing row path names with
  | case1 run rest below names foundMore inductionHypothesis =>
      cases found
      obtain ⟨_, rfl, firstColon⟩ := describes.word_inv
      obtain ⟨_, rfl, secondColon⟩ := firstColon.mark_inv
      obtain ⟨_, rfl, rest⟩ := secondColon.mark_inv
      rw [colonSpacing_eq, inductionHypothesis rest foundMore]
  | case2 | case3 => contradiction
  | case4 lexemes _ =>
      obtain ⟨_, foundNames, same⟩ := Option.map_eq_some_iff.mp found
      cases same
      exact tokens_of_names? describes foundNames

/-! ### Modules that are not generated -/

/-- Is a run known, and no name of a generated module? -/
def isOrdinary (run : List Glyph) : Bool :=
  run.all Glyph.isKnown &&
    match run.reverse with
    | .known 'n' :: .known 'e' :: .known 'g' :: .known '_' :: _ => false
    | _ => true

theorem not_isGeneratedName_of_isOrdinary
    {run : List Glyph}
    (ordinary : isOrdinary run = true) :
    ¬isGeneratedName (wordOf run) := by
  rw [isOrdinary, Bool.and_eq_true] at ordinary
  obtain ⟨known, other⟩ := ordinary
  rintro ⟨front, spelled⟩
  have same : run = (front ++ ['_', 'g', 'e', 'n']).map .known := by
    rw [map_known_of_all known, ← String.toList_ofList (l := Glyph.charactersOf run)]
    exact congrArg (List.map Glyph.known) spelled.symm
  rw [same] at other
  simp at other

/-- The lexemes import from a module, which is not a generated one. -/
def isForeignImport : List Lexeme → Bool
  | .word run :: .blank :: rest =>
      isUse run && rest.all isQuiet &&
        match tree? rest with
        | some (path, _) =>
            match path.getLast? with
            | some last => isOrdinary last
            | none => false
        | none => false
  | _ => false

/-- What such lexemes import. -/
theorem exists_of_isForeignImport
    (describes : DescribesAll lexemes row)
    (foreign : isForeignImport lexemes = true) :
    ∃ line : ImportLine, row = .word "use" :: line.tokens ∧ .word "use" ∉ line.tokens
      ∧ ∃ last ∈ line.path.getLast?, ¬isGeneratedName last := by
  unfold isForeignImport at foreign
  split at foreign
  · next run rest =>
      rw [Bool.and_eq_true, Bool.and_eq_true] at foreign
      obtain ⟨⟨begins, quiet⟩, foreign⟩ := foreign
      split at foreign
      · next path names found =>
          split at foreign
          · next last isLast =>
              obtain ⟨_, rfl, behind⟩ := describes.word_inv
              have known := tokens_of_tree? behind.blank_inv found
              refine ⟨⟨false, path.map wordOf, names⟩, ?_, ?_, wordOf last, ?_,
                not_isGeneratedName_of_isOrdinary foreign⟩
              · rw [wordOf_of_isUse begins, known]
                rfl
              · have noImport := behind.blank_inv.noImport (List.all_eq_true.mp quiet)
                rwa [known] at noImport
              · rw [List.getLast?_map, isLast]
                rfl
          · contradiction
      · contradiction
  · contradiction

/-! ### Public names -/

/-- The name that lexemes declare public, if they do. -/
def publicName? : List Lexeme → Option String
  | .word first :: .blank :: .word second :: .blank :: .word run :: _ =>
      if isPublic first && isDeclaring second then some (wordOf run) else none
  | _ => none

theorem exists_of_publicName?
    {name : String}
    (describes : DescribesAll lexemes row)
    (found : publicName? lexemes = some name) :
    ∃ declaring behind, declaringWords.contains declaring = true
      ∧ row = .word "pub" :: .word declaring :: .word name :: behind := by
  unfold publicName? at found
  split at found
  · obtain ⟨checked, same⟩ := Option.ite_none_right_eq_some.mp found
    cases same
    rw [Bool.and_eq_true] at checked
    obtain ⟨_, rfl, second⟩ := describes.word_inv
    obtain ⟨_, rfl, third⟩ := second.blank_inv.word_inv
    obtain ⟨_, rfl, -⟩ := third.blank_inv.word_inv
    rw [wordOf_of_isPublic checked.1]
    exact ⟨_, _, contains_declaringWords checked.2, rfl⟩
  · contradiction

/-! ### Outlines -/

/-- The delimiters that are open behind lexemes, where `pending` are open in front of them; nothing if
the lexemes may import from a generated module. -/
def outline? (pending : List Delimiter) (lexemes : List Lexeme) : Option (List Delimiter) :=
  if lexemes.all isQuiet then openBehind pending lexemes
  else if isForeignImport lexemes then some pending
  else none

end Lexeme

end Scaffold.Artifact
