import Scaffold.Proofs.Artifact.Outline

/-!
Contract: declarations that import from below the path of a package.

Owns:
- paths of modules, as text and as tokens;
- the imports of a line that a path of modules stands in.

Does not own: which modules there are.
-/

namespace Scaffold

open Source Source.Scan Artifact

/-- A path of modules. -/
structure ModulePath where
  fromRoot : Bool
  names : List String
  deriving DecidableEq, Repr

namespace ModulePath

/-- The text of a path. -/
def text (path : ModulePath) : String :=
  (if path.fromRoot then "::" else "") ++ joinedBy "::" path.names

/-- Is the path one of words, none of which begins an import? -/
structure IsSound (path : ModulePath) : Prop where
  something : path.names ≠ []
  words : ∀ name ∈ path.names, isWord name = true ∧ name ≠ "use"

/-- The tokens of names with colons between them. -/
def tokensOf : List String → List Token
  | [] => []
  | [name] => [.word name]
  | name :: next :: names => .word name :: .mark ':' .joint :: .mark ':' .alone :: tokensOf (next :: names)

/-- Two colons in front of a path that begins with a word. -/
theorem passes_colons
    {name : String}
    (word : isWord name = true)
    (names : List String)
    (rest : List Char) :
    Passes (':' :: ':' :: ((joinedBy "::" (name :: names)).toList ++ rest))
      [.mark ':' .joint, .mark ':' .alone] ((joinedBy "::" (name :: names)).toList ++ rest) := by
  obtain ⟨more, begins⟩ : ∃ more, (joinedBy "::" (name :: names)).toList = name.toList ++ more := by
    cases names with
    | nil => exact ⟨[], by simp [joinedBy]⟩
    | cons next names =>
        exact ⟨"::".toList ++ (joinedBy "::" (next :: names)).toList,
          by simp [joinedBy, String.toList_intercalate]⟩
  obtain ⟨first, tail, spelled, starts, -⟩ :=
    exists_start_of_isWord (ends_of_stops stops_nil) word
  have plain (text : List Char) : NoComment (':' :: text) := noComment_of_ne (by decide)
  have mark : ':' ∈ markChars := by decide
  have firstColon := Passes.mark mark (by decide)
    (plain (':' :: ((joinedBy "::" (name :: names)).toList ++ rest)))
  have secondColon := Passes.mark mark (by decide)
    (plain ((joinedBy "::" (name :: names)).toList ++ rest))
  rw [(plain _).markChar?_eq, if_pos (List.contains_iff_mem.mpr mark)] at firstColon
  have alone : markChar? ((joinedBy "::" (name :: names)).toList ++ rest) = none := by
    rw [begins, spelled, List.cons_append, List.cons_append,
      markChar?_of_other (not_mark_of_startsWord starts)]
  rw [alone] at secondColon
  exact firstColon.trans secondColon

theorem passes_names
    {names : List String}
    {rest : List Char}
    (something : names ≠ [])
    (words : ∀ name ∈ names, isWord name = true)
    (stops : Stops rest) :
    Passes ((joinedBy "::" names).toList ++ rest) (tokensOf names) rest := by
  induction names with
  | nil => contradiction
  | cons name names inductionHypothesis =>
      have word := words name List.mem_cons_self
      cases names with
      | nil => simpa [joinedBy, tokensOf] using Passes.word word (ends_of_stops stops)
      | cons next names =>
          have behind := inductionHypothesis (List.cons_ne_nil _ _) fun other member =>
            words other (List.mem_cons_of_mem _ member)
          have colon : Stops (':' :: ':' :: ((joinedBy "::" (next :: names)).toList ++ rest)) := by
            rintro _ ⟨⟩
            decide
          have colons := passes_colons (words next (by simp)) names rest
          have passes := (Passes.word word (ends_of_stops colon)).trans (colons.trans behind)
          simpa [joinedBy, tokensOf, String.toList_intercalate] using passes

theorem passes_text
    {path : ModulePath}
    (sound : path.IsSound)
    (rest : List Char) :
    Passes (path.text.toList ++ ':' :: rest)
      ((if path.fromRoot then Token.marks "::" else []) ++ tokensOf path.names) (':' :: rest) := by
  have colon : Stops (':' :: rest) := by
    rintro _ ⟨⟩
    decide
  have names := passes_names sound.something (fun name member => (sound.words name member).1) colon
  cases root : path.fromRoot with
  | false => simpa [text, root] using names
  | true =>
      cases spelled : path.names with
      | nil => exact absurd spelled sound.something
      | cons name others =>
          have word := (sound.words name (by simp [spelled])).1
          rw [spelled] at names
          have passes := (passes_colons word others (':' :: rest)).trans names
          have marks : Token.marks "::" = [.mark ':' .joint, .mark ':' .alone] := rfl
          simpa [text, root, spelled, marks] using passes

/-- The path itself imports nothing. -/
theorem noImport_tokensOf
    {names : List String}
    (others : ∀ name ∈ names, name ≠ "use") :
    .word "use" ∉ tokensOf names := by
  induction names with
  | nil => exact List.not_mem_nil
  | cons name names inductionHypothesis =>
      have other := others name List.mem_cons_self
      have below := inductionHypothesis fun next member => others next (List.mem_cons_of_mem _ member)
      cases names with
      | nil => simpa [tokensOf] using other.symm
      | cons next names => simpa [tokensOf, other.symm] using below

theorem treeTokens_append
    {names : List String}
    (something : names ≠ [])
    (modules : List (List Glyph))
    (imported : ImportedNames) :
    ImportLine.treeTokens imported (names ++ modules.map wordOf)
      = tokensOf names ++ .mark ':' .joint :: .mark ':' (Lexeme.colonSpacing modules imported)
        :: ImportLine.treeTokens imported (modules.map wordOf) := by
  induction names with
  | nil => contradiction
  | cons name names inductionHypothesis =>
      cases names with
      | nil => cases modules <;> rfl
      | cons next names =>
          have below := inductionHypothesis (List.cons_ne_nil _ _)
          rw [List.cons_append] at below
          rw [tokensOf, List.cons_append, List.cons_append, List.cons_append, List.cons_append,
            List.cons_append, ← below]
          rfl

end ModulePath

/-! ### Lines -/

/-- The modules below a path and the names in the last of them, which the rest of a declaration of
imports spells. -/
def Glyph.below? : List Glyph → Option (List (List Glyph) × ImportedNames)
  | .known ':' :: glyphs =>
      match Lexeme.all? (glyphs.length + 1) (.known ':' :: glyphs) with
      | some (.mark ':' (some .joint) :: .mark ':' (some spacing) :: rest) =>
          match Lexeme.tree? rest with
          | some (modules, names) =>
              if rest.all Lexeme.isQuiet && spacing == Lexeme.colonSpacing modules names then
                some (modules, names)
              else none
          | none => none
      | _ => none
  | _ => none

/-- A line that imports from below a path. -/
theorem Line.complies_of_below?
    {allowed : Import → Prop}
    {path : ModulePath}
    {tail : Line}
    {glyphs : List Glyph}
    {modules : List (List Glyph)}
    {names : ImportedNames}
    (sound : path.IsSound)
    (shows_ : tail.Shows glyphs)
    (found : Glyph.below? glyphs = some (modules, names))
    (allows : ∀ imported ∈ ImportLine.imports ⟨path.fromRoot, path.names ++ modules.map wordOf, names⟩,
      allowed imported)
    (pending : List Delimiter) :
    Line.Complies allowed pending pending [] (.fixed "use " :: .code path.text :: tail) := by
  intro text
  unfold Glyph.below? at found
  split at found
  · next glyphs =>
      split at found
      · next spacing rest cut =>
          split at found
          · next tree =>
              obtain ⟨checked, same⟩ := Option.ite_none_right_eq_some.mp found
              cases same
              rw [Bool.and_eq_true, beq_iff_eq] at checked
              obtain ⟨quiet, rfl⟩ := checked
              obtain ⟨row, describes, passesTail⟩ := Lexeme.passes_all shows_.sound cut text
              obtain ⟨_, rfl, second⟩ := describes.mark_inv
              obtain ⟨below, rfl, describesBelow⟩ := second.mark_inv
              have known := Lexeme.tokens_of_tree? describesBelow tree
              have noImport := describesBelow.noImport (List.all_eq_true.mp quiet)
              have line : (⟨path.fromRoot, path.names ++ modules.map wordOf, names⟩ : ImportLine).tokens
                  = (if path.fromRoot then Token.marks "::" else []) ++ ModulePath.tokensOf path.names
                    ++ .mark ':' .joint :: .mark ':' (Lexeme.colonSpacing modules names) :: below := by
                rw [ImportLine.tokens, ModulePath.treeTokens_append sound.something, ← known,
                  List.append_assoc]
              refine ⟨_, ?_, .ofImport ?_ allows⟩
              · have begins : isWord "use" = true := by decide
                have blank : Stops (' ' :: (path.text.toList
                    ++ (Glyph.charactersOf (.known ':' :: glyphs) ++ '\n' :: text))) := by
                  rintro _ ⟨⟩
                  decide
                have passesUse := (Passes.word begins (ends_of_stops blank)).trans
                  (Passes.blank (by decide))
                have passesPath := ModulePath.passes_text sound
                  (Glyph.charactersOf glyphs ++ '\n' :: text)
                have ended := passesTail.trans (Passes.blank (by decide))
                have whole := passesUse.trans (passesPath.trans ended)
                rw [line]
                simpa [Line.characters, Piece.text, ← shows_.characters_eq] using whole
              · rw [line]
                have lead : .word "use" ∉ (if path.fromRoot then Token.marks "::" else []) := by
                  cases path.fromRoot <;> decide
                have inPath := ModulePath.noImport_tokensOf fun name member =>
                  (sound.words name member).2
                simp [lead, inPath, noImport]
          · contradiction
      · contradiction
  · contradiction

end Scaffold
