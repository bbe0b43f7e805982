import Scaffold.Proofs.Source.Head
import Scaffold.Proofs.Source.Row

/-!
Contract: what a row of tokens imports, and the names that it makes public.

Owns:
- the imports of all declarations that a row holds, wherever they stand;
- the names that are declared public outside of all delimiters;
- the imports of a declaration that spells a path and the names behind it.

Does not own: where the row comes from.
-/

namespace Scaffold.Source

open Source.Parser Source.Grammar Token

/-! ### Imports -/

/-- A name that is imported from a module, or everything in the module. -/
structure Import where
  fromRoot : Bool
  path : List String
  name : Option String
  deriving DecidableEq, Repr

/-- Is this the name of a generated module? -/
def isGeneratedName (name : String) : Prop :=
  "_gen".toList <:+ name.toList

/-- What a tree of imported names below a path imports. -/
def Node.imports (fromRoot : Bool) (path : List String) : {c : Category} → Node c → List Import
  | _, .usePath name tree => imports fromRoot (path ++ [name]) tree
  | _, .useName name => [⟨fromRoot, path, some name⟩]
  | _, .useRename name _ => [⟨fromRoot, path, some name⟩]
  | _, .useAll => [⟨fromRoot, path, none⟩]
  | _, .useGroup trees _ => imports fromRoot path trees
  | _, .cons head tail => imports fromRoot path head ++ imports fromRoot path tail
  | _, _ => []

/-- What the declaration imports that a row begins with, if it is one. -/
def importsAhead (row : List Token) : List Import :=
  match useItem (Grammar.toDepth (4 * row.length + 16)) ⟨row, .nil, .inherited⟩ row with
  | some (.useItem _ _ fromRoot tree, _) => tree.imports fromRoot []
  | _ => []

/-- What the declarations in a row import, in any depth. -/
def imports : List Token → List Import
  | [] => []
  | token :: rest => importsAhead (token :: rest) ++ imports rest

theorem importsAhead_of_ne
    {token : Token}
    (other : token ≠ .word "use")
    (rest : List Token) :
    importsAhead (token :: rest) = [] := by
  have refused : Parser.word "use" (token :: rest) = none := by
    unfold Parser.word
    split
    · next same =>
        cases same
        rw [if_neg]
        rintro rfl
        exact other rfl
    · rfl
  rw [importsAhead]
  split
  · next reads =>
      obtain ⟨_, _, first, -⟩ := Parser.bind_eq_some reads
      rw [refused] at first
      contradiction
  · rfl

theorem imports_append
    {tokens : List Token}
    (noImport : .word "use" ∉ tokens)
    (rest : List Token) :
    imports (tokens ++ rest) = imports rest := by
  induction tokens with
  | nil => rfl
  | cons token tokens inductionHypothesis =>
      rw [List.mem_cons, not_or] at noImport
      rw [List.cons_append, imports, importsAhead_of_ne (Ne.symm noImport.1), List.nil_append,
        inductionHypothesis noImport.2]

/-! ### Public names -/

/-- The words that a declaration of a name begins with. -/
def declaringWords : List String :=
  ["const", "enum", "fn", "mod", "static", "struct", "trait", "type", "union"]

/-- The name that the declaration makes public that a row begins with, if it does. -/
def publicNameAhead? : List Token → Option String
  | .word "pub" :: .word declaring :: .word name :: _ =>
      if declaringWords.contains declaring then some name else none
  | _ => none

/-- The names that a row declares public outside of all delimiters, where `pending` are open in
front of it. -/
def publicNames (pending : List Delimiter) : List Token → List String
  | [] => []
  | token :: rest =>
      (if pending.isEmpty then (publicNameAhead? (token :: rest)).toList else [])
        ++ publicNames ((openBehind pending [token]).getD []) rest

theorem publicNames_append
    {pending after : List Delimiter}
    {front : List Token}
    (opened : openBehind pending front = some after)
    (rest : List Token) :
    ∃ names, publicNames pending (front ++ rest) = names ++ publicNames after rest := by
  induction front generalizing pending with
  | nil =>
      cases opened
      exact ⟨[], rfl⟩
  | cons token front inductionHypothesis =>
      rw [← List.singleton_append, openBehind_append] at opened
      obtain ⟨between, first, opened⟩ := Option.bind_eq_some_iff.mp opened
      obtain ⟨names, behind⟩ := inductionHypothesis opened
      rw [List.cons_append, publicNames, first, Option.getD_some, behind]
      exact ⟨_, (List.append_assoc ..).symm⟩

/-- A declaration outside of all delimiters makes its name public. -/
theorem mem_publicNames
    {front : List Token}
    {declaring name : String}
    (opened : openBehind [] front = some [])
    (declares : declaringWords.contains declaring = true)
    (rest : List Token) :
    name ∈ publicNames [] (front ++ .word "pub" :: .word declaring :: .word name :: rest) := by
  obtain ⟨names, behind⟩ :=
    publicNames_append opened (.word "pub" :: .word declaring :: .word name :: rest)
  rw [behind, publicNames, publicNameAhead?, if_pos declares]
  simp

/-! ### Readers of imports -/

theorem Parser.of_bind_peek
    {α : Type}
    {test : Test}
    {next : Bool → Parser α}
    {row : List Token}
    {result : α × List Token}
    (reads : (peek test >>= next) row = some result) :
    next (test row) row = some result :=
  reads

theorem exists_of_useTree
    {depth : Nat}
    {root : Bool}
    {row : List Token}
    {result : Option (Node .useTree) × List Token}
    (reads : (Grammar.toDepth depth).useTree root row = some result) :
    ∃ less, readUseTree (Grammar.toDepth less) root row = some result := by
  cases depth with
  | zero => contradiction
  | succ less => exact ⟨less, reads⟩

theorem optionalMarks_eq_some
    {operator : String}
    {row after : List Token}
    {found : Bool}
    (reads : optionalMarks operator row = some (found, after)) :
    found = atMarks operator row ∧ after = if found then row.drop operator.length else row := by
  have reads := Parser.of_bind_peek reads
  cases isAhead : atMarks operator row with
  | false =>
      rw [isAhead] at reads
      cases reads
      exact ⟨rfl, rfl⟩
  | true =>
      rw [isAhead] at reads
      obtain ⟨_, _, marked, reads⟩ := Parser.bind_eq_some reads
      cases reads
      rw [Parser.marks, if_pos isAhead] at marked
      cases marked
      exact ⟨rfl, rfl⟩

theorem optionalWord_eq_some
    {text : String}
    {row after : List Token}
    {found : Bool}
    (reads : optionalWord text row = some (found, after)) :
    found = atWord text row ∧ (found = false → after = row) := by
  have reads := Parser.of_bind_peek reads
  cases isAhead : atWord text row with
  | false =>
      rw [isAhead] at reads
      cases reads
      exact ⟨rfl, fun _ => rfl⟩
  | true =>
      rw [isAhead] at reads
      obtain ⟨_, _, -, reads⟩ := Parser.bind_eq_some reads
      cases reads
      exact ⟨rfl, fun same => by contradiction⟩

/-- What is read behind a name of a tree of imports. -/
theorem readUseTree_word
    {grammar : Grammar}
    {root : Bool}
    {name : String}
    {rest after : List Token}
    {tree : Node .useTree}
    (reads : readUseTree grammar root (.word name :: rest) = some (some tree, after))
    (noRename : atWord "as" rest = false) :
    (atMarks "::" rest = true
        ∧ ∃ below, grammar.useTree false (rest.drop 2) = some (some below, after)
          ∧ tree = .usePath name below)
      ∨ atMarks "::" rest = false ∧ tree = .useName name ∧ after = rest := by
  have reads := Parser.of_bind_peek reads
  cases isName : atUseName (.word name :: rest) with
  | false =>
      rw [isName] at reads
      obtain ⟨isStar, _, star, reads⟩ := Parser.bind_eq_some reads
      obtain ⟨rfl, rfl⟩ := optionalMarks_eq_some star
      obtain ⟨_, _, grouped, -⟩ := Parser.bind_eq_some reads
      contradiction
  | true =>
      rw [isName] at reads
      obtain ⟨found, _, isWord, reads⟩ := Parser.bind_eq_some reads
      cases isWord
      obtain ⟨colons, _, isPath, reads⟩ := Parser.bind_eq_some reads
      obtain ⟨same, rfl⟩ := optionalMarks_eq_some isPath
      cases colons with
      | true =>
          obtain ⟨below, _, readsBelow, reads⟩ := Parser.bind_eq_some reads
          cases below with
          | none => cases reads
          | some below =>
              cases reads
              exact .inl ⟨same.symm, below, readsBelow, rfl⟩
      | false =>
          obtain ⟨renames, _, isRename, reads⟩ := Parser.bind_eq_some reads
          obtain ⟨sameWord, kept⟩ := optionalWord_eq_some isRename
          rw [if_neg Bool.false_ne_true] at sameWord kept
          rw [noRename] at sameWord
          cases sameWord
          cases kept rfl
          cases reads
          exact .inr ⟨same.symm, rfl, rfl⟩

theorem readUseTree_star
    {grammar : Grammar}
    {root : Bool}
    {spacing : Spacing}
    {rest after : List Token}
    {tree : Node .useTree}
    (reads : readUseTree grammar root (.mark '*' spacing :: rest) = some (some tree, after)) :
    tree = .useAll := by
  have reads := Parser.of_bind_peek reads
  obtain ⟨_, _, star, reads⟩ := Parser.bind_eq_some reads
  obtain ⟨rfl, rfl⟩ := optionalMarks_eq_some star
  cases reads
  rfl

theorem readUseTree_rename
    {grammar : Grammar}
    {root : Bool}
    {name : String}
    {rest after : List Token}
    {tree : Node .useTree}
    (reads : readUseTree grammar root (.word name :: .word "as" :: rest) = some (some tree, after)) :
    ∃ given, tree = .useRename name given := by
  have reads := Parser.of_bind_peek reads
  cases isName : atUseName (.word name :: .word "as" :: rest) with
  | false =>
      rw [isName] at reads
      obtain ⟨_, _, star, reads⟩ := Parser.bind_eq_some reads
      cases star
      obtain ⟨_, _, grouped, -⟩ := Parser.bind_eq_some reads
      contradiction
  | true =>
      rw [isName] at reads
      obtain ⟨_, _, isWord, reads⟩ := Parser.bind_eq_some reads
      cases isWord
      obtain ⟨_, _, isPath, reads⟩ := Parser.bind_eq_some reads
      cases isPath
      obtain ⟨_, _, isRename, reads⟩ := Parser.bind_eq_some reads
      cases isRename
      obtain ⟨given, _, -, reads⟩ := Parser.bind_eq_some reads
      cases reads
      exact ⟨given, rfl⟩

/-- The tokens of names with commas between them. -/
def commaNames : List String → List Token
  | [] => []
  | [name] => [.word name]
  | name :: next :: rest => .word name :: .mark ',' .alone :: commaNames (next :: rest)

theorem commaNames_cons (name : String) (names : List String) :
    ∃ behind, commaNames (name :: names) = .word name :: behind
      ∧ (names = [] ∧ behind = [] ∨ names ≠ [] ∧ behind = .mark ',' .alone :: commaNames names) := by
  cases names with
  | nil => exact ⟨_, rfl, .inl ⟨rfl, rfl⟩⟩
  | cons next names => exact ⟨_, rfl, .inr ⟨List.cons_ne_nil _ _, rfl⟩⟩

/-- What is read of a group of imports that begins with a name. -/
theorem useTrees_word
    {grammar : Grammar}
    {root : Bool}
    {fuel : Nat}
    {name : String}
    {rest after : List Token}
    {trees : Separated (Node .useTree)}
    (reads : useTrees grammar root fuel (.word name :: rest) = some (some trees, after)) :
    ∃ less head between, grammar.useTree root (.word name :: rest) = some (some head, between)
      ∧ (atEnd between = true ∧ trees.elements = [head]
        ∨ ∃ others behind, Parser.marks "," between = some ((), behind)
          ∧ useTrees grammar root less behind = some (some others, after)
          ∧ trees.elements = head :: others.elements) := by
  cases fuel with
  | zero => contradiction
  | succ fuel =>
      have reads := Parser.of_bind_peek reads
      cases root
      all_goals
        obtain ⟨_, _, begins, reads⟩ := Parser.bind_eq_some reads
        cases begins
        obtain ⟨head, between, readsHead, reads⟩ := Parser.bind_eq_some reads
        have reads := Parser.of_bind_peek reads
        cases ends : atEnd between with
        | true =>
            rw [ends] at reads
            cases head with
            | none => cases reads
            | some head =>
                cases reads
                exact ⟨fuel, head, _, readsHead, .inl ⟨ends, rfl⟩⟩
        | false =>
            rw [ends] at reads
            obtain ⟨_, behind, comma, reads⟩ := Parser.bind_eq_some reads
            obtain ⟨others, _, readsOthers, reads⟩ := Parser.bind_eq_some reads
            cases head with
            | none => cases reads
            | some head =>
                cases others with
                | none => cases reads
                | some others =>
                    cases reads
                    exact ⟨fuel, head, between, readsHead,
                      .inr ⟨others, behind, comma, readsOthers, rfl⟩⟩

/-- The trees of a group of names are these names. -/
theorem useTrees_names
    {depth fuel : Nat}
    {root : Bool}
    {names : List String}
    {rest after : List Token}
    {trees : Separated (Node .useTree)}
    (reads : useTrees (Grammar.toDepth depth) root fuel (commaNames names ++ .closing .brace :: rest)
      = some (some trees, after)) :
    trees.elements = names.map .useName := by
  induction names generalizing fuel trees with
  | nil =>
      cases fuel with
      | zero => contradiction
      | succ fuel =>
          have reads := Parser.of_bind_peek reads
          cases reads
          rfl
  | cons name names inductionHypothesis =>
      obtain ⟨behind, spelled, shape⟩ := commaNames_cons name names
      rw [spelled, List.cons_append] at reads
      obtain ⟨less, head, between, readsHead, tail⟩ := useTrees_word reads
      obtain ⟨lower, readsHead⟩ := exists_of_useTree readsHead
      rcases shape with ⟨rfl, rfl⟩ | ⟨-, rfl⟩
      · rcases readUseTree_word readsHead rfl with ⟨colons, -⟩ | ⟨-, rfl, rfl⟩
        · cases colons
        · rcases tail with ⟨-, single⟩ | ⟨_, _, comma, -⟩
          · exact single
          · cases comma
      · rcases readUseTree_word readsHead rfl with ⟨colons, -⟩ | ⟨-, rfl, rfl⟩
        · cases colons
        · rcases tail with ⟨ends, -⟩ | ⟨others, _, comma, readsOthers, found⟩
          · cases ends
          · cases comma
            rw [found, inductionHypothesis readsOthers]
            rfl

/-- The tree of a group of names. -/
theorem readUseTree_group
    {depth : Nat}
    {root : Bool}
    {names : List String}
    {rest after : List Token}
    {tree : Node .useTree}
    (reads : readUseTree (Grammar.toDepth depth) root
      (.opening .brace :: (commaNames names ++ .closing .brace :: rest)) = some (some tree, after)) :
    ∃ trailing, tree = .useGroup (.ofList (names.map .useName)) trailing := by
  have reads := Parser.of_bind_peek reads
  obtain ⟨_, _, star, reads⟩ := Parser.bind_eq_some reads
  cases star
  obtain ⟨trees, _, grouped, reads⟩ := Parser.bind_eq_some reads
  cases trees with
  | none => cases reads
  | some trees =>
      cases reads
      refine ⟨trees.trailing, ?_⟩
      rw [inside] at grouped
      split at grouped
      · next same =>
          cases same
          split at grouped
          · next readsTrees =>
              cases grouped
              obtain ⟨_, _, state, readsTrees⟩ := Parser.bind_eq_some readsTrees
              cases state
              exact congrArg (fun elements => Node.useGroup (.ofList elements) trees.trailing)
                (useTrees_names readsTrees)
          · contradiction
      · contradiction

/-! ### Imports that are spelled out -/

/-- The names that are imported from one module; a hidden one is in scope without a name. -/
inductive ImportedNames where
  | all
  | one (name : String)
  | hidden (name : String)
  | group (names : List String)
  deriving DecidableEq, Repr

/-- The tokens of the names, and of the mark that ends the declaration. -/
def ImportedNames.tokens : ImportedNames → List Token
  | .all => [.mark '*' .joint, .mark ';' .alone]
  | .one name => [.word name, .mark ';' .alone]
  | .hidden name => [.word name, .word "as", .word "_", .mark ';' .alone]
  | .group names => .opening .brace :: (commaNames names ++ [.closing .brace, .mark ';' .alone])

/-- How the colons in front of the names run into what follows. -/
def ImportedNames.spacing : ImportedNames → Spacing
  | .all => .joint
  | .one _ | .hidden _ | .group _ => .alone

/-- A declaration of imports: a path of modules, from the root or not, and names behind it. -/
structure ImportLine where
  fromRoot : Bool
  path : List String
  names : ImportedNames
  deriving DecidableEq, Repr

namespace ImportLine

/-- The tokens of a path and of the names behind it. -/
def treeTokens (names : ImportedNames) : List String → List Token
  | [] => names.tokens
  | [name] => .word name :: .mark ':' .joint :: .mark ':' names.spacing :: names.tokens
  | name :: next :: path =>
      .word name :: .mark ':' .joint :: .mark ':' .alone :: treeTokens names (next :: path)

/-- The tokens behind the word that begins the declaration. -/
def tokens (line : ImportLine) : List Token :=
  (if line.fromRoot then Token.marks "::" else []) ++ treeTokens line.names line.path

/-- What the declaration imports. -/
def imports (line : ImportLine) : List Import :=
  match line.names with
  | .all => [⟨line.fromRoot, line.path, none⟩]
  | .one name | .hidden name => [⟨line.fromRoot, line.path, some name⟩]
  | .group names => names.map fun name => ⟨line.fromRoot, line.path, some name⟩

theorem imports_ofList_useName (fromRoot : Bool) (path names : List String) :
    Node.imports fromRoot path (.ofList (names.map .useName))
      = names.map fun name => ⟨fromRoot, path, some name⟩ := by
  induction names with
  | nil => rfl
  | cons name names inductionHypothesis =>
      rw [List.map_cons, List.map_cons, ← inductionHypothesis]
      rfl

/-- The tree that is read of a path and of the names behind it imports these names. -/
theorem imports_of_useTree
    {names : ImportedNames}
    {path : List String}
    {depth : Nat}
    {root fromRoot : Bool}
    {rest after : List Token}
    {tree : Node .useTree}
    (reads : (Grammar.toDepth depth).useTree root (treeTokens names path ++ rest)
      = some (some tree, after))
    (front : List String) :
    tree.imports fromRoot front = imports ⟨fromRoot, front ++ path, names⟩ := by
  induction path generalizing depth root tree front with
  | nil =>
      obtain ⟨less, reads⟩ := exists_of_useTree reads
      rw [List.append_nil]
      cases names with
      | all =>
          rw [readUseTree_star reads]
          rfl
      | one name =>
          rcases readUseTree_word reads rfl with ⟨colons, -⟩ | ⟨-, rfl, -⟩
          · cases colons
          · rfl
      | hidden name =>
          obtain ⟨given, rfl⟩ := readUseTree_rename reads
          rfl
      | group names =>
          rw [treeTokens, ImportedNames.tokens, List.cons_append, List.append_assoc] at reads
          obtain ⟨trailing, rfl⟩ := readUseTree_group reads
          exact imports_ofList_useName fromRoot front names
  | cons name path inductionHypothesis =>
      obtain ⟨less, reads⟩ := exists_of_useTree reads
      obtain ⟨spacing, spelled⟩ : ∃ spacing, treeTokens names (name :: path)
          = .word name :: .mark ':' .joint :: .mark ':' spacing :: treeTokens names path := by
        cases path <;> exact ⟨_, rfl⟩
      rw [spelled] at reads
      rcases readUseTree_word reads rfl with ⟨-, below, readsBelow, rfl⟩ | ⟨noColons, -⟩
      · have same := inductionHypothesis readsBelow (front ++ [name])
        rwa [List.append_assoc, List.singleton_append] at same
      · cases noColons

theorem atMarks_treeTokens (names : ImportedNames) (path : List String) (rest : List Token) :
    atMarks "::" (treeTokens names path ++ rest) = false := by
  cases path with
  | nil => cases names <;> rfl
  | cons name path => cases path <;> rfl

/-- A declaration that is read imports what it spells. -/
theorem importsAhead_subset (line : ImportLine) (rest : List Token) :
    importsAhead (.word "use" :: (line.tokens ++ rest)) ⊆ line.imports := by
  intro imported member
  rw [importsAhead] at member
  split at member
  · next attributes access fromRoot tree after reads =>
      obtain ⟨_, _, first, reads⟩ := Parser.bind_eq_some reads
      cases first
      obtain ⟨leading, _, colons, reads⟩ := Parser.bind_eq_some reads
      obtain ⟨found, rfl⟩ := optionalMarks_eq_some colons
      obtain ⟨read, behind, readsTree, reads⟩ := Parser.bind_eq_some reads
      obtain ⟨_, _, -, reads⟩ := Parser.bind_eq_some reads
      cases read with
      | none => cases reads
      | some read =>
          cases reads
          obtain ⟨isRoot, path, names⟩ := line
          have sameRoot : fromRoot = isRoot := by
            rw [found]
            cases isRoot with
            | true => rfl
            | false => exact atMarks_treeTokens names path rest
          subst sameRoot
          have same : tree.imports fromRoot [] = imports ⟨fromRoot, [] ++ path, names⟩ := by
            cases fromRoot with
            | true => exact imports_of_useTree readsTree []
            | false => exact imports_of_useTree readsTree []
          rw [same] at member
          exact member
  · contradiction

/-- All that a declaration imports is below its path. -/
theorem path_of_mem_imports
    {line : ImportLine}
    {imported : Import}
    (member : imported ∈ line.imports) :
    imported.fromRoot = line.fromRoot ∧ imported.path = line.path := by
  obtain ⟨fromRoot, path, names⟩ := line
  cases names with
  | all | one | hidden =>
      rw [List.mem_singleton.mp member]
      exact ⟨rfl, rfl⟩
  | group names =>
      obtain ⟨_, -, rfl⟩ := List.mem_map.mp member
      exact ⟨rfl, rfl⟩

theorem openBehind_commaNames (names : List String) (pending : List Delimiter) (rest : List Token) :
    openBehind pending (commaNames names ++ rest) = openBehind pending rest := by
  induction names with
  | nil => rfl
  | cons name names inductionHypothesis =>
      cases names with
      | nil => rfl
      | cons next names => exact inductionHypothesis

theorem openBehind_treeTokens
    (names : ImportedNames)
    (path : List String)
    (pending : List Delimiter) :
    openBehind pending (treeTokens names path) = some pending := by
  induction path with
  | nil =>
      cases names with
      | all | one | hidden => rfl
      | group names =>
          show openBehind (.brace :: pending) _ = _
          rw [openBehind_commaNames]
          rfl
  | cons name path inductionHypothesis =>
      cases path with
      | nil => exact inductionHypothesis
      | cons next path => exact inductionHypothesis

/-- A declaration leaves nothing open. -/
theorem openBehind_tokens (line : ImportLine) (pending : List Delimiter) :
    openBehind pending (.word "use" :: line.tokens) = some pending := by
  obtain ⟨fromRoot, path, names⟩ := line
  cases fromRoot with
  | false => exact openBehind_treeTokens names path pending
  | true => exact openBehind_treeTokens names path pending

/-- What a row imports that begins with a declaration. -/
theorem mem_imports_append
    {line : ImportLine}
    {rest : List Token}
    {imported : Import}
    (single : .word "use" ∉ line.tokens)
    (member : imported ∈ Source.imports (.word "use" :: line.tokens ++ rest)) :
    imported ∈ line.imports ∨ imported ∈ Source.imports rest := by
  rw [List.cons_append, Source.imports, imports_append single] at member
  rcases List.mem_append.mp member with here | later
  · exact .inl (importsAhead_subset line rest here)
  · exact .inr later

end ImportLine

end Scaffold.Source
