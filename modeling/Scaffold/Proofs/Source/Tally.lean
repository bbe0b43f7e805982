import Scaffold.Proofs.Source.Declared

/-!
Contract: the declarations of a file, counted on the sketch of its row.

Owns:
- what an entry declares together with the functions of its block;
- that a sketch has the entries of the row that it is of;
- the declarations and the functions of a file, bounded by those of the sketch of its row.

Does not own: the sketches of texts.
-/

namespace Scaffold.Source

open Token

/-- What an entry declares, and the functions of its block. -/
structure Tally where
  declared : Option Declared
  functions : List String
  deriving DecidableEq, Repr

namespace Tally

/-- A function. -/
def function (name : String) : Tally :=
  ⟨some ⟨"fn", name⟩, []⟩

/-- A structure. -/
def struct (name : String) : Tally :=
  ⟨some ⟨"struct", name⟩, []⟩

/-- A constant. -/
def constant (name : String) : Tally :=
  ⟨some ⟨"const", name⟩, []⟩

/-- An implementation with functions. -/
def block (functions : List String) : Tally :=
  ⟨none, functions⟩

end Tally

/-- What is to be counted of an entry, if there is anything. -/
def RowEntry.tally? (entry : RowEntry) : Option Tally :=
  match entry.declared?, functionsIn (entry.body.getD []) with
  | none, [] => none
  | declared, functions => some ⟨declared, functions⟩

/-! ### Sketches -/

section Sketch

variable {row : List Token}

theorem surface_map_sketch (level : Nat) (row : List Token) :
    surface level (row.map sketch) = (surface level row).map sketch := by
  induction row generalizing level with
  | nil => rfl
  | cons token row inductionHypothesis =>
      cases token with
      | opening | closing => exact inductionHypothesis _
      | word | mark | literal =>
          by_cases outside : level = 0
          · subst outside
            exact congrArg (_ :: ·) (inductionHypothesis 0)
          · simp only [List.map_cons, sketch, surface, if_neg outside]
            exact inductionHypothesis level

theorem declaredAhead_map_sketch (row : List Token) :
    declaredAhead (row.map sketch) = declaredAhead row := by
  induction row with
  | nil => rfl
  | cons token row inductionHypothesis =>
      cases token with
      | opening | closing => rfl
      | literal => exact inductionHypothesis
      | mark char spacing =>
          simp only [List.map_cons, sketch, declaredAhead, inductionHypothesis]
      | word text =>
          have ahead : word? (row.map sketch) = word? row := by
            cases row with
            | nil => rfl
            | cons next => cases next <;> rfl
          simp only [List.map_cons, sketch, declaredAhead, inductionHypothesis, ahead]
          cases row with
          | nil => rfl
          | cons next => cases next <;> rfl

/-- The entry with the sketches of its rows. -/
def RowEntry.sketch (entry : RowEntry) : RowEntry :=
  ⟨entry.head.map Token.sketch, entry.body.map (List.map Token.sketch)⟩

theorem RowEntry.sketch_push (entry : RowEntry) (token : Token) :
    (entry.push token).sketch = entry.sketch.push token.sketch := by
  obtain ⟨head, body⟩ := entry
  cases body <;> simp [push, sketch]

theorem RowEntry.declared?_sketch (entry : RowEntry) : entry.sketch.declared? = entry.declared? := by
  rw [declared?, sketch, surface_map_sketch, declaredAhead_map_sketch]
  rfl

theorem step_sketch (separator : Char) (state : EntryState) (token : Token) :
    EntryState.step separator ⟨state.depth, state.entry.sketch⟩ token.sketch
      = ((state.step separator token).1.map RowEntry.sketch,
        ⟨(state.step separator token).2.depth, (state.step separator token).2.entry.sketch⟩) := by
  obtain ⟨depth, entry⟩ := state
  have pushes (depth between : Nat) (token : Token) :
      EntryState.push ⟨depth, entry.sketch⟩ between token.sketch
        = ((EntryState.push ⟨depth, entry⟩ between token).1.map RowEntry.sketch,
          ⟨(EntryState.push ⟨depth, entry⟩ between token).2.depth,
            (EntryState.push ⟨depth, entry⟩ between token).2.entry.sketch⟩) := by
    simp [EntryState.push, RowEntry.sketch_push]
  cases token with
  | word | literal => exact pushes depth depth _
  | mark char spacing =>
      by_cases ends : depth = 0 ∧ char = separator
      · simp [EntryState.step, Token.sketch, ends, EntryState.start, RowEntry.sketch, RowEntry.empty]
      · have same := pushes depth depth (.mark char spacing)
        simp only [Token.sketch] at same
        simp only [EntryState.step, Token.sketch, if_neg ends, same]
  | opening delimiter =>
      by_cases begins : depth = 0 ∧ delimiter = .brace
      · simp [EntryState.step, Token.sketch, begins, RowEntry.sketch]
      · have same := pushes depth (depth + 1) (.opening delimiter)
        simp only [Token.sketch] at same
        simp only [EntryState.step, Token.sketch, if_neg begins, same]
  | closing delimiter =>
      have block : entry.sketch.body.isSome = entry.body.isSome := by simp [RowEntry.sketch]
      by_cases ends : depth = 1 ∧ entry.body.isSome
      · simp [EntryState.step, Token.sketch, ends, EntryState.start, RowEntry.sketch, RowEntry.empty]
      · have same := pushes depth (depth - 1) (.closing delimiter)
        simp only [Token.sketch] at same
        simp only [EntryState.step, Token.sketch, block, if_neg ends, same]

theorem readEntries_map_sketch (separator : Char) (state : EntryState) (row : List Token) :
    readEntries separator ⟨state.depth, state.entry.sketch⟩ (row.map sketch)
      = ((readEntries separator state row).1.map RowEntry.sketch,
        ⟨(readEntries separator state row).2.depth, (readEntries separator state row).2.entry.sketch⟩) := by
  induction row generalizing state with
  | nil => rfl
  | cons token row inductionHypothesis =>
      rw [List.map_cons, readEntries_cons, step_sketch, inductionHypothesis, readEntries_cons,
        List.map_append]
      cases (state.step separator token).1 <;> rfl

/-- A sketch has the sketches of the entries. -/
theorem entries_map_sketch (separator : Char) (row : List Token) :
    entries separator (row.map sketch) = (entries separator row).map RowEntry.sketch := by
  have reads := readEntries_map_sketch separator .start row
  have start : (⟨EntryState.start.depth, EntryState.start.entry.sketch⟩ : EntryState) = .start := rfl
  have something (entry : RowEntry) : entry.sketch.isSomething = entry.isSomething := by
    simp [RowEntry.isSomething, RowEntry.sketch]
  rw [start] at reads
  rw [entries, reads, entries, List.map_append, List.filter_cons, List.filter_cons, something]
  split <;> rfl

/-- The token is what it is a sketch of. -/
def Token.isExact : Token → Bool
  | .word _ | .opening _ | .closing _ => true
  | .mark char _ => char = ':'
  | .literal _ => false

theorem Token.beq_sketch {token : Token} (exact_ : token.isExact = true) (other : Token) :
    (token == other.sketch) = (token == other) := by
  rw [Bool.eq_iff_iff, beq_iff_eq, beq_iff_eq]
  cases token with
  | literal => contradiction
  | word | opening | closing => cases other <;> simp [sketch]
  | mark char spacing =>
      obtain rfl : char = ':' := by simpa [isExact] using exact_
      cases other with
      | mark found between =>
          by_cases colon : found = ':' <;> simp [sketch, colon, eq_comm]
      | word | literal | opening | closing => simp [sketch]

theorem isPrefixOf_map_sketch
    {front : List Token}
    (exact_ : ∀ token ∈ front, token.isExact = true)
    (row : List Token) :
    front.isPrefixOf (row.map sketch) = front.isPrefixOf row := by
  induction front generalizing row with
  | nil => rfl
  | cons token front inductionHypothesis =>
      cases row with
      | nil => rfl
      | cons other row =>
          rw [List.forall_mem_cons] at exact_
          rw [List.map_cons, List.isPrefixOf, List.isPrefixOf, beq_sketch exact_.1,
            inductionHypothesis exact_.2]

theorem functionsIn_map_sketch (row : List Token) : functionsIn (row.map sketch) = functionsIn row := by
  have begins : (statementFronts.any (·.isPrefixOf (row.map sketch)))
      = statementFronts.any (·.isPrefixOf row) := by
    have exact_ : ∀ front ∈ statementFronts, ∀ token ∈ front, token.isExact = true := by decide
    rw [Bool.eq_iff_iff, List.any_eq_true, List.any_eq_true]
    exact exists_congr fun front => and_congr_right fun isStatement =>
      isPrefixOf_map_sketch (exact_ front isStatement) row ▸ Iff.rfl
  rw [functionsIn, functionsIn, begins, entries_map_sketch, List.filterMap_map]
  congr 2
  funext entry
  exact congrArg (·.bind Declared.function?) entry.declared?_sketch

theorem RowEntry.tally?_sketch (entry : RowEntry) : entry.sketch.tally? = entry.tally? := by
  have block : entry.sketch.body.getD [] = (entry.body.getD []).map Token.sketch := by
    obtain ⟨head, body⟩ := entry
    cases body <;> rfl
  rw [tally?, tally?, declared?_sketch, block, functionsIn_map_sketch]

end Sketch

/-! ### Files -/

/-- A file declares no more than is counted, and each of its implementations has no more functions than
one of the blocks that are counted. -/
structure SourceFile.IsWithin (file : SourceFile) (tallies : List Tally) : Prop where
  declared : (file.items.filterMap Node.declared?).Sublist (tallies.filterMap Tally.declared)
  functions : ∀ item ∈ file.items, item.functions = []
    ∨ ∃ tally ∈ tallies, item.functions.Sublist tally.functions

theorem RowEntry.declared_of_tally? (entry : RowEntry) :
    entry.tally?.bind Tally.declared = entry.declared? := by
  unfold tally?
  split
  · next same _ => rw [same]; rfl
  · rfl

theorem SourceFile.isWithin_of_sketch
    {file : SourceFile}
    {row : List Token}
    {tallies : List Tally}
    (read : file.IsReadFrom row)
    (counted : (entries ';' (row.map sketch)).filterMap RowEntry.tally? = tallies) :
    file.IsWithin tallies := by
  have counted : (entries ';' row).filterMap RowEntry.tally? = tallies := by
    rw [← counted, entries_map_sketch, List.filterMap_map]
    exact congrArg (List.filterMap · _) (funext fun entry => entry.tally?_sketch.symm)
  constructor
  case declared =>
    rw [← counted, List.filterMap_filterMap]
    simpa only [RowEntry.declared_of_tally?] using read.declared
  case functions =>
    intro item member
    rcases read.functions item member with none | ⟨entry, isEntry, block, isBlock, included⟩
    · exact .inl none
    · have body : entry.body.getD [] = block := by rw [Option.mem_def.mp isBlock, Option.getD_some]
      cases functions : functionsIn block with
      | nil =>
          rw [functions] at included
          exact .inl (List.sublist_nil.mp included)
      | cons first more =>
          refine .inr ⟨⟨entry.declared?, functionsIn block⟩, ?_, included⟩
          rw [← counted]
          refine List.mem_filterMap.mpr ⟨entry, isEntry, ?_⟩
          rw [RowEntry.tally?, body, functions]
          cases entry.declared? <;> rfl

end Scaffold.Source
