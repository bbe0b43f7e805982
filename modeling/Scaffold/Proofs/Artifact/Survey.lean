import Scaffold.Proofs.Artifact.Sketch
import Scaffold.Proofs.Source.Tally

/-!
Contract: what code declares, together with what is counted of it.

Owns:
- the survey of an entry: its declaration with the members, and its tally;
- blocks of statements, of fields and of members, and the functions that these hold;
- code that is read as functions, structures and implementations with their tallies.

Does not own: which code there is.
-/

namespace Scaffold.Source

open Token

variable
  {α : Type}
  {member? : List Token → Option α}
  {name : α → String}

/-! ### Surveys -/

/-- What an entry declares with its members, and what is counted of it. -/
structure Survey (α : Type) where
  outline : Option (Outline α)
  tally : Option Tally

/-- The survey of an entry, if it declares anything. -/
def RowEntry.survey? (member? : List Token → Option α) (entry : RowEntry) : Option (Survey α) :=
  match entry.outline? member?, entry.tally? with
  | none, none => none
  | outline, tally => some ⟨outline, tally⟩

theorem RowEntry.tally_of_survey? (entry : RowEntry) :
    entry.tally? = (entry.survey? member?).bind Survey.tally := by
  unfold survey?
  split
  · next none => exact none
  · rfl

/-- What is counted of a declaration whose members have names: nothing of an implementation without
members. -/
def Outline.tally? (name : α → String) : Outline α → Option Tally
  | .routine declared => some (.function declared.name)
  | .struct declared _ => some (.struct declared)
  | .implementation _ _ _ members => if members.isEmpty then none else some (.block (members.map name))

/-- A declaration with what is counted of it. -/
def Outline.survey (name : α → String) (outline : Outline α) : Survey α :=
  ⟨some outline, outline.tally? name⟩

/-- A member of an implementation, and the function that its entry declares. -/
def RowEntry.memberRead?
    (member? : List Token → Option α)
    (entry : RowEntry) :
    Option (Option α × Option String) :=
  some (member? entry.head, entry.function?)

/-- A member that is a function of its name. -/
def memberOf (name : α → String) (member : α) : Option α × Option String :=
  (some member, some (name member))

section Rows

variable
  {separator : Char}
  {front row rest : List Token}

/-- What is read of the entries of a row is also what is picked from more that is read of them. -/
theorem Enlists.pick
    {β : Type}
    {read : RowEntry → Option α}
    {found : List α}
    {other : RowEntry → Option β}
    {pick : α → Option β}
    (lists : Enlists separator read found row)
    (same : ∀ entry, other entry = (read entry).bind pick) :
    Enlists separator other (found.filterMap pick) row := by
  refine ⟨lists.balanced, lists.ended, ?_⟩
  rw [← lists.found, List.filterMap_filterMap]
  exact congrArg (List.filterMap · _) (funext same)

/-- The first entry that is read goes on from the one that was open. -/
theorem head_prefix_of_readEntries
    {level : Nat}
    {entry first : RowEntry}
    {more : List RowEntry}
    (reads : (readEntries separator ⟨level, entry⟩ row).1 = first :: more) :
    entry.head <+: first.head := by
  induction row generalizing level entry with
  | nil => contradiction
  | cons token row inductionHypothesis =>
      rw [readEntries_cons] at reads
      have pushed {between : Nat} {pushedToken : Token}
          (goesOn : (readEntries separator ⟨between, entry.push pushedToken⟩ row).1 = first :: more) :
          entry.head <+: first.head :=
        (entry.head_prefix_push pushedToken).trans (inductionHypothesis goesOn)
      cases token with
      | word | literal => exact pushed reads
      | mark char spacing =>
          by_cases ends : level = 0 ∧ char = separator
          · have step : EntryState.step separator ⟨level, entry⟩ (.mark char spacing)
                = (some entry, .start) := if_pos ends
            rw [step] at reads
            cases reads
            exact List.prefix_rfl
          · rw [step_mark ends] at reads
            exact pushed reads
      | opening delimiter =>
          by_cases begins : level = 0 ∧ delimiter = .brace
          · have step : EntryState.step separator ⟨level, entry⟩ (.opening delimiter)
                = (none, ⟨1, ⟨entry.head, some []⟩⟩) := if_pos begins
            rw [step] at reads
            have goesOn : (⟨entry.head, some []⟩ : RowEntry).head <+: first.head :=
              inductionHypothesis reads
            exact goesOn
          · rw [step_opening begins] at reads
            exact pushed reads
      | closing delimiter =>
          by_cases ends : level = 1 ∧ entry.body.isSome
          · have step : EntryState.step separator ⟨level, entry⟩ (.closing delimiter)
                = (some entry, .start) := if_pos ends
            rw [step] at reads
            cases reads
            exact List.prefix_rfl
          · rw [step_closing ends] at reads
            exact pushed reads

/-- A statement begins with a word that declares nothing. -/
theorem exists_word_of_statement (isStatement : front ∈ statementFronts) :
    ∃ text tail, front = .word text :: tail ∧ ∀ rest, declaredAhead (.word text :: rest) = none := by
  have each : ∀ front ∈ statementFronts, ∃ text tail, front = .word text :: tail
      ∧ ∀ rest, declaredAhead (.word text :: rest) = none := by
    simp only [statementFronts, List.forall_mem_cons, List.not_mem_nil, false_implies, implies_true,
      and_true]
    exact ⟨⟨"let", _, rfl, fun _ => rfl⟩, ⟨"Router", _, rfl, fun _ => rfl⟩⟩
  exact each front isStatement

/-- A block whose entries are all functions holds just these. -/
theorem Enlists.functionsIn_members
    {members : List α}
    (lists : Enlists ';' (RowEntry.memberRead? member?) (members.map (memberOf name)) row) :
    functionsIn row = members.map name := by
  have all : (entries ';' row).map (fun entry => (member? entry.head, entry.function?))
      = members.map (memberOf name) := by
    rw [← List.filterMap_eq_map]
    exact lists.filterMap_entries
  have functions : (entries ';' row).map RowEntry.function? = members.map (some ∘ name) := by
    have second := congrArg (List.map Prod.snd) all
    rwa [List.map_map, List.map_map] at second
  have declared : (entries ';' row).filterMap RowEntry.function? = members.map name := by
    have picked := congrArg (List.filterMap id) functions
    rwa [List.filterMap_map, List.filterMap_map, Function.id_comp, Function.id_comp,
      List.filterMap_eq_map] at picked
  unfold functionsIn
  split
  · next isStatement =>
      obtain ⟨front, isFront, begins⟩ := List.any_eq_true.mp isStatement
      obtain ⟨rest, rfl⟩ := List.isPrefixOf_iff_prefix.mp begins
      cases members with
      | nil => rfl
      | cons member members =>
          exfalso
          rw [entries, lists.ended] at functions
          obtain ⟨first, more, read, isFunction, -⟩ := List.map_eq_cons_iff.mp functions
          obtain ⟨text, tail, rfl, nothing⟩ := exists_word_of_statement isFront
          have reads : (readEntries ';' ⟨0, ⟨[.word text], none⟩⟩ (tail ++ rest)).1 = first :: more :=
            (List.append_nil _).symm.trans read
          obtain ⟨behind, same⟩ := head_prefix_of_readEntries reads
          have undeclared : first.declared? = none := by
            rw [RowEntry.declared?, ← same]
            exact nothing _
          rw [Function.comp_apply, RowEntry.function?, undeclared] at isFunction
          contradiction
  · exact declared

/-- A word declares nothing where no other is behind it. -/
theorem declaredAhead_of_noName
    (nothing : declaredAhead rest = none)
    (noName : word? rest = none)
    (text : String) :
    declaredAhead (.word text :: rest) = none := by
  unfold declaredAhead
  split
  · exact nothing
  · split
    · cases rest with
      | nil => rfl
      | cons token => cases token <;> first | rfl | contradiction
    · rw [noName]
      split <;> rfl

/-- A balanced row of statements, which holds no function as the items of an implementation. -/
structure HoldsStatements (row : List Token) : Prop where
  balanced : openBehind [] row = some []
  none : functionsIn row = []

/-- A balanced row that begins with a statement holds nothing else. -/
theorem HoldsStatements.behind
    (begins : statementFronts.any (·.isPrefixOf front) = true)
    (balanced : openBehind [] front = some [])
    (balancedRest : openBehind [] rest = some []) :
    HoldsStatements (front ++ rest) := by
  constructor
  · rw [openBehind_append, balanced, Option.bind_some, balancedRest]
  · obtain ⟨statement, isStatement, ahead⟩ := List.any_eq_true.mp begins
    have goesOn : statement <+: front ++ rest :=
      (List.isPrefixOf_iff_prefix.mp ahead).trans (List.prefix_append ..)
    have isBlock : statementFronts.any (·.isPrefixOf (front ++ rest)) = true :=
      List.any_eq_true.mpr ⟨statement, isStatement, List.isPrefixOf_iff_prefix.mpr goesOn⟩
    exact if_pos isBlock

/-- A block whose head declares nothing is a statement. -/
theorem HoldsStatements.block
    (flat : IsFlat ';' front)
    (nothing : declaredAhead (surface 0 front) = Option.none)
    (balanced : openBehind [] rest = some []) :
    HoldsStatements (front ++ .opening .brace :: (rest ++ [.closing .brace])) := by
  have function : RowEntry.function? ⟨front, some rest⟩ = Option.none := by
    rw [RowEntry.function?, RowEntry.declared?, nothing]
    rfl
  have lists : Enlists ';' RowEntry.function? _ _ := Enlists.block flat balanced
  rw [function] at lists
  refine ⟨lists.balanced, ?_⟩
  unfold functionsIn
  split
  · rfl
  · exact lists.filterMap_entries

/-- A row of fields, which holds no function as the items of an implementation. -/
structure HoldsFields (fields : List (String × String)) (row : List Token) : Prop where
  lists : Enlists ',' (fun entry => publicField? entry.head) fields row
  none : functionsIn row = []

/-- A row without entries holds the function that it begins to declare, if it does. -/
theorem functionsIn_of_isFlat
    (flat : IsFlat ';' row)
    (nothing : declaredAhead (surface 0 row) = none) :
    functionsIn row = [] := by
  have whole : entries ';' row = [⟨row, Option.none⟩].filter RowEntry.isSomething := by
    rw [entries, Enlists.readEntries_head flat]
    rfl
  have function : RowEntry.function? ⟨row, Option.none⟩ = Option.none := by
    rw [RowEntry.function?, RowEntry.declared?, nothing]
    rfl
  unfold functionsIn
  split
  · rfl
  · rw [whole, List.filterMap_filter]
    simp [function]

/-- A row of fields. -/
structure ListsFields (fields : List (String × String)) (row : List Token) : Prop where
  lists : Enlists ',' (fun entry => publicField? entry.head) fields row
  flat : IsFlat ';' row

theorem ListsFields.append
    {fields more : List (String × String)}
    (first : ListsFields fields row)
    (second : ListsFields more rest) :
    ListsFields (fields ++ more) (row ++ rest) :=
  ⟨first.lists.append second.lists, first.flat.append second.flat⟩

/-- A row of fields that begins with the name of the first. -/
structure BeginsField (fields : List (String × String)) (row : List Token) : Prop
    extends ListsFields fields row where
  begins : row = [] ∨ ∃ name spacing rest, row = .word "pub" :: .word name :: .mark ':' spacing :: rest

namespace BeginsField

variable {fields more : List (String × String)}

theorem nil : BeginsField [] [] :=
  ⟨⟨.nil, rfl⟩, .inl rfl⟩

theorem append (first : BeginsField fields row) (second : BeginsField more rest) :
    BeginsField (fields ++ more) (row ++ rest) := by
  refine ⟨first.toListsFields.append second.toListsFields, ?_⟩
  rcases first.begins with rfl | ⟨name, spacing, behind, rfl⟩
  · exact second.begins
  · exact .inr ⟨name, spacing, behind ++ rest, rfl⟩

/-- Behind a field there may be attributes in front of the next. -/
theorem append_fields
    (first : BeginsField fields row)
    (something : fields ≠ [])
    (second : ListsFields more rest) :
    BeginsField (fields ++ more) (row ++ rest) := by
  refine ⟨first.toListsFields.append second, ?_⟩
  rcases first.begins with rfl | ⟨name, spacing, behind, rfl⟩
  · exact absurd first.lists.found.symm something
  · exact .inr ⟨name, spacing, behind ++ rest, rfl⟩

/-- Fields are no functions, whatever the first of them is called. -/
theorem holds (fieldRow : BeginsField fields row) : HoldsFields fields row := by
  refine ⟨fieldRow.lists, functionsIn_of_isFlat fieldRow.flat ?_⟩
  rcases fieldRow.begins with rfl | ⟨name, spacing, rest, rfl⟩
  · rfl
  · have nothing : declaredAhead (.word name :: .mark ':' spacing :: surface 0 rest) = none :=
      declaredAhead_of_noName rfl rfl name
    exact nothing

end BeginsField

end Rows

/-! ### Tallies of declarations -/

section Tallies

variable {head inner : List Token}

theorem RowEntry.tally?_function
    {function : String}
    (declares : declaredAhead (surface 0 head) = some ⟨"fn", function⟩)
    (statements : HoldsStatements inner) :
    RowEntry.tally? ⟨head, some inner⟩ = some (.function function) := by
  simp only [tally?, declared?, declares, Option.getD_some, statements.none, Tally.function]

theorem RowEntry.survey?_routine
    {routine : Routine}
    (isRoutine : routine? head = some routine)
    (declares : declaredAhead (surface 0 head) = some ⟨"fn", routine.name⟩)
    (statements : HoldsStatements inner) :
    RowEntry.survey? member? ⟨head, some inner⟩ = some (Outline.survey name (.routine routine)) := by
  rw [survey?, outline?_routine isRoutine, tally?_function declares statements]
  rfl

theorem RowEntry.survey?_struct
    {struct : String}
    {fields : List (String × String)}
    (isStruct : heading? head = some (.struct struct))
    (declares : declaredAhead (surface 0 head) = some ⟨"struct", struct⟩)
    (holds : HoldsFields fields inner) :
    RowEntry.survey? member? ⟨head, some inner⟩ = some (Outline.survey name (.struct struct fields)) := by
  have tally : RowEntry.tally? ⟨head, some inner⟩ = some (.struct struct) := by
    simp only [tally?, declared?, declares, Option.getD_some, holds.none, Tally.struct]
  rw [survey?, outline?_struct isStruct holds.lists, tally]
  rfl

theorem RowEntry.survey?_implementation
    {trait : Option String}
    {owner : String}
    {attributes : List (List String)}
    {members : List α}
    (isImplementation : heading? head = some (.implementation trait owner))
    (attributed : attributePaths head = attributes)
    (nothing : declaredAhead (surface 0 head) = none)
    (lists : Enlists ';' (RowEntry.memberRead? member?) (members.map (memberOf name)) inner) :
    RowEntry.survey? member? ⟨head, some inner⟩
      = some (Outline.survey name (.implementation attributes trait owner members)) := by
  have listed : Enlists ';' (fun entry => member? entry.head) members inner := by
    have picked : Enlists ';' (fun entry => member? entry.head)
        ((members.map (memberOf name)).filterMap Prod.fst) inner :=
      lists.pick fun _ => rfl
    rwa [List.filterMap_map, (funext fun _ => rfl : Prod.fst ∘ memberOf name = some),
      List.filterMap_some] at picked
  have tally : RowEntry.tally? ⟨head, some inner⟩
      = Outline.tally? name (.implementation attributes trait owner members) := by
    simp only [tally?, declared?, nothing, Option.getD_some, lists.functionsIn_members]
    cases members <;> rfl
  rw [survey?, outline?_implementation isImplementation attributed listed, tally]
  rfl

end Tallies

end Scaffold.Source

namespace Scaffold.Artifact

open Source Source.Scan

/-! ### Listings -/

/-- Code whose tokens are known. -/
theorem Sketched.holds
    {holds : List Token → Prop}
    {row : List Token}
    {parts : List Code}
    (sketched : Sketched row parts)
    (known : holds row) :
    Reads holds (parts.flatMap Code.lines) :=
  sketched.reads.mono fun _ same => same ▸ known

/-- Code that begins with a known statement and goes on balanced. -/
theorem Sketched.statements
    {front : List Token}
    {parts below : List Code}
    (sketched : Sketched front parts)
    (begins : statementFronts.any (·.isPrefixOf front) = true)
    (balanced : Token.openBehind [] front = some [])
    (others : Reads (fun row => Token.openBehind [] row = some []) (below.flatMap Code.lines)) :
    Reads HoldsStatements ((parts ++ below).flatMap Code.lines) := by
  rw [List.flatMap_append]
  refine sketched.reads.append ?_
  rintro _ rfl
  exact others.mono fun _ balancedRest => .behind begins balanced balancedRest

namespace Listing

variable
  {α : Type}
  {member? : List Token → Option α}
  {name : α → String}
  {lead head : List Token}
  {parts : List Code}
  {code : Code}

/-- A function whose head is known. -/
theorem routine
    {routine : Routine}
    (leads : Sketched lead parts)
    (blocks : Reads (Blocks (· = head) HoldsStatements) code.lines)
    (flat : IsFlat ';' (lead ++ head))
    (isRoutine : routine? (lead ++ head) = some routine)
    (declares : declaredAhead (Token.surface 0 (lead ++ head)) = some ⟨"fn", routine.name⟩) :
    Listing ';' (RowEntry.survey? member?) [Outline.survey name (.routine routine)] (parts ++ [code]) := by
  refine block leads.reads blocks ?_
  rintro _ _ inner rfl rfl holds
  exact ⟨flat, holds.balanced, congrArg Option.toList (RowEntry.survey?_routine isRoutine declares holds)⟩

/-- What is counted of a function whose head is known. -/
theorem function
    {function : String}
    (leads : Sketched lead parts)
    (blocks : Reads (Blocks (· = head) HoldsStatements) code.lines)
    (flat : IsFlat ';' (lead ++ head))
    (declares : declaredAhead (Token.surface 0 (lead ++ head)) = some ⟨"fn", function⟩) :
    Listing ';' RowEntry.tally? [.function function] (parts ++ [code]) := by
  refine block leads.reads blocks ?_
  rintro _ _ inner rfl rfl holds
  exact ⟨flat, holds.balanced, congrArg Option.toList (RowEntry.tally?_function declares holds)⟩

/-- A structure whose head is known. -/
theorem struct
    {struct : String}
    {fields : List (String × String)}
    (leads : Sketched lead parts)
    (blocks : Reads (Blocks (· = head) (HoldsFields fields)) code.lines)
    (flat : IsFlat ';' (lead ++ head))
    (isStruct : heading? (lead ++ head) = some (.struct struct))
    (declares : declaredAhead (Token.surface 0 (lead ++ head)) = some ⟨"struct", struct⟩) :
    Listing ';' (RowEntry.survey? member?) [Outline.survey name (.struct struct fields)]
      (parts ++ [code]) := by
  refine block leads.reads blocks ?_
  rintro _ _ inner rfl rfl holds
  exact ⟨flat, holds.lists.balanced,
    congrArg Option.toList (RowEntry.survey?_struct isStruct declares holds)⟩

/-- An implementation whose head is known. -/
theorem implementation
    {members : List α}
    {trait : Option String}
    {owner : String}
    {attributes : List (List String)}
    (leads : Sketched lead parts)
    (blocks : Reads
      (Blocks (· = head) (Enlists ';' (RowEntry.memberRead? member?) (members.map (memberOf name))))
      code.lines)
    (flat : IsFlat ';' (lead ++ head))
    (isImplementation : heading? (lead ++ head) = some (.implementation trait owner))
    (attributed : attributePaths (lead ++ head) = attributes)
    (nothing : declaredAhead (Token.surface 0 (lead ++ head)) = none) :
    Listing ';' (RowEntry.survey? member?)
      [Outline.survey name (.implementation attributes trait owner members)] (parts ++ [code]) := by
  refine block leads.reads blocks ?_
  rintro _ _ inner rfl rfl lists
  exact ⟨flat, lists.balanced, congrArg Option.toList
    (RowEntry.survey?_implementation isImplementation attributed nothing lists)⟩

end Listing

end Scaffold.Artifact
