import Scaffold.Proofs.Source.Excerpt

/-!
Contract: what the entries of a row of tokens declare.

Owns:
- the entries of a row: what a separator or a block in braces ends outside of all delimiters;
- what an entry of a file declares: a function, a structure with its public fields, or an
  implementation with its attributes and its members;
- the entries of rows that are put together.

Does not own: where the row comes from.
-/

namespace Scaffold.Source

/-! ### Entries -/

/-- What stands in front of a separator or of a block in braces, and the inside of the block. -/
structure RowEntry where
  head : List Token
  body : Option (List Token)
  deriving DecidableEq, Repr

namespace RowEntry

/-- The entry that nothing was read of. -/
def empty : RowEntry :=
  ⟨[], none⟩

/-- The entry with one more token: in its block, if that has begun. -/
def push (entry : RowEntry) (token : Token) : RowEntry :=
  match entry.body with
  | none => ⟨entry.head ++ [token], none⟩
  | some body => ⟨entry.head, some (body ++ [token])⟩

/-- Is there anything in the entry? -/
def isSomething (entry : RowEntry) : Bool :=
  !entry.head.isEmpty || entry.body.isSome

end RowEntry

/-- Where the reading of entries stands: inside of so many delimiters, with this much of an entry. -/
structure EntryState where
  depth : Nat
  entry : RowEntry
  deriving DecidableEq, Repr

namespace EntryState

/-- Nothing was read. -/
def start : EntryState :=
  ⟨0, .empty⟩

/-- The token belongs to the entry. -/
def push (state : EntryState) (depth : Nat) (token : Token) : Option RowEntry × EntryState :=
  (none, ⟨depth, state.entry.push token⟩)

/-- The entry that a token ends, if it does, and where the reading stands behind it. -/
def step (separator : Char) (state : EntryState) : Token → Option RowEntry × EntryState
  | .mark char spacing =>
      if state.depth = 0 ∧ char = separator then (some state.entry, start)
      else state.push state.depth (.mark char spacing)
  | .opening delimiter =>
      if state.depth = 0 ∧ delimiter = .brace then (none, ⟨1, ⟨state.entry.head, some []⟩⟩)
      else state.push (state.depth + 1) (.opening delimiter)
  | .closing delimiter =>
      if state.depth = 1 ∧ state.entry.body.isSome then (some state.entry, start)
      else state.push (state.depth - 1) (.closing delimiter)
  | token => state.push state.depth token

end EntryState

/-- The entries that a row ends, and where the reading stands behind it. -/
def readEntries (separator : Char) (state : EntryState) : List Token → List RowEntry × EntryState
  | [] => ([], state)
  | token :: rest =>
      let step := state.step separator token
      let behind := readEntries separator step.2 rest
      (step.1.toList ++ behind.1, behind.2)

/-- The entries of a row: each ends with a separator or with a block in braces, outside of all
delimiters. The last needs no separator. -/
def entries (separator : Char) (row : List Token) : List RowEntry :=
  let read := readEntries separator .start row
  read.1 ++ [read.2.entry].filter RowEntry.isSomething

/-! ### Declarations -/

namespace Token

/-- A token without what a row is not read for: how a mark runs into what follows, unless it is a colon,
and what a literal spells. -/
def sketch : Token → Token
  | .mark char spacing => .mark char (if char = ':' then spacing else .alone)
  | .literal _ => .literal ""
  | token => token

/-- The text of a token; a blank follows a comma. -/
def spelled : Token → String
  | .word text | .literal text => text
  | .mark char _ => if char = ',' then ", " else char.toString
  | .opening delimiter => delimiter.openingText
  | .closing delimiter => delimiter.closingText

end Token

/-- A function, as its head declares it. -/
structure Routine where
  isAsync : Bool
  name : String
  deriving DecidableEq, Repr

/-- What a head declares. -/
inductive Heading where
  | routine (routine : Routine)
  | struct (name : String)
  | implementation (trait : Option String) (owner : String)
  deriving DecidableEq, Repr

/-- The word in front of a row. -/
def word? : List Token → Option String
  | .word text :: _ => some text
  | _ => none

/-- What stands behind a list in angle brackets that holds no other. -/
def behindAngle : List Token → List Token
  | .mark char _ :: rest => if char = '>' then rest else behindAngle rest
  | _ :: rest => behindAngle rest
  | [] => []

/-- What stands behind the generic parameters in front of a row. -/
def behindParameters : List Token → List Token
  | .mark char spacing :: rest => if char = '<' then behindAngle rest else .mark char spacing :: rest
  | row => row

/-- The trait and the type of an implementation, behind its generic parameters. -/
def implementation? : List Token → Option Heading
  | .word first :: .word between :: .word second :: _ =>
      if between = "for" then some (.implementation (some first) second)
      else some (.implementation none first)
  | .word owner :: _ => some (.implementation none owner)
  | _ => none

/-- What a head declares, behind a word that may make a function async. -/
def headingBehind (isAsync : Bool) : List Token → Option Heading
  | [] => none
  | .word lead :: rest =>
      if lead = "async" then headingBehind true rest
      else if lead = "fn" then (word? rest).map fun name => .routine ⟨isAsync, name⟩
      else if lead = "struct" then (word? rest).map .struct
      else if lead = "impl" then implementation? (behindParameters rest)
      else if lead = "use" then none
      else headingBehind false rest
  | _ :: rest => headingBehind false rest

/-- What a head declares. -/
def heading? (head : List Token) : Option Heading :=
  headingBehind false head

/-- The function that a head declares. -/
def routine? (head : List Token) : Option Routine :=
  match heading? head with
  | some (.routine routine) => some routine
  | _ => none

/-- The names of the path in front of a row. -/
def pathAhead : List Token → List String
  | .word name :: .mark ':' .joint :: .mark ':' _ :: rest => name :: pathAhead rest
  | .word name :: _ => [name]
  | _ => []

/-- The paths of the attributes in a head. -/
def attributePaths : List Token → List (List String)
  | .mark '#' _ :: .opening .bracket :: rest => pathAhead rest :: attributePaths rest
  | _ :: rest => attributePaths rest
  | [] => []

/-- The name in front of a colon, and what stands behind it. -/
def annotation? : List Token → Option (String × List Token)
  | .word name :: .mark char _ :: type => if char = ':' then some (name, type) else none
  | _ => none

/-- The name and the type of a public field. -/
def publicField? : List Token → Option (String × String)
  | .word lead :: rest =>
      if lead = "pub" then
        (annotation? rest).map fun found => (found.1, String.join (found.2.map Token.spelled))
      else publicField? rest
  | _ :: rest => publicField? rest
  | [] => none

/-- The name of an input; a receiver has none. -/
def inputName? (head : List Token) : Option String :=
  (annotation? head).map Prod.fst

/-- The names of the inputs of a function. -/
def inputs : List Token → List String
  | .opening .parenthesis :: rest =>
      match Token.splitGroup 0 rest with
      | some (inside, _) => (entries ',' inside).filterMap fun entry => inputName? entry.head
      | none => []
  | _ :: rest => inputs rest
  | [] => []

/-- The function that a head declares, and the names of its inputs. -/
def endpoint? (head : List Token) : Option (Routine × List String) :=
  (routine? head).map fun routine => (routine, inputs head)

/-- A declaration of a file, with what is read of the heads of its members. -/
inductive Outline (α : Type) where
  | routine (routine : Routine)
  | struct (name : String) (fields : List (String × String))
  | implementation (attributes : List (List String)) (trait : Option String) (owner : String)
      (members : List α)
  deriving DecidableEq, Repr

variable {α : Type}

/-- What an entry of a file declares. -/
def RowEntry.outline? (member? : List Token → Option α) (entry : RowEntry) : Option (Outline α) :=
  let body := entry.body.getD []
  match heading? entry.head with
  | some (.routine routine) => some (.routine routine)
  | some (.struct name) =>
      some (.struct name ((entries ',' body).filterMap fun entry => publicField? entry.head))
  | some (.implementation trait owner) =>
      some (.implementation (attributePaths entry.head) trait owner
        ((entries ';' body).filterMap fun entry => member? entry.head))
  | none => none

/-- May a token stand in a head, where `pending` are open in front of it? -/
def isFlatAhead (separator : Char) (pending : List Delimiter) (token : Token) : Bool :=
  match pending, token with
  | [], .mark char _ => char != separator
  | [], .opening .brace => false
  | _, _ => true

/-- The delimiters that are open behind a row, where `pending` are open in front of it; nothing if the
row ends an entry. -/
def flatBehind (separator : Char) (pending : List Delimiter) : List Token → Option (List Delimiter)
  | [] => some pending
  | token :: rest =>
      if isFlatAhead separator pending token then
        (Token.openBehind pending [token]).bind fun after => flatBehind separator after rest
      else none

/-- Nothing in the row ends an entry, and it leaves nothing open. -/
def IsFlat (separator : Char) (row : List Token) : Prop :=
  flatBehind separator [] row = some []

instance (separator : Char) (row : List Token) : Decidable (IsFlat separator row) :=
  inferInstanceAs (Decidable (_ = _))

section Flat

variable
  {separator : Char}
  {pending after : List Delimiter}
  {row rest : List Token}

theorem flatBehind_append :
    flatBehind separator pending (row ++ rest)
      = (flatBehind separator pending row).bind fun between => flatBehind separator between rest := by
  induction row generalizing pending with
  | nil => rfl
  | cons token row inductionHypothesis =>
      rw [List.cons_append, flatBehind, flatBehind]
      split
      · rw [Option.bind_assoc]
        exact congrArg _ (funext fun between => inductionHypothesis)
      · rfl

theorem IsFlat.append (first : IsFlat separator row) (second : IsFlat separator rest) :
    IsFlat separator (row ++ rest) := by
  rw [IsFlat, flatBehind_append, first, Option.bind_some, second]

theorem openBehind_of_flatBehind (flat : flatBehind separator pending row = some after) :
    Token.openBehind pending row = some after := by
  induction row generalizing pending with
  | nil => exact flat
  | cons token row inductionHypothesis =>
      obtain ⟨-, flat⟩ := Option.ite_none_right_eq_some.mp flat
      obtain ⟨between, opened, flat⟩ := Option.bind_eq_some_iff.mp flat
      rw [← List.singleton_append, Token.openBehind_append, opened, Option.bind_some]
      exact inductionHypothesis flat

theorem IsFlat.balanced (flat : IsFlat separator row) : Token.openBehind [] row = some [] :=
  openBehind_of_flatBehind flat

/-- Inside of a delimiter everything balanced is flat. -/
theorem flatBehind_of_openBehind
    (opened : Token.openBehind pending row = some after)
    (separator : Char)
    (outer : Delimiter) :
    flatBehind separator (pending ++ [outer]) row = some (after ++ [outer]) := by
  induction row generalizing pending with
  | nil =>
      cases opened
      rfl
  | cons token row inductionHypothesis =>
      rw [← List.singleton_append, Token.openBehind_append] at opened
      obtain ⟨between, first, opened⟩ := Option.bind_eq_some_iff.mp opened
      have isFlat : isFlatAhead separator (pending ++ [outer]) token = true := by
        cases pending <;> rfl
      rw [flatBehind, if_pos isFlat, Token.openBehind_frame first [outer], Option.bind_some]
      exact inductionHypothesis opened

/-- A group that is not one in braces. -/
theorem IsFlat.group
    {delimiter : Delimiter}
    (noBrace : delimiter ≠ .brace)
    (inside : Token.openBehind [] row = some []) :
    IsFlat separator (.opening delimiter :: (row ++ [.closing delimiter])) := by
  have isFlat : isFlatAhead separator [] (.opening delimiter) = true := by
    cases delimiter with
    | parenthesis | bracket => rfl
    | brace => contradiction
  have between := flatBehind_of_openBehind inside separator delimiter
  rw [IsFlat, flatBehind, if_pos isFlat]
  show flatBehind separator [delimiter] _ = _
  rw [flatBehind_append, List.nil_append] at *
  rw [between, Option.bind_some]
  cases delimiter <;> rfl

/-- Flatness looks at delimiters and at the characters of marks alone. -/
theorem flatBehind_map
    {change : Token → Token}
    (sameFlat : ∀ pending token,
      isFlatAhead separator pending (change token) = isFlatAhead separator pending token)
    (sameOpen : ∀ pending token,
      Token.openBehind pending [change token] = Token.openBehind pending [token]) :
    flatBehind separator pending (row.map change) = flatBehind separator pending row := by
  induction row generalizing pending with
  | nil => rfl
  | cons token row inductionHypothesis =>
      simp only [List.map_cons, flatBehind, sameFlat, sameOpen, inductionHypothesis]

theorem isFlat_map_bare : IsFlat separator (row.map Token.bare) ↔ IsFlat separator row := by
  rw [IsFlat, IsFlat, flatBehind_map]
  · intro pending token
    cases pending <;> cases token <;> rfl
  · intro pending token
    cases token <;> rfl

theorem isFlat_map_sketch : IsFlat separator (row.map Token.sketch) ↔ IsFlat separator row := by
  rw [IsFlat, IsFlat, flatBehind_map]
  · intro pending token
    cases pending <;> cases token <;> rfl
  · intro pending token
    cases token <;> rfl

end Flat

/-! ### Entries of rows that are put together -/

section Entries

variable
  {separator : Char}
  {pending after : List Delimiter}
  {head body row rest : List Token}

theorem readEntries_cons (state : EntryState) (token : Token) (rest : List Token) :
    readEntries separator state (token :: rest)
      = ((state.step separator token).1.toList
          ++ (readEntries separator (state.step separator token).2 rest).1,
        (readEntries separator (state.step separator token).2 rest).2) :=
  rfl

theorem readEntries_append (state : EntryState) :
    readEntries separator state (row ++ rest)
      = ((readEntries separator state row).1
          ++ (readEntries separator (readEntries separator state row).2 rest).1,
        (readEntries separator (readEntries separator state row).2 rest).2) := by
  induction row generalizing state with
  | nil => rfl
  | cons token row inductionHypothesis =>
      rw [List.cons_append, readEntries_cons, readEntries_cons, inductionHypothesis,
        List.append_assoc]

/-- A row in a head goes into the head. -/
theorem readEntries_flat
    (flat : flatBehind separator pending row = some after)
    (head : List Token) :
    readEntries separator ⟨pending.length, head, none⟩ row
      = ([], ⟨after.length, head ++ row, none⟩) := by
  induction row generalizing pending head with
  | nil =>
      cases flat
      rw [List.append_nil]
      rfl
  | cons token row inductionHypothesis =>
      obtain ⟨isFlat, flat⟩ := Option.ite_none_right_eq_some.mp flat
      obtain ⟨between, opened, flat⟩ := Option.bind_eq_some_iff.mp flat
      have step : EntryState.step separator ⟨pending.length, head, none⟩ token
          = (none, ⟨between.length, head ++ [token], none⟩) := by
        cases token with
        | word | literal =>
            cases opened
            rfl
        | mark char spacing =>
            cases opened
            refine if_neg ?_
            rintro ⟨outside, same⟩
            rw [List.eq_nil_of_length_eq_zero outside, isFlatAhead, same, bne_self_eq_false] at isFlat
            contradiction
        | opening delimiter =>
            cases opened
            refine if_neg ?_
            rintro ⟨outside, rfl⟩
            rw [List.eq_nil_of_length_eq_zero outside] at isFlat
            contradiction
        | closing delimiter =>
            cases pending with
            | nil => contradiction
            | cons innermost outer =>
                obtain ⟨rfl, same⟩ := Option.ite_none_right_eq_some.mp opened
                cases same
                exact if_neg (by simp)
      rw [readEntries_cons, step, inductionHypothesis flat, List.append_assoc]
      rfl

/-- A balanced row in a block goes into the block. -/
theorem readEntries_inside
    (opened : Token.openBehind pending row = some after)
    (separator : Char)
    (head body : List Token) :
    readEntries separator ⟨pending.length + 1, head, some body⟩ row
      = ([], ⟨after.length + 1, head, some (body ++ row)⟩) := by
  induction row generalizing pending body with
  | nil =>
      cases opened
      rw [List.append_nil]
      rfl
  | cons token row inductionHypothesis =>
      rw [← List.singleton_append, Token.openBehind_append] at opened
      obtain ⟨between, first, opened⟩ := Option.bind_eq_some_iff.mp opened
      have step : EntryState.step separator ⟨pending.length + 1, head, some body⟩ token
          = (none, ⟨between.length + 1, head, some (body ++ [token])⟩) := by
        cases token with
        | word | literal | mark | opening =>
            cases first
            rfl
        | closing delimiter =>
            cases pending with
            | nil => contradiction
            | cons innermost outer =>
                obtain ⟨rfl, same⟩ := Option.ite_none_right_eq_some.mp first
                cases same
                rfl
      rw [readEntries_cons, step, inductionHypothesis opened, List.append_assoc]
      rfl

/-- The row is one of whole entries, and what is read of these is `found`. -/
structure Enlists
    {α : Type}
    (separator : Char)
    (read : RowEntry → Option α)
    (found : List α)
    (row : List Token) : Prop where
  balanced : Token.openBehind [] row = some []
  ended : (readEntries separator .start row).2 = .start
  found : (readEntries separator .start row).1.filterMap read = found

namespace Enlists

variable
  {α : Type}
  {read : RowEntry → Option α}
  {front back : List α}

theorem nil : Enlists separator read [] [] :=
  ⟨rfl, rfl, rfl⟩

theorem append
    (first : Enlists separator read front row)
    (second : Enlists separator read back rest) :
    Enlists separator read (front ++ back) (row ++ rest) := by
  refine ⟨?_, ?_, ?_⟩
  · rw [Token.openBehind_append, first.balanced, Option.bind_some, second.balanced]
  · rw [readEntries_append, first.ended]
    exact second.ended
  · rw [readEntries_append, first.ended, List.filterMap_append, first.found, second.found]

theorem of_readEntries
    {entry : RowEntry}
    (balanced : Token.openBehind [] row = some [])
    (whole : readEntries separator .start row = ([entry], .start)) :
    Enlists separator read (read entry).toList row := by
  refine ⟨balanced, by rw [whole], ?_⟩
  rw [whole, List.filterMap_cons, List.filterMap_nil]
  cases read entry <;> rfl

theorem readEntries_head (flat : IsFlat separator head) :
    readEntries separator .start head = ([], ⟨0, head, none⟩) :=
  readEntries_flat flat []

/-- An entry in front of its separator. -/
theorem separated
    (flat : IsFlat separator head)
    (spacing : Spacing) :
    Enlists separator read (read ⟨head, none⟩).toList (head ++ [.mark separator spacing]) := by
  apply of_readEntries
  · rw [Token.openBehind_append, flat.balanced]
    rfl
  · have last : EntryState.step separator ⟨0, head, none⟩ (.mark separator spacing)
        = (some ⟨head, none⟩, .start) := if_pos ⟨rfl, rfl⟩
    rw [readEntries_append, readEntries_head flat, readEntries_cons, last]
    rfl

/-- An entry that a block ends. -/
theorem block
    (flat : IsFlat separator head)
    (balanced : Token.openBehind [] body = some []) :
    Enlists separator read (read ⟨head, some body⟩).toList
      (head ++ .opening .brace :: (body ++ [.closing .brace])) := by
  apply of_readEntries
  · have inside := Token.openBehind_frame balanced [.brace]
    rw [List.nil_append] at inside
    rw [Token.openBehind_append, flat.balanced, Option.bind_some]
    show Token.openBehind [.brace] (body ++ _) = _
    rw [Token.openBehind_append, inside]
    rfl
  · have first : EntryState.step separator ⟨0, head, none⟩ (.opening .brace)
        = (none, ⟨1, head, some []⟩) := rfl
    have inside : readEntries separator ⟨1, head, some []⟩ body = ([], ⟨1, head, some body⟩) :=
      readEntries_inside balanced separator head []
    rw [readEntries_append, readEntries_head flat, readEntries_cons, first, readEntries_append, inside]
    rfl

/-- Entries whose first begins with a head. -/
theorem behind
    (flat : IsFlat separator head)
    (balanced : Token.openBehind [] rest = some [])
    (ended : (readEntries separator ⟨0, head, none⟩ rest).2 = .start)
    (reads : (readEntries separator ⟨0, head, none⟩ rest).1.filterMap read = front) :
    Enlists separator read front (head ++ rest) := by
  have whole : readEntries separator .start (head ++ rest)
      = readEntries separator ⟨0, head, none⟩ rest := by
    rw [readEntries_append, readEntries_head flat]
    rfl
  refine ⟨?_, by rw [whole, ended], by rw [whole, reads]⟩
  rw [Token.openBehind_append, flat.balanced, Option.bind_some, balanced]

/-- What is read of the entries of such a row. -/
theorem filterMap_entries (lists : Enlists separator read front row) :
    (entries separator row).filterMap read = front := by
  rw [entries, lists.ended, List.filterMap_append, lists.found]
  exact List.append_nil front

/-- The last entry needs no separator behind itself. -/
theorem filterMap_entries_append
    (lists : Enlists separator read front row)
    (flat : IsFlat separator head)
    (something : head ≠ []) :
    (entries separator (row ++ head)).filterMap read = front ++ (read ⟨head, none⟩).toList := by
  have isSomething : RowEntry.isSomething ⟨head, none⟩ = true := by simp [RowEntry.isSomething, something]
  have last : [EntryState.entry ⟨0, head, none⟩].filter RowEntry.isSomething = [⟨head, none⟩] :=
    List.filter_cons_of_pos isSomething
  rw [entries, readEntries_append, lists.ended, readEntries_head flat, List.append_nil, last,
    List.filterMap_append, lists.found, List.filterMap_cons, List.filterMap_nil]
  cases read ⟨head, none⟩ <;> rfl

end Enlists

end Entries

/-! ### Inputs -/

/-- The row in front of what closes a group. -/
theorem Token.splitGroup_of_openBehind
    {pending : List Delimiter}
    {row : List Token}
    (opened : Token.openBehind pending row = some [])
    (delimiter : Delimiter)
    (rest : List Token) :
    Token.splitGroup pending.length (row ++ .closing delimiter :: rest) = some (row, rest) := by
  induction row generalizing pending with
  | nil =>
      cases opened
      rfl
  | cons token row inductionHypothesis =>
      have kept {parts : Option (List Token × List Token)} (same : parts = some (row, rest)) :
          parts.map (fun parts => (token :: parts.1, parts.2)) = some (token :: row, rest) := by
        rw [same]
        rfl
      cases token with
      | word | literal | mark | opening => exact kept (inductionHypothesis opened)
      | closing inner =>
          cases pending with
          | nil => contradiction
          | cons innermost outer =>
              obtain ⟨-, opened⟩ := Option.ite_none_right_eq_some.mp opened
              exact kept (inductionHypothesis opened)

/-- The inputs of a function whose first group holds their declarations. -/
theorem inputs_group
    {inside : List Token}
    (balanced : Token.openBehind [] inside = some [])
    (rest : List Token) :
    inputs (.opening .parenthesis :: (inside ++ .closing .parenthesis :: rest))
      = (entries ',' inside).filterMap fun entry => inputName? entry.head := by
  have split := Token.splitGroup_of_openBehind balanced .parenthesis rest
  rw [List.length_nil] at split
  simp only [inputs, split]

/-! ### Declarations with a block -/

section Outline

variable
  {α : Type}
  {member? : List Token → Option α}
  {head body : List Token}

theorem RowEntry.outline?_routine
    {routine : Routine}
    (isRoutine : routine? head = some routine) :
    RowEntry.outline? member? ⟨head, some body⟩ = some (.routine routine) := by
  unfold routine? at isRoutine
  unfold RowEntry.outline?
  split at isRoutine
  · next is =>
      cases isRoutine
      simp only [is]
  · contradiction

theorem RowEntry.outline?_struct
    {name : String}
    {fields : List (String × String)}
    (isStruct : heading? head = some (.struct name))
    (lists : Enlists ',' (fun entry => publicField? entry.head) fields body) :
    RowEntry.outline? member? ⟨head, some body⟩ = some (.struct name fields) := by
  simp only [RowEntry.outline?, isStruct, Option.getD_some, lists.filterMap_entries]

theorem RowEntry.outline?_implementation
    {trait : Option String}
    {owner : String}
    {attributes : List (List String)}
    {members : List α}
    (isImplementation : heading? head = some (.implementation trait owner))
    (attributed : attributePaths head = attributes)
    (lists : Enlists ';' (fun entry => member? entry.head) members body) :
    RowEntry.outline? member? ⟨head, some body⟩
      = some (.implementation attributes trait owner members) := by
  simp only [RowEntry.outline?, isImplementation, attributed, Option.getD_some, lists.filterMap_entries]

end Outline

end Scaffold.Source
