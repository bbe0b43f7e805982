import Scaffold.Proofs.Source.Depth.Ending
import Scaffold.Proofs.Source.Entries

/-!
Contract: what the front of an entry declares.

Owns:
- the tokens of a row outside of all groups;
- the keyword and the name that an entry declares, read from its front alone;
- rows that stay in one head, rows that end an entry, and fronts, which declare nothing by themselves.

Does not own: which items a row is read as.
-/

namespace Scaffold.Source

open Token

/-! ### Declarations -/

/-- The tokens outside of all groups, where `level` groups are open in front of the row. -/
def Token.surface (level : Nat) : List Token → List Token
  | [] => []
  | .opening _ :: rest => surface (level + 1) rest
  | .closing _ :: rest => surface (level - 1) rest
  | token :: rest => if level = 0 then token :: surface 0 rest else surface level rest

/-- A declaration, by its keyword and its name. -/
structure Declared where
  keyword : String
  name : String
  deriving DecidableEq, Repr

/-- The words that may stand in front of a declaration's keyword. -/
def modifierWords : List String :=
  ["pub", "default", "async", "unsafe", "extern"]

/-- The words behind which the word for constants qualifies a function. -/
def qualifiedWords : List String :=
  ["async", "unsafe", "extern", "fn"]

/-- The declaration that a row begins with, behind its attributes and modifiers: a structure, a
function or a constant. -/
def declaredAhead : List Token → Option Declared
  | .mark char _ :: rest => if char = '#' ∨ char = '!' then declaredAhead rest else none
  | .literal _ :: rest => declaredAhead rest
  | .word text :: rest =>
      if modifierWords.contains text then declaredAhead rest
      else if text = "const" then
        match rest with
        | .word next :: _ =>
            if qualifiedWords.contains next then declaredAhead rest else some ⟨"const", next⟩
        | _ => none
      else if text = "struct" ∨ text = "fn" then (word? rest).map fun name => ⟨text, name⟩
      else none
  | _ => none

/-- What an entry declares. -/
def RowEntry.declared? (entry : RowEntry) : Option Declared :=
  declaredAhead (surface 0 entry.head)

/-- The name of a function. -/
def Declared.function? (declared : Declared) : Option String :=
  if declared.keyword = "fn" then some declared.name else none

/-- The name of the function that an entry declares. -/
def RowEntry.function? (entry : RowEntry) : Option String :=
  entry.declared?.bind Declared.function?

/-- What the statements of functions begin with, and no item of an implementation: a variable, and the
call that makes a router. -/
def statementFronts : List (List Token) :=
  [[.word "let"],
    [.word "Router", .mark ':' .joint, .mark ':' .alone, .word "new", .opening .parenthesis]]

/-- The functions that a row declares, read as the items of an implementation. -/
def functionsIn (row : List Token) : List String :=
  if statementFronts.any (·.isPrefixOf row) then []
  else (entries ';' row).filterMap RowEntry.function?

theorem surface_append
    {level after : Nat}
    {row : List Token}
    (opened : levelBehind level row = some after)
    (rest : List Token) :
    surface level (row ++ rest) = surface level row ++ surface after rest := by
  induction row generalizing level with
  | nil =>
      cases opened
      rfl
  | cons token row inductionHypothesis =>
      cases token with
      | opening => exact inductionHypothesis opened
      | closing =>
          cases level with
          | zero => contradiction
          | succ outer => exact inductionHypothesis opened
      | word | mark | literal =>
          by_cases outside : level = 0
          · subst outside
            exact congrArg (_ :: ·) (inductionHypothesis opened)
          · simp only [List.cons_append, surface, if_neg outside]
            exact inductionHypothesis opened

/-! ### Reading inside of groups -/

namespace RowEntry

/-- The entry with more tokens. -/
def extend (entry : RowEntry) (row : List Token) : RowEntry :=
  row.foldl push entry

theorem extend_head (head row : List Token) : extend ⟨head, none⟩ row = ⟨head ++ row, none⟩ := by
  induction row generalizing head with
  | nil => rw [List.append_nil]; rfl
  | cons token row inductionHypothesis =>
      have step : extend ⟨head, none⟩ (token :: row) = extend ⟨head ++ [token], none⟩ row := rfl
      rw [step, inductionHypothesis, List.append_assoc]
      rfl

theorem extend_body (head body row : List Token) :
    extend ⟨head, some body⟩ row = ⟨head, some (body ++ row)⟩ := by
  induction row generalizing body with
  | nil => rw [List.append_nil]; rfl
  | cons token row inductionHypothesis =>
      have step : extend ⟨head, some body⟩ (token :: row) = extend ⟨head, some (body ++ [token])⟩ row := rfl
      rw [step, inductionHypothesis, List.append_assoc]
      rfl

theorem head_prefix_push (entry : RowEntry) (token : Token) :
    entry.head <+: (entry.push token).head := by
  unfold push
  split
  · exact List.prefix_append ..
  · exact List.prefix_rfl

theorem body_push (entry : RowEntry) (token : Token) :
    (entry.push token).body.isSome = entry.body.isSome := by
  unfold push
  split
  · next none => rw [none]
  · next some => rw [some]; rfl

end RowEntry

section Reading

variable
  {separator : Char}
  {level after : Nat}
  {row rest front inside : List Token}
  {entry : RowEntry}
  {token : Token}

theorem readEntries_push
    {depth : Nat}
    (pushes : EntryState.step separator ⟨level, entry⟩ token = EntryState.push ⟨level, entry⟩ depth token)
    (rest : List Token) :
    readEntries separator ⟨level, entry⟩ (token :: rest)
      = readEntries separator ⟨depth, entry.push token⟩ rest := by
  rw [readEntries_cons, pushes]
  rfl

theorem step_mark {char : Char} (goesOn : ¬(level = 0 ∧ char = separator)) (spacing : Spacing) :
    EntryState.step separator ⟨level, entry⟩ (.mark char spacing)
      = EntryState.push ⟨level, entry⟩ level (.mark char spacing) :=
  if_neg goesOn

theorem step_opening {delimiter : Delimiter} (goesOn : ¬(level = 0 ∧ delimiter = .brace)) :
    EntryState.step separator ⟨level, entry⟩ (.opening delimiter)
      = EntryState.push ⟨level, entry⟩ (level + 1) (.opening delimiter) :=
  if_neg goesOn

theorem step_closing (goesOn : ¬(level = 1 ∧ entry.body.isSome)) (delimiter : Delimiter) :
    EntryState.step separator ⟨level, entry⟩ (.closing delimiter)
      = EntryState.push ⟨level, entry⟩ (level - 1) (.closing delimiter) :=
  if_neg goesOn

/-- Inside of a group everything goes into the entry. -/
theorem readEntries_within
    (opened : levelBehind level row = some after)
    (separator : Char)
    (entry : RowEntry) :
    readEntries separator ⟨level + 1, entry⟩ row = ([], ⟨after + 1, entry.extend row⟩) := by
  induction row generalizing level entry with
  | nil =>
      cases opened
      rfl
  | cons token row inductionHypothesis =>
      cases token with
      | word | literal =>
          rw [readEntries_push rfl]
          exact inductionHypothesis opened _
      | mark =>
          rw [readEntries_push (step_mark (by simp) _)]
          exact inductionHypothesis opened _
      | opening =>
          rw [readEntries_push (step_opening (by simp))]
          exact inductionHypothesis opened _
      | closing =>
          cases level with
          | zero => contradiction
          | succ outer =>
              rw [readEntries_push (step_closing (by simp) _)]
              exact inductionHypothesis opened _

/-! ### Rows in a head -/

/-- Nothing in the row ends an entry or begins its block. -/
def StaysInHead (row : List Token) : Prop :=
  ∀ head, readEntries ';' ⟨0, head, none⟩ row = ([], ⟨0, head ++ row, none⟩)

namespace StaysInHead

theorem nil : StaysInHead [] := fun head => by
  rw [List.append_nil]
  rfl

theorem append (first : StaysInHead row) (second : StaysInHead rest) : StaysInHead (row ++ rest) := by
  intro head
  rw [readEntries_append, first, second, List.append_assoc]
  rfl

theorem word (text : String) : StaysInHead [.word text] := fun _ => rfl

theorem literal (text : String) : StaysInHead [.literal text] := fun _ => rfl

theorem mark {char : Char} (noSeparator : char ≠ ';') (spacing : Spacing) :
    StaysInHead [.mark char spacing] :=
  fun _ => readEntries_push (step_mark (fun ends => noSeparator ends.2) spacing) []

/-- A group that is not one in braces. -/
theorem group
    {opening : Delimiter}
    (noBrace : opening ≠ .brace)
    (whole : IsWhole inside)
    (closing : Delimiter) :
    StaysInHead (.opening opening :: (inside ++ [.closing closing])) := by
  intro head
  have closes (head : List Token) :
      readEntries ';' ⟨1, head, none⟩ [.closing closing] = ([], ⟨0, head ++ [.closing closing], none⟩) :=
    readEntries_push (step_closing (by simp) closing) []
  have opened : RowEntry.push ⟨head, none⟩ (.opening opening) = ⟨head ++ [.opening opening], none⟩ := rfl
  rw [readEntries_push (step_opening fun begins => noBrace begins.2), readEntries_append,
    readEntries_within whole.level, opened, RowEntry.extend_head, closes]
  simp

end StaysInHead

/-! ### Rows over several entries -/

/-- The reading of entries leaves an entry open inside of `after` groups, and goes on in the first entry
that it ends, or in the one that it leaves. -/
def ReadsOn
    (separator : Char)
    (level : Nat)
    (entry : RowEntry)
    (row : List Token)
    (after : Nat) : Prop :=
  ∃ read last, readEntries separator ⟨level, entry⟩ row = (read, ⟨after, last⟩)
    ∧ (last.body.isSome → 1 ≤ after) ∧ entry.head <+: (read.head?.getD last).head

theorem ReadsOn.pushed
    {between : Nat}
    (pushes : EntryState.step separator ⟨level, entry⟩ token = EntryState.push ⟨level, entry⟩ between token)
    (readsOn : ReadsOn separator between (entry.push token) row after) :
    ReadsOn separator level entry (token :: row) after := by
  obtain ⟨read, last, reads, inBlock, grows⟩ := readsOn
  exact ⟨read, last, (readEntries_push pushes row).trans reads, inBlock,
    (entry.head_prefix_push token).trans grows⟩

theorem ReadsOn.ended
    (ends : EntryState.step separator ⟨level, entry⟩ token = (some entry, .start))
    (readsOn : ReadsOn separator 0 .empty row after) :
    ReadsOn separator level entry (token :: row) after := by
  obtain ⟨read, last, reads, inBlock, -⟩ := readsOn
  refine ⟨entry :: read, last, ?_, inBlock, List.prefix_rfl⟩
  rw [readEntries_cons, ends, EntryState.start, reads]
  rfl

theorem readsOn_of_levelBehind
    (opened : levelBehind level row = some after)
    (separator : Char)
    (inBlock : entry.body.isSome → 1 ≤ level) :
    ReadsOn separator level entry row after := by
  induction row generalizing level entry with
  | nil =>
      cases opened
      exact ⟨[], entry, rfl, inBlock, List.prefix_rfl⟩
  | cons token row inductionHypothesis =>
      have nothing : RowEntry.empty.body.isSome → 1 ≤ 0 := by simp [RowEntry.empty]
      cases token with
      | word | literal =>
          exact .pushed rfl (inductionHypothesis opened (entry.body_push _ ▸ inBlock))
      | mark char spacing =>
          by_cases ends : level = 0 ∧ char = separator
          · obtain ⟨rfl, rfl⟩ := ends
            exact .ended (if_pos ⟨rfl, rfl⟩) (inductionHypothesis opened nothing)
          · exact .pushed (step_mark ends spacing) (inductionHypothesis opened (entry.body_push _ ▸ inBlock))
      | opening delimiter =>
          by_cases begins : level = 0 ∧ delimiter = .brace
          · obtain ⟨rfl, rfl⟩ := begins
            have block : ((⟨entry.head, some []⟩ : RowEntry).body.isSome → 1 ≤ 1) := fun _ => Nat.le_refl 1
            obtain ⟨read, last, reads, inBlock, grows⟩ := inductionHypothesis opened block
            exact ⟨read, last, reads, inBlock, grows⟩
          · exact .pushed (step_opening begins) (inductionHypothesis opened fun _ => Nat.succ_pos level)
      | closing delimiter =>
          cases level with
          | zero => contradiction
          | succ outer =>
              by_cases ends : outer + 1 = 1 ∧ entry.body.isSome
              · have same : outer = 0 := Nat.succ.inj ends.1
                exact .ended (if_pos ends) (inductionHypothesis (same ▸ opened) nothing)
              · refine .pushed (step_closing ends delimiter)
                  (inductionHypothesis opened fun isSome => ?_)
                rw [entry.body_push] at isSome
                exact Nat.pos_of_ne_zero fun same => ends ⟨congrArg Nat.succ same, isSome⟩

/-- A whole row behind the beginning of a head leaves a head open. -/
theorem exists_readEntries_of_isWhole
    (whole : IsWhole row)
    (head : List Token) :
    ∃ read last, readEntries ';' ⟨0, head, none⟩ row = (read, ⟨0, last, none⟩)
      ∧ head <+: (read.head?.getD ⟨last, none⟩).head := by
  obtain ⟨read, ⟨last, body⟩, reads, inBlock, grows⟩ :=
    readsOn_of_levelBehind whole.level ';' (nofun : (⟨head, none⟩ : RowEntry).body.isSome → 1 ≤ 0)
  cases body with
  | none => exact ⟨read, last, reads, grows⟩
  | some => exact absurd (inBlock rfl) (by omega)

namespace Token.EndsEntry

/-- A block ends the entry that its row leaves open, and is the block of that entry. -/
theorem readEntries_block
    (whole : IsWhole front)
    (wholeInside : IsWhole inside)
    (closing : Delimiter)
    (head : List Token) :
    ∃ read last,
      readEntries ';' ⟨0, head, none⟩ (front ++ .opening .brace :: (inside ++ [.closing closing]))
          = (read ++ [⟨last, some inside⟩], .start)
        ∧ head <+: (read.head?.getD ⟨last, some inside⟩).head := by
  obtain ⟨read, last, reads, grows⟩ := exists_readEntries_of_isWhole whole head
  refine ⟨read, last, ?_, ?_⟩
  · have begins : EntryState.step ';' ⟨0, last, none⟩ (.opening .brace) = (none, ⟨1, last, some []⟩) := rfl
    have ends : readEntries ';' ⟨1, last, some inside⟩ [.closing closing]
        = ([⟨last, some inside⟩], .start) := rfl
    have within : readEntries ';' ⟨1, last, some []⟩ inside = ([], ⟨1, last, some inside⟩) := by
      have within := readEntries_within wholeInside.level ';' ⟨last, some []⟩
      rwa [RowEntry.extend_body] at within
    rw [readEntries_append, reads, readEntries_cons, begins, readEntries_append, within, ends]
    rfl
  · cases read <;> exact grows

/-- The first entry that the row ends begins with what was read of it in front of the row. -/
theorem exists_first (ends : EndsEntry row) (head : List Token) :
    ∃ entry more, readEntries ';' ⟨0, head, none⟩ row = (entry :: more, .start) ∧ head <+: entry.head := by
  cases ends with
  | @semicolon front whole spacing =>
      obtain ⟨read, last, reads, grows⟩ := exists_readEntries_of_isWhole whole head
      have ends : readEntries ';' ⟨0, last, none⟩ [.mark ';' spacing] = ([⟨last, none⟩], .start) := rfl
      rw [readEntries_append, reads, ends]
      cases read with
      | nil => exact ⟨_, _, rfl, grows⟩
      | cons => exact ⟨_, _, rfl, grows⟩
  | block whole wholeInside closing =>
      obtain ⟨read, last, reads, grows⟩ := readEntries_block whole wholeInside closing head
      rw [reads]
      cases read with
      | nil => exact ⟨_, _, rfl, grows⟩
      | cons => exact ⟨_, _, rfl, grows⟩

/-- The first entry that the row ends begins with what stays in a head at the beginning of the row. -/
theorem exists_first_behind
    (ends : EndsEntry (front ++ rest))
    (whole : IsWhole front)
    (stays : StaysInHead front)
    (head : List Token) :
    ∃ entry more, readEntries ';' ⟨0, head, none⟩ (front ++ rest) = (entry :: more, .start)
      ∧ head ++ front <+: entry.head := by
  obtain ⟨entry, more, reads, -⟩ := ends.exists_first head
  have wholeRest : IsWhole rest := by
    have level := ends.isWhole.level
    rw [levelBehind_append, whole.level] at level
    exact ⟨level⟩
  obtain ⟨read, last, readsRest, grows⟩ := exists_readEntries_of_isWhole wholeRest (head ++ front)
  refine ⟨entry, more, reads, ?_⟩
  rw [readEntries_append, stays, readsRest] at reads
  cases reads
  exact grows

end Token.EndsEntry

/-! ### Fronts -/

/-- A row that may stand in front of a declaration, and declares nothing by itself. -/
structure IsFront (row : List Token) : Prop where
  whole : IsWhole row
  stays : StaysInHead row
  quiet : ∀ rest, declaredAhead (surface 0 row ++ rest) = declaredAhead rest

namespace IsFront

theorem nil : IsFront [] :=
  ⟨.nil, .nil, fun _ => rfl⟩

theorem append (first : IsFront row) (second : IsFront rest) : IsFront (row ++ rest) := by
  refine ⟨first.whole.append second.whole, first.stays.append second.stays, fun more => ?_⟩
  rw [surface_append first.whole.level, List.append_assoc, first.quiet, second.quiet]

theorem mark {char : Char} (isQuiet : char = '#' ∨ char = '!') (spacing : Spacing) :
    IsFront [.mark char spacing] := by
  refine ⟨⟨rfl⟩, .mark ?_ spacing, fun rest => if_pos isQuiet⟩
  rcases isQuiet with rfl | rfl <;> decide

theorem literal (text : String) : IsFront [.literal text] :=
  ⟨⟨rfl⟩, .literal text, fun _ => rfl⟩

theorem modifier {text : String} (isModifier : text ∈ modifierWords) : IsFront [.word text] :=
  ⟨.word text, .word text, fun _ => if_pos (List.contains_iff_mem.mpr isModifier)⟩

theorem surface_group (whole : IsWhole inside) (opening closing : Delimiter) :
    surface 0 (.opening opening :: (inside ++ [.closing closing])) = [] := by
  have deep : surface 1 inside = [] := by
    have below : ∀ {level after : Nat} {row : List Token}, levelBehind level row = some after →
        surface (level + 1) row = [] := by
      intro level after row opened
      induction row generalizing level with
      | nil => rfl
      | cons token row inductionHypothesis =>
          cases token with
          | word | mark | literal | opening => exact inductionHypothesis opened
          | closing =>
              cases level with
              | zero => contradiction
              | succ => exact inductionHypothesis opened
    exact below whole.level
  have opened := levelBehind_frame whole.level 1
  show surface 1 (inside ++ _) = _
  rw [surface_append opened, deep]
  rfl

/-- A group that is not one in braces. -/
theorem group
    {opening : Delimiter}
    (noBrace : opening ≠ .brace)
    (whole : IsWhole inside)
    (closing : Delimiter) :
    IsFront (.opening opening :: (inside ++ [.closing closing])) :=
  ⟨whole.group opening closing, .group noBrace whole closing,
    fun rest => by rw [surface_group whole]; rfl⟩

end IsFront

end Reading

end Scaffold.Source
