import Scaffold.Proofs.Source.Tally

/-!
Contract: the item that a row ends with.

Owns:
- where in its row an item of a file was read;
- rows whose last entry is the only one to declare a name;
- that the item which declares this name is read of the last entry alone, and is the same in every file
  whose row ends so.

Does not own: which rows end so.
-/

namespace Scaffold.Source

open Source.Parser Source.Grammar Token

/-! ### Rows between entries -/

section Rows

variable
  {separator : Char}
  {front back row rest : List Token}

theorem EntryState.ne_start_of_step
    {state : EntryState}
    {token : Token}
    (goesOn : (state.step separator token).1 = none) :
    (state.step separator token).2 ≠ .start := by
  have pushed (depth : Nat) (token : Token) : (state.push depth token).2 ≠ .start := by
    obtain ⟨_, _, body⟩ := state
    cases body <;> simp [push, RowEntry.push, start, RowEntry.empty]
  cases token with
  | word | literal => exact pushed _ _
  | mark char spacing =>
      by_cases ends : state.depth = 0 ∧ char = separator
      · simp [step, ends] at goesOn
      · rw [step, if_neg ends]
        exact pushed _ _
  | opening delimiter =>
      by_cases begins : state.depth = 0 ∧ delimiter = .brace
      · simp [step, begins, start]
      · rw [step, if_neg begins]
        exact pushed _ _
  | closing delimiter =>
      by_cases ends : state.depth = 1 ∧ state.entry.body.isSome
      · simp [step, ends] at goesOn
      · rw [step, if_neg ends]
        exact pushed _ _

/-- A row that ends no entry leaves something of one. -/
theorem eq_nil_of_readEntries
    {state : EntryState}
    (reads : readEntries separator state row = ([], .start)) :
    row = [] := by
  induction row generalizing state with
  | nil => rfl
  | cons token row inductionHypothesis =>
      rw [readEntries_cons, Prod.mk.injEq, List.append_eq_nil_iff, Option.toList_eq_nil_iff] at reads
      obtain ⟨⟨goesOn, none⟩, stands⟩ := reads
      obtain rfl := inductionHypothesis (Prod.ext none stands)
      exact absurd stands (EntryState.ne_start_of_step goesOn)

/-- Two beginnings of a row with the same entries are one. -/
theorem eq_of_readEntries
    {read : List RowEntry}
    (first : readEntries separator .start front = (read, .start))
    (second : readEntries separator .start back = (read, .start))
    (same : front ++ row = back ++ rest) :
    front = back := by
  have extended {shorter between : List Token}
      (short : readEntries separator .start shorter = (read, .start))
      (long : readEntries separator .start (shorter ++ between) = (read, .start)) :
      between = [] := by
    rw [readEntries_append, short, Prod.mk.injEq, List.append_right_eq_self] at long
    exact eq_nil_of_readEntries (Prod.ext long.1 long.2)
  rcases List.append_eq_append_iff.mp same with ⟨between, rfl, -⟩ | ⟨between, rfl, -⟩
  · rw [extended first second, List.append_nil]
  · rw [extended second first, List.append_nil]

end Rows

/-! ### Places -/

section Places

variable
  {α : Type}
  {reader : Parser α}
  {holds : α → List Token → Prop}

/-- Each of the elements that are read to the end of a row was read somewhere, behind rows that the
reader takes. -/
theorem Parser.exists_place_of_repeatToEnd
    (each : Takes reader holds)
    {row rest : List Token}
    {values : List α}
    (reads : repeatToEnd reader row = some (values, rest))
    {value : α}
    (member : value ∈ values) :
    ∃ (cuts : List (List Token)) (between behind : List Token), row = cuts.flatten ++ between ∧ reader between = some (value, behind)
      ∧ ∀ cut ∈ cuts, ∃ other, holds other cut := by
  have loop (test : Test) (fuel : Nat) {row rest : List Token} {values : List α}
      (reads : whileFrom test reader fuel row = some (values, rest))
      (member : value ∈ values) :
      ∃ (cuts : List (List Token)) (between behind : List Token), row = cuts.flatten ++ between ∧ reader between = some (value, behind)
        ∧ ∀ cut ∈ cuts, ∃ other, holds other cut := by
    induction fuel generalizing row values with
    | zero => contradiction
    | succ fuel inductionHypothesis =>
        have reads := of_bind_peek reads
        split at reads
        · obtain ⟨first, between, readsFirst, reads⟩ := bind_eq_some reads
          obtain ⟨others, _, behind, same⟩ := bind_eq_some reads
          cases same
          rcases List.mem_cons.mp member with rfl | isLater
          · exact ⟨[], row, between, rfl, readsFirst, by simp⟩
          · obtain ⟨taken, rfl, known⟩ := each readsFirst
            obtain ⟨cuts, at_, after, rfl, readsThere, knownCuts⟩ := inductionHypothesis behind isLater
            refine ⟨taken :: cuts, at_, after, (List.append_assoc ..).symm, readsThere, ?_⟩
            exact List.forall_mem_cons.mpr ⟨⟨first, known⟩, knownCuts⟩
        · cases reads
          contradiction
  exact loop _ _ reads member

/-- Behind rows that end entries nothing of an entry is left, unless there are none of these. -/
theorem readEntries_flatten
    {cuts : List (List Token)}
    (ends : ∀ cut ∈ cuts, EndsEntry cut)
    (lead : List Token) :
    ∃ read left, readEntries ';' ⟨0, lead, none⟩ cuts.flatten = (read, ⟨0, left, none⟩)
      ∧ (left = [] ∨ read = [] ∧ left = lead) := by
  induction cuts generalizing lead with
  | nil => exact ⟨[], lead, rfl, .inr ⟨rfl, rfl⟩⟩
  | cons cut cuts inductionHypothesis =>
      rw [List.forall_mem_cons] at ends
      obtain ⟨entry, more, reads, -⟩ := ends.1.exists_first lead
      obtain ⟨read, left, readsBehind, known⟩ := inductionHypothesis ends.2 []
      have start : EntryState.start = ⟨0, [], none⟩ := rfl
      refine ⟨entry :: more ++ read, left, ?_, ?_⟩
      · rw [List.flatten_cons, readEntries_append, reads, start, readsBehind]
      · exact .inl (known.elim id And.right)

end Places

/-! ### The last entry -/

/-- The row is one of at least two entries, and ends with a last one, the tail, which alone may declare the
name. -/
structure EndsWith (declared : Declared) (row tail : List Token) : Prop where
  cut : ∃ front first more last, row = front ++ tail
    ∧ readEntries ';' .start front = (first :: more, .start)
    ∧ readEntries ';' .start tail = ([last], .start)
    ∧ ∀ entry ∈ first :: more, entry.declared? ≠ some declared

section Last

variable
  {declared : Declared}
  {row tail : List Token}
  {depth : Nat}
  {file : SourceFile}
  {item : Node .item}

/-- A row ends where its sketch does. -/
theorem ended_of_map_sketch
    {separator : Char}
    {row : List Token}
    (ended : (readEntries separator .start (row.map sketch)).2 = .start) :
    (readEntries separator .start row).2 = .start := by
  have reads := congrArg Prod.snd (readEntries_map_sketch separator .start row)
  have start : (⟨EntryState.start.depth, EntryState.start.entry.sketch⟩ : EntryState) = .start := rfl
  rw [start, ended] at reads
  generalize (readEntries separator .start row).2 = state at reads ⊢
  obtain ⟨depth, head, body⟩ := state
  simpa [EntryState.start, RowEntry.sketch, RowEntry.empty, eq_comm] using reads

theorem EndsWith.of_enlists
    {front : List Token}
    {first : Tally}
    {more : List Tally}
    (lists : Enlists ';' RowEntry.tally? (first :: more) (front.map sketch))
    (single : Enlists ';' (fun _ => some ()) [()] (tail.map sketch))
    (others : ∀ tally ∈ first :: more, tally.declared ≠ some declared) :
    EndsWith declared (front ++ tail) tail := by
  have sketched (row : List Token) : (readEntries ';' .start (row.map sketch)).1
      = (readEntries ';' .start row).1.map RowEntry.sketch :=
    congrArg Prod.fst (readEntries_map_sketch ';' .start row)
  have counted := lists.found
  rw [sketched, List.filterMap_map, (funext RowEntry.tally?_sketch : RowEntry.tally? ∘ RowEntry.sketch = _)]
    at counted
  have entries_ := single.found
  rw [sketched, List.filterMap_map] at entries_
  have one : (readEntries ';' .start tail).1.length = 1 := by
    simpa [Function.comp_def, List.filterMap_eq_map] using congrArg List.length entries_
  obtain ⟨last, isLast⟩ := List.length_eq_one_iff.mp one
  cases reads : (readEntries ';' .start front).1 with
  | nil => simp [reads] at counted
  | cons entry later =>
      refine ⟨front, entry, later, last, rfl, ?_, ?_, ?_⟩
      · exact Prod.ext reads (ended_of_map_sketch lists.ended)
      · exact Prod.ext isLast (ended_of_map_sketch single.ended)
      · intro entry isEntry declares
        rw [← RowEntry.declared_of_tally?] at declares
        obtain ⟨tally, isTally, declares⟩ := Option.bind_eq_some_iff.mp declares
        refine others tally ?_ declares
        rw [← counted, reads]
        exact List.mem_filterMap.mpr ⟨entry, isEntry, isTally⟩

/-- The item that declares the name is read of the tail. -/
theorem EndsWith.reads_item
    (ends : EndsWith declared row tail)
    (reads : fileContent (toDepth depth) row = some (file, []))
    (member : item ∈ file.items)
    (declares : item.declared? = some declared) :
    ∃ behind, (toDepth depth).item tail = some (item, behind) := by
  obtain ⟨inner, _, readsInner, readsBehind⟩ := bind_eq_some reads
  obtain ⟨items, _, readsItems, returned⟩ := bind_eq_some readsBehind
  cases returned
  obtain ⟨lead, rfl, isFront⟩ := fronts_innerAttributes.takes readsInner
  obtain ⟨cuts, between, behind, rfl, readsThere, known⟩ :=
    exists_place_of_repeatToEnd (takes_item depth) readsItems member
  have endings : ∀ cut ∈ cuts, EndsEntry cut := fun cut isCut => (known cut isCut).elim fun _ known => known.1
  obtain ⟨taken, rfl, endsThere, isRead⟩ := takes_item depth readsThere
  obtain ⟨front, first, more, last, same, readsFront, readsTail, others⟩ := ends.cut
  obtain ⟨read, left, readsCuts, isLeft⟩ := readEntries_flatten endings lead
  have leftFront : IsFront left := isLeft.elim (· ▸ .nil) fun known => known.2 ▸ isFront
  obtain ⟨entry, later, readsTaken, isDeclared⟩ :=
    endsThere.exists_first_declared (isRead.declared declared declares) leftFront
  have readsLead : readEntries ';' .start (lead ++ cuts.flatten) = (read, ⟨0, left, none⟩) := by
    rw [readEntries_append, EntryState.start, RowEntry.empty, isFront.stays]
    exact readsCuts
  rw [← List.append_assoc] at same
  -- Both ways the row is cut it has the same entries; the one that declares the name is the last.
  have sameEntries : read ++ entry :: (later ++ (readEntries ';' .start behind).1)
      = (first :: more) ++ [last] := by
    have whole := congrArg (fun row => (readEntries ';' .start row).1) same
    simpa only [readEntries_append, readsLead, readsTaken, readsFront, readsTail, List.cons_append]
      using whole
  have sameFront : read = first :: more := by
    rcases List.append_eq_append_iff.mp sameEntries with ⟨gap, same, cut⟩ | ⟨gap, same, cut⟩
    · cases gap with
      | nil => exact (List.append_nil read).symm.trans same.symm
      | cons other gap =>
          obtain ⟨rfl, -⟩ := List.cons.inj cut
          exact absurd isDeclared (others entry (same ▸ by simp))
    · cases gap with
      | nil => exact same.trans (List.append_nil _)
      | cons other gap => simp at cut
  have noLead : left = [] := isLeft.elim id fun known => by
    rw [known.1] at sameFront
    contradiction
  rw [sameFront, noLead] at readsLead
  have place := eq_of_readEntries readsLead readsFront same
  rw [place] at same
  exact ⟨behind, List.append_cancel_left same ▸ readsThere⟩

/-- The item that declares the name is the same in every file whose row ends with the tail. -/
theorem EndsWith.eq_item
    {other : List Token}
    {otherDepth : Nat}
    {otherFile : SourceFile}
    {otherItem : Node .item}
    (ends : EndsWith declared row tail)
    (endsOther : EndsWith declared other tail)
    (reads : fileContent (toDepth depth) row = some (file, []))
    (readsOther : fileContent (toDepth otherDepth) other = some (otherFile, []))
    (member : item ∈ file.items)
    (memberOther : otherItem ∈ otherFile.items)
    (declares : item.declared? = some declared)
    (declaresOther : otherItem.declared? = some declared) :
    item = otherItem := by
  obtain ⟨behind, readsTail⟩ := ends.reads_item reads member declares
  obtain ⟨behindOther, readsTailOther⟩ := endsOther.reads_item readsOther memberOther declaresOther
  have first := ((deepens_toDepth (Nat.le_max_left depth otherDepth)).item.answers readsTail).1
  have second := ((deepens_toDepth (Nat.le_max_right depth otherDepth)).item.answers readsTailOther).1
  cases first.symm.trans second
  rfl

end Last

end Scaffold.Source
