import Scaffold.Proofs.Artifact.Sibling
import Scaffold.Proofs.Source.Excerpt

/-!
Contract: text that is pasted into generated lines as whole tokens.

Owns:
- rows that import nothing and leave nothing open, put together;
- text of such rows: words, paths, strings and what is put together from them;
- text that spells such a row in front of a semicolon.

Does not own: which text is pasted.
-/

namespace Scaffold.Artifact

open Source Source.Scan Text

/-! ### Rows -/

namespace Inert

variable {row rest : List Token}

theorem nil : Inert [] :=
  ⟨List.not_mem_nil, rfl⟩

theorem append (first : Inert row) (second : Inert rest) : Inert (row ++ rest) := by
  refine ⟨by simp [first.noImport, second.noImport], ?_⟩
  rw [Token.openBehind_of_balanced first.balanced]
  exact second.balanced

theorem word {name : String} (other : name ≠ "use") : Inert [.word name] :=
  ⟨by simpa using other.symm, rfl⟩

theorem mark (char : Char) (spacing : Spacing) : Inert [.mark char spacing] :=
  ⟨by simp, rfl⟩

theorem literal (spelling : String) : Inert [.literal spelling] :=
  ⟨by simp, rfl⟩

theorem group (inside : Inert row) (delimiter : Delimiter) :
    Inert (.opening delimiter :: (row ++ [.closing delimiter])) := by
  refine ⟨by simp [inside.noImport], ?_⟩
  show Token.openBehind [delimiter] _ = _
  rw [Token.openBehind_of_balanced inside.balanced]
  exact if_pos rfl

/-- Spacing does not matter. -/
theorem of_map_bare
    (inert : Inert row)
    (same : rest.map Token.bare = row.map Token.bare) :
    Inert rest := by
  constructor
  · rw [← Token.word_mem_map_bare, same, Token.word_mem_map_bare]
    exact inert.noImport
  · rw [← Token.openBehind_map_bare, same, Token.openBehind_map_bare]
    exact inert.balanced

theorem path {names : List String} (others : ∀ name ∈ names, name ≠ "use") :
    Inert (ModulePath.tokensOf names) := by
  refine ⟨ModulePath.noImport_tokensOf others, ?_⟩
  clear others
  induction names with
  | nil => rfl
  | cons name names inductionHypothesis =>
      cases names with
      | nil => rfl
      | cons next names => exact inductionHypothesis

end Inert

/-! ### Text -/

namespace IsCode

variable {front back : List Char}

theorem nil : IsCode [] :=
  ⟨by simp, fun rest _ => ⟨[], Passes.refl rest, .nil⟩⟩

theorem noSlash_of_isWord {name : String} (word : isWord name = true) :
    name.toList.head? ≠ some '/' := by
  obtain ⟨first, behind, spelled, starts, -⟩ :=
    exists_start_of_isWord (ends_of_stops stops_nil) word
  rw [spelled]
  rintro ⟨⟩
  exact absurd starts (by decide)

theorem word
    {name : String}
    (word : isWord name = true)
    (other : name ≠ "use") :
    IsCode name.toList :=
  ⟨noSlash_of_isWord word,
    fun _ stops => ⟨_, Passes.word word (ends_of_stops stops), .word other⟩⟩

/-- A mark in front of text. -/
theorem behindMark
    {char : Char}
    (isCode : IsCode front)
    (mark : char ∈ markChars)
    (noQuote : char ≠ '\'')
    (noSlash : char ≠ '/') :
    IsCode (char :: front) := by
  refine ⟨fun same => noSlash (Option.some.inj same), fun rest stops => ?_⟩
  obtain ⟨row, passes, inert⟩ := isCode.passes rest stops
  exact ⟨_, (Passes.mark mark noQuote (noComment_of_ne noSlash)).trans passes,
    (Inert.mark _ _).append inert⟩

/-- A field of what a word names. -/
theorem field
    {name : String}
    (word : isWord name = true)
    (other : name ≠ "use")
    (isCode : IsCode back) :
    IsCode (name.toList ++ '.' :: back) := by
  have behind : IsCode ('.' :: back) := isCode.behindMark (by decide) (by decide) (by decide)
  constructor
  · obtain ⟨first, tail, spelled, -⟩ := exists_start_of_isWord (ends_of_stops stops_nil) word
    have begins := noSlash_of_isWord word
    rw [spelled] at begins ⊢
    exact begins
  · intro rest stops
    obtain ⟨row, passes, inert⟩ := behind.passes rest stops
    have ends : Ends ('.' :: (back ++ rest)) := by
      constructor <;> (rintro _ ⟨⟩; decide)
    have whole := (Passes.word word ends).trans passes
    exact ⟨[.word name] ++ row, by simpa using whole, (Inert.word other).append inert⟩

theorem behindBlank (isCode : IsCode front) : IsCode (' ' :: front) := by
  refine ⟨by simp, fun rest stops => ?_⟩
  obtain ⟨row, passes, inert⟩ := isCode.passes rest stops
  exact ⟨row, (Passes.blank (by decide)).trans passes, inert⟩

/-- Text behind other text, at whose front there is a stop. -/
theorem append
    (first : IsCode front)
    (second : IsCode back)
    (stops : Stops back) :
    IsCode (front ++ back) := by
  constructor
  · cases front with
    | nil => exact second.noSlash
    | cons char front => exact first.noSlash
  · intro rest stopsRest
    have stopsAll : Stops (back ++ rest) := by
      cases back with
      | nil => exact stopsRest
      | cons char back => exact stops
    obtain ⟨row, passes, inert⟩ := first.passes (back ++ rest) stopsAll
    obtain ⟨rowBack, passesBack, inertBack⟩ := second.passes rest stopsRest
    rw [List.append_assoc]
    exact ⟨row ++ rowBack, passes.trans passesBack, inert.append inertBack⟩

/-- A comma between two texts. -/
theorem comma (first : IsCode front) (second : IsCode back) : IsCode (front ++ ',' :: ' ' :: back) := by
  refine first.append (second.behindBlank.behindMark (by decide) (by decide) (by decide)) ?_
  rintro _ ⟨⟩
  decide

theorem joined
    {parts : List String}
    (inside : ∀ part ∈ parts, IsCode part.toList) :
    IsCode (joinedBy ", " parts).toList := by
  induction parts with
  | nil => exact nil
  | cons part parts inductionHypothesis =>
      rw [List.forall_mem_cons] at inside
      have below := inductionHypothesis inside.2
      cases parts with
      | nil => simpa [joinedBy] using inside.1
      | cons next parts =>
          have whole := inside.1.comma below
          simpa [joinedBy, String.toList_intercalate] using whole

/-- Texts with a comma and a blank behind each. -/
theorem listed
    {parts : List String}
    (inside : ∀ part ∈ parts, IsCode part.toList) :
    IsCode (String.join (parts.map (· ++ ", "))).toList := by
  induction parts with
  | nil => exact nil
  | cons part parts inductionHypothesis =>
      rw [List.forall_mem_cons] at inside
      have whole := inside.1.comma (inductionHypothesis inside.2)
      simpa [String.join_cons] using whole

theorem group (inside : IsCode front) : IsCode ('(' :: (front ++ [')'])) := by
  refine ⟨by simp, fun rest _ => ?_⟩
  obtain ⟨row, passes, inert⟩ := inside.passes (')' :: rest) (by rintro _ ⟨⟩; decide)
  have plain : NoComment (front ++ ')' :: rest) := by
    have noSlash : (front ++ ')' :: rest).head? ≠ some '/' := by
      cases front with
      | nil => simp
      | cons char front => exact inside.noSlash
    intro behind
    constructor <;> intro same <;> rw [same] at noSlash <;> exact noSlash rfl
  have closes : Passes (')' :: rest) [.closing .parenthesis] rest := Passes.closing .parenthesis
  have opens : Passes ('(' :: (front ++ ')' :: rest)) [.opening .parenthesis] (front ++ ')' :: rest) :=
    Passes.opening .parenthesis plain
  refine ⟨_, ?_, inert.group .parenthesis⟩
  simpa using opens.trans (passes.trans closes)

theorem path
    {names : List String}
    (something : names ≠ [])
    (words : ∀ name ∈ names, isWord name = true ∧ name ≠ "use") :
    IsCode (joinedBy "::" names).toList := by
  have isWords : ∀ name ∈ names, isWord name = true := fun name member => (words name member).1
  refine ⟨?_, fun rest stops => ⟨_, ModulePath.passes_names something isWords stops,
    .path fun name member => (words name member).2⟩⟩
  cases names with
  | nil => contradiction
  | cons name names =>
      obtain ⟨first, behind, spelled, starts, -⟩ :=
        exists_start_of_isWord (ends_of_stops stops_nil) (isWords name List.mem_cons_self)
      have begins : (joinedBy "::" (name :: names)).toList.head? = some first := by
        cases names with
        | nil => simp [joinedBy, spelled]
        | cons next names => simp [joinedBy, String.toList_intercalate, spelled]
      rw [begins]
      rintro ⟨⟩
      exact absurd starts (by decide)

/-- A string whose inside is plain. -/
theorem string (inside : IsInside front) : IsCode ('"' :: (front ++ ['"'])) := by
  refine ⟨by simp, fun rest stops => ?_⟩
  have read := inside.read (ends_of_stops stops).noLetter
  have spelled : '"' :: (front ++ '"' :: rest)
      = (String.ofList ('"' :: (front ++ ['"']))).toList ++ rest := by
    simp
  rw [spelled] at read
  have passes := Passes.read (by simp) read
  rw [String.toList_ofList] at passes
  exact ⟨_, passes, .literal _⟩

/-- A literal. -/
theorem literal
    {spelling : String}
    (literal : Literal.after spelling.toList = some []) :
    IsCode spelling.toList := by
  refine ⟨?_, fun rest stops => ⟨_, Passes.literal literal stops, .literal spelling⟩⟩
  obtain ⟨first, behind, spelled, starts⟩ := exists_start_of_literal literal
  rw [spelled]
  rintro ⟨⟩
  exact absurd starts (by decide)

/-- Text that spells a row in front of a semicolon. -/
theorem of_spells
    {row : List Token}
    (spells : Token.Spells (row ++ Token.marks ";") (front ++ [';']))
    (noSlash : front.head? ≠ some '/')
    (inert : Inert row) :
    IsCode front := by
  refine ⟨noSlash, fun rest stops => ?_⟩
  obtain ⟨read, passes, same⟩ := spells.passes stops
  exact ⟨read, passes, inert.of_map_bare same⟩

/-! ### Names in the middle of others -/

theorem ofList_ne_use {characters : List Char} (long : 3 < characters.length) :
    String.ofList characters ≠ "use" := by
  intro same
  have short : characters = ['u', 's', 'e'] := String.ofList_inj.mp same
  rw [short] at long
  contradiction

theorem opensNoLiteral_of_letters
    {letters : List Char}
    (continues : ∀ char ∈ letters, continuesIdentifier char = true)
    (long : 2 ≤ letters.length)
    (rest : List Char) :
    OpensNoLiteral (letters ++ rest) := by
  match letters with
  | first :: second :: letters =>
      simp only [List.forall_mem_cons] at continues
      refine ⟨fun behind => ?_, ?_⟩
      · constructor <;> (rintro ⟨⟩; exact absurd continues.1 (by decide))
      · rintro _ _ - ⟨⟩
        exact bare_of_continues continues.2.1

/-- Letters in front of a hash mark. -/
theorem passes_letters
    {first : Char}
    {letters : List Char}
    (starts : Literal.startsWord first = true)
    (continues : ∀ char ∈ letters, continuesIdentifier char = true)
    (long : 2 ≤ letters.length)
    (rest : List Char) :
    Passes (first :: (letters ++ '#' :: rest)) [.word (String.ofList (first :: letters))]
      ('#' :: rest) := by
  have noLetter : continuesIdentifier '#' = false := by decide
  have kept : (letters ++ '#' :: rest).takeWhile continuesIdentifier = letters := by
    rw [List.takeWhile_append_of_pos continues, List.takeWhile_cons_of_neg (by simp [noLetter]),
      List.append_nil]
  have dropped : (letters ++ '#' :: rest).dropWhile continuesIdentifier = '#' :: rest := by
    rw [List.dropWhile_append_of_pos continues, List.dropWhile_cons_of_neg (by simp [noLetter])]
  have read : anyWord? (first :: (letters ++ '#' :: rest))
      = some (String.ofList (first :: letters), '#' :: rest) := by
    rw [anyWord?, plainWord?, if_pos starts, kept, dropped]
    intro behind same
    obtain ⟨-, raw⟩ := List.cons.inj same
    cases letters with
    | nil => exact absurd long (Nat.not_succ_le_zero 1)
    | cons second letters =>
        obtain ⟨rfl, -⟩ := List.cons.inj raw
        exact absurd (continues '#' List.mem_cons_self) (by decide)
  have shorter : ('#' :: rest).length < (first :: (letters ++ '#' :: rest)).length := by
    simp only [List.length_cons, List.length_append]
    omega
  exact Passes.leaf (leads_of_word starts (opensNoLiteral_of_letters continues long _) read) shorter
    fun _ => rfl

/-- A word between letters; a raw one is cut off by its hash mark. -/
theorem spliced
    {first : Char}
    {letters back : List Char}
    {name : String}
    (starts : Literal.startsWord first = true)
    (continues : ∀ char ∈ letters, continuesIdentifier char = true)
    (something : letters ≠ [])
    (word : isWord name = true)
    (continuesBack : ∀ char ∈ back, continuesIdentifier char = true)
    (long : 3 ≤ back.length) :
    IsCode (first :: (letters ++ (name.toList ++ back))) := by
  have noSlash (rest : List Char) : (first :: rest).head? ≠ some '/' := by
    rintro ⟨⟩
    exact absurd starts (by decide)
  rcases anyWord?_eq_some (beq_iff_eq.mp word) with
    ⟨behind, plain, spelled, plainRead, -⟩ | ⟨-, plainRead⟩
  · obtain ⟨second, tail, rfl, startsTail, -, nothing⟩ := startsWord_of_plainWord plainRead
    have letter := List.length_pos_iff.mpr something
    have front : ∀ char ∈ letters ++ ['r'], continuesIdentifier char = true := by
      simpa [or_imp, forall_and] using ⟨continues, (by decide : continuesIdentifier 'r' = true)⟩
    have others : String.ofList (first :: (letters ++ ['r'])) ≠ "use" := by
      intro same
      have short : (first :: letters) ++ ['r'] = ['u', 's'] ++ ['e'] := String.ofList_inj.mp same
      exact absurd (List.append_inj' short rfl).2 (by decide)
    have lettersBehind : ∀ char ∈ tail ++ back, continuesIdentifier char = true := by
      intro char member
      rcases List.mem_append.mp member with inTail | inBack
      · exact List.dropWhile_eq_nil_iff.mp nothing.symm char inTail
      · exact continuesBack char inBack
    have isWord := isWord_of_letters startsTail lettersBehind
    have longer : 3 < (second :: (tail ++ back)).length := by simp; omega
    have code := IsCode.word isWord (ofList_ne_use longer)
    rw [String.toList_ofList] at code
    refine ⟨noSlash _, fun rest stops => ?_⟩
    have behindHash : IsCode ('#' :: second :: (tail ++ back)) :=
      code.behindMark (by decide) (by decide) (by decide)
    obtain ⟨row, passes, inert⟩ := behindHash.passes rest stops
    have passesFront := passes_letters starts front (by simp; omega) (second :: (tail ++ back) ++ rest)
    refine ⟨_, ?_, (Inert.word others).append inert⟩
    simpa [spelled] using passesFront.trans passes
  · obtain ⟨second, tail, spelled, startsTail, -, nothing⟩ := startsWord_of_plainWord plainRead
    have all : ∀ char ∈ letters ++ (name.toList ++ back), continuesIdentifier char = true := by
      intro char member
      rw [spelled] at member
      rcases List.mem_append.mp member with inFront | behind
      · exact continues char inFront
      · rcases List.mem_append.mp behind with inName | inBack
        · rcases List.mem_cons.mp inName with rfl | inTail
          · exact Literal.continues_of_startsWord startsTail
          · exact List.dropWhile_eq_nil_iff.mp nothing.symm char inTail
        · exact continuesBack char inBack
    have longer : 3 < (first :: (letters ++ (name.toList ++ back))).length := by simp; omega
    have code := IsCode.word (isWord_of_letters starts all) (ofList_ne_use longer)
    rwa [String.toList_ofList] at code

end IsCode

end Scaffold.Artifact
