import Mathlib.Data.List.Forall2
import Scaffold.Interface.Method
import Scaffold.Proofs.Source.TypePath

/-!
Contract: texts that are read as types.

Owns:
- the rows that rows put together are scanned to;
- texts that are read as one type wherever a type may end behind them;
- the texts of paths, of the unit and of tuples.

Does not own: references to types.
-/

namespace Scaffold.Source

open Source.Parser Source.Grammar Token

/-! ### Rows that are scanned -/

namespace Token

theorem ReadsAs.refl (row : List Token) : ReadsAs row row := by
  induction row with
  | nil => exact .nil
  | cons token row inductionHypothesis =>
      exact .cons rfl (fun _ _ runs => runsOn_of_runsInto runs) inductionHypothesis

/-- What a row put together is scanned to is put together likewise. -/
theorem ReadsAs.exists_append
    {front back scanned : List Token}
    (reads : ReadsAs (front ++ back) scanned) :
    ∃ first second, scanned = first ++ second ∧ ReadsAs front first ∧ ReadsAs back second := by
  induction front generalizing scanned with
  | nil => exact ⟨[], scanned, rfl, .nil, reads⟩
  | cons token front inductionHypothesis =>
      cases reads with
      | @cons _ found _ behind same runs reads =>
          obtain ⟨first, second, rfl, readsFront, readsBack⟩ := inductionHypothesis reads
          refine ⟨found :: first, second, rfl, .cons same ?_ readsFront, readsBack⟩
          intro next isNext
          refine runs next ?_
          show next ∈ (front ++ back).head?
          rw [List.head?_append, Option.mem_def.mp isNext]
          rfl

theorem eq_of_bare
    {token other : Token}
    (same : token.bare = other)
    (noMark : ∀ char, other ≠ .mark char .alone) :
    token = other := by
  cases token with
  | mark char => exact absurd same.symm (noMark char)
  | word | literal | opening | closing => exact same

theorem exists_mark_of_bare {token : Token} {char : Char} (same : token.bare = .mark char .alone) :
    ∃ spacing, token = .mark char spacing := by
  cases token with
  | mark other spacing =>
      cases same
      exact ⟨spacing, rfl⟩
  | word | literal | opening | closing => cases same

/-- A colon pair stands right behind one text and right in front of another. -/
theorem Spells.behindColons {row : List Token} {text : List Char} (spells : Spells row text) :
    Pastes (marks "::" ++ row) ("::".toList ++ text) := by
  obtain ⟨spaced, rfl, rfl, legible⟩ := spells
  refine ⟨⟨[], .mark ':' .joint⟩ :: ⟨[], .mark ':' .alone⟩ :: spaced, rfl, rfl,
    ⟨by simp, by decide, ⟨rfl, fun _ => rfl, fun _ => rfl⟩, by simp, by decide, ?_, legible⟩, ?_⟩
  · cases spaced with
    | nil => rfl
    | cons next rest =>
        refine ⟨by cases next.token <;> rfl, fun _ => rfl, fun runs => ?_⟩
        have stays := runsOn_of_runsInto runs
        contradiction
  · rintro _ ⟨⟩
    exact ⟨rfl, fun _ => rfl⟩

end Token

theorem PathTail.of_readsAs
    {names : List String}
    {row scanned : List Token}
    (tail : PathTail names row)
    (reads : ReadsAs row scanned) :
    PathTail names scanned := by
  induction tail generalizing scanned with
  | nil =>
      cases reads
      exact .nil
  | @cons name names row spacing _ inductionHypothesis =>
      cases reads with
      | cons sameFirst runs reads =>
          cases reads with
          | cons sameSecond _ reads =>
              cases reads with
              | cons sameName _ reads =>
                  obtain rfl := eq_of_bare sameName nofun
                  obtain ⟨first, rfl⟩ := exists_mark_of_bare sameFirst
                  obtain ⟨second, rfl⟩ := exists_mark_of_bare sameSecond
                  -- The first colon runs into the second one, so no text separates them.
                  have joint : first = .joint := by
                    have runsOn := runs _ rfl rfl
                    cases first with
                    | joint => rfl
                    | alone => contradiction
                  rw [joint]
                  exact .cons second (inductionHypothesis reads)

/-- Names that are words are spelled behind colon pairs. -/
theorem exists_pathTail
    {names : List String}
    (words : ∀ name ∈ names, Scan.isWord name = true) :
    ∃ row, PathTail names row ∧ openBehind [] row = some []
      ∧ Pastes row (names.flatMap fun name => "::".toList ++ name.toList) := by
  induction names with
  | nil => exact ⟨[], .nil, rfl, .nil⟩
  | cons name names inductionHypothesis =>
      rw [List.forall_mem_cons] at words
      obtain ⟨row, tail, balanced, pastes⟩ := inductionHypothesis words.2
      exact ⟨_, .cons .alone tail, balanced,
        ((spells_singleton (.word name) words.1 rfl).behindColons).append pastes⟩

/-! ### Texts of types -/

/-- The text is scanned to a row that is read as the type, by every table of readers that goes down
to at least the given depth. -/
structure IsTypeText
    (least : Nat)
    (text : List Char)
    (row : List Token)
    (type : Node .type) : Prop where
  spells : Spells row text
  balanced : openBehind [] row = some []
  noMark : Scan.withoutByteOrderMark text = text
  reads : ∀ scanned depth, ReadsAs row scanned → IsTypeRow (Grammar.toDepth (least + depth)) scanned type

/-- Such a text is read as the type. -/
theorem IsTypeText.readTypeText_eq
    {least : Nat}
    {text : String}
    {row : List Token}
    {type : Node .type}
    (isText : IsTypeText least text.toList row type)
    (shallow : least ≤ 16) :
    readTypeText text = some type := by
  obtain ⟨spaced, spelled, rfl, legible⟩ := isText.spells
  obtain ⟨scanned, scans, reads⟩ := legible.scans isText.balanced
  have found : Scan.tokens? text.toList = some scanned := by
    rw [Scan.tokens?, isText.noMark, ← spelled]
    exact scans _ (Nat.lt_succ_self _)
  have deep : least + (4 * scanned.length + 17 - least) = 4 * scanned.length + 16 + 1 := by omega
  have isRow := isText.reads scanned (4 * scanned.length + 17 - least) reads
  rw [deep] at isRow
  have read : readType (Grammar.toDepth (4 * scanned.length + 16)) true (scanned ++ [])
      = some (type, []) :=
    isRow.reads [] true rfl
  rw [List.append_nil] at read
  rw [readTypeText, readText, found, Option.bind_some, readAll, read]

theorem IsTypeText.begins
    {least : Nat}
    {text : List Char}
    {row : List Token}
    {type : Node .type}
    (isText : IsTypeText least text row type) :
    row ≠ [] ∧ ∀ first ∈ row.head?, first.makesComment = false := by
  rcases (isText.reads row 0 (ReadsAs.refl row)).begins with ⟨_, _, rfl⟩ | ⟨_, rfl⟩
  all_goals
    refine ⟨List.cons_ne_nil _ _, ?_⟩
    rintro _ ⟨⟩
    rfl

/-- Names that a type may be made of, as the scanner finds them. -/
structure IsTypePath (names : List String) : Prop where
  words : ∀ name ∈ names, Scan.isWord name = true
  begins : ∀ name ∈ names.head?, beginsPath name = true
  something : names ≠ []
  continues : ∀ name ∈ names, continuesPath name = true

theorem toList_joinedBy (separator first : String) (rest : List String) :
    (joinedBy separator (first :: rest)).toList
      = first.toList ++ rest.flatMap fun next => separator.toList ++ next.toList := by
  rw [joinedBy, String.toList_intercalate, List.intercalate]
  induction rest generalizing first with
  | nil => simp
  | cons next rest inductionHypothesis =>
      have behind := inductionHypothesis next
      rw [List.map_cons] at behind ⊢
      rw [List.map_cons, List.intersperse_cons_cons, List.flatten_cons, List.flatten_cons, behind,
        List.flatMap_cons, List.append_assoc]

set_option maxRecDepth 4000 in
theorem not_byteOrderMark_of_isWord
    {name : String}
    (word : Scan.isWord name = true)
    (rest : List Char) :
    Scan.withoutByteOrderMark (name.toList ++ rest) = name.toList ++ rest := by
  obtain ⟨first, behind, spelled, starts, -⟩ :=
    Scan.exists_start_of_isWord (Scan.ends_of_stops stops_nil) word
  have noMark : Literal.startsWord (Char.ofNat 0xFEFF) = false := by decide
  rw [spelled, List.cons_append, Scan.withoutByteOrderMark, if_neg]
  intro mark
  rw [← Char.ofNat_toNat first, mark, noMark] at starts
  cases starts

/-- The text of a path is read as the type of that path. -/
theorem exists_isTypeText_path {names : List String} (isPath : IsTypePath names) :
    ∃ row, IsTypeText 1 (joinedBy "::" names).toList row (pathOf names) := by
  obtain ⟨words, begins, something, continues⟩ := isPath
  cases names with
  | nil => exact absurd rfl something
  | cons name names =>
      obtain ⟨row, tail, balanced, pastes⟩ := exists_pathTail (List.forall_mem_cons.mp words).2
      have word := words name List.mem_cons_self
      refine ⟨.word name :: row, ?_, balanced, ?_, ?_⟩
      · rw [toList_joinedBy]
        exact (spells_singleton (.word name) word rfl).append pastes
      · rw [toList_joinedBy]
        exact not_byteOrderMark_of_isWord word _
      · intro scanned depth reads
        cases reads with
        | cons same _ reads =>
            obtain rfl := eq_of_bare same nofun
            refine ⟨.inl ⟨name, _, rfl⟩, fun after allowPlus ends => ?_⟩
            rw [Nat.add_comm]
            exact readType_of_pathTail (tail.of_readsAs reads) (begins name rfl)
              (List.forall_mem_cons.mp continues).2 ends allowPlus

/-- The text of the unit is read as the unit. -/
theorem exists_isTypeText_unit : ∃ row, IsTypeText 1 "()".toList row (.tupleType .nil false) := by
  have closing := spells_singleton (.closing .parenthesis) rfl rfl
  refine ⟨_, closing.cons_touching (.opening .parenthesis) rfl rfl (fun _ => rfl) rfl, rfl, rfl, ?_⟩
  intro scanned depth reads
  cases reads with
  | cons sameOpening _ reads =>
      cases reads with
      | cons sameClosing _ reads =>
          cases reads
          obtain rfl := eq_of_bare sameOpening nofun
          obtain rfl := eq_of_bare sameClosing nofun
          refine ⟨.inr ⟨_, rfl⟩, fun after allowPlus _ => ?_⟩
          rw [Nat.add_comm]
          exact readType_unit allowPlus

/-- Texts of types behind commas are scanned to rows that are read as their types. -/
theorem exists_commaTail
    {texts : List String}
    {types : List (Node .type)}
    (isText : List.Forall₂ (fun text type => ∃ row, IsTypeText 1 text.toList row type) texts types) :
    ∃ row, Pastes row (texts.flatMap fun text => ", ".toList ++ text.toList)
      ∧ openBehind [] row = some []
      ∧ ∀ scanned depth, ReadsAs row scanned → CommaTail (Grammar.toDepth (1 + depth)) types scanned := by
  induction isText with
  | nil =>
      refine ⟨[], .nil, rfl, ?_⟩
      rintro _ _ ⟨⟩
      exact .nil
  | cons isFirst _ inductionHypothesis =>
      obtain ⟨row, first⟩ := isFirst
      obtain ⟨behind, pastes, balanced, tail⟩ := inductionHypothesis
      have comma : Pastes (Token.marks ",") ",".toList :=
        (spells_singleton (.mark ',' .alone) rfl rfl).pastes (by rintro _ ⟨⟩; exact ⟨rfl, rfl⟩)
      have pasteFirst := first.spells.behindBlank first.begins.1 first.begins.2
      refine ⟨Token.marks "," ++ row ++ behind, ?_, ?_, ?_⟩
      · exact (comma.append pasteFirst).append pastes
      · show openBehind [] (row ++ behind) = some []
        rw [openBehind_of_balanced first.balanced, balanced]
      · intro scanned depth reads
        cases reads with
        | cons same _ reads =>
            obtain ⟨spacing, rfl⟩ := exists_mark_of_bare same
            obtain ⟨scannedRow, scannedBehind, rfl, readsRow, readsBehind⟩ := reads.exists_append
            exact .cons spacing (first.reads _ depth readsRow) (tail _ depth readsBehind)

/-- Two or more texts of types with commas between them, in parentheses, are read as a tuple. -/
theorem exists_isTypeText_tuple
    {texts : List String}
    {types : List (Node .type)}
    (isText : List.Forall₂ (fun text type => ∃ row, IsTypeText 1 text.toList row type) texts types)
    (several : 2 ≤ types.length) :
    ∃ row, IsTypeText 2 ("(" ++ joinedBy ", " texts ++ ")").toList row
      (.tupleType (.ofList types) false) := by
  cases isText with
  | nil => contradiction
  | @cons text type texts types isFirst isRest =>
      obtain ⟨row, first⟩ := isFirst
      obtain ⟨behind, pastes, balanced, tail⟩ := exists_commaTail isRest
      have others : types ≠ [] := by
        rintro rfl
        contradiction
      have closing : Pastes [.closing .parenthesis] ")".toList :=
        (spells_singleton (.closing .parenthesis) rfl rfl).pastes (by rintro _ ⟨⟩; exact ⟨rfl, rfl⟩)
      have spells := ((first.spells.append pastes).append closing).cons_touching (.opening .parenthesis)
        rfl rfl (fun _ => rfl) rfl
      have text_eq : ("(" ++ joinedBy ", " (text :: texts) ++ ")").toList
          = '(' :: (text.toList ++ (texts.flatMap fun text => ", ".toList ++ text.toList) ++ [')']) := by
        rw [String.toList_append, String.toList_append, toList_joinedBy]
        rfl
      refine ⟨.opening .parenthesis :: (row ++ behind ++ [.closing .parenthesis]), ?_, ?_, ?_, ?_⟩
      · rw [text_eq]
        exact spells
      · show openBehind [.parenthesis] (row ++ behind ++ [.closing .parenthesis]) = some []
        rw [List.append_assoc, openBehind_of_balanced first.balanced, openBehind_of_balanced balanced]
        rfl
      · rw [text_eq]
        rfl
      · intro scanned depth reads
        cases reads with
        | cons same _ reads =>
            obtain rfl := eq_of_bare same nofun
            obtain ⟨inner, _, rfl, readsInner, readsClosing⟩ := reads.exists_append
            obtain ⟨scannedRow, scannedBehind, rfl, readsRow, readsBehind⟩ := readsInner.exists_append
            cases readsClosing with
            | cons sameClosing _ readsClosing =>
                cases readsClosing
                obtain rfl := eq_of_bare sameClosing nofun
                refine ⟨.inr ⟨_, rfl⟩, fun after allowPlus _ => ?_⟩
                have deeper : 2 + depth = 1 + depth + 1 := by omega
                rw [deeper, List.cons_append, List.append_assoc, List.append_assoc]
                exact readType_tuple (first.reads _ depth readsRow) (tail _ depth readsBehind) others
                  allowPlus

end Scaffold.Source
