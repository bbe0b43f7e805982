import Mathlib.Data.List.Basic
import Scaffold.Text.Blank
import Scaffold.Text.LetterCase
import Scaffold.Text.Letters

/-!
Contract: what the case mappings of characters keep.

Owns:
- the code points that a shift moves, and a check of all of them;
- where the characters of a lower case form come from;
- the case mappings of characters that may stand in an identifier;
- the lower case of characters that are letters, numbers or outside of ASCII, and of those that are no
  blanks.

Does not own: names and their words.
-/

namespace Scaffold.Text

/-! ### Runs and shifts -/

/-- The code points of a run. -/
def CodeRun.codes (run : CodeRun) : List Nat :=
  (List.range ((run.last - run.first) / run.step + 1)).map fun index =>
    run.first + index * run.step

theorem CodeRun.mem_codes
    {run : CodeRun}
    {code : Nat}
    (contains : run.contains code = true) :
    code ∈ run.codes := by
  simp only [CodeRun.contains, Bool.and_eq_true, decide_eq_true_eq, beq_iff_eq] at contains
  obtain ⟨⟨from_, upTo⟩, divides⟩ := contains
  refine List.mem_map.mpr ⟨(code - run.first) / run.step, ?_, ?_⟩
  · rw [List.mem_range, Nat.lt_succ_iff]
    exact Nat.div_le_div_right (Nat.sub_le_sub_right upTo _)
  · rw [Nat.div_mul_cancel (Nat.dvd_of_mod_eq_zero divides)]
    omega

/-- The code point that a shift moves a code point to. -/
def CaseShift.apply (shift : CaseShift) (code : Nat) : Nat :=
  (Int.ofNat code + shift.offset).toNat

/-- A character of a lower case form is the character itself, a letter of ASCII, the dot above that goes
with one, or what a shift leads to. -/
theorem mem_lowercase
    {char lower : Char}
    (member : lower ∈ lowercase char) :
    lower = char ∨ (0x61 ≤ lower.toNat ∧ lower.toNat ≤ 0x7A) ∨ lower = Char.ofNat 0x307
      ∨ ∃ shift ∈ lowerShifts, shift.run.contains char.toNat = true
        ∧ lower = Char.ofNat (shift.apply char.toNat) := by
  rw [lowercase] at member
  split at member
  next =>
    rw [List.mem_singleton.mp member]
    split
    next isUpper =>
      rw [Bool.and_eq_true, decide_eq_true_eq, decide_eq_true_eq] at isUpper
      have same : (Char.ofNat (char.toNat + 0x20)).toNat = char.toNat + 0x20 := by
        rw [Char.ofNat, dif_pos (.inl (by omega))]
        rfl
      exact .inr (.inl (by omega))
    next => exact .inl rfl
  next =>
    split at member
    next =>
      simp only [List.mem_cons, List.not_mem_nil, or_false] at member
      rcases member with rfl | rfl
      · exact .inr (.inl (by decide))
      · exact .inr (.inr (.inl rfl))
    next =>
      rw [List.mem_singleton.mp member, shiftCode]
      split
      next shift found =>
        have contains := List.find?_some found
        exact .inr (.inr (.inr ⟨shift, List.mem_of_find?_eq_some found, contains, rfl⟩))
      next => exact .inl (Char.ofNat_toNat char)

/-! ### Characters of identifiers -/

/-- The intervals of code points that the scripts with letter cases take up. -/
def casedBlocks : List (Nat × Nat) :=
  [(0x00C0, 0x058F), (0x10A0, 0x13FF), (0x1C80, 0x1DBF), (0x1E00, 0x218F), (0x2C00, 0x2D2F),
    (0xA640, 0xA801), (0xAB30, 0xABFF), (0xFF21, 0xFF5A), (0x10400, 0x105BF), (0x10C80, 0x10D8F),
    (0x118A0, 0x118DF), (0x16E40, 0x16EDF), (0x1E900, 0x1E943)]

/-- The intervals of characters that identifiers begin with and that lie within these. -/
def casedRanges : List (Nat × Nat) :=
  identifierStartRanges.filter fun range =>
    casedBlocks.any fun block => block.1.ble range.1 && range.2.ble block.2

/-- Is all that a shift reaches in one interval of characters that identifiers begin with? -/
def CaseShift.isCovered (shift : CaseShift) : Bool :=
  casedRanges.any fun range =>
    (shift.apply shift.run.last).ble range.2 && range.1.ble (shift.apply shift.run.first)
      && Nat.ble 0x80 range.1 && (range.2.ble 0xD7FF || Nat.ble 0xE000 range.1 && range.2.ble 0x10FFFF)

/-- Is a code point outside ASCII and outside all intervals? -/
def CodeRun.isApart (run : CodeRun) (ranges : List (Nat × Nat)) : Bool :=
  Nat.ble 0x80 run.first && Nat.ble run.last 0xD7FF
    && ranges.all fun range => range.2.blt run.first || run.last.blt range.1

/-- Does a shift keep characters of identifiers? The check goes by the interval that the shift
reaches, or by the intervals that its run misses, and by single code points only where neither helps. -/
def CaseShift.keepsIdentifiers (shift : CaseShift) : Bool :=
  shift.isCovered
    || shift.run.isApart identifierStartRanges && shift.run.isApart identifierRestRanges
    || shift.run.codes.all fun code =>
      !continuesIdentifier (Char.ofNat code) || continuesIdentifier (Char.ofNat (shift.apply code))

set_option maxRecDepth 4000 in
theorem caseShifts_keepIdentifiers :
    ∀ shift ∈ lowerShifts ++ upperShifts, shift.keepsIdentifiers = true := by
  decide

set_option maxRecDepth 4000 in
theorem upperSequences_are_identifiers :
    ∀ entry ∈ upperSequences, ∀ code ∈ entry.2, continuesIdentifier (Char.ofNat code) = true := by
  decide

theorem continues_of_isCovered
    {shift : CaseShift}
    {code : Nat}
    (covered : shift.isCovered = true)
    (contains : shift.run.contains code = true) :
    continuesIdentifier (Char.ofNat (shift.apply code)) = true := by
  obtain ⟨range, member, within⟩ := List.any_eq_true.mp covered
  simp only [Bool.and_eq_true, Bool.or_eq_true, Nat.ble_eq] at within
  simp only [CodeRun.contains, Bool.and_eq_true, decide_eq_true_eq] at contains
  have lower : range.1 ≤ shift.apply code := by
    have : shift.apply shift.run.first ≤ shift.apply code := by
      simp only [CaseShift.apply, Int.ofNat_eq_natCast]
      omega
    omega
  have upper : shift.apply code ≤ range.2 := by
    have : shift.apply code ≤ shift.apply shift.run.last := by
      simp only [CaseShift.apply, Int.ofNat_eq_natCast]
      omega
    omega
  have scalar : (shift.apply code).isValidChar := by
    simp only [Nat.isValidChar]
    omega
  have same : (Char.ofNat (shift.apply code)).toNat = shift.apply code := by
    rw [Char.ofNat, dif_pos scalar]
    rfl
  have outside : ¬shift.apply code < 0x80 := by omega
  rw [continuesIdentifier, same, if_neg outside, Bool.or_eq_true]
  refine .inl (List.any_eq_true.mpr ⟨range, List.mem_of_mem_filter member, ?_⟩)
  rw [Bool.and_eq_true, decide_eq_true_eq, decide_eq_true_eq]
  exact ⟨lower, upper⟩

theorem not_inRanges_of_isApart
    {run : CodeRun}
    {ranges : List (Nat × Nat)}
    {code : Nat}
    (apart : run.isApart ranges = true)
    (contains : run.contains code = true) :
    inRanges ranges code = false := by
  simp only [CodeRun.isApart, Bool.and_eq_true, List.all_eq_true, Bool.or_eq_true, Nat.blt_eq] at apart
  simp only [CodeRun.contains, Bool.and_eq_true, decide_eq_true_eq] at contains
  rw [inRanges, List.any_eq_false]
  intro range member
  have misses := apart.2 range member
  simp only [Bool.and_eq_true, decide_eq_true_eq]
  omega

theorem not_continues_of_isApart
    {run : CodeRun}
    {code : Nat}
    (noStart : run.isApart identifierStartRanges = true)
    (noRest : run.isApart identifierRestRanges = true)
    (contains : run.contains code = true) :
    continuesIdentifier (Char.ofNat code) = false := by
  have bounds : 0x80 ≤ code ∧ code ≤ 0xD7FF := by
    simp only [CodeRun.isApart, Bool.and_eq_true, Nat.ble_eq] at noStart
    simp only [CodeRun.contains, Bool.and_eq_true, decide_eq_true_eq] at contains
    omega
  have same : (Char.ofNat code).toNat = code := by
    rw [Char.ofNat, dif_pos (.inl (by omega))]
    rfl
  rw [continuesIdentifier, same, if_neg (by omega), not_inRanges_of_isApart noStart contains,
    not_inRanges_of_isApart noRest contains]
  rfl

theorem continues_apply
    {shift : CaseShift}
    (keeps : shift.keepsIdentifiers = true)
    {char : Char}
    (contains : shift.run.contains char.toNat = true)
    (continues : continuesIdentifier char = true) :
    continuesIdentifier (Char.ofNat (shift.apply char.toNat)) = true := by
  simp only [CaseShift.keepsIdentifiers, Bool.or_eq_true, Bool.and_eq_true] at keeps
  rcases keeps with (covered | ⟨noStart, noRest⟩) | single
  · exact continues_of_isCovered covered contains
  · have outside := not_continues_of_isApart noStart noRest contains
    rw [Char.ofNat_toNat, continues] at outside
    cases outside
  · have checked := List.all_eq_true.mp single _ (CodeRun.mem_codes contains)
    rw [Char.ofNat_toNat, continues, Bool.not_true, Bool.false_or] at checked
    exact checked

theorem continues_of_isLetter
    {char : Char}
    (letter : 0x41 ≤ char.toNat ∧ char.toNat ≤ 0x5A ∨ 0x61 ≤ char.toNat ∧ char.toNat ≤ 0x7A) :
    continuesIdentifier char = true := by
  rw [continuesIdentifier, if_pos (by omega), isAsciiLetter]
  simpa using .inl (.inl letter)

theorem continues_lowercase
    {char : Char}
    (continues : continuesIdentifier char = true) :
    ∀ lower ∈ lowercase char, continuesIdentifier lower = true := by
  intro lower member
  rcases mem_lowercase member with rfl | letter | rfl | ⟨shift, isShift, contains, rfl⟩
  · exact continues
  · exact continues_of_isLetter (.inr letter)
  · -- The dot above, among the characters that only go on with an identifier.
    have dotAbove : inRanges identifierRestRanges 0x307 = true :=
      List.any_eq_true.mpr ⟨(0x0300, 0x036F), List.mem_cons_of_mem _ List.mem_cons_self, by decide⟩
    have same : (Char.ofNat 0x307).toNat = 0x307 := by decide
    rw [continuesIdentifier, same, if_neg (by decide), dotAbove, Bool.or_true]
  · exact continues_apply (caseShifts_keepIdentifiers shift (List.mem_append_left _ isShift)) contains
      continues

theorem continues_uppercase
    {char : Char}
    (continues : continuesIdentifier char = true) :
    ∀ upper ∈ uppercase char, continuesIdentifier upper = true := by
  intro upper member
  rw [uppercase] at member
  split at member
  · rw [List.mem_singleton.mp member]
    split
    · next isLower =>
        rw [Bool.and_eq_true, decide_eq_true_eq, decide_eq_true_eq] at isLower
        have same : (Char.ofNat (char.toNat - 0x20)).toNat = char.toNat - 0x20 := by
          rw [Char.ofNat, dif_pos (.inl (by omega))]
          rfl
        exact continues_of_isLetter (.inl (by omega))
    · exact continues
  · split at member
    · next entry found =>
        obtain ⟨code, codeMember, rfl⟩ := List.mem_map.mp member
        exact upperSequences_are_identifiers entry (List.mem_of_find?_eq_some found) code codeMember
    · rw [List.mem_singleton.mp member, shiftCode]
      split
      · next shift found =>
          have contains := List.find?_some found
          have isShift := List.mem_append_right lowerShifts (List.mem_of_find?_eq_some found)
          exact continues_apply (caseShifts_keepIdentifiers shift isShift) contains continues
      · rwa [Char.ofNat_toNat]

/-! ### Letters and numbers of ASCII -/

/-- Does a shift lead out of ASCII, or to letters and numbers only? -/
def CaseShift.keepsPlain (shift : CaseShift) : Bool :=
  Nat.ble 0x80 (shift.apply shift.run.first)
      && ((shift.apply shift.run.last).ble 0xD7FF
        || Nat.ble 0xE000 (shift.apply shift.run.first) && (shift.apply shift.run.last).ble 0x10FFFF)
    || shift.run.codes.all fun code => isAlphanumeric (Char.ofNat (shift.apply code))

set_option maxRecDepth 4000 in
theorem lowerShifts_keepPlain : ∀ shift ∈ lowerShifts, shift.keepsPlain = true := by
  decide

theorem isAlphanumeric_of_keepsPlain
    {shift : CaseShift}
    {code : Nat}
    (keeps : shift.keepsPlain = true)
    (contains : shift.run.contains code = true)
    (isAscii : (Char.ofNat (shift.apply code)).toNat < 0x80) :
    isAlphanumeric (Char.ofNat (shift.apply code)) = true := by
  rw [CaseShift.keepsPlain, Bool.or_eq_true] at keeps
  rcases keeps with outside | single
  · simp only [Bool.and_eq_true, Bool.or_eq_true, Nat.ble_eq] at outside
    simp only [CodeRun.contains, Bool.and_eq_true, decide_eq_true_eq] at contains
    have bounds : shift.apply shift.run.first ≤ shift.apply code
        ∧ shift.apply code ≤ shift.apply shift.run.last := by
      simp only [CaseShift.apply, Int.ofNat_eq_natCast]
      omega
    have scalar : (shift.apply code).isValidChar := by
      simp only [Nat.isValidChar]
      omega
    have same : (Char.ofNat (shift.apply code)).toNat = shift.apply code := by
      rw [Char.ofNat, dif_pos scalar]
      rfl
    omega
  · exact List.all_eq_true.mp single code (CodeRun.mem_codes contains)

theorem lowercase_ne_nil (char : Char) : lowercase char ≠ [] := by
  rw [lowercase]
  split
  · simp
  · split <;> simp

/-- What is plain is so in lower case. -/
theorem plain_lowercase
    {char : Char}
    (plain : char.toNat < 0x80 → isAlphanumeric char = true) :
    ∀ lower ∈ lowercase char, lower.toNat < 0x80 → isAlphanumeric lower = true := by
  intro lower member isAscii
  rcases mem_lowercase member with rfl | letter | rfl | ⟨shift, isShift, contains, rfl⟩
  · exact plain isAscii
  · rw [isAlphanumeric, if_pos isAscii, isAsciiLetter]
    simp [letter]
  · exact absurd isAscii (by decide)
  · exact isAlphanumeric_of_keepsPlain (lowerShifts_keepPlain shift isShift) contains isAscii

/-! ### Characters that are no blanks -/

/-- The code points of the blanks. -/
def blankCodes : List Nat :=
  [0x09, 0x0A, 0x0B, 0x0C, 0x0D, 0x20, 0x85, 0xA0, 0x1680, 0x2000, 0x2001, 0x2002, 0x2003, 0x2004,
    0x2005, 0x2006, 0x2007, 0x2008, 0x2009, 0x200A, 0x2028, 0x2029, 0x202F, 0x205F, 0x3000]

theorem toNat_mem_blankCodes
    {char : Char}
    (blank : isBlank char = true) :
    char.toNat ∈ blankCodes := by
  simp only [isBlank, Bool.or_eq_true, Bool.and_eq_true, decide_eq_true_eq, beq_iff_eq] at blank
  simp only [blankCodes, List.mem_cons, List.not_mem_nil, or_false]
  omega

set_option maxRecDepth 4000 in
theorem blankCodes_not_alphanumeric :
    ∀ code ∈ blankCodes, isAlphanumeric (Char.ofNat code) = false := by
  decide

/-- Letters and numbers are no blanks. -/
theorem not_isBlank_of_isAlphanumeric
    {char : Char}
    (alphanumeric : isAlphanumeric char = true) :
    isBlank char = false := by
  refine Bool.eq_false_iff.mpr fun blank => ?_
  have outside := blankCodes_not_alphanumeric char.toNat (toNat_mem_blankCodes blank)
  rw [Char.ofNat_toNat, alphanumeric] at outside
  cases outside

set_option maxRecDepth 4000 in
theorem lowerShifts_avoidBlanks :
    ∀ shift ∈ lowerShifts,
      (shift.run.codes.all fun code => !isBlank (Char.ofNat (shift.apply code))) = true := by
  decide

/-- What is no blank is none in lower case. -/
theorem not_isBlank_lowercase
    {char : Char}
    (noBlank : isBlank char = false) :
    ∀ lower ∈ lowercase char, isBlank lower = false := by
  intro lower member
  rcases mem_lowercase member with rfl | letter | rfl | ⟨shift, isShift, contains, rfl⟩
  · exact noBlank
  · refine Bool.eq_false_iff.mpr fun blank => ?_
    have isCode := toNat_mem_blankCodes blank
    simp only [blankCodes, List.mem_cons, List.not_mem_nil, or_false] at isCode
    omega
  · decide
  · simpa using List.all_eq_true.mp (lowerShifts_avoidBlanks shift isShift) _ (CodeRun.mem_codes contains)

end Scaffold.Text
