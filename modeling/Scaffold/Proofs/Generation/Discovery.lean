import Scaffold.Proofs.Generation.Contract
import Scaffold.Proofs.Text.Pieces

/-!
Contract: what a scan finds in a source file.

Owns:
- the words that a documentation text holds whole;
- the jobs of a file and the declarations that it passes over, in the order of the source;
- the tasks of a job before anything was rendered.

Does not own: what becomes of a job.
-/

namespace Scaffold

open Source

/-! ### Whole words -/

/-- The characters between words. -/
def Directive.isCut (char : Char) : Bool :=
  Text.isBlank char || char == ','

/-- A documentation text holds a word whole: the word stands between blanks, commas or the ends. -/
def Directive.Holds (doc word : String) : Prop :=
  ∃ front back, doc.toList = front ++ word.toList ++ back
    ∧ (∀ char ∈ front.getLast?, isCut char = true) ∧ ∀ char ∈ back.head?, isCut char = true

/-- Something that can be a word: it is not empty and nothing cuts in it. -/
def Directive.IsWord (word : String) : Prop :=
  word ≠ "" ∧ ∀ char ∈ word.toList, isCut char = false

theorem Directive.mem_words_iff
    {doc word : String}
    (isWord : IsWord word) :
    word ∈ words doc ↔ Holds doc word := by
  have pieces : words doc = Text.nonemptyPieces isCut doc := rfl
  rw [pieces, Text.mem_nonemptyPieces_iff, Text.mem_splitAtAll_iff]
  constructor
  · rintro ⟨-, front, back, split, opened, -, closed⟩
    exact ⟨front, back, split, opened, closed⟩
  · rintro ⟨front, back, split, opened, closed⟩
    exact ⟨isWord.1, front, back, split, opened, isWord.2, closed⟩

theorem Directive.isWord_of_all
    {word : String}
    (something : word ≠ "")
    (whole : (word.toList.all fun char => !isCut char) = true) :
    IsWord word :=
  ⟨something, fun char member => by simpa using List.all_eq_true.mp whole char member⟩

theorem Directive.isWord_marker : IsWord marker :=
  isWord_of_all (by decide) (by decide)

theorem Directive.isWord_token (option : DirectiveOption) : IsWord option.token := by
  cases option <;> exact isWord_of_all (by decide) (by decide)

theorem Directive.not_holds_empty {word : String} (isWord : IsWord word) : ¬Holds "" word := by
  rw [← mem_words_iff isWord]
  exact List.not_mem_nil

/-- A text is a directive exactly if it holds the marker. -/
theorem Directive.parse?_isSome_iff {doc : String} :
    (parse? doc).isSome = true ↔ Holds doc marker := by
  rw [parse?_eq, ← mem_words_iff isWord_marker]
  split <;> simp [*]

/-- An option is on exactly if the text holds its word. -/
theorem Directive.has_of_parse?
    {doc : String}
    {directive : Directive}
    (found : parse? doc = some directive)
    (option : DirectiveOption) :
    directive.has option = true ↔ Holds doc option.token := by
  rw [← mem_words_iff (isWord_token option)]
  rw [parse?] at found
  split at found
  · cases found
    rw [← List.contains_iff_mem, ← DirectiveOption.contains_filterMap_ofToken?]
    cases option <;> rfl
  · cases found

/-! ### Tasks -/

/-- The tasks of a job before anything was rendered, one for each of its kinds. -/
def Job.tasks (job : Job) : List ArtifactTask :=
  job.directive.artifactKinds.map ArtifactTask.empty

/-- A job renders into its tasks, one behind the other. -/
theorem Job.run_eq (job : Job) :
    job.run = (do
      let service ← job.service
      let tasks ← job.tasks.mapM fun task => task.renderAndMerge service
      return ⟨service.interface, tasks⟩) := by
  simp only [run, tasks, List.mapM_map, Function.comp_def]

/-- There is one task for each kind of the baseline and of the options that are on, and it is empty. -/
theorem Job.mem_tasks_iff {job : Job} {task : ArtifactTask} :
    task ∈ job.tasks
      ↔ ∃ kind, task = .empty kind ∧ (kind ∈ Directive.baseline
        ∨ ∃ option, job.directive.has option = true ∧ kind ∈ option.artifactKinds) := by
  have isOn (option : DirectiveOption) :
      option ∈ job.directive.options ↔ job.directive.has option = true := by
    rw [Directive.options, List.mem_filter]
    exact ⟨And.right, fun on => ⟨by cases option <;> decide, on⟩⟩
  rw [tasks, List.mem_map]
  simp only [Directive.artifactKinds, ArtifactKind.mem_distinct, List.mem_append, List.mem_flatMap, isOn]
  exact ⟨fun ⟨kind, asked, same⟩ => ⟨kind, same.symm, asked⟩,
    fun ⟨kind, same, asked⟩ => ⟨kind, asked, same.symm⟩⟩

/-- The tasks stand in the order of their keys, so that no two are of one kind. -/
theorem Job.tasks_inKeyOrder (job : Job) : ArtifactKind.InKeyOrder (job.tasks.map ArtifactTask.kind) := by
  have kinds : job.tasks.map ArtifactTask.kind = job.directive.artifactKinds := by
    rw [tasks, List.map_map]
    exact List.map_id _
  rw [kinds]
  exact ArtifactKind.distinct_inKeyOrder _

/-! ### Classification -/

/-- A declaration of a type asks for a job: it is a documented trait, and its documentation holds the
marker. -/
structure TypeDeclaration.AsksFor
    (package : Package)
    (declaration : TypeDeclaration)
    (job : Job) : Prop where
  isTrait : declaration.sort = .trait
  documented : docText declaration.attributes ≠ ""
  tagged : Directive.Holds (docText declaration.attributes) Directive.marker
  declares : job.declaration = declaration.serviceTrait
  inPackage : job.package = package
  options : ∀ option, job.directive.has option = true
    ↔ Directive.Holds (docText declaration.attributes) option.token

/-- Why a declaration of a type is passed over. -/
inductive TypeDeclaration.PassedOver (declaration : TypeDeclaration) : SkipReason → Prop where
  | undocumented
      (undocumented : docText declaration.attributes = "") :
      PassedOver declaration .missingDocComment
  | noTrait
      (documented : docText declaration.attributes ≠ "")
      (noTrait : declaration.sort ≠ .trait)
      (tagged : Directive.Holds (docText declaration.attributes) Directive.marker) :
      PassedOver declaration (.notAnInterface declaration.sort)
  | untagged
      (documented : docText declaration.attributes ≠ "")
      (isTrait : declaration.sort = .trait)
      (untagged : ¬Directive.Holds (docText declaration.attributes) Directive.marker) :
      PassedOver declaration .missingMarker

/-- Elements are gone through one by one, and each picks the one result that it is related to, or nothing
if there is none. -/
inductive Picks {α β : Type} (related : α → β → Prop) : List α → List β → Prop where
  | nil : Picks related [] []
  | pick
      {element : α}
      {result : β}
      {elements : List α}
      {results : List β}
      (isRelated : related element result)
      (behind : Picks related elements results) :
      Picks related (element :: elements) (result :: results)
  | pass
      {element : α}
      {elements : List α}
      {results : List β}
      (isNone : ∀ result, ¬related element result)
      (behind : Picks related elements results) :
      Picks related (element :: elements) results

theorem picks_filterMap
    {α β : Type}
    {pick? : α → Option β}
    {related : α → β → Prop}
    (isPicked : ∀ element result, pick? element = some result ↔ related element result)
    (elements : List α) :
    Picks related elements (elements.filterMap pick?) := by
  induction elements with
  | nil => exact .nil
  | cons element rest inductionHypothesis =>
      cases picked : pick? element with
      | none =>
          rw [List.filterMap_cons_none picked]
          refine .pass (fun result isRelated => ?_) inductionHypothesis
          rw [(isPicked element result).mpr isRelated] at picked
          cases picked
      | some result =>
          rw [List.filterMap_cons_some picked]
          exact .pick ((isPicked element result).mp picked) inductionHypothesis

theorem Directive.eq_of_has
    {left right : Directive}
    (same : ∀ option, left.has option = right.has option) :
    left = right := by
  cases left
  cases right
  cases same .http
  cases same .nats
  cases same .logging
  cases same .tracing
  rfl

/-- A declaration is a job exactly if it asks for it. -/
theorem Finding.job?_ofDeclaration_eq_some_iff
    {package : Package}
    {declaration : TypeDeclaration}
    {job : Job} :
    (ofDeclaration package declaration).job? = some job ↔ declaration.AsksFor package job := by
  constructor
  · intro found
    by_cases isTrait : declaration.sort = .trait
    · rw [job?_ofDeclaration_of_trait package isTrait, Option.map_eq_some_iff] at found
      obtain ⟨directive, parsed, rfl⟩ := found
      have tagged : Directive.Holds (docText declaration.attributes) Directive.marker := by
        rw [← Directive.parse?_isSome_iff, parsed]
        rfl
      have documented : docText declaration.attributes ≠ "" := fun undocumented =>
        Directive.not_holds_empty Directive.isWord_marker (undocumented ▸ tagged)
      exact ⟨isTrait, documented, tagged, rfl, rfl, Directive.has_of_parse? parsed⟩
    · rw [job?_ofDeclaration_of_no_trait package declaration isTrait] at found
      cases found
  · rintro ⟨isTrait, -, tagged, declares, inPackage, options⟩
    obtain ⟨directive, parsed⟩ := Option.isSome_iff_exists.mp (Directive.parse?_isSome_iff.mpr tagged)
    rw [job?_ofDeclaration_of_trait package isTrait, parsed, Option.map_some]
    have sameOptions : directive = job.directive := Directive.eq_of_has fun option =>
      Bool.eq_iff_iff.mpr ((Directive.has_of_parse? parsed option).trans (options option).symm)
    rw [← declares, ← inPackage, sameOptions]

/-- A declaration is only skipped for a reason to pass it over. -/
theorem Finding.passedOver_of_skipped?
    {package : Package}
    {declaration : TypeDeclaration}
    {skipped : SkippedDeclaration}
    (found : (ofDeclaration package declaration).skipped? = some skipped) :
    skipped.name = declaration.name ∧ declaration.PassedOver skipped.reason := by
  rw [ofDeclaration] at found
  simp only [String.isEmpty_iff] at found
  split at found
  case isTrue undocumented =>
    cases found
    exact ⟨rfl, .undocumented undocumented⟩
  case isFalse documented =>
    split at found
    case h_1 => cases found
    case h_2 isTrait parsed =>
      cases found
      refine ⟨rfl, .untagged documented isTrait fun tagged => ?_⟩
      rw [← Directive.parse?_isSome_iff, parsed] at tagged
      cases tagged
    case h_3 parsed noTrait =>
      cases found
      refine ⟨rfl, .noTrait documented noTrait ?_⟩
      rw [← Directive.parse?_isSome_iff, parsed]
      rfl
    case h_4 => cases found

/-- A declaration that there is a reason to pass over is skipped for it. -/
theorem Finding.skipped?_of_passedOver
    (package : Package)
    {declaration : TypeDeclaration}
    {reason : SkipReason}
    (passedOver : declaration.PassedOver reason) :
    (ofDeclaration package declaration).skipped? = some ⟨declaration.name, reason⟩ := by
  rw [ofDeclaration]
  simp only [String.isEmpty_iff]
  cases passedOver with
  | undocumented undocumented => rw [if_pos undocumented, skipped?]
  | noTrait documented noTrait tagged =>
      obtain ⟨directive, parsed⟩ := Option.isSome_iff_exists.mp (Directive.parse?_isSome_iff.mpr tagged)
      rw [if_neg documented, parsed]
      split
      case h_1 isTrait _ => exact absurd isTrait noTrait
      case h_2 isTrait _ => exact absurd isTrait noTrait
      case h_3 => rfl
      case h_4 noDirective _ => cases noDirective
  | untagged documented isTrait untagged =>
      have parsed : Directive.parse? (docText declaration.attributes) = none := by
        rwa [← Option.not_isSome_iff_eq_none, Directive.parse?_isSome_iff]
      rw [if_neg documented, isTrait, parsed]
      rfl

/-! ### Files -/

/-- What a scan finds among the items of a file. Its jobs are those that the traits with the marker in
their documentation ask for, and what it skips are the declarations of types that there is a reason to
pass over, both in the order of the source and each once; nothing else contributes. A job starts with
one empty task for each kind of the baseline and of its options. Items that stand behind others add
their own findings behind those of the others. -/
theorem Discovery.ofItems_classifies
    (package : Package)
    (items : List (Node .item)) :
    Picks
        (fun item job => ∃ declaration, TypeDeclaration.ofItem? item = some declaration
          ∧ declaration.AsksFor package job)
        items (ofItems package items).jobs
      ∧ Picks
        (fun item skipped => ∃ declaration, TypeDeclaration.ofItem? item = some declaration
          ∧ skipped.name = declaration.name ∧ declaration.PassedOver skipped.reason)
        items (ofItems package items).skipped
      ∧ (∀ job ∈ (ofItems package items).jobs,
        ArtifactKind.InKeyOrder (job.tasks.map ArtifactTask.kind)
          ∧ ∀ task, task ∈ job.tasks
            ↔ ∃ kind, task = .empty kind ∧ (kind ∈ Directive.baseline
              ∨ ∃ option, job.directive.has option = true ∧ kind ∈ option.artifactKinds))
      ∧ ∀ more, (ofItems package (items ++ more)).jobs
            = (ofItems package items).jobs ++ (ofItems package more).jobs
          ∧ (ofItems package (items ++ more)).skipped
            = (ofItems package items).skipped ++ (ofItems package more).skipped := by
  simp only [ofItems, List.filterMap_map]
  refine ⟨picks_filterMap (fun item job => ?_) items, picks_filterMap (fun item skipped => ?_) items,
    fun job _ => ⟨job.tasks_inKeyOrder, fun task => Job.mem_tasks_iff⟩,
    fun more => ⟨List.filterMap_append, List.filterMap_append⟩⟩
  · rw [Function.comp_apply, Finding.ofItem]
    cases TypeDeclaration.ofItem? item with
    | none => simp [Finding.job?]
    | some declaration => simp [Finding.job?_ofDeclaration_eq_some_iff]
  · rw [Function.comp_apply, Finding.ofItem]
    cases TypeDeclaration.ofItem? item with
    | none => simp [Finding.skipped?]
    | some declaration =>
        simp only [Option.some.injEq, exists_eq_left']
        constructor
        · exact Finding.passedOver_of_skipped?
        · rintro ⟨isName, passedOver⟩
          rw [Finding.skipped?_of_passedOver package passedOver, ← isName]

end Scaffold
