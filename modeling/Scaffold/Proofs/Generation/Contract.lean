import Scaffold.Proofs.Generation.Run

/-!
Contract: what a generation run reads in a source file.

Owns:
- the contract of a tagged trait: its name, its options, whether its async methods are boxed, and
  the signatures of its methods with a receiver;
- the jobs of a file as a function of its contracts;
- the comparison of the runs over two files with the same contracts.

Does not own: what a run makes of a contract.
-/

namespace Scaffold

open Source

/-! ### Options -/

theorem DirectiveOption.ofToken?_eq_some_iff {token : String} {option : DirectiveOption} :
    ofToken? token = some option ↔ option.token = token := by
  constructor
  · intro found
    rw [ofToken?] at found
    have isNamed := List.find?_some found
    exact beq_iff_eq.mp isNamed
  · rintro rfl
    cases option <;> decide

/-- An option is among those that words turn on exactly if its own word is among the words. -/
theorem DirectiveOption.contains_filterMap_ofToken? (words : List String) (option : DirectiveOption) :
    (words.filterMap ofToken?).contains option = words.contains option.token := by
  rw [Bool.eq_iff_iff, List.contains_iff_mem, List.contains_iff_mem, List.mem_filterMap]
  simp only [ofToken?_eq_some_iff]
  exact ⟨fun ⟨_, isWord, same⟩ => same ▸ isWord, fun isWord => ⟨_, isWord, rfl⟩⟩

theorem Directive.ofOptions_eq
    {left right : List DirectiveOption}
    (same : ∀ option, left.contains option = right.contains option) :
    ofOptions left = ofOptions right := by
  simp only [ofOptions, same]

/-! ### Contracts -/

/-- What a tagged trait declares to the generator. -/
structure Contract where
  name : String
  /-- The options whose words the documentation holds, each once. -/
  options : List DirectiveOption
  asyncTrait : Bool
  /-- The signatures of the methods with a receiver, in the order of their declaration. -/
  signatures : List (Node .signature)

namespace Contract

/-- The contract of a trait, which has one if its documentation holds the marker word. -/
def ofTrait?
    (name : String)
    (attributes : List (Node .attribute))
    (items : List (Node .item)) :
    Option Contract :=
  let words := Directive.words (docText attributes)
  if Directive.marker ∈ words then
    some ⟨name, DirectiveOption.all.filter fun option => words.contains option.token,
      asksForAsyncTrait attributes, methodSignatures items⟩
  else none

/-- The contract of an item. Only traits have one, and only their names, their attributes and their
items are looked at. -/
def ofItem? : Node .item → Option Contract
  | .traitItem attributes _ _ _ name _ _ _ _ inner items =>
      ofTrait? name (attributes.toList ++ inner.toList) items.toList
  | _ => none

/-- The job that a contract asks for. -/
def job (package : Package) (contract : Contract) : Job :=
  ⟨⟨contract.name, contract.signatures, contract.asyncTrait⟩, package,
    Directive.ofOptions contract.options⟩

end Contract

/-- The contracts of a file, in the order of the source. -/
def Source.SourceFile.contracts (file : SourceFile) : List Contract :=
  file.items.filterMap Contract.ofItem?

/-! ### Jobs of contracts -/

theorem Finding.job?_ofDeclaration_of_no_trait
    (package : Package)
    (declaration : TypeDeclaration)
    (noTrait : declaration.sort ≠ .trait) :
    (ofDeclaration package declaration).job? = none := by
  rw [ofDeclaration]
  split
  · rfl
  · split
    · next isTrait _ => exact absurd isTrait noTrait
    · next isTrait _ => exact absurd isTrait noTrait
    · rfl
    · rfl

/-- A trait is a job exactly if its documentation is a directive. An empty documentation is none,
since it has no words. -/
theorem Finding.job?_ofDeclaration_of_trait
    (package : Package)
    {declaration : TypeDeclaration}
    (isTrait : declaration.sort = .trait) :
    (ofDeclaration package declaration).job?
      = (Directive.parse? (docText declaration.attributes)).map fun directive =>
          ⟨declaration.serviceTrait, package, directive⟩ := by
  rw [ofDeclaration]
  simp only [isTrait]
  split
  case isTrue isEmpty =>
    rw [String.isEmpty_iff.mp isEmpty]
    rfl
  case isFalse => cases Directive.parse? (docText declaration.attributes) <;> rfl

theorem Directive.parse?_eq (doc : String) :
    parse? doc
      = if marker ∈ words doc then
          some (ofOptions (DirectiveOption.all.filter fun option => (words doc).contains option.token))
        else none := by
  have sameOptions : ofOptions ((words doc).filterMap DirectiveOption.ofToken?)
      = ofOptions (DirectiveOption.all.filter fun option => (words doc).contains option.token) := by
    apply ofOptions_eq
    intro option
    rw [DirectiveOption.contains_filterMap_ofToken?, Bool.eq_iff_iff]
    have isOption : option ∈ DirectiveOption.all := by cases option <;> decide
    simp [isOption]
  rw [parse?]
  simp only [List.contains_iff_mem, sameOptions]

theorem Finding.job?_ofTrait
    (package : Package)
    (name : String)
    (attributes : List (Node .attribute))
    (items : List (Node .item)) :
    (ofDeclaration package ⟨name, .trait, attributes, methodSignatures items⟩).job?
      = (Contract.ofTrait? name attributes items).map (Contract.job package) := by
  rw [job?_ofDeclaration_of_trait package rfl, Directive.parse?_eq, Contract.ofTrait?]
  by_cases isTagged : Directive.marker ∈ Directive.words (docText attributes)
  · simp only [if_pos isTagged, Option.map_some, TypeDeclaration.serviceTrait, Contract.job]
  · simp only [if_neg isTagged, Option.map_none]

/-- An item is a job exactly if it has a contract, and it is the job of the contract. -/
theorem Finding.job?_ofItem (package : Package) (item : Node .item) :
    (ofItem package item).job? = (Contract.ofItem? item).map (Contract.job package) := by
  cases item
  case traitItem attributes access isUnchecked isAuto name generics colon bounds trailing inner items =>
    have declares : ofItem package (.traitItem attributes access isUnchecked isAuto name generics colon bounds trailing inner items)
        = ofDeclaration package
          ⟨name, .trait, attributes.toList ++ inner.toList, methodSignatures items.toList⟩ := rfl
    have contracts : Contract.ofItem? (.traitItem attributes access isUnchecked isAuto name generics colon bounds trailing inner items)
        = Contract.ofTrait? name (attributes.toList ++ inner.toList) items.toList := rfl
    rw [declares, contracts]
    exact job?_ofTrait package name (attributes.toList ++ inner.toList) items.toList
  case structItem attributes access name generics fields =>
    exact job?_ofDeclaration_of_no_trait package ⟨name, .struct, attributes.toList, []⟩
      TypeSort.noConfusion
  case enumItem attributes access name generics variants trailing =>
    exact job?_ofDeclaration_of_no_trait package ⟨name, .enum, attributes.toList, []⟩
      TypeSort.noConfusion
  case unionItem attributes access name generics fields =>
    exact job?_ofDeclaration_of_no_trait package ⟨name, .union, attributes.toList, []⟩
      TypeSort.noConfusion
  case typeItem attributes access name generics type =>
    exact job?_ofDeclaration_of_no_trait package ⟨name, .typeAlias, attributes.toList, []⟩
      TypeSort.noConfusion
  all_goals rfl

/-- The jobs of a file are those of its contracts. -/
theorem Discovery.jobs_eq (package : Package) (file : SourceFile) :
    (ofItems package file.items).jobs = file.contracts.map (Contract.job package) := by
  rw [ofItems, SourceFile.contracts, List.map_filterMap]
  simp only [List.filterMap_map, Function.comp_def, Finding.job?_ofItem]

/-! ### Two files with the same contracts -/

/-- The same jobs complete and the same jobs fail, for the same reasons. -/
theorem Build.ofItems_of_contracts
    {left right : SourceFile}
    (sameContracts : left.contracts = right.contracts)
    (package : Package) :
    (ofItems package left.items).completed = (ofItems package right.items).completed
      ∧ (ofItems package left.items).failed = (ofItems package right.items).failed := by
  have sameJobs : (Discovery.ofItems package left.items).jobs
      = (Discovery.ofItems package right.items).jobs := by
    rw [Discovery.jobs_eq, Discovery.jobs_eq, sameContracts]
  simp only [ofItems, sameJobs, and_self]

/-- A run reads nothing in a source file but the contracts of its tagged traits.

Over two files with the same contracts, and from the same state of the place where files are kept,
a run comes to the same end: it fails for the same reason, or it lists the same files and reports
the same failed interfaces with the same failures. In both cases it leaves the same files. -/
theorem generate_reads_contracts_only
    {left right : SourceFile}
    (sameContracts : left.contracts = right.contracts)
    (package : Package)
    (root : Path)
    {σ : Type}
    [Storage (StateM σ)]
    (state : σ) :
    (runOn state (generate package root left)).1.map
          (fun report => (report.emitted, report.failed))
        = (runOn state (generate package root right)).1.map
          (fun report => (report.emitted, report.failed))
      ∧ (runOn state (generate package root left)).2
        = (runOn state (generate package root right)).2 := by
  obtain ⟨sameCompleted, sameFailed⟩ := Build.ofItems_of_contracts sameContracts package
  have sameTasks : (Build.ofItems package left.items).accumulated
      = (Build.ofItems package right.items).accumulated := by
    rw [Build.accumulated, Build.accumulated, sameCompleted]
  rw [runOn_generate, runOn_generate, sameTasks, sameFailed]
  rcases runOn state
    ((Build.ofItems package right.items).accumulated.mapM (ArtifactTask.emit root))
    with ⟨failure | emitted, after⟩
  · exact ⟨rfl, rfl⟩
  · exact ⟨rfl, rfl⟩

/-! ### A trait in two dresses -/

/-- A documentation line of a declaration. -/
def docLine (literal : String) : Node .attribute :=
  .valueAttribute false ⟨false, ["doc"]⟩ (.literalExpr literal)

/-- The type with a name. -/
def namedType (name : String) : Node .type :=
  .pathType (.simplePath false (.cons (.pathSegment name .noArguments) .nil))

/-- No generic parameters and no conditions. -/
def noGenerics : Node .generics :=
  .genericList false .nil false .absent false

/-- The signature of a method that adds a number. -/
def addSignature : Node .signature :=
  .functionSignature ⟨false, false, false, none⟩ "add" noGenerics
    (.cons (.selfParameter .nil (some none) false .absent)
      (.cons (.typedParameter .nil (.namePattern false false "a" .absent) (namedType "i64")) .nil))
    false (.present (namedType "i64"))

/-- A private trait with one method, and nothing else in the file. -/
def plainCalc : SourceFile where
  attributes := []
  items :=
    [.traitItem (.cons (docLine "\" servicegen:service http\"") .nil) .inherited false false "Calc"
      noGenerics false .nil false .nil
      (.cons (.functionItem .nil .inherited false addSignature .absent) .nil)]

/-- A public trait behind a structure, with the marker and the option in another order and other
words around them, with a trait above it and an associated type and a constructor beside its method,
which is documented and has a body. -/
def dressedCalc : SourceFile where
  attributes := [docLine "\" All about numbers.\""]
  items :=
    [.structItem .nil .everywhere "Number" noGenerics .noFields,
      .traitItem
        (.cons (docLine "\" Adds numbers, over http.\"")
          (.cons (docLine "\" Generated: http,servicegen:service and more.\"") .nil))
        .everywhere false false "Calc" noGenerics true
        (.cons (.traitBound false false .absent
          (.simplePath false (.cons (.pathSegment "Send" .noArguments) .nil))) .nil)
        false .nil
        (.cons (.associatedTypeItem .nil .inherited false "Error" noGenerics false .nil false .absent)
          (.cons
            (.functionItem .nil .inherited false
              (.functionSignature ⟨false, false, false, none⟩ "new" noGenerics .nil false
                (.present (namedType "Self")))
              .absent)
            (.cons
              (.functionItem (.cons (docLine "\" The sum.\"") .nil) .inherited false addSignature
                (.present (.blockBody .nil
                  (.cons (.exprStatement (.literalExpr "0") false) .nil))))
              .nil)))]

/-- Both files hold the same contract. -/
theorem contracts_dressedCalc :
    plainCalc.contracts = [⟨"Calc", [.http], false, [addSignature]⟩]
      ∧ dressedCalc.contracts = [⟨"Calc", [.http], false, [addSignature]⟩] :=
  ⟨rfl, rfl⟩

theorem generate_reads_contracts_only_of_dressedCalc :
    plainCalc.contracts = dressedCalc.contracts
      ∧ ((FileTree.empty ["work"]).run (generate ⟨"calc", "calc"⟩ ⟨"out"⟩ plainCalc)).1.map
            (fun report => (report.emitted, report.failed))
          = ((FileTree.empty ["work"]).run (generate ⟨"calc", "calc"⟩ ⟨"out"⟩ dressedCalc)).1.map
            (fun report => (report.emitted, report.failed))
      ∧ ((FileTree.empty ["work"]).run (generate ⟨"calc", "calc"⟩ ⟨"out"⟩ plainCalc)).2
          = ((FileTree.empty ["work"]).run (generate ⟨"calc", "calc"⟩ ⟨"out"⟩ dressedCalc)).2 := by
  have sameContracts : plainCalc.contracts = dressedCalc.contracts :=
    contracts_dressedCalc.1.trans contracts_dressedCalc.2.symm
  exact ⟨sameContracts,
    generate_reads_contracts_only sameContracts ⟨"calc", "calc"⟩ ⟨"out"⟩ (FileTree.empty ["work"])⟩

end Scaffold
