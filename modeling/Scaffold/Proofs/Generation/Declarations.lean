import Scaffold.Proofs.Generation.Sharing
import Scaffold.Proofs.Generation.Tallies
import Scaffold.Proofs.Source.LastItem

/-!
Contract: the declarations of the files that the jobs of a source file accumulate.

Owns:
- files whose declarations are apart, and files that agree where they declare the same;
- merges of files that agree;
- that the files of a service are apart where its names are, and agree with those of another service
  whose names are apart from these;
- that the accumulated files declare nothing twice.

Does not own: interfaces whose names are not apart.
-/

namespace Scaffold

open Source Source.Scan Artifact Text

/-! ### Files -/

/-- No two structures, no two functions and no two constants of the file have one name, and no two
functions of an implementation do. -/
structure Source.SourceFile.DeclaresApart (file : SourceFile) : Prop where
  declared : (file.items.filterMap Node.declared?).Nodup
  functions : ∀ item ∈ file.items, item.functions.Nodup

/-- Items of two files that declare the same are the same. -/
def Source.SourceFile.Agrees (first second : SourceFile) : Prop :=
  ∀ item ∈ first.items, ∀ other ∈ second.items, ∀ declared, item.declared? = some declared →
    other.declared? = some declared → item.sameItem other = true

/-- Of elements without a common key only one has the key. -/
theorem eq_of_nodup_filterMap
    {α β : Type}
    {key? : α → Option β}
    {elements : List α}
    (apart : (elements.filterMap key?).Nodup)
    {element other : α}
    (member : element ∈ elements)
    (isOther : other ∈ elements)
    {key : β}
    (has : key? element = some key)
    (otherHas : key? other = some key) :
    element = other := by
  induction elements with
  | nil => contradiction
  | cons first rest inductionHypothesis =>
      have later {found : α} (inRest : found ∈ rest) (isKey : key? found = some key) :
          key ∈ rest.filterMap key? :=
        List.mem_filterMap.mpr ⟨found, inRest, isKey⟩
      rcases List.mem_cons.mp member with rfl | inRest <;>
        rcases List.mem_cons.mp isOther with rfl | otherInRest
      · rfl
      · rw [List.filterMap_cons_some has] at apart
        exact absurd (later otherInRest otherHas) (List.nodup_cons.mp apart).1
      · rw [List.filterMap_cons_some otherHas] at apart
        exact absurd (later inRest has) (List.nodup_cons.mp apart).1
      · exact inductionHypothesis (apart.sublist ((List.sublist_cons_self first rest).filterMap key?))
          inRest otherInRest

theorem Source.Node.sameItem_of_spell
    {item other : Node .item}
    (spelled : (item.spell true : List Token) = other.spell true) :
    item.sameItem other = true :=
  beq_iff_eq.mpr spelled

theorem Source.SourceFile.DeclaresApart.agrees {file : SourceFile} (apart : file.DeclaresApart) :
    file.Agrees file := by
  intro item member other isOther declared declares otherDeclares
  rw [eq_of_nodup_filterMap apart.declared member isOther declares otherDeclares]
  exact Node.sameItem_of_spell rfl

/-! ### Merges -/

namespace ArtifactTask

section AppendNew

variable
  {α : Type}
  {same : α → α → Bool}
  {held elements : List α}

theorem appendNew_sublist : (appendNew same held elements).Sublist (held ++ elements) := by
  induction elements generalizing held with
  | nil => rw [List.append_nil]; exact List.Sublist.refl held
  | cons element rest inductionHypothesis =>
      rw [appendNew]
      split
      · exact inductionHypothesis.trans ((List.sublist_cons_self element rest).append_left held)
      · have added : (appendNew same (held ++ [element]) rest).Sublist (held ++ [element] ++ rest) :=
          inductionHypothesis
        rwa [← List.append_cons] at added

/-- Where elements clash only if they are the same, those that are kept do not clash. -/
theorem pairwise_appendNew
    {clash : α → α → Prop}
    (alike : (held ++ elements).Pairwise fun element later => clash element later → same element later = true)
    (apart : held.Pairwise fun element later => ¬clash element later) :
    (appendNew same held elements).Pairwise fun element later => ¬clash element later := by
  induction elements generalizing held with
  | nil => exact apart
  | cons element rest inductionHypothesis =>
      rw [appendNew]
      split
      · next isHeld =>
          exact inductionHypothesis
            (alike.sublist ((List.sublist_cons_self element rest).append_left held)) apart
      · next isNew =>
          have known := (List.pairwise_append.mp alike).2.2
          refine inductionHypothesis (by simpa using alike) (List.pairwise_append.mpr ⟨apart, ?_, ?_⟩)
          · exact List.pairwise_singleton _ _
          · intro old isOld last isLast clashes
            obtain rfl := List.mem_singleton.mp isLast
            exact isNew (List.any_eq_true.mpr
              ⟨old, isOld, known old isOld last List.mem_cons_self clashes⟩)

end AppendNew

/-- What is merged of files whose declarations are apart and that agree has its declarations apart. -/
theorem declaresApart_foldl_merge
    {fragments : List SourceFile}
    (each : ∀ fragment ∈ fragments, fragment.DeclaresApart)
    (agree : fragments.Pairwise SourceFile.Agrees)
    (kind : ArtifactKind) :
    (fragments.foldl merge (empty kind)).toFile.DeclaresApart := by
  have alike : (fragments.flatMap SourceFile.items).Pairwise fun item later =>
      (∃ declared, item.declared? = some declared ∧ later.declared? = some declared) →
        item.sameItem later = true := by
    refine List.pairwise_flatMap.mpr ⟨fun fragment member => ?_, agree.imp ?_⟩
    · have apart := List.pairwise_filterMap.mp (each fragment member).declared
      refine apart.imp ?_
      rintro item later differ ⟨declared, declares, laterDeclares⟩
      exact absurd rfl (differ declared declares declared laterDeclares)
    · rintro first second agrees item member later isLater ⟨declared, declares, laterDeclares⟩
      exact agrees item member later isLater declared declares laterDeclares
  rw [foldl_merge]
  constructor
  case declared =>
    have apart := pairwise_appendNew (alike : ([] ++ fragments.flatMap SourceFile.items).Pairwise _)
      List.Pairwise.nil
    refine List.pairwise_filterMap.mpr (apart.imp ?_)
    rintro item later noClash declared declares _ laterDeclares rfl
    exact noClash ⟨declared, declares, laterDeclares⟩
  case functions =>
    intro item member
    have merged : item ∈ fragments.flatMap SourceFile.items := appendNew_sublist.subset member
    obtain ⟨fragment, isFragment, inFragment⟩ := List.mem_flatMap.mp merged
    exact (each fragment isFragment).functions item inFragment

end ArtifactTask

/-! ### Texts that depend on no interface -/

/-- A file that is plainly spelled, with every name once, has its declarations apart. -/
theorem Source.SourceFile.IsBare.declaresApart
    {file : SourceFile}
    (bare : file.IsBare)
    (once : (file.declarations.filterMap spelledDeclared?).Nodup) :
    file.DeclaresApart := by
  refine ⟨?_, fun item member => (bare.items item member).2⟩
  have declared : file.items.filterMap Node.declared? = file.declarations.filterMap spelledDeclared? := by
    rw [SourceFile.declarations, List.filterMap_map]
    exact List.filterMap_congr fun item member => (bare.items item member).1
  rwa [declared]

/-- Are the characters those of a file without attributes that names nothing twice? -/
def spellsNamedOnce (characters : List Char) : Bool :=
  match bareDeclarations? characters with
  | some declarations => decide (declarations.filterMap spelledDeclared?).Nodup
  | none => false

theorem declaresApart_of_spellsNamedOnce
    {characters : List Char}
    {file : SourceFile}
    (named : spellsNamedOnce characters = true)
    (spelled : SourceFile.ofCharacters? characters = some file) :
    file.DeclaresApart := by
  unfold spellsNamedOnce at named
  split at named
  · next declarations found =>
      obtain ⟨other, otherSpelled, bare, rfl⟩ := isBare_of_bareDeclarations? found
      obtain rfl : other = file := Option.some.inj (otherSpelled.symm.trans spelled)
      exact bare.declaresApart (of_decide_eq_true named)
  · contradiction

/-- The error envelope names nothing twice. -/
theorem Artifact.Template.errorEnvelope_spellsNamedOnce :
    ∃ characters, SpelledLines (errorEnvelope.flatMap Code.lines) characters
      ∧ spellsNamedOnce characters = true := by
  apply Exists.intro
  apply And.intro
  · repeat first
      | exact .nil
      | apply SpelledLines.cons
      | apply Line.Spells.fixed
      | apply Line.Spells.piece
  · decide +kernel

theorem Service.declaresApart_errorEnvelope
    {service : Service}
    {file : SourceFile}
    (spelled : service.fragment .errorEnvelope = .ok file) :
    file.DeclaresApart := by
  obtain ⟨characters, isSpelled, named⟩ := Template.errorEnvelope_spellsNamedOnce
  have same : Code.characters (ArtifactKind.errorEnvelope.code service) = characters :=
    ArtifactKind.characters_of_spelledLines isSpelled
  exact declaresApart_of_spellsNamedOnce named (same ▸ Service.fragment_eq_ok_iff.mp spelled)

/-- The set-up of tracing has its declarations apart, and agrees with that of any other service. -/
theorem IsTracingSetup.declaresApart
    {base ofHttp ofNats : List (List Token)}
    (isSetup : IsTracingSetup base ofHttp ofNats)
    {service : Service}
    {file : SourceFile}
    (spelled : service.fragment .tracingSetup = .ok file) :
    file.DeclaresApart := by
  obtain ⟨found, isFragment, bare, groups⟩ := isSetup.2 service
  obtain rfl : found = file := Except.ok.inj (isFragment.symm.trans spelled)
  have included (condition : Bool) (elements : List (List Token)) :
      (listIf condition elements).Sublist elements := by
    cases condition
    · exact List.nil_sublist elements
    · exact List.Sublist.refl elements
  apply bare.declaresApart
  rw [groups]
  refine isSetup.1.named.sublist (List.Sublist.filterMap _ ?_)
  exact (List.Sublist.refl base).append ((included _ ofHttp).append (included _ ofNats))

theorem IsTracingSetup.agrees
    {base ofHttp ofNats : List (List Token)}
    (isSetup : IsTracingSetup base ofHttp ofNats)
    {service other : Service}
    {file otherFile : SourceFile}
    (spelled : service.fragment .tracingSetup = .ok file)
    (otherSpelled : other.fragment .tracingSetup = .ok otherFile) :
    file.Agrees otherFile := by
  have known {service : Service} {file : SourceFile} (spelled : service.fragment .tracingSetup = .ok file)
      {item : Node .item} (member : item ∈ file.items) :
      item.spell true ∈ base ++ (ofHttp ++ ofNats)
        ∧ item.declared? = spelledDeclared? (item.spell true) := by
    obtain ⟨found, isFragment, bare, -⟩ := isSetup.2 service
    obtain rfl : found = file := Except.ok.inj (isFragment.symm.trans spelled)
    refine ⟨?_, (bare.items item member).1⟩
    rcases (isSetup.mem_declarations spelled _).mp (List.mem_map_of_mem member) with
      inBase | ⟨-, inHttp⟩ | ⟨-, inNats⟩
    · exact List.mem_append_left _ inBase
    · exact List.mem_append_right _ (List.mem_append_left _ inHttp)
    · exact List.mem_append_right _ (List.mem_append_right _ inNats)
  intro item member later isLater declared declares laterDeclares
  obtain ⟨inGroups, same⟩ := known spelled member
  obtain ⟨laterInGroups, laterSame⟩ := known otherSpelled isLater
  exact Node.sameItem_of_spell (eq_of_nodup_filterMap isSetup.1.named inGroups laterInGroups
    (same ▸ declares) (laterSame ▸ laterDeclares))

/-! ### Services -/

/-- The service is that of a plain trait with flat heads, below the path, in a package whose name ends no
string. -/
structure Service.StemsFrom (service : Service) (declaration : ServiceTrait) (path : ModulePath) : Prop where
  accepted : Interface.ofTrait declaration service.interface.package = .ok service.interface
  plain : declaration.IsPlain
  heads : declaration.HasFlatHeads
  below : service.IsBelow path
  described : ∀ char ∈ service.interface.package.toList, char ∉ specialChars

namespace Service

/-- The function that waits for the signal to shut down. -/
def waiting : Declared :=
  ⟨"fn", "shutdown_signal"⟩

/-- All rows of HTTP entry points end with one and the same entry, which alone declares the function that
waits. -/
theorem exists_endsWith_waiting :
    ∃ tail, ∀ {service : Service} {declaration : ServiceTrait} {path : ModulePath} {row : List Token},
      service.StemsFrom declaration path → service.row? .httpEntryPoint = some row →
        EndsWith waiting row tail := by
  obtain ⟨tail, passesTail, single⟩ := Reads.exists_row shutdown_single []
  refine ⟨tail, fun {service declaration path row} stems scanned => ?_⟩
  have sound : service.IsSound := Service.isSound_of_isPlain stems.accepted stems.plain stems.described
  obtain ⟨front, same, listing⟩ := exists_httpEntryPoint_front stems.below sound
  obtain ⟨frontRow, passesFront, lists⟩ := Reads.exists_row listing
    ((shutdownCode.flatMap Code.lines).flatMap fun line => line.characters ++ ['\n'])
  have scans := service.scansTo_of_row? scanned
  rw [show ArtifactKind.httpEntryPoint.code service = front ++ shutdownCode from same,
    List.flatMap_append, List.flatMap_append] at scans
  obtain ⟨after, behind, opened, rfl, scansTail⟩ := passesFront scans
  rw [← openBehind_map_sketch, lists.balanced] at opened
  cases opened
  rw [List.append_nil] at passesTail
  obtain ⟨after, rest, opened, rfl, scansRest⟩ := passesTail scansTail
  rw [← openBehind_map_sketch, single.balanced] at opened
  cases opened
  rw [scansTo_nil scansRest, List.append_nil]
  refine EndsWith.of_enlists lists single ?_
  simp only [List.forall_mem_cons, List.not_mem_nil, false_implies, implies_true, and_true]
  constructor
  · simp [Tally.struct, waiting]
  · intro same
    have begins := congrArg (fun declared => declared.name.toList.head?) (Option.some.inj same)
    simp [waiting] at begins

variable
  {service other : Service}
  {declaration otherDeclaration : ServiceTrait}
  {path otherPath : ModulePath}
  {kind : ArtifactKind}
  {file otherFile : SourceFile}

/-- A file of a service whose names are apart has its declarations apart. -/
theorem declaresApart_of_fragment
    (stems : service.StemsFrom declaration path)
    (apart : service.interface.HasApartNames)
    (spelled : service.fragment kind = .ok file) :
    file.DeclaresApart := by
  have named := Interface.names_nodup stems.accepted
  by_cases counted : kind.isCounted = true
  · have within := service.isWithin_tallies stems.accepted stems.plain stems.heads stems.below
      stems.described counted spelled
    constructor
    · exact within.declared.nodup ((service.perm_declared_tallies kind).nodup_iff.mpr
        (apart.nodup_declared named))
    · intro item member
      rcases within.functions item member with none | ⟨tally, isTally, included⟩
      · rw [none]
        exact List.nodup_nil
      · exact included.nodup (nodup_functions_of_tallies apart named tally isTally)
  · cases kind with
    | errorEnvelope => exact declaresApart_errorEnvelope spelled
    | tracingSetup =>
        obtain ⟨base, ofHttp, ofNats, isSetup⟩ := exists_isTracingSetup
        exact isSetup.declaresApart spelled
    | _ => exact absurd rfl counted

/-- What an item of a file declares is among the declarations of the interface. -/
theorem declared_of_mem
    (stems : service.StemsFrom declaration path)
    (counted : kind.isCounted = true)
    (spelled : service.fragment kind = .ok file)
    {item : Node .item}
    (member : item ∈ file.items)
    {declared : Declared}
    (declares : item.declared? = some declared) :
    declared ∈ service.interface.declared kind := by
  have within := service.isWithin_tallies stems.accepted stems.plain stems.heads stems.below
    stems.described counted spelled
  exact (service.perm_declared_tallies kind).subset
    (within.declared.subset (List.mem_filterMap.mpr ⟨item, member, declares⟩))

/-- The entry points of two services whose names are apart have the function that waits in common, and
agree on it. -/
theorem agrees_httpEntryPoint
    (stems : service.StemsFrom declaration path)
    (otherStems : other.StemsFrom otherDeclaration otherPath)
    (apart : service.interface.IsApartFrom other.interface)
    (spelled : service.fragment .httpEntryPoint = .ok file)
    (otherSpelled : other.fragment .httpEntryPoint = .ok otherFile) :
    file.Agrees otherFile := by
  obtain ⟨tail, ends⟩ := exists_endsWith_waiting
  have reads {service : Service} {file : SourceFile} (spelled : service.fragment .httpEntryPoint = .ok file) :
      ∃ row depth, service.row? .httpEntryPoint = some row
        ∧ fileContent (Grammar.toDepth depth) row = some (file, []) := by
    obtain ⟨row, scanned, reads⟩ := Option.bind_eq_some_iff.mp (fragment_eq_ok_iff.mp spelled)
    unfold readAll at reads
    split at reads
    · next whole =>
        cases reads
        exact ⟨row, _, scanned, whole⟩
    · contradiction
  intro item member later isLater declared declares laterDeclares
  obtain ⟨form, isForm, fixed, rfl⟩ := apart.exists_form_of_declared
    (declared_of_mem stems rfl spelled member declares)
    (declared_of_mem otherStems rfl otherSpelled isLater laterDeclares)
  have isWaiting : form.declare "" = waiting := by
    have only : ∀ form ∈ ArtifactKind.httpEntryPoint.forms, form.stem = .fixed →
        form.declare "" = waiting := by decide
    exact only form isForm fixed
  rw [isWaiting] at declares laterDeclares
  obtain ⟨row, depth, scanned, readsFile⟩ := reads spelled
  obtain ⟨otherRow, otherDepth, otherScanned, readsOther⟩ := reads otherSpelled
  rw [(ends stems scanned).eq_item (ends otherStems otherScanned) readsFile readsOther member isLater
    declares laterDeclares]
  exact Node.sameItem_of_spell rfl

/-- The files of a kind for two services of one package whose names are apart agree. -/
theorem agrees_of_fragments
    (stems : service.StemsFrom declaration path)
    (otherStems : other.StemsFrom otherDeclaration otherPath)
    (samePackage : service.interface.package = other.interface.package)
    (named : service.interface.HasApartNames)
    (apart : service.interface.IsApartFrom other.interface)
    (spelled : service.fragment kind = .ok file)
    (otherSpelled : other.fragment kind = .ok otherFile) :
    file.Agrees otherFile := by
  have shared (isShared : kind = .config ∨ kind = .errorEnvelope) : file.Agrees otherFile := by
    have same := fragment_of_samePackage isShared samePackage
    rw [spelled, otherSpelled] at same
    cases same
    exact (declaresApart_of_fragment stems named spelled).agrees
  have counted (isCounted : kind.isCounted = true) (unshared : ∀ form ∈ kind.forms, form.stem ≠ .fixed) :
      file.Agrees otherFile := by
    intro item member later isLater declared declares laterDeclares
    obtain ⟨form, isForm, fixed, -⟩ := apart.exists_form_of_declared
      (declared_of_mem stems isCounted spelled member declares)
      (declared_of_mem otherStems isCounted otherSpelled isLater laterDeclares)
    exact absurd fixed (unshared form isForm)
  cases kind with
  | config => exact shared (.inl rfl)
  | errorEnvelope => exact shared (.inr rfl)
  | tracingSetup =>
      obtain ⟨base, ofHttp, ofNats, isSetup⟩ := exists_isTracingSetup
      exact isSetup.agrees spelled otherSpelled
  | httpEntryPoint => exact agrees_httpEntryPoint stems otherStems apart spelled otherSpelled
  | implementation | transport | httpAdapter | natsAdapter | loggingMiddleware | tracingMiddleware =>
      exact counted rfl (by decide)

end Service

/-! ### Jobs -/

/-- What a job contributes to a kind is the file of the service that it completes. -/
theorem Job.exists_done_of_fragment?
    {job : Job}
    {kind : ArtifactKind}
    {fragment : SourceFile}
    (contributed : job.fragment? kind = some fragment) :
    ∃ done, job.run = .ok done ∧ (job.completedService done).fragment kind = .ok fragment := by
  obtain ⟨selected, contributed⟩ := Option.ite_none_right_eq_some.mp contributed
  rw [Bool.and_eq_true] at selected
  obtain ⟨done, completed⟩ := Job.completes_iff.mp selected.1
  have accepted : job.service = .ok (job.completedService done) :=
    except_bind_eq_ok.mpr ⟨done.interface, (service_eq_completedService completed).1, rfl⟩
  rw [accepted] at contributed
  dsimp only at contributed
  refine ⟨done, completed, ?_⟩
  cases spelled : (job.completedService done).fragment kind with
  | error failure =>
      rw [spelled] at contributed
      contradiction
  | ok found =>
      rw [spelled] at contributed
      rw [Option.some.inj contributed]

/-- The service of a completed job stems from its trait. -/
theorem Job.stemsFrom
    {job : Job}
    {done : CompletedJob}
    {path : ModulePath}
    (completed : job.run = .ok done)
    (plain : job.declaration.IsPlain)
    (heads : job.declaration.HasFlatHeads)
    (spelled : job.package.path = path.text)
    (sound : path.IsSound)
    (described : ∀ char ∈ job.package.name.toList, char ∉ specialChars) :
    (job.completedService done).StemsFrom job.declaration path
      ∧ (job.completedService done).interface.package = job.package.name := by
  have accepted := (service_eq_completedService completed).1
  have samePackage : (job.completedService done).interface.package = job.package.name := by
    obtain ⟨methods, -, same⟩ := Interface.ofTrait_eq_ok_iff.mp accepted
    rw [same]
  refine ⟨⟨?_, plain, heads, ⟨spelled, sound⟩, ?_⟩, samePackage⟩
  · rwa [samePackage]
  · rwa [samePackage]

/-- In what a run accumulates no file declares two structures, two functions or two constants of one name,
and no implementation has two functions of one name, where the names that are derived from each interface
are apart and so are those of every two. The traits are plain ones with flat heads, the path of the package
is one of words, and its name ends no string. -/
theorem Build.declarations_apart
    {package : Package}
    {items : List (Node .item)}
    {path : ModulePath}
    (spelled : package.path = path.text)
    (sound : path.IsSound)
    (described : ∀ char ∈ package.name.toList, char ∉ specialChars)
    (plain : ∀ job ∈ (Discovery.ofItems package items).jobs,
      job.declaration.IsPlain ∧ job.declaration.HasFlatHeads)
    (named : ∀ done ∈ (Build.ofItems package items).completed, done.interface.HasApartNames)
    (apart : (Build.ofItems package items).completed.Pairwise fun done later =>
      done.interface.IsApartFrom later.interface) :
    ∀ task ∈ (Build.ofItems package items).accumulated, task.toFile.DeclaresApart := by
  intro task member
  rw [Build.accumulated_eq] at member
  obtain ⟨kind, -, rfl⟩ := List.mem_map.mp member
  have stems {job : Job} {done : CompletedJob} (found : job ∈ (Discovery.ofItems package items).jobs)
      (completed : job.run = .ok done) :
      (job.completedService done).StemsFrom job.declaration path
        ∧ (job.completedService done).interface.package = package.name := by
    obtain rfl := Discovery.package_of_mem_jobs found
    exact Job.stemsFrom completed (plain job found).1 (plain job found).2 spelled sound described
  have isDone {job : Job} {done : CompletedJob} (found : job ∈ (Discovery.ofItems package items).jobs)
      (completed : job.run = .ok done) :
      done.interface.HasApartNames := by
    refine named done ?_
    rw [Build.completed_eq]
    exact List.mem_filterMap.mpr ⟨job, found, by rw [completed]; rfl⟩
  apply ArtifactTask.declaresApart_foldl_merge
  case each =>
    intro fragment contributed
    obtain ⟨job, found, contributed⟩ := List.mem_filterMap.mp contributed
    obtain ⟨done, completed, spelled⟩ := Job.exists_done_of_fragment? contributed
    exact Service.declaresApart_of_fragment (stems found completed).1 (isDone found completed) spelled
  case agree =>
    rw [Build.completed_eq, List.pairwise_filterMap] at apart
    refine List.pairwise_filterMap.mpr (apart.imp_of_mem ?_)
    intro job later found laterFound apart fragment contributed laterFragment laterContributed
    obtain ⟨done, completed, spelled⟩ := Job.exists_done_of_fragment? contributed
    obtain ⟨laterDone, laterCompleted, laterSpelled⟩ := Job.exists_done_of_fragment? laterContributed
    obtain ⟨stem, package⟩ := stems found completed
    obtain ⟨laterStem, laterPackage⟩ := stems laterFound laterCompleted
    exact Service.agrees_of_fragments stem laterStem (package.trans laterPackage.symm)
      (isDone found completed)
      (apart done (by rw [completed]; rfl) laterDone (by rw [laterCompleted]; rfl)) spelled laterSpelled

/-- A trait with one method, whose calls are logged and served over HTTP. -/
def servedItem (name : String) : Node .item :=
  .traitItem
    (.cons (.valueAttribute false ⟨false, ["doc"]⟩ (.literalExpr "\" servicegen:service http logging\"")) .nil)
    .everywhere false false name (.genericList false .nil false .absent false) false .nil false .nil
    (.cons (.functionItem .nil .inherited false calledSignature .absent) .nil)

/-- Two such traits. -/
def servedItems : List (Node .item) :=
  [servedItem "Calc", servedItem "Clock"]

/-- The job of the second trait. -/
def clockJob : Job :=
  ⟨⟨"Clock", [calledSignature], false⟩, servedJob.package, servedJob.directive⟩

/-- The interface of the second trait. -/
def clockInterface : Interface :=
  { calledService.interface with name := "Clock" }

theorem servedItems_jobs :
    (Discovery.ofItems servedJob.package servedItems).jobs = [servedJob, clockJob] := rfl

theorem clockJob_service :
    clockJob.service = .ok ⟨clockInterface, "crate::calc", servedJob.directive⟩ := by
  decide +kernel

theorem clockInterface_isApartFrom : servedService.interface.IsApartFrom clockInterface := by
  intro stem notFixed
  cases stem with
  | fixed => exact absurd rfl notFixed
  | interface | snake | shouty | envelope | call => decide +kernel

theorem Build.declarations_apart_of_servedItems :
    (∃ done, servedJob.run = .ok done)
      ∧ (Discovery.ofItems servedJob.package servedItems).jobs = [servedJob, clockJob]
      ∧ ∀ task ∈ (Build.ofItems servedJob.package servedItems).accumulated, task.toFile.DeclaresApart := by
  have isServed {done : CompletedJob} (completed : servedJob.run = .ok done) :
      done.interface = servedService.interface := by
    obtain ⟨service, extracted, same, -⟩ := Job.run_eq_ok.mp completed
    rw [same, Except.ok.inj (extracted.symm.trans servedJob_service)]
  have isClock {done : CompletedJob} (completed : clockJob.run = .ok done) :
      done.interface = clockInterface := by
    obtain ⟨service, extracted, same, -⟩ := Job.run_eq_ok.mp completed
    rw [same, Except.ok.inj (extracted.symm.trans clockJob_service)]
  have finished {job : Job} {done : CompletedJob} (completed : job.run.toOption = some done) :
      job.run = .ok done := by
    cases ran : job.run <;> simp_all [Except.toOption]
  refine ⟨servedJob_completes, servedItems_jobs, ?_⟩
  apply declarations_apart
  case path => exact calledPath
  case spelled => decide
  case sound => exact ⟨by decide, by decide⟩
  case described => simp [servedJob, calledJob, specialChars]
  case plain =>
    -- The signatures are those of the first trait.
    have clockPlain : clockJob.declaration.IsPlain :=
      ⟨by decide, by decide, by decide, by decide, calledJob_isPlain.legible, calledJob_isPlain.noImport⟩
    have clockHeads : clockJob.declaration.HasFlatHeads :=
      ⟨servedJob_hasFlatHeads.flat, servedJob_hasFlatHeads.letters⟩
    rw [servedItems_jobs, List.forall_mem_cons, List.forall_mem_singleton]
    exact ⟨⟨calledJob_isPlain, servedJob_hasFlatHeads⟩, clockPlain, clockHeads⟩
  case named =>
    intro done member
    rw [completed_eq, servedItems_jobs] at member
    obtain ⟨job, isJob, completed⟩ := List.mem_filterMap.mp member
    have apart (interface : Interface) (only : interface.methods = servedService.interface.methods) :
        interface.HasApartNames := by
      constructor
      · rw [only]
        exact List.nodup_singleton _
      · rw [only]
        decide
    rcases List.mem_pair.mp isJob with rfl | rfl
    · exact apart _ (by rw [isServed (finished completed)])
    · exact apart _ (by rw [isClock (finished completed)]; rfl)
  case apart =>
    rw [completed_eq, servedItems_jobs, List.pairwise_filterMap, List.pairwise_pair]
    intro done completed later laterCompleted
    rw [isServed (finished completed), isClock (finished laterCompleted)]
    exact clockInterface_isApartFrom

end Scaffold
