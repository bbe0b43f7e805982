import Scaffold.Files.Tree
import Scaffold.Proofs.Files.Path

/-!
Contract: what operations on a tree leave as it was.

Owns:
- what stands at a location after something was put;
- the trees in which a directory is never lost, and the walks that go on in them;
- the effect of making directories and of replacing a file.

Does not own: the files that a run puts in place.
-/

namespace Scaffold.FileTree

/-! ### Entries -/

theorem standing?_nil (tree : FileTree) : tree.standing? [] = some .directory := rfl

theorem standing?_of_ne_nil (tree : FileTree) {location : Location} (below : location ≠ []) :
    tree.standing? location
      = (tree.entries.find? fun entry => entry.1 == location).map Prod.snd := by
  simp [standing?, below]

theorem put_working (tree : FileTree) (location : Location) (entry : Entry) :
    (tree.put location entry).working = tree.working := by
  rw [put]
  split <;> rfl

/-- What was put at a location stands there. -/
theorem standing?_put_self
    (tree : FileTree)
    {location : Location}
    (below : location ≠ [])
    (entry : Entry) :
    (tree.put location entry).standing? location = some entry := by
  rw [standing?_of_ne_nil _ below, put]
  split
  case isTrue held =>
    obtain ⟨old, oldHeld, oldLocation⟩ := List.any_eq_true.mp held
    rw [beq_iff_eq] at oldLocation
    have found : ∀ entries : List (Location × Entry), old ∈ entries →
        ((entries.map fun old => if old.1 == location then (location, entry) else old).find?
          fun entry => entry.1 == location) = some (location, entry) := by
      intro entries member
      induction entries with
      | nil => simp at member
      | cons first rest inductionHypothesis =>
          rw [List.map_cons]
          cases here : first.1 == location with
          | true => simp
          | false =>
              have later : old ∈ rest := by
                rcases List.mem_cons.mp member with isFirst | later
                · rw [← isFirst, oldLocation] at here
                  simp at here
                · exact later
              simp only [Bool.false_eq_true, if_false]
              rw [List.find?_cons_of_neg (by simp [here])]
              exact inductionHypothesis later
    rw [found tree.entries oldHeld]
    rfl
  case isFalse missing =>
    have notFound : (tree.entries.find? fun entry => entry.1 == location) = none := by
      rw [List.find?_eq_none]
      intro old member here
      exact missing (List.any_eq_true.mpr ⟨old, member, here⟩)
    simp [List.find?_append, notFound]

/-- Nothing changes elsewhere when something is put at a location. -/
theorem standing?_put_of_ne
    (tree : FileTree)
    {location other : Location}
    (elsewhere : other ≠ location)
    (entry : Entry) :
    (tree.put location entry).standing? other = tree.standing? other := by
  by_cases below : other = []
  · rw [below, standing?_nil, standing?_nil]
  rw [standing?_of_ne_nil _ below, standing?_of_ne_nil _ below, put]
  split
  case isTrue =>
    induction tree.entries with
    | nil => rfl
    | cons first rest inductionHypothesis =>
        rw [List.map_cons]
        cases here : first.1 == location with
        | true =>
            rw [beq_iff_eq] at here
            simp only [if_true]
            rw [List.find?_cons_of_neg (by simpa using elsewhere.symm), inductionHypothesis,
              List.find?_cons_of_neg (by rw [here]; simpa using elsewhere.symm)]
        | false =>
            simp only [Bool.false_eq_true, if_false]
            rw [List.find?_cons, List.find?_cons]
            split
            · rfl
            · exact inductionHypothesis
  case isFalse =>
    simp [List.find?_append, elsewhere.symm]

theorem erase_working (tree : FileTree) (location : Location) :
    (tree.erase location).working = tree.working := rfl

theorem standing?_erase_self
    (tree : FileTree)
    {location : Location}
    (below : location ≠ []) :
    (tree.erase location).standing? location = none := by
  rw [standing?_of_ne_nil _ below, erase, Option.map_eq_none_iff, List.find?_eq_none]
  intro entry member isHere
  rw [List.mem_filter] at member
  simp only [bne_iff_ne, ne_eq] at member
  exact member.2 (beq_iff_eq.mp isHere)

/-- Nothing changes elsewhere when a location is emptied. -/
theorem standing?_erase_of_ne
    (tree : FileTree)
    {location other : Location}
    (elsewhere : other ≠ location) :
    (tree.erase location).standing? other = tree.standing? other := by
  by_cases below : other = []
  · rw [below, standing?_nil, standing?_nil]
  rw [standing?_of_ne_nil _ below, standing?_of_ne_nil _ below, erase, List.find?_filter]
  congr 2
  funext entry
  by_cases here : entry.1 = other
  · simp [here, elsewhere]
  · simp [here]

theorem ne_nil_of_standing?_eq_none
    {tree : FileTree}
    {location : Location}
    (missing : tree.standing? location = none) :
    location ≠ [] := by
  intro isRoot
  rw [isRoot, standing?_nil] at missing
  cases missing

/-! ### Entries where nothing stood -/

/-- No entry is at a location where nothing stands. -/
theorem ne_of_mem_entries
    {tree : FileTree}
    {location : Location}
    (free : tree.standing? location = none) :
    ∀ entry ∈ tree.entries, entry.1 ≠ location := by
  intro entry member here
  rw [standing?_of_ne_nil _ (ne_nil_of_standing?_eq_none free), Option.map_eq_none_iff,
    List.find?_eq_none] at free
  exact free entry member (beq_iff_eq.mpr here)

/-- What is put where nothing stands comes last. -/
theorem put_of_free
    {tree : FileTree}
    {location : Location}
    (free : tree.standing? location = none)
    (entry : Entry) :
    tree.put location entry = { tree with entries := tree.entries ++ [(location, entry)] } := by
  rw [put, if_neg]
  rw [List.any_eq_true]
  rintro ⟨old, member, here⟩
  exact ne_of_mem_entries free old member (beq_iff_eq.mp here)

/-- What is put last takes the place of what was put before. -/
theorem put_put_of_free
    {tree : FileTree}
    {location : Location}
    (free : tree.standing? location = none)
    (first second : Entry) :
    (tree.put location first).put location second = tree.put location second := by
  have kept : (tree.entries.map fun old => if old.1 == location then (location, second) else old)
      = tree.entries := by
    rw [List.map_congr_left, List.map_id']
    intro old member
    simp [ne_of_mem_entries free old member]
  rw [put_of_free free, put_of_free free, put, if_pos (by simp), List.map_append, kept]
  simp

/-- What was put where nothing stood is gone when its location is emptied. -/
theorem erase_put_put_of_free
    {tree : FileTree}
    {origin location : Location}
    (free : tree.standing? origin = none)
    (destinationFree : tree.standing? location = none)
    (apart : location ≠ origin)
    (first second : Entry) :
    ((tree.put origin first).put location second).erase origin = tree.put location second := by
  have kept : (tree.entries.filter fun old => old.1 != origin) = tree.entries := by
    rw [List.filter_eq_self]
    intro old member
    simpa using ne_of_mem_entries free old member
  have stillFree : (tree.put origin first).standing? location = none := by
    rw [standing?_put_of_ne tree apart, destinationFree]
  rw [put_of_free stillFree, put_of_free free, put_of_free destinationFree, erase]
  simp only [List.filter_append, kept]
  simp [apart]

/-! ### Walks -/

/-- Every directory of the one tree is one of the other. -/
structure KeepsDirectories (before after : FileTree) : Prop where
  working : after.working = before.working
  directory : ∀ location,
    before.standing? location = some .directory → after.standing? location = some .directory

theorem KeepsDirectories.refl (tree : FileTree) : KeepsDirectories tree tree :=
  ⟨rfl, fun _ held => held⟩

theorem KeepsDirectories.trans
    {before between after : FileTree}
    (first : KeepsDirectories before between)
    (second : KeepsDirectories between after) :
    KeepsDirectories before after where
  working := by rw [second.working, first.working]
  directory location held := second.directory location (first.directory location held)

theorem follow_append
    (tree : FileTree)
    (location : Location)
    (first second : List Path.Step) :
    tree.follow location (first ++ second)
      = (tree.follow location first).bind fun reached => tree.follow reached second := by
  induction first generalizing location with
  | nil => rfl
  | cons step rest inductionHypothesis =>
      rw [List.cons_append]
      cases step with
      | root => exact inductionHypothesis []
      | stay =>
          simp only [follow]
          split
          · rfl
          · rfl
          · exact inductionHypothesis location
      | up =>
          simp only [follow]
          split
          · rfl
          · rfl
          · exact inductionHypothesis location.dropLast
      | down name =>
          simp only [follow]
          split
          · rfl
          · rfl
          · exact inductionHypothesis (location ++ [name])

/-- A walk that arrives goes on to arrive where no directory is lost. -/
theorem KeepsDirectories.follow
    {before after : FileTree}
    (keeps : KeepsDirectories before after)
    {location reached : Location}
    {steps : List Path.Step}
    (arrives : before.follow location steps = .ok reached) :
    after.follow location steps = .ok reached := by
  induction steps generalizing location with
  | nil => exact arrives
  | cons step rest inductionHypothesis =>
      cases step with
      | root => exact inductionHypothesis arrives
      | stay | up | down name =>
          simp only [FileTree.follow] at arrives ⊢
          split at arrives
          case h_1 => cases arrives
          case h_2 => cases arrives
          case h_3 isDirectory =>
            rw [keeps.directory location isDirectory]
            exact inductionHypothesis arrives

theorem KeepsDirectories.locate
    {before after : FileTree}
    (keeps : KeepsDirectories before after)
    {path : Path}
    {reached : Location}
    (arrives : before.locate path = .ok reached) :
    after.locate path = .ok reached := by
  rw [FileTree.locate] at arrives ⊢
  split at arrives
  case isTrue => cases arrives
  case isFalse notEmpty =>
    rw [if_neg notEmpty, keeps.working]
    exact keeps.follow arrives

/-- A walk down a row of names that arrives ends at the names behind its start. -/
theorem follow_down
    {tree : FileTree}
    {location reached : Location}
    {names : List String}
    (arrives : tree.follow location (names.map .down) = .ok reached) :
    reached = location ++ names := by
  induction names generalizing location with
  | nil =>
      cases arrives
      simp
  | cons name rest inductionHypothesis =>
      simp only [List.map_cons, follow] at arrives
      split at arrives
      case h_1 => cases arrives
      case h_2 => cases arrives
      case h_3 =>
        rw [inductionHypothesis arrives]
        simp

/-- The path of a kind's file leads to the names of the kind, from one place for all kinds. -/
theorem locate_target
    {tree : FileTree}
    {root : Path}
    {kind : ArtifactKind}
    {reached : Location}
    (arrives : tree.locate (root.join kind.relativePath) = .ok reached) :
    ∃ start, tree.follow tree.working root.front = .ok start ∧ reached = start ++ kind.names := by
  rw [locate] at arrives
  split at arrives
  case isTrue => cases arrives
  case isFalse =>
    rw [ArtifactKind.target_steps, follow_append] at arrives
    cases starts : tree.follow tree.working root.front with
    | error fault =>
        rw [starts] at arrives
        cases arrives
    | ok start =>
        rw [starts] at arrives
        exact ⟨start, rfl, follow_down arrives⟩

/-- The files of two kinds never stand at one location. -/
theorem locate_target_injective
    {tree : FileTree}
    {root : Path}
    {kind other : ArtifactKind}
    {reached : Location}
    (arrives : tree.locate (root.join kind.relativePath) = .ok reached)
    (otherArrives : tree.locate (root.join other.relativePath) = .ok reached) :
    kind = other := by
  obtain ⟨start, starts, isBehind⟩ := locate_target arrives
  obtain ⟨otherStart, otherStarts, otherBehind⟩ := locate_target otherArrives
  rw [starts] at otherStarts
  cases otherStarts
  exact ArtifactKind.names_injective (List.append_cancel_left (isBehind.symm.trans otherBehind))

/-! ### Directories that are made -/

/-- One tree has more directories than the other, where nothing stood, and is else the same. -/
structure Furnishes (before after : FileTree) : Prop where
  working : after.working = before.working
  entry : ∀ location, after.standing? location = before.standing? location
    ∨ (before.standing? location = none ∧ after.standing? location = some .directory)

theorem Furnishes.refl (tree : FileTree) : Furnishes tree tree :=
  ⟨rfl, fun _ => .inl rfl⟩

theorem Furnishes.trans
    {before between after : FileTree}
    (first : Furnishes before between)
    (second : Furnishes between after) :
    Furnishes before after where
  working := by rw [second.working, first.working]
  entry location := by
    rcases first.entry location with same | ⟨missing, made⟩
    · rw [← same]
      exact second.entry location
    · rcases second.entry location with sameLater | ⟨missingLater, _⟩
      · exact .inr ⟨missing, sameLater.trans made⟩
      · rw [made] at missingLater
        cases missingLater

theorem Furnishes.keepsDirectories
    {before after : FileTree}
    (furnishes : Furnishes before after) :
    KeepsDirectories before after where
  working := furnishes.working
  directory location held := by
    rcases furnishes.entry location with same | ⟨_, made⟩
    · rw [same, held]
    · exact made

/-- What is made at a path stands at the location of the path, where nothing stood. -/
theorem create_eq_ok
    {tree made : FileTree}
    {path : Path}
    {entry : Entry}
    (creates : tree.create path entry = .ok made) :
    ∃ location, tree.locate path = .ok location
      ∧ tree.standing? location = none
      ∧ made = tree.put location entry := by
  rw [create] at creates
  cases located : tree.locate path with
  | error fault =>
      rw [located] at creates
      cases creates
  | ok location =>
      rw [located] at creates
      simp only [bind, Except.bind] at creates
      split at creates
      case h_1 => cases creates
      case h_2 missing =>
        cases creates
        exact ⟨location, rfl, missing, rfl⟩

theorem furnishes_makeDirectory
    {tree made : FileTree}
    {path : Path}
    (makes : tree.makeDirectory path = .ok made) :
    Furnishes tree made := by
  obtain ⟨location, _, missing, rfl⟩ := create_eq_ok makes
  refine ⟨put_working tree location _, ?_⟩
  intro other
  by_cases here : other = location
  · rw [here]
    exact .inr ⟨missing, standing?_put_self tree (ne_nil_of_standing?_eq_none missing) _⟩
  · exact .inl (standing?_put_of_ne tree here _)

theorem furnishes_makeFirst (tree : FileTree) (paths : List Path) :
    Furnishes tree (tree.makeFirst paths).2 := by
  induction paths generalizing tree with
  | nil => exact .refl tree
  | cons path outer inductionHypothesis =>
      rw [makeFirst]
      split
      case h_1 made makes => exact furnishes_makeDirectory makes
      case h_2 =>
        have outerFurnishes := inductionHypothesis tree
        split
        case h_1 fault rest outerMade =>
          rw [outerMade] at outerFurnishes
          exact outerFurnishes
        case h_2 rest outerMade =>
          rw [outerMade] at outerFurnishes
          split
          case h_1 made makes => exact outerFurnishes.trans (furnishes_makeDirectory makes)
          case h_2 => exact outerFurnishes
      case h_3 => exact .refl tree

/-- Making a directory and those around it adds directories and changes nothing else, whether
it succeeds or not. -/
theorem furnishes_makeDirectories (tree : FileTree) (path : Path) :
    Furnishes tree (tree.makeDirectories path).2 :=
  furnishes_makeFirst tree path.ancestors

/-! ### Files -/

/-- The content of the file at a location. -/
def file? (tree : FileTree) (location : Location) : Option Content :=
  match tree.standing? location with
  | some (.file content) => some content
  | _ => none

theorem file?_eq_some_iff {tree : FileTree} {location : Location} {content : Content} :
    tree.file? location = some content ↔ tree.standing? location = some (.file content) := by
  rw [file?]
  split
  case h_1 held found => simp [found]
  case h_2 noFile =>
    constructor
    · intro isFile
      cases isFile
    · intro isFile
      exact absurd isFile (noFile content)

theorem Furnishes.file?
    {before after : FileTree}
    (furnishes : Furnishes before after)
    (location : Location) :
    after.file? location = before.file? location := by
  rw [FileTree.file?, FileTree.file?]
  rcases furnishes.entry location with same | ⟨missing, made⟩
  · rw [same]
  · rw [missing, made]

theorem readText_eq_ok_iff {tree : FileTree} {path : Path} {text : String} :
    tree.readText path = .ok text
      ↔ ∃ location, tree.locate path = .ok location
          ∧ tree.file? location = some (.text text) := by
  rw [readText, read, lookup]
  cases located : tree.locate path with
  | error fault => simp [bind, Except.bind]
  | ok location =>
      simp only [Except.ok.injEq, exists_eq_left', file?, bind, Except.bind, pure, Except.pure,
        throw, throwThe, MonadExceptOf.throw]
      cases tree.standing? location with
      | none => simp
      | some entry =>
          cases entry with
          | directory => simp
          | file content => cases content <;> simp

/-- A replaced file stands at the location of its path with the new content, and nothing else
changes. -/
theorem replace_eq_ok
    {tree replaced : FileTree}
    {path : Path}
    {content : Content}
    (replaces : tree.replace path content = .ok replaced) :
    ∃ location, tree.locate path = .ok location
      ∧ tree.standing? location ≠ some .directory
      ∧ replaced.working = tree.working
      ∧ replaced.standing? location = some (.file content)
      ∧ ∀ other, other ≠ location → replaced.standing? other = tree.standing? other := by
  rw [replace] at replaces
  cases located : tree.locate path with
  | error fault =>
      rw [located] at replaces
      cases replaces
  | ok location =>
      rw [located] at replaces
      simp only [bind, Except.bind] at replaces
      split at replaces
      case h_1 => cases replaces
      case h_2 noDirectory =>
        cases replaces
        have below : location ≠ [] := by
          intro isRoot
          exact noDirectory (by rw [isRoot, standing?_nil])
        refine ⟨location, rfl, noDirectory, put_working tree location _,
          standing?_put_self tree below _, ?_⟩
        intro other elsewhere
        exact standing?_put_of_ne tree elsewhere _

end Scaffold.FileTree
