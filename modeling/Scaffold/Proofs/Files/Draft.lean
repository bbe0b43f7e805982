import Scaffold.Proofs.Files.Tree

/-!
Contract: how a text takes the place of a file by way of a temporary file.

Owns:
- the tree with a temporary file beside what stood before;
- the effect of making, filling, moving and removing that file.

Does not own: which of these steps are taken, and which of them fail.
-/

namespace Scaffold

/-! ### A file that is in place -/

/-- A file with a text is in place at a location, its path leads there, and elsewhere there are
at most more directories than before. -/
structure PutsInPlace
    (path : Path)
    (text : String)
    (location : Location)
    (before after : FileTree) : Prop where
  working : after.working = before.working
  located : after.locate path = .ok location
  held : after.standing? location = some (.file (.text text))
  noDirectory : before.standing? location ≠ some .directory
  elsewhere : ∀ other, other ≠ location → after.standing? other = before.standing? other
    ∨ (before.standing? other = none ∧ after.standing? other = some .directory)

theorem PutsInPlace.keepsDirectories
    {path : Path}
    {text : String}
    {location : Location}
    {before after : FileTree}
    (puts : PutsInPlace path text location before after) :
    before.KeepsDirectories after where
  working := puts.working
  directory other held := by
    have away : other ≠ location := by
      intro here
      rw [here] at held
      exact puts.noDirectory held
    rcases puts.elsewhere other away with same | ⟨_, made⟩
    · rw [same, held]
    · exact made

/-- Directories that are made before do no harm. -/
theorem PutsInPlace.ofFurnished
    {path : Path}
    {text : String}
    {location : Location}
    {before between after : FileTree}
    (furnishes : before.Furnishes between)
    (puts : PutsInPlace path text location between after) :
    PutsInPlace path text location before after where
  working := by rw [puts.working, furnishes.working]
  located := puts.located
  held := puts.held
  noDirectory := by
    intro isDirectory
    exact puts.noDirectory (furnishes.keepsDirectories.directory location isDirectory)
  elsewhere other away := by
    rcases puts.elsewhere other away with same | ⟨missing, made⟩
    · rw [same]
      exact furnishes.entry other
    · rcases furnishes.entry other with sameBefore | ⟨_, madeBefore⟩
      · exact .inr ⟨sameBefore ▸ missing, made⟩
      · rw [madeBefore] at missing
        cases missing

namespace FileTree

/-! ### A temporary file beside what stood before -/

/-- A temporary file stands at a location that its path leads to and where nothing stood, and
everything else is as before. -/
structure HasDraft
    (temporary : Path)
    (origin : Location)
    (content : Content)
    (before now : FileTree) : Prop where
  working : now.working = before.working
  located : before.locate temporary = .ok origin
  free : before.standing? origin = none
  held : now.standing? origin = some (.file content)
  elsewhere : ∀ other, other ≠ origin → now.standing? other = before.standing? other

theorem hasDraft_createFile
    {before now : FileTree}
    {temporary : Path}
    (creates : before.createFile temporary = .ok now) :
    ∃ origin, HasDraft temporary origin (.text "") before now := by
  obtain ⟨origin, located, free, rfl⟩ := create_eq_ok creates
  have below := ne_nil_of_standing?_eq_none free
  exact ⟨origin, put_working before origin _, located, free, standing?_put_self before below _,
    fun other elsewhere => standing?_put_of_ne before elsewhere _⟩

section Draft

variable {temporary : Path} {origin : Location} {content : Content} {before now : FileTree}

theorem HasDraft.keepsDirectories (draft : HasDraft temporary origin content before now) :
    before.KeepsDirectories now where
  working := draft.working
  directory other held := by
    have away : other ≠ origin := by
      intro here
      rw [here, draft.free] at held
      cases held
    rw [draft.elsewhere other away, held]

theorem HasDraft.locatedNow (draft : HasDraft temporary origin content before now) :
    now.locate temporary = .ok origin :=
  draft.keepsDirectories.locate draft.located

/-- Writing to the temporary file changes nothing but its content. -/
theorem HasDraft.replace
    (draft : HasDraft temporary origin content before now)
    {filled : Content}
    {later : FileTree}
    (fills : now.replace temporary filled = .ok later) :
    HasDraft temporary origin filled before later := by
  obtain ⟨location, located, _, working, held, elsewhere⟩ := replace_eq_ok fills
  rw [draft.locatedNow] at located
  cases located
  refine ⟨working.trans draft.working, draft.located, draft.free, held, ?_⟩
  intro other away
  rw [elsewhere other away, draft.elsewhere other away]

/-- The temporary file is moved by putting its content in place and emptying its location,
where the two are not the same. -/
theorem rename_eq_ok
    {tree renamed : FileTree}
    {source destination : Path}
    (renames : tree.rename source destination = .ok renamed) :
    ∃ origin content location moved,
      tree.locate source = .ok origin
        ∧ tree.standing? origin = some (.file content)
        ∧ tree.locate destination = .ok location
        ∧ tree.replace destination content = .ok moved
        ∧ renamed = if location = origin then moved else moved.erase origin := by
  rw [rename] at renames
  cases sourceLocated : tree.locate source with
  | error fault =>
      rw [sourceLocated] at renames
      cases renames
  | ok origin =>
      rw [sourceLocated] at renames
      simp only [bind, Except.bind] at renames
      split at renames
      case h_1 => cases renames
      case h_2 => cases renames
      case h_3 content isFile =>
        cases destinationLocated : tree.locate destination with
        | error fault =>
            rw [destinationLocated] at renames
            cases renames
        | ok location =>
            rw [destinationLocated] at renames
            cases replaced : tree.replace destination content with
            | error fault =>
                rw [replaced] at renames
                cases renames
            | ok moved =>
                rw [replaced] at renames
                cases renames
                exact ⟨origin, content, location, moved, rfl, isFile, rfl, replaced, rfl⟩

/-- The temporary file that is moved to a path puts its text in place, and is gone. -/
theorem HasDraft.rename
    {text : String}
    (draft : HasDraft temporary origin (.text text) before now)
    {destination : Path}
    {after : FileTree}
    (renames : now.rename temporary destination = .ok after) :
    ∃ location, PutsInPlace destination text location before after := by
  obtain ⟨source, content, location, moved, sourceLocated, isFile, destinationLocated, replaced,
    rfl⟩ := rename_eq_ok renames
  rw [draft.locatedNow] at sourceLocated
  cases sourceLocated
  rw [draft.held] at isFile
  cases isFile
  obtain ⟨target, targetLocated, noDirectory, working, held, elsewhere⟩ := replace_eq_ok replaced
  rw [destinationLocated] at targetLocated
  cases targetLocated
  have noDirectoryBefore : before.standing? location ≠ some .directory := by
    intro isDirectory
    exact noDirectory (draft.keepsDirectories.directory location isDirectory)
  -- What stands afterwards: the text at its location, and else what stood before.
  have heldAfter : (if location = origin then moved else moved.erase origin).standing? location
      = some (.file (.text text)) := by
    split
    case isTrue => exact held
    case isFalse apart => rw [standing?_erase_of_ne moved apart, held]
  have elsewhereAfter : ∀ other, other ≠ location →
      (if location = origin then moved else moved.erase origin).standing? other
        = before.standing? other := by
    intro other away
    split
    case isTrue same => rw [elsewhere other away, draft.elsewhere other (same ▸ away)]
    case isFalse =>
      by_cases isOrigin : other = origin
      · rw [isOrigin, standing?_erase_self moved (ne_nil_of_standing?_eq_none draft.free),
          draft.free]
      · rw [standing?_erase_of_ne moved isOrigin, elsewhere other away,
          draft.elsewhere other isOrigin]
  have workingAfter : (if location = origin then moved else moved.erase origin).working
      = now.working := by
    split
    case isTrue => exact working
    case isFalse => rw [erase_working, working]
  have keeps : now.KeepsDirectories
      (if location = origin then moved else moved.erase origin) := by
    refine ⟨workingAfter, ?_⟩
    intro other isDirectory
    have away : other ≠ location := by
      intro here
      rw [here] at isDirectory
      exact noDirectory isDirectory
    have notOrigin : other ≠ origin := by
      intro here
      rw [here, draft.held] at isDirectory
      cases isDirectory
    rw [elsewhereAfter other away, ← draft.elsewhere other notOrigin, isDirectory]
  exact ⟨location, workingAfter.trans draft.working, keeps.locate destinationLocated, heldAfter,
    noDirectoryBefore, fun other away => .inl (elsewhereAfter other away)⟩

/-- Without the temporary file everything stands as before. -/
theorem HasDraft.discard (draft : HasDraft temporary origin content before now) :
    before.Furnishes (now.discard temporary) := by
  rw [FileTree.discard, draft.locatedNow]
  simp only [draft.held]
  refine ⟨by rw [erase_working, draft.working], ?_⟩
  intro other
  by_cases isOrigin : other = origin
  · rw [isOrigin, standing?_erase_self now (ne_nil_of_standing?_eq_none draft.free), draft.free]
    exact .inl rfl
  · rw [standing?_erase_of_ne now isOrigin, draft.elsewhere other isOrigin]
    exact .inl rfl

end Draft

end FileTree

end Scaffold
