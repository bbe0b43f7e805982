import Scaffold.Proofs.Files.Parent
import Scaffold.Settings.Layer

/-!
Contract: what a pile of settings layers comes to.

Owns:
- layers put together in any grouping;
- the last layer that sets a value, which decides it;
- when a pile makes settings, and which ones;
- the layers that others cover, whose values do not count.

Does not own: where a layer comes from.
-/

namespace Scaffold

/-! ### Piles -/

/-- Layers of settings put together in any grouping. -/
inductive SettingsPile where
  | empty
  | single (layer : SettingsLayer)
  | stacked (lower upper : SettingsPile)

namespace SettingsPile

/-- The layers of a pile, lowest one first. -/
def layers : SettingsPile → List SettingsLayer
  | .empty => []
  | .single layer => [layer]
  | .stacked lower upper => lower.layers ++ upper.layers

/-- The layer that a pile comes to. -/
def merged : SettingsPile → SettingsLayer
  | .empty => {}
  | .single layer => layer
  | .stacked lower upper => upper.merged.atop lower.merged

end SettingsPile

attribute [ext] SettingsLayer

namespace SettingsLayer

theorem atop_empty (layer : SettingsLayer) : layer.atop {} = layer := by
  simp [atop]

theorem empty_atop (layer : SettingsLayer) : atop {} layer = layer := by
  simp [atop]

theorem atop_assoc (upper middle lower : SettingsLayer) :
    (upper.atop middle).atop lower = upper.atop (middle.atop lower) := by
  simp [atop, Option.or_assoc]

/-- What layers come to on top of a layer, they come to without it and are put on top then. -/
theorem foldl_atop (lower : SettingsLayer) (layers : List SettingsLayer) :
    layers.foldl (fun lower upper : SettingsLayer => upper.atop lower) lower
      = (layers.foldl (fun lower upper : SettingsLayer => upper.atop lower) {}).atop lower := by
  induction layers generalizing lower with
  | nil => exact (empty_atop lower).symm
  | cons layer layers inductionHypothesis =>
      rw [List.foldl_cons, List.foldl_cons, inductionHypothesis, inductionHypothesis (layer.atop {}),
        atop_empty, atop_assoc]

/-! ### The last layer that sets a value -/

variable {α : Type}

/-- The value of the last layer that sets it. -/
def lastSet? (value : SettingsLayer → Option α) (layers : List SettingsLayer) : Option α :=
  layers.reverse.findSome? value

theorem lastSet?_append (value : SettingsLayer → Option α) (lower upper : List SettingsLayer) :
    lastSet? value (lower ++ upper) = (lastSet? value upper).or (lastSet? value lower) := by
  rw [lastSet?, List.reverse_append, List.findSome?_append]
  rfl

/-- A value of a layer that another layer on top covers where it sets it. -/
structure IsCovered (value : SettingsLayer → Option α) : Prop where
  empty : value {} = none
  atop : ∀ upper lower : SettingsLayer, value (upper.atop lower) = (value upper).or (value lower)

theorem isCovered_module : IsCovered SettingsLayer.module :=
  ⟨rfl, fun _ _ => Option.orElse_eq_or ..⟩

theorem isCovered_input : IsCovered SettingsLayer.input :=
  ⟨rfl, fun _ _ => Option.orElse_eq_or ..⟩

theorem isCovered_output : IsCovered SettingsLayer.output :=
  ⟨rfl, fun _ _ => Option.orElse_eq_or ..⟩

theorem isCovered_logLevel : IsCovered SettingsLayer.logLevel :=
  ⟨rfl, fun _ _ => Option.orElse_eq_or ..⟩

/-- A pile comes to the last value that one of its layers sets, however they are grouped. -/
theorem IsCovered.merged
    {value : SettingsLayer → Option α}
    (isCovered : IsCovered value)
    (pile : SettingsPile) :
    value pile.merged = lastSet? value pile.layers := by
  induction pile with
  | empty => exact isCovered.empty
  | single layer =>
      rw [SettingsPile.merged, SettingsPile.layers, lastSet?, List.reverse_singleton,
        List.findSome?_singleton]
  | stacked lower upper ofLower ofUpper =>
      rw [SettingsPile.merged, SettingsPile.layers, isCovered.atop, ofLower, ofUpper, lastSet?_append]

/-! ### Settings -/

theorem namesModule_iff {module : String} :
    namesModule module = true ↔ Text.trim module ≠ "" ∧ Text.trim module ≠ "." := by
  simp [namesModule, unsetModule]

/-- The values that are set pass their checks. -/
structure Passes (layer : SettingsLayer) : Prop where
  module : ∀ module ∈ layer.module, Text.trim module ≠ "" ∧ Text.trim module ≠ "."
  input : ∀ input ∈ layer.input, input.text ≠ ""
  output : ∀ output ∈ layer.output, output.text ≠ ""
  logLevel : ∀ level ∈ layer.logLevel, Text.trim level ≠ ""

theorem not_any_iff_forall_mem
    {rejects : α → Bool}
    {accepts : α → Prop}
    (judged : ∀ value, rejects value = true ↔ ¬ accepts value)
    (set : Option α) :
    ¬ set.any rejects = true ↔ ∀ value ∈ set, accepts value := by
  cases set with
  | none => simp
  | some value => simp [judged]

theorem guarded_eq_ok_iff
    {refused : Prop} [Decidable refused]
    {error : SettingsError}
    {rest : Except SettingsError Unit} :
    (if refused then .error error else rest) = .ok () ↔ ¬ refused ∧ rest = .ok () := by
  split
  case isTrue isRefused => exact ⟨nofun, fun passes => absurd isRefused passes.1⟩
  case isFalse passes => exact ⟨fun valid => ⟨passes, valid⟩, And.right⟩

theorem validate_eq_ok_iff (layer : SettingsLayer) :
    layer.validate = .ok () ↔ layer.Passes := by
  have module : ¬ (layer.module.any fun module => !namesModule module) = true
      ↔ ∀ module ∈ layer.module, Text.trim module ≠ "" ∧ Text.trim module ≠ "." :=
    not_any_iff_forall_mem (fun module => by rw [← namesModule_iff]; simp) layer.module
  have filled (set : Option Path) : ¬ set.any Path.isEmpty = true ↔ ∀ path ∈ set, path.text ≠ "" :=
    not_any_iff_forall_mem (fun path => by simp [Path.isEmpty]) set
  have logLevel : ¬ (layer.logLevel.any fun level => (Text.trim level).isEmpty) = true
      ↔ ∀ level ∈ layer.logLevel, Text.trim level ≠ "" :=
    not_any_iff_forall_mem (fun level => by simp) layer.logLevel
  rw [validate, guarded_eq_ok_iff, guarded_eq_ok_iff, guarded_eq_ok_iff, guarded_eq_ok_iff, module,
    filled, filled, logLevel]
  constructor
  · rintro ⟨module, input, output, logLevel, -⟩
    exact ⟨module, input, output, logLevel⟩
  · rintro ⟨module, input, output, logLevel⟩
    exact ⟨module, input, output, logLevel, rfl⟩

/-- A layer makes the settings that it sets, with the defaults where it sets nothing, once its values
pass and a module is among them. -/
theorem settings_eq_ok_iff {layer : SettingsLayer} {settings : Settings} :
    layer.settings = .ok settings
      ↔ layer.Passes
        ∧ layer.module = some settings.module
        ∧ settings.input = layer.input.getD defaultInput
        ∧ settings.output = layer.output.getD (Package.directoryFor settings.input)
        ∧ settings.logLevel = layer.logLevel.getD defaultLogLevel := by
  rw [← validate_eq_ok_iff, SettingsLayer.settings]
  cases valid : layer.validate with
  | error reason => simp [bind, Except.bind]
  | ok =>
      cases isModule : layer.module with
      | none => simp [bind, Except.bind, throw, throwThe, MonadExceptOf.throw]
      | some module =>
          simp only [bind, Except.bind, pure, Except.pure, Except.ok.injEq, true_and,
            Option.some.injEq]
          constructor
          · rintro rfl
            exact ⟨rfl, rfl, rfl, rfl⟩
          · rintro ⟨ofModule, ofInput, ofOutput, ofLogLevel⟩
            rw [ofModule, ← ofInput, ← ofOutput, ← ofLogLevel]

end SettingsLayer

/-! ### Settings of a pile -/

open SettingsLayer (lastSet?)

/-- Layers, lowest first, suffice for settings: the last module path that is set names a module, and
none of the other values is empty where it was last set. -/
structure Suffice (layers : List SettingsLayer) : Prop where
  module : ∃ module, lastSet? SettingsLayer.module layers = some module
    ∧ Text.trim module ≠ "" ∧ Text.trim module ≠ "."
  input : ∀ input ∈ lastSet? SettingsLayer.input layers, input.text ≠ ""
  output : ∀ output ∈ lastSet? SettingsLayer.output layers, output.text ≠ ""
  logLevel : ∀ level ∈ lastSet? SettingsLayer.logLevel layers, Text.trim level ≠ ""

/-- Settings are those of layers, lowest first: values as they were last set, defaults for the others,
and the directory of the input that is used where no output is set. None of them is empty. -/
structure Settings.AreOf (layers : List SettingsLayer) (settings : Settings) : Prop where
  module : lastSet? SettingsLayer.module layers = some settings.module
  input : settings.input
    = (lastSet? SettingsLayer.input layers).getD ⟨"./services/calc/service.rs"⟩
  output : lastSet? SettingsLayer.output layers = some settings.output
    ∨ lastSet? SettingsLayer.output layers = none ∧ IsDirectoryOf settings.input settings.output
  logLevel : settings.logLevel = (lastSet? SettingsLayer.logLevel layers).getD "info"
  moduleNamed : Text.trim settings.module ≠ "" ∧ Text.trim settings.module ≠ "."
  inputFilled : settings.input.text ≠ ""
  outputFilled : settings.output.text ≠ ""
  logLevelFilled : Text.trim settings.logLevel ≠ ""

/-- Layers that set the same values last, apart from those that the layers on top of them set. -/
structure AgreeBeneath (upper lower other : List SettingsLayer) : Prop where
  module : lastSet? SettingsLayer.module upper = none →
    lastSet? SettingsLayer.module lower = lastSet? SettingsLayer.module other
  input : lastSet? SettingsLayer.input upper = none →
    lastSet? SettingsLayer.input lower = lastSet? SettingsLayer.input other
  output : lastSet? SettingsLayer.output upper = none →
    lastSet? SettingsLayer.output lower = lastSet? SettingsLayer.output other
  logLevel : lastSet? SettingsLayer.logLevel upper = none →
    lastSet? SettingsLayer.logLevel lower = lastSet? SettingsLayer.logLevel other

namespace SettingsPile

open SettingsLayer

theorem merged_eq_foldl (pile : SettingsPile) :
    pile.merged = pile.layers.foldl (fun lower upper : SettingsLayer => upper.atop lower) {} := by
  induction pile with
  | empty => rfl
  | single layer => exact (atop_empty layer).symm
  | stacked lower upper ofLower ofUpper =>
      rw [merged, layers, List.foldl_append, ← ofLower, foldl_atop, ← ofUpper]

/-- A value of layers does not depend on what lies beneath a layer that sets it. -/
theorem covered_eq
    {α : Type}
    {value : SettingsLayer → Option α}
    (isCovered : IsCovered value)
    {upper lower other : SettingsPile}
    (agree : lastSet? value upper.layers = none →
      lastSet? value lower.layers = lastSet? value other.layers) :
    value (stacked lower upper).merged = value (stacked other upper).merged := by
  rw [isCovered.merged, isCovered.merged, layers, layers, lastSet?_append, lastSet?_append]
  cases last : lastSet? value upper.layers with
  | none => rw [agree last]
  | some => rfl

theorem merged_eq_of_agreeBeneath
    {upper lower other : SettingsPile}
    (agree : AgreeBeneath upper.layers lower.layers other.layers) :
    (stacked lower upper).merged = (stacked other upper).merged :=
  SettingsLayer.ext
    (covered_eq isCovered_module agree.module)
    (covered_eq isCovered_input agree.input)
    (covered_eq isCovered_output agree.output)
    (covered_eq isCovered_logLevel agree.logLevel)

theorem areOf_of_settings_eq_ok
    {pile : SettingsPile}
    {settings : Settings}
    (made : pile.merged.settings = .ok settings) :
    settings.AreOf pile.layers := by
  obtain ⟨passes, module, input, output, logLevel⟩ := settings_eq_ok_iff.mp made
  have inputFilled : settings.input.text ≠ "" := by
    rw [input]
    cases isSet : pile.merged.input with
    | none => decide
    | some path => exact passes.input path isSet
  have logLevelFilled : Text.trim settings.logLevel ≠ "" := by
    rw [logLevel]
    cases isSet : pile.merged.logLevel with
    | none => decide
    | some level => exact passes.logLevel level isSet
  have outputFilled : settings.output.text ≠ "" := by
    rw [output]
    cases isSet : pile.merged.output with
    | none => exact (Package.isDirectoryOf_directoryFor settings.input).text_ne_empty
    | some path => exact passes.output path isSet
  have outputSource : pile.merged.output = some settings.output
      ∨ pile.merged.output = none ∧ IsDirectoryOf settings.input settings.output := by
    cases isSet : pile.merged.output with
    | none =>
        rw [isSet, Option.getD_none] at output
        rw [output]
        exact .inr ⟨rfl, Package.isDirectoryOf_directoryFor settings.input⟩
    | some path =>
        rw [isSet, Option.getD_some] at output
        exact .inl (by rw [output])
  have moduleNamed := passes.module settings.module module
  rw [isCovered_module.merged] at module
  rw [isCovered_input.merged] at input
  rw [isCovered_output.merged] at outputSource
  rw [isCovered_logLevel.merged] at logLevel
  exact {
    module, input, output := outputSource, logLevel
    moduleNamed, inputFilled, outputFilled, logLevelFilled }

theorem exists_settings_iff_suffice (pile : SettingsPile) :
    (∃ settings, pile.merged.settings = .ok settings) ↔ Suffice pile.layers := by
  have ofModule := isCovered_module.merged pile
  have ofInput := isCovered_input.merged pile
  have ofOutput := isCovered_output.merged pile
  have ofLogLevel := isCovered_logLevel.merged pile
  constructor
  · rintro ⟨settings, made⟩
    obtain ⟨passes, module, -⟩ := settings_eq_ok_iff.mp made
    exact {
      module := ⟨settings.module, by rw [← ofModule, module], passes.module _ module⟩
      input := by rw [← ofInput]; exact passes.input
      output := by rw [← ofOutput]; exact passes.output
      logLevel := by rw [← ofLogLevel]; exact passes.logLevel }
  · rintro ⟨⟨module, isModule, isNamed⟩, input, output, logLevel⟩
    rw [← ofModule] at isModule
    rw [← ofInput] at input
    rw [← ofOutput] at output
    rw [← ofLogLevel] at logLevel
    have passes : pile.merged.Passes := {
      module := by
        intro other isOther
        rw [isModule] at isOther
        exact Option.some.inj isOther ▸ isNamed
      input, output, logLevel }
    let usedInput := pile.merged.input.getD defaultInput
    let usedOutput := pile.merged.output.getD (Package.directoryFor usedInput)
    let usedLevel := pile.merged.logLevel.getD defaultLogLevel
    exact ⟨⟨module, usedInput, usedOutput, usedLevel⟩,
      settings_eq_ok_iff.mpr ⟨passes, isModule, rfl, rfl, rfl⟩⟩

/-- Layers come to the same in any grouping: to the values that were set last. They make settings
exactly if those values suffice, and values that other layers cover do not count. -/
theorem settings_of_lastSet (pile : SettingsPile) :
    pile.merged = pile.layers.foldl (fun lower upper : SettingsLayer => upper.atop lower) {}
      ∧ (pile.merged.module = lastSet? SettingsLayer.module pile.layers
        ∧ pile.merged.input = lastSet? SettingsLayer.input pile.layers
        ∧ pile.merged.output = lastSet? SettingsLayer.output pile.layers
        ∧ pile.merged.logLevel = lastSet? SettingsLayer.logLevel pile.layers)
      ∧ ((∃ settings, pile.merged.settings = .ok settings) ↔ Suffice pile.layers)
      ∧ (∀ settings, pile.merged.settings = .ok settings → settings.AreOf pile.layers)
      ∧ ∀ lower other : SettingsPile, AgreeBeneath pile.layers lower.layers other.layers →
        (stacked lower pile).merged.settings = (stacked other pile).merged.settings := by
  refine ⟨merged_eq_foldl pile, ⟨isCovered_module.merged pile, isCovered_input.merged pile,
    isCovered_output.merged pile, isCovered_logLevel.merged pile⟩, exists_settings_iff_suffice pile,
    fun settings made => areOf_of_settings_eq_ok made, ?_⟩
  intro lower other agree
  rw [merged_eq_of_agreeBeneath agree]

-- A module path that would be refused lies beneath another one here.
example : (stacked (.single { module := some "." }) (.single { module := some "crate" })).merged.settings
    = .ok ⟨"crate", ⟨"./services/calc/service.rs"⟩, ⟨"./services/calc"⟩, "info"⟩ := by
  rfl

end SettingsPile

end Scaffold
