import Mathlib
import Scaffold.Artifact.Kind
import Scaffold.Proofs.Source.Tally
import Scaffold.Artifact.Service

/-!
Contract: the names of generated declarations, and what keeps them apart.

Owns:
- the forms of the names in the files of each kind, and the stems that the names are made from;
- interfaces whose stems are apart, alone and from those of another interface;
- that such interfaces have no declaration twice in the files of a kind.

Does not own: that the files declare just these names.
-/

namespace Scaffold

open Source Text

/-! ### Stems -/

/-- What the name of a declaration is made from: the name of its interface as it is, in snake case or in
shouty snake case, this name together with a method's, or nothing. -/
inductive Stem where
  | interface
  | snake
  | shouty
  | envelope
  | call
  | fixed
  deriving DecidableEq, Repr

/-- The stems of an interface; a method is in Pascal case in those of its envelopes. -/
def Stem.texts (interface : Interface) : Stem → List String
  | .interface => [interface.name]
  | .snake => [snakeCase interface.name]
  | .shouty => [shoutySnakeCase interface.name]
  | .envelope => interface.methods.map fun method => interface.name ++ method.pascalName
  | .call => interface.methods.map fun method => snakeCase interface.name ++ "_" ++ method.name
  | .fixed => [""]

/-- No two methods have one name in Pascal case, and none has the name of the accessor of the endpoints. -/
structure Interface.HasApartNames (interface : Interface) : Prop where
  envelopes : (interface.methods.map Method.pascalName).Nodup
  accessor : ∀ method ∈ interface.methods, method.name ≠ "service"

/-- No name of one interface is made from a stem that one of the other is made from. -/
def Interface.IsApartFrom (first second : Interface) : Prop :=
  ∀ stem : Stem, stem ≠ .fixed → ∀ text ∈ stem.texts first, text ∉ stem.texts second

/-- The stems of an interface whose methods have names of their own. -/
theorem Interface.HasApartNames.nodup_texts
    {interface : Interface}
    (apart : interface.HasApartNames)
    (named : (interface.methods.map Method.name).Nodup)
    (stem : Stem) :
    (stem.texts interface).Nodup := by
  cases stem with
  | interface | snake | shouty | fixed => exact List.nodup_singleton _
  | envelope =>
      rw [Stem.texts, ← Function.comp_def (interface.name ++ ·), ← List.map_map]
      exact apart.envelopes.map fun _ _ => String.append_right_inj interface.name |>.mp
  | call =>
      rw [Stem.texts, ← Function.comp_def (snakeCase interface.name ++ "_" ++ ·), ← List.map_map]
      exact named.map fun _ _ => String.append_right_inj _ |>.mp

/-! ### Forms -/

/-- A declaration whose name is a stem between two fixed texts. -/
structure NameForm where
  keyword : String
  front : String
  back : String
  stem : Stem
  deriving DecidableEq, Repr

namespace NameForm

/-- The declaration with a stem. -/
def declare (form : NameForm) (stem : String) : Declared :=
  ⟨form.keyword, form.front ++ stem ++ form.back⟩

/-- The declarations with the stems of an interface. -/
def declared (interface : Interface) (form : NameForm) : List Declared :=
  (form.stem.texts interface).map form.declare

theorem declare_injective (form : NameForm) : Function.Injective form.declare := by
  intro stem other same
  have names := congrArg Declared.name same
  exact String.append_right_inj _ |>.mp (String.append_left_inj _ |>.mp names)

/-- The keywords differ, or the ends of the names do. -/
def IsApartFrom (first second : NameForm) : Prop :=
  first.keyword ≠ second.keyword
    ∨ ¬(first.back.toList <:+ second.back.toList ∨ second.back.toList <:+ first.back.toList)

instance (first second : NameForm) : Decidable (first.IsApartFrom second) :=
  inferInstanceAs (Decidable (_ ∨ _))

variable {first second : NameForm}

instance : Std.Symm IsApartFrom :=
  ⟨fun _ _ apart => apart.imp Ne.symm fun ends => ends ∘ Or.symm⟩

/-- Forms that are apart declare nothing in common, whatever the stems are. -/
theorem IsApartFrom.declare_ne
    (apart : first.IsApartFrom second)
    (stem other : String) :
    first.declare stem ≠ second.declare other := by
  intro same
  rcases apart with keyword | ends
  · exact keyword (congrArg Declared.keyword same)
  · have isSuffix (form : NameForm) (stem : String) :
        form.back.toList <:+ (form.declare stem).name.toList := by
      rw [declare, String.toList_append]
      exact List.suffix_append _ _
    have isOther := isSuffix second other
    rw [← same] at isOther
    exact ends (List.suffix_or_suffix_of_suffix (isSuffix first stem) isOther)

end NameForm

/-- The forms of the names in the files of a kind. Nothing of the error envelope and of the set-up of
tracing is named here: their texts are the same for every interface. -/
def ArtifactKind.forms : ArtifactKind → List NameForm
  | .implementation => [⟨"struct", "", "Service", .interface⟩]
  | .loggingMiddleware => [⟨"struct", "", "LoggingMiddleware", .interface⟩]
  | .tracingMiddleware => [⟨"struct", "", "TracingMiddleware", .interface⟩]
  | .transport =>
      [⟨"struct", "", "Endpoints", .interface⟩, ⟨"fn", "make_", "_endpoints", .snake⟩,
        ⟨"struct", "", "Request", .envelope⟩, ⟨"struct", "", "Response", .envelope⟩]
  | .httpAdapter =>
      [⟨"fn", "register_", "_routes", .snake⟩, ⟨"fn", "encode_", "_error", .snake⟩,
        ⟨"fn", "", "_handler", .call⟩, ⟨"fn", "encode_", "_response", .call⟩]
  | .natsAdapter =>
      [⟨"const", "", "_SUBJECT_PREFIX", .shouty⟩, ⟨"fn", "register_", "_subscribers", .snake⟩,
        ⟨"fn", "encode_", "_error", .snake⟩, ⟨"fn", "encode_", "_response", .call⟩]
  | .config =>
      [⟨"const", "", "BANNER", .fixed⟩, ⟨"const", "", "APPLICATION_DESCRIPTION", .fixed⟩,
        ⟨"struct", "", "ServiceConfig", .fixed⟩, ⟨"fn", "", "print_banner", .fixed⟩]
  | .httpEntryPoint =>
      [⟨"struct", "", "HttpRunArgs", .interface⟩, ⟨"fn", "run_", "_http", .snake⟩,
        ⟨"fn", "", "shutdown_signal", .fixed⟩]
  | .errorEnvelope | .tracingSetup => []

theorem ArtifactKind.forms_apart (kind : ArtifactKind) : kind.forms.Pairwise NameForm.IsApartFrom := by
  cases kind <;> decide +kernel

/-! ### Declarations -/

/-- What an interface declares in a file of a kind, sorted by the forms of the names. -/
def Interface.declared (interface : Interface) (kind : ArtifactKind) : List Declared :=
  kind.forms.flatMap (NameForm.declared interface)

namespace Interface

variable
  {interface other : Interface}
  {kind : ArtifactKind}

/-- An interface whose names are apart declares nothing twice. -/
theorem HasApartNames.nodup_declared
    (apart : interface.HasApartNames)
    (named : (interface.methods.map Method.name).Nodup) :
    (interface.declared kind).Nodup := by
  refine List.nodup_flatMap.mpr ⟨fun form _ => ?_, kind.forms_apart.imp ?_⟩
  · exact (apart.nodup_texts named form.stem).map form.declare_injective
  · intro first second formsApart declared inFirst inSecond
    obtain ⟨stem, -, rfl⟩ := List.mem_map.mp inFirst
    obtain ⟨otherStem, -, same⟩ := List.mem_map.mp inSecond
    exact formsApart.declare_ne stem otherStem same.symm

/-- What two interfaces whose names are apart both declare is made from neither of them. -/
theorem IsApartFrom.exists_form_of_declared
    (apart : interface.IsApartFrom other)
    {declared : Declared}
    (declares : declared ∈ interface.declared kind)
    (otherDeclares : declared ∈ other.declared kind) :
    ∃ form ∈ kind.forms, form.stem = .fixed ∧ declared = form.declare "" := by
  obtain ⟨form, isForm, declares⟩ := List.mem_flatMap.mp declares
  obtain ⟨otherForm, isOther, otherDeclares⟩ := List.mem_flatMap.mp otherDeclares
  obtain ⟨stem, isStem, rfl⟩ := List.mem_map.mp declares
  obtain ⟨otherStem, isOtherStem, same⟩ := List.mem_map.mp otherDeclares
  have sameForm : otherForm = form := by
    by_contra differ
    exact (kind.forms_apart.forall isOther isForm differ).declare_ne otherStem stem same
  subst sameForm
  rw [otherForm.declare_injective same] at isOtherStem
  by_cases fixed : otherForm.stem = .fixed
  · rw [fixed] at isStem
    exact ⟨otherForm, isForm, fixed, congrArg otherForm.declare (List.mem_singleton.mp isStem)⟩
  · exact absurd isOtherStem (apart otherForm.stem fixed stem isStem)

end Interface

end Scaffold
