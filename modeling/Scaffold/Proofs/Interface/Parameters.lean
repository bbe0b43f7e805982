import Mathlib.Data.List.Nodup
import Scaffold.Artifact.Service
import Scaffold.Proofs.Interface.Names

/-!
Contract: the parameters of a method against those that its signature declares.

Owns:
- the names and types of the declared parameters, in the order of their declaration;
- the lists that forward a call, as lists of these names;
- when the names are pairwise distinct.

Does not own: what generated text does with the lists.
-/

namespace Scaffold

open Source

/-! ### Names by place -/

/-- Elements that have a name or are labelled by their place, where no two have one name: the names
and labels are distinct exactly if no label is one of the names. -/
theorem nodup_mapIdx_getD_iff
    {α : Type}
    {name? : α → Option String}
    {label : Nat → String}
    (injective : Function.Injective label)
    {elements : List α}
    (distinct : (elements.filterMap name?).Nodup) :
    (elements.mapIdx fun index element => (name? element).getD (label index)).Nodup
      ↔ ∀ index element, elements[index]? = some element → name? element = none →
        label index ∉ elements.filterMap name? := by
  have apart := List.pairwise_iff_getElem.mp (List.pairwise_filterMap.mp distinct)
  rw [List.Nodup, List.pairwise_iff_getElem]
  simp only [List.length_mapIdx, List.getElem_mapIdx]
  constructor
  · intro different index element found unnamed member
    obtain ⟨here, rfl⟩ := List.getElem?_eq_some_iff.mp found
    obtain ⟨other, isElement, named⟩ := List.mem_filterMap.mp member
    obtain ⟨place, there, rfl⟩ := List.getElem_of_mem isElement
    rcases Nat.lt_trichotomy index place with before | rfl | behind
    · exact different index place here there before (by rw [unnamed, named]; rfl)
    · rw [unnamed] at named
      cases named
    · exact different place index there here behind (by rw [unnamed, named]; rfl)
  · intro free first second inFirst inSecond before same
    -- Two names differ by assumption and two labels by their places, so one of each is left.
    cases firstNamed : name? elements[first] with
    | some name =>
        cases secondNamed : name? elements[second] with
        | some other =>
            rw [firstNamed, secondNamed] at same
            exact apart first second inFirst inSecond before name firstNamed other secondNamed same
        | none =>
            have labelled : name = label second := by simpa [firstNamed, secondNamed] using same
            exact free second _ (List.getElem?_eq_getElem inSecond) secondNamed
              (List.mem_filterMap.mpr ⟨_, List.getElem_mem inFirst, labelled ▸ firstNamed⟩)
    | none =>
        cases secondNamed : name? elements[second] with
        | some other =>
            have labelled : label first = other := by simpa [firstNamed, secondNamed] using same
            exact free first _ (List.getElem?_eq_getElem inFirst) firstNamed
              (List.mem_filterMap.mpr ⟨_, List.getElem_mem inSecond, labelled ▸ secondNamed⟩)
        | none =>
            rw [firstNamed, secondNamed] at same
            exact absurd (injective same) (Nat.ne_of_lt before)

/-- The name that an underscore gets for its place among the typed parameters. -/
def wildcardName (index : Nat) : String :=
  "arg" ++ toString index

theorem wildcardName_injective : Function.Injective wildcardName := by
  intro first second same
  have digits := (String.append_right_inj "arg").mp same
  rw [Nat.toString_eq_ofList_toDigits, Nat.toString_eq_ofList_toDigits, String.ofList_inj] at digits
  rw [← Nat.ofDigitChars_ten_toDigits (n := first), digits, Nat.ofDigitChars_ten_toDigits]

/-! ### Declared parameters -/

/-- The patterns and types of the typed parameters of a signature, as they are declared. -/
def Source.Node.typed : Node .signature → List (Node .pattern × Node .type)
  | .functionSignature _ _ _ parameters _ _ => typedParameters parameters.toList

/-- The names that the typed parameters of a signature are declared by; an underscore is none. -/
def Source.Node.declaredNames (signature : Node .signature) : List String :=
  signature.typed.filterMap fun declared => boundName? declared.1

/-- The name of the typed parameter at a place: the one that its pattern binds, or the one that is
made up for an underscore. -/
def parameterName? (index : Nat) : Node .pattern → Option String
  | .wildcardPattern => some (wildcardName index)
  | pattern => boundName? pattern

theorem parameterName?_of_boundName?
    {index : Nat}
    {pattern : Node .pattern}
    {name : String}
    (found : boundName? pattern = some name) :
    parameterName? index pattern = some name := by
  cases pattern with
  | wildcardPattern => contradiction
  | _ => exact found

theorem parameterName?_eq_some
    {index : Nat}
    {pattern : Node .pattern}
    {name : String}
    (found : parameterName? index pattern = some name) :
    name = (boundName? pattern).getD (wildcardName index)
      ∧ (boundName? pattern = none → pattern = .wildcardPattern) := by
  unfold parameterName? at found
  split at found
  · cases found
    exact ⟨rfl, fun _ => rfl⟩
  · rw [found]
    exact ⟨rfl, nofun⟩

theorem parametersFrom_cons_eq_ok
    {fail : TypePosition → String → Failure}
    {number : Nat}
    {pattern : Node .pattern}
    {type : Node .type}
    {rest : List (Node .pattern × Node .type)}
    {all : List Parameter}
    (found : parametersFrom fail number ((pattern, type) :: rest) = .ok all) :
    ∃ name reference others, boundName? pattern = some name ∧ TypeRef.ofType? type = some reference
      ∧ parametersFrom fail (number + 1) rest = .ok others ∧ all = ⟨name, reference⟩ :: others := by
  rw [parametersFrom] at found
  split at found
  · contradiction
  · next name isName =>
      split at found
      · contradiction
      · next reference isType =>
          obtain ⟨others, foundRest, found⟩ := except_bind_eq_ok.mp found
          cases found
          exact ⟨name, reference, others, isName, isType, foundRest, rfl⟩

/-- Parameters have the names and the types of declared ones, place by place, where the first of these
is at the place `index`. -/
def MatchParameters
    (index : Nat)
    (declared : List (Node .pattern × Node .type))
    (parameters : List Parameter) : Prop :=
  declared.mapIdx (fun place typed => parameterName? (index + place) typed.1)
      = parameters.map (some ∘ Parameter.name)
    ∧ declared.map (fun typed => TypeRef.ofType? typed.2) = parameters.map (some ∘ Parameter.type)

theorem MatchParameters.cons
    {index : Nat}
    {pattern : Node .pattern}
    {type : Node .type}
    {declared : List (Node .pattern × Node .type)}
    {name : String}
    {reference : TypeRef}
    {parameters : List Parameter}
    (isName : parameterName? index pattern = some name)
    (isType : TypeRef.ofType? type = some reference)
    (rest : MatchParameters (index + 1) declared parameters) :
    MatchParameters index ((pattern, type) :: declared) (⟨name, reference⟩ :: parameters) := by
  obtain ⟨names, types⟩ := rest
  have shifted (place : Nat) (typed : Node .pattern × Node .type) :
      parameterName? (index + (place + 1)) typed.1 = parameterName? (index + 1 + place) typed.1 :=
    congrArg (parameterName? · typed.1) (by omega)
  constructor
  · rw [List.mapIdx_cons, funext₂ shifted, names]
    exact congrArg (· :: _) isName
  · rw [List.map_cons, isType, types]
    rfl

/-- Where parameters are accepted with names for underscores, they match the declared ones. -/
theorem matchParameters_of_parametersFrom
    {fail : TypePosition → String → Failure}
    {index number : Nat}
    {parameters : List (Node .parameter)}
    {all : List Parameter}
    (found : parametersFrom fail number (typedParameters (nameWildcards index parameters)) = .ok all) :
    MatchParameters index (typedParameters parameters) all := by
  -- Only typed parameters count as places, so a receiver moves neither of the two lists.
  fun_induction nameWildcards index parameters generalizing number all with
  | case1 =>
      cases found
      exact ⟨rfl, rfl⟩
  | case2 index attributes type rest inductionHypothesis =>
      obtain ⟨name, reference, others, isName, isType, foundRest, rfl⟩ := parametersFrom_cons_eq_ok found
      cases isName
      exact .cons rfl isType (inductionHypothesis foundRest)
  | case3 index attributes pattern type rest noUnderscore inductionHypothesis =>
      obtain ⟨name, reference, others, isName, isType, foundRest, rfl⟩ := parametersFrom_cons_eq_ok found
      exact .cons (parameterName?_of_boundName? isName) isType (inductionHypothesis foundRest)
  | case4 index parameter rest noUnderscore noTyped inductionHypothesis =>
      cases parameter with
      | typedParameter attributes pattern type => exact absurd rfl (noTyped attributes pattern type)
      | selfParameter | variadicParameter => exact inductionHypothesis found

namespace MatchParameters

variable
  {index : Nat}
  {declared : List (Node .pattern × Node .type)}
  {parameters : List Parameter}

theorem length_eq (matches_ : MatchParameters index declared parameters) :
    declared.length = parameters.length := by
  simpa using congrArg List.length matches_.2

/-- The parameter at the place of a declared one. -/
theorem exists_at
    {place : Nat}
    {typed : Node .pattern × Node .type}
    (matches_ : MatchParameters index declared parameters)
    (found : declared[place]? = some typed) :
    ∃ parameter, parameters[place]? = some parameter
      ∧ parameterName? (index + place) typed.1 = some parameter.name
      ∧ TypeRef.ofType? typed.2 = some parameter.type := by
  have names := congrArg (·[place]?) matches_.1
  have types := congrArg (·[place]?) matches_.2
  simp only [List.getElem?_mapIdx, List.getElem?_map, found, Option.map_some] at names types
  obtain ⟨parameter, isParameter, isName⟩ := Option.map_eq_some_iff.mp names.symm
  rw [isParameter] at types
  exact ⟨parameter, isParameter, isName.symm, Option.some.inj types⟩

/-- The names of the parameters: those that the patterns bind, and those made up for underscores. -/
theorem map_name (matches_ : MatchParameters 0 declared parameters) :
    parameters.map Parameter.name
      = declared.mapIdx fun place typed => (boundName? typed.1).getD (wildcardName place) := by
  refine List.ext_getElem? fun place => ?_
  rw [List.getElem?_map, List.getElem?_mapIdx]
  cases found : declared[place]? with
  | some typed =>
      obtain ⟨parameter, isParameter, isName, -⟩ := matches_.exists_at found
      rw [Nat.zero_add] at isName
      rw [isParameter, Option.map_some, Option.map_some, (parameterName?_eq_some isName).1]
  | none =>
      rw [List.getElem?_eq_none_iff, matches_.length_eq, ← List.getElem?_eq_none_iff] at found
      rw [found]
      rfl

/-- Nothing but an underscore is a declared parameter without a name. -/
theorem eq_wildcardPattern
    {place : Nat}
    {typed : Node .pattern × Node .type}
    (matches_ : MatchParameters index declared parameters)
    (found : declared[place]? = some typed)
    (unnamed : boundName? typed.1 = none) :
    typed.1 = .wildcardPattern := by
  obtain ⟨_, -, isName, -⟩ := matches_.exists_at found
  exact (parameterName?_eq_some isName).2 unnamed

end MatchParameters

/-! ### Methods -/

/-- The return type that a signature declares. -/
def Source.Node.output : Node .signature → Option (Node .type)
  | .functionSignature _ _ _ _ _ output => output.toOption

section

variable
  {interface : String}
  {signature : Node .signature}
  {method : Method}

/-- What an accepted method has of its signature. -/
theorem Method.parts_of_ofSignature (accepted : Method.ofSignature interface signature = .ok method) :
    (∃ all, MatchParameters 0 signature.typed all
        ∧ splitContext all = (method.context, method.arguments))
      ∧ (∃ fail, resultsFrom fail 1 (resultTypes signature.output).1 = .ok method.results)
      ∧ method.fallible = (resultTypes signature.output).2 := by
  cases signature with
  | functionSignature head name generics parameters trailing output =>
      obtain ⟨all, foundAll, accepted⟩ := except_bind_eq_ok.mp accepted
      obtain ⟨results, foundResults, accepted⟩ := except_bind_eq_ok.mp accepted
      cases accepted
      exact ⟨⟨all, matchParameters_of_parametersFrom foundAll, rfl⟩, ⟨_, foundResults⟩, rfl⟩

/-- The context of a method and its arguments behind it match the declared parameters. -/
theorem Method.matchParameters_forwarded
    (accepted : Method.ofSignature interface signature = .ok method) :
    MatchParameters 0 signature.typed method.forwarded := by
  obtain ⟨⟨all, matches_, split⟩, -⟩ := parts_of_ofSignature accepted
  have same := append_splitContext all
  rw [split] at same
  rwa [forwarded, same]

theorem wildcardName_not_mem_contextNames : wildcardName 0 ∉ contextNames := by
  decide

/-- There is a context exactly if the first typed parameter is declared by one of its names. -/
theorem Method.context_isSome_iff
    (accepted : Method.ofSignature interface signature = .ok method) :
    method.context.isSome = true
      ↔ ∃ first ∈ signature.typed.head?, ∃ name ∈ contextNames, boundName? first.1 = some name := by
  obtain ⟨⟨all, matches_, split⟩, -⟩ := parts_of_ofSignature accepted
  cases isTyped : signature.typed with
  | nil =>
      rw [isTyped] at matches_
      obtain rfl : all = [] := List.eq_nil_of_length_eq_zero matches_.length_eq.symm
      rw [← (Prod.mk.inj split).1]
      simp
  | cons first rest =>
      have isFirst : signature.typed[0]? = some first := by
        rw [isTyped]
        rfl
      obtain ⟨parameter, isParameter, isName, -⟩ := matches_.exists_at isFirst
      obtain ⟨others, rfl⟩ : ∃ others, all = parameter :: others := by
        cases all with
        | nil => contradiction
        | cons _ others => exact ⟨others, by cases isParameter; rfl⟩
      have named : parameter.name ∈ contextNames
          ↔ ∃ name ∈ contextNames, boundName? first.1 = some name := by
        rw [(parameterName?_eq_some isName).1]
        cases boundName? first.1 with
        | some name => simp
        | none => simpa using wildcardName_not_mem_contextNames
      rw [splitContext] at split
      split at split
      · next inNames =>
          rw [← (Prod.mk.inj split).1]
          simpa using named.mp (List.contains_iff_mem.mp inNames)
      · next outside =>
          have noName := mt named.mpr (mt List.contains_iff_mem.mpr outside)
          rw [← (Prod.mk.inj split).1]
          simpa using noName

/-- Where a signature declares no two parameters by one name, the names of the parameters of its
method are pairwise distinct exactly if none is declared by the name that another one gets for being
an underscore. -/
theorem Method.forwarded_names_nodup_iff
    (accepted : Method.ofSignature interface signature = .ok method)
    (distinct : signature.declaredNames.Nodup) :
    (method.forwarded.map Parameter.name).Nodup
      ↔ ∀ place type, signature.typed[place]? = some (.wildcardPattern, type) →
        wildcardName place ∉ signature.declaredNames := by
  have matches_ := matchParameters_forwarded accepted
  rw [matches_.map_name, nodup_mapIdx_getD_iff wildcardName_injective distinct]
  constructor
  · intro free place type found
    exact free place _ found rfl
  · rintro free place ⟨pattern, type⟩ found unnamed
    obtain rfl : pattern = .wildcardPattern := matches_.eq_wildcardPattern found unnamed
    exact free place type found

end

/-- The signature `fn f(&self, _: u8, arg0: u16)`. -/
def clashingSignature : Node .signature :=
  .functionSignature ⟨false, false, false, none⟩ "f" (.genericList false .nil false .absent false)
    (.ofList
      [.selfParameter .nil (some none) false .absent,
        .typedParameter .nil .wildcardPattern
          (.pathType (.simplePath false (.cons (.pathSegment "u8" .noArguments) .nil))),
        .typedParameter .nil (.namePattern false false "arg0" .absent)
          (.pathType (.simplePath false (.cons (.pathSegment "u16" .noArguments) .nil)))])
    false .absent

/-- The name that its underscore gets is declared by the other parameter. -/
theorem Method.forwarded_names_clash :
    ∃ method, Method.ofSignature "Calc" clashingSignature = .ok method
      ∧ clashingSignature.declaredNames.Nodup
      ∧ ¬(method.forwarded.map Parameter.name).Nodup := by
  obtain ⟨method, accepted⟩ : ∃ method, Method.ofSignature "Calc" clashingSignature = .ok method :=
    ⟨_, rfl⟩
  have distinct : clashingSignature.declaredNames.Nodup := by decide
  refine ⟨method, accepted, distinct, fun nodup => ?_⟩
  have free := (Method.forwarded_names_nodup_iff accepted distinct).mp nodup
  exact free 0 _ rfl (by decide)

end Scaffold
