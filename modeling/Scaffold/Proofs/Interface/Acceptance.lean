import Scaffold.Proofs.Interface.Parameters

/-!
Contract: which traits declare an interface, and what is wrong with the others.

Owns:
- the first fault in a list whose elements are checked one behind the other;
- the faults of parameters, of results and of methods;
- the interface of a trait without a fault, and the failure of one that has some.

A fault is told what stands in front of an element, because numbers count from there and names may
not come back.
-/

namespace Scaffold

open Source

/-! ### First faults -/

section FirstFault

variable {α : Type}

/-- No element has a fault. -/
def Faultless (fault : List α → α → Failure → Prop) (elements : List α) : Prop :=
  ∀ front element back, elements = front ++ element :: back → ∀ failure, ¬fault front element failure

/-- The first element that has a fault has this one. -/
def FirstFault
    (fault : List α → α → Failure → Prop)
    (elements : List α)
    (failure : Failure) : Prop :=
  ∃ front element back, elements = front ++ element :: back
    ∧ Faultless fault front
    ∧ fault front element failure

variable
  {fault : List α → α → Failure → Prop}
  {first : α}
  {rest : List α}
  {failure : Failure}

theorem faultless_nil : Faultless fault [] := by
  intro front element back same
  simp at same

/-- Elements behind one are checked with that one in front. -/
theorem faultless_cons :
    Faultless fault (first :: rest)
      ↔ (∀ failure, ¬fault [] first failure)
        ∧ Faultless (fun front => fault (first :: front)) rest := by
  constructor
  · intro faultless
    refine ⟨faultless [] first rest rfl, fun front element back same => ?_⟩
    exact faultless (first :: front) element back (by rw [same, List.cons_append])
  · rintro ⟨here, behind⟩ front element back same
    cases front with
    | nil =>
        obtain ⟨rfl, -⟩ := List.cons.inj same
        exact here
    | cons _ front =>
        obtain ⟨rfl, below⟩ := List.cons.inj same
        exact behind front element back below

theorem not_firstFault_nil : ¬FirstFault fault [] failure := by
  rintro ⟨front, element, back, same, -⟩
  simp at same

/-- The first fault is that of the first element, or the first one behind it. -/
theorem firstFault_cons :
    FirstFault fault (first :: rest) failure
      ↔ fault [] first failure
        ∨ (∀ failure, ¬fault [] first failure)
          ∧ FirstFault (fun front => fault (first :: front)) rest failure := by
  constructor
  · rintro ⟨front, element, back, same, before, faulty⟩
    cases front with
    | nil =>
        obtain ⟨rfl, -⟩ := List.cons.inj same
        exact .inl faulty
    | cons _ front =>
        obtain ⟨rfl, below⟩ := List.cons.inj same
        obtain ⟨here, behind⟩ := faultless_cons.mp before
        exact .inr ⟨here, front, element, back, below, behind, faulty⟩
  · rintro (faulty | ⟨here, front, element, back, rfl, before, faulty⟩)
    · exact ⟨[], first, rest, rfl, faultless_nil, faulty⟩
    · exact ⟨first :: front, element, back, rfl, faultless_cons.mpr ⟨here, before⟩, faulty⟩

/-- Elements are without a fault exactly if none of them has the first one. -/
theorem not_firstFault_iff_faultless :
    ∀ {elements : List α} {fault : List α → α → Failure → Prop},
      (∀ failure, ¬FirstFault fault elements failure) ↔ Faultless fault elements
  | [], _ => ⟨fun _ => faultless_nil, fun _ _ => not_firstFault_nil⟩
  | first :: rest, fault => by
      rw [faultless_cons, ← not_firstFault_iff_faultless]
      simp only [firstFault_cons, not_or, forall_and, not_and]
      constructor
      · rintro ⟨here, behind⟩
        exact ⟨here, fun failure => behind failure here⟩
      · rintro ⟨here, behind⟩
        exact ⟨here, fun failure _ => behind failure⟩

end FirstFault

/-! ### Parameters and results -/

/-- What is wrong with a typed parameter: its pattern, which is to be a name or an underscore, or if
that is right its type. -/
inductive ParameterFault
    (fail : TypePosition → String → Failure)
    (front : List (Node .pattern × Node .type)) :
    Node .pattern × Node .type → Failure → Prop where
  | pattern
      {pattern : Node .pattern}
      {type : Node .type}
      (nameless : parameterName? front.length pattern = none) :
      ParameterFault fail front (pattern, type)
        (fail (.argumentPattern (front.length + 1)) (Text.compact pattern.patternText))
  | type
      {pattern : Node .pattern}
      {type : Node .type}
      {name : String}
      (named : parameterName? front.length pattern = some name)
      (unsupported : TypeRef.ofType? type = none) :
      ParameterFault fail front (pattern, type) (fail (.argument name) (compactType type))

/-- What is wrong with a result: its type. -/
inductive ResultFault
    (fail : TypePosition → String → Failure)
    (front : List (Node .type)) :
    Node .type → Failure → Prop where
  | type
      {type : Node .type}
      (unsupported : TypeRef.ofType? type = none) :
      ResultFault fail front type (fail (.returnValue (front.length + 1)) (compactType type))

section

variable
  {fail : TypePosition → String → Failure}
  {failure : Failure}

/-- A parameter has no fault exactly if it has a name and a type by reference. -/
theorem not_parameterFault_iff
    {front : List (Node .pattern × Node .type)}
    {pattern : Node .pattern}
    {type : Node .type} :
    (∀ failure, ¬ParameterFault fail front (pattern, type) failure)
      ↔ ∃ name, parameterName? front.length pattern = some name
        ∧ ∃ reference, TypeRef.ofType? type = some reference := by
  constructor
  · intro faultless
    cases named : parameterName? front.length pattern with
    | none => exact absurd (.pattern named) (faultless _)
    | some name =>
        cases supported : TypeRef.ofType? type with
        | none => exact absurd (.type named supported) (faultless _)
        | some reference => exact ⟨name, rfl, reference, rfl⟩
  · rintro ⟨name, named, reference, supported⟩ failure (nameless | ⟨-, unsupported⟩)
    · rw [named] at nameless
      cases nameless
    · rw [supported] at unsupported
      cases unsupported

/-- Whether a parameter is refused, and why, is said by its fault; the rest is looked at only if it has
none. -/
theorem parametersFrom_cons_eq_error_iff
    {front : List (Node .pattern × Node .type)}
    {pattern declared : Node .pattern}
    {type : Node .type}
    {rest : List (Node .pattern × Node .type)}
    (named : boundName? pattern = parameterName? front.length declared)
    (nameless : boundName? pattern = none → pattern = declared) :
    parametersFrom fail (front.length + 1) ((pattern, type) :: rest) = .error failure
      ↔ ParameterFault fail front (declared, type) failure
        ∨ (∀ failure, ¬ParameterFault fail front (declared, type) failure)
          ∧ parametersFrom fail (front.length + 1 + 1) rest = .error failure := by
  rw [parametersFrom, not_parameterFault_iff, ← named]
  cases isName : boundName? pattern with
  | none =>
      have same := nameless isName
      rw [isName] at named
      subst same
      constructor
      · intro fails
        cases fails
        exact .inl (.pattern named.symm)
      · rintro (faulty | ⟨⟨_, isSome, -⟩, -⟩)
        · rcases faulty with _ | ⟨isSome, -⟩
          · rfl
          · rw [isSome] at named
            cases named
        · cases isSome
  | some name =>
      rw [isName] at named
      cases supported : TypeRef.ofType? type with
      | none =>
          constructor
          · intro fails
            cases fails
            exact .inl (.type named.symm supported)
          · rintro (faulty | ⟨⟨_, -, _, isSome⟩, -⟩)
            · rcases faulty with isNone | ⟨isSome, -⟩
              · rw [isNone] at named
                cases named
              · rw [isSome] at named
                cases named
                rfl
            · cases isSome
      | some reference =>
          simp only [except_bind_eq_error, pure, Except.pure]
          constructor
          · rintro (fails | ⟨_, -, returns⟩)
            · exact .inr ⟨⟨name, rfl, reference, rfl⟩, fails⟩
            · cases returns
          · rintro (faulty | ⟨-, fails⟩)
            · rcases faulty with isNone | ⟨-, unsupported⟩
              · rw [isNone] at named
                cases named
              · rw [supported] at unsupported
                cases unsupported
            · exact .inl fails

theorem typedParameters_cons
    {attributes : Node (.many .attribute)}
    {pattern : Node .pattern}
    {type : Node .type}
    {rest : List (Node .parameter)} :
    typedParameters (.typedParameter attributes pattern type :: rest)
      = (pattern, type) :: typedParameters rest :=
  rfl

/-- Behind parameters that are all right, the others fail with the fault of the first that has one. -/
theorem parametersFrom_eq_error_iff
    {index : Nat}
    (before : List (Node .pattern × Node .type))
    {parameters : List (Node .parameter)}
    (placed : before.length = index) :
    parametersFrom fail (index + 1) (typedParameters (nameWildcards index parameters)) = .error failure
      ↔ FirstFault (fun front => ParameterFault fail (before ++ front)) (typedParameters parameters)
        failure := by
  -- The typed parameters that are passed by move into `before`; a receiver moves nothing.
  fun_induction nameWildcards index parameters generalizing before with
  | case1 =>
      simp only [typedParameters, List.filterMap_nil, parametersFrom, reduceCtorEq, false_iff]
      exact not_firstFault_nil
  | case2 index attributes type rest inductionHypothesis =>
      subst placed
      have below := inductionHypothesis (before ++ [(.wildcardPattern, type)]) (by simp)
      simp only [List.append_assoc, List.singleton_append] at below
      have named :
          boundName? (.namePattern false false ("arg" ++ toString before.length) .absent)
            = parameterName? before.length .wildcardPattern := rfl
      rw [typedParameters_cons, typedParameters_cons, firstFault_cons, List.append_nil, ← below,
        parametersFrom_cons_eq_error_iff named (by simp [boundName?])]
  | case3 index attributes pattern type rest noUnderscore inductionHypothesis =>
      subst placed
      have below := inductionHypothesis (before ++ [(pattern, type)]) (by simp)
      simp only [List.append_assoc, List.singleton_append] at below
      have named : boundName? pattern = parameterName? before.length pattern := by
        cases pattern with
        | wildcardPattern => exact absurd rfl noUnderscore
        | _ => rfl
      rw [typedParameters_cons, typedParameters_cons, firstFault_cons, List.append_nil, ← below,
        parametersFrom_cons_eq_error_iff named fun _ => rfl]
  | case4 index parameter rest noUnderscore noTyped inductionHypothesis =>
      cases parameter with
      | typedParameter attributes pattern type => exact absurd rfl (noTyped attributes pattern type)
      | selfParameter | variadicParameter => exact inductionHypothesis before placed

theorem resultsFrom_eq_error_iff
    (before : List (Node .type))
    {types : List (Node .type)} :
    resultsFrom fail (before.length + 1) types = .error failure
      ↔ FirstFault (fun front => ResultFault fail (before ++ front)) types failure := by
  induction types generalizing before with
  | nil =>
      simp only [resultsFrom, reduceCtorEq, false_iff]
      exact not_firstFault_nil
  | cons type rest inductionHypothesis =>
      have below := inductionHypothesis (before ++ [type])
      simp only [List.append_assoc, List.singleton_append, List.length_append, List.length_singleton]
        at below
      rw [firstFault_cons, ← below, List.append_nil, resultsFrom]
      cases supported : TypeRef.ofType? type with
      | none =>
          constructor
          · intro fails
            cases fails
            exact .inl (.type supported)
          · rintro (faulty | ⟨faultless, -⟩)
            · cases faulty
              rfl
            · exact absurd (.type supported) (faultless _)
      | some reference =>
          have faultless (failure : Failure) : ¬ResultFault fail before type failure := by
            rintro ⟨unsupported⟩
            rw [supported] at unsupported
            cases unsupported
          simp [except_bind_eq_error, pure, Except.pure, faultless]

end

/-! ### Methods -/

/-- What is wrong with a signature: the first fault of its typed parameters, or if they have none that
of its results. -/
def SignatureFault
    (interface : String)
    (signature : Node .signature)
    (failure : Failure) : Prop :=
  let fail := Failure.unsupportedType interface (signatureName signature)
  FirstFault (ParameterFault fail) signature.typed failure
    ∨ Faultless (ParameterFault fail) signature.typed
      ∧ FirstFault (ResultFault fail) (resultTypes signature.output).1 failure

/-- What is wrong with a method: its signature, or if that is right its name, which is that of an
earlier one. -/
inductive MethodFault
    (interface : String)
    (front : List (Node .signature)) :
    Node .signature → Failure → Prop where
  | signature
      {signature : Node .signature}
      {failure : Failure}
      (faulty : SignatureFault interface signature failure) :
      MethodFault interface front signature failure
  | repeated
      {signature : Node .signature}
      (sound : ∀ failure, ¬SignatureFault interface signature failure)
      (taken : signatureName signature ∈ front.map signatureName) :
      MethodFault interface front signature (.duplicateMethod interface (signatureName signature))

section

variable
  {interface : String}
  {signature : Node .signature}
  {signatures : List (Node .signature)}
  {failure : Failure}

/-- A signature is refused for the first of its faults. -/
theorem Method.ofSignature_eq_error_iff :
    Method.ofSignature interface signature = .error failure
      ↔ SignatureFault interface signature failure := by
  cases signature with
  | functionSignature head name generics parameters trailing output =>
      have ofParameters (failure : Failure) :
          parametersFrom (.unsupportedType interface name) 1
              (typedParameters (nameWildcards 0 parameters.toList)) = .error failure
            ↔ FirstFault (ParameterFault (.unsupportedType interface name))
              (typedParameters parameters.toList) failure :=
        parametersFrom_eq_error_iff [] rfl
      have ofResults :
          resultsFrom (.unsupportedType interface name) 1 (resultTypes output.toOption).1
              = .error failure
            ↔ FirstFault (ResultFault (.unsupportedType interface name))
              (resultTypes output.toOption).1 failure :=
        resultsFrom_eq_error_iff []
      rw [SignatureFault, ← not_firstFault_iff_faultless]
      simp only [signatureName, Node.typed, Node.output]
      rw [← ofResults, ← ofParameters, Method.ofSignature, except_bind_eq_error]
      refine or_congr Iff.rfl ?_
      constructor
      · rintro ⟨all, foundAll, fails⟩
        rcases except_bind_eq_error.mp fails with failsResults | ⟨_, _, returns⟩
        · refine ⟨fun failure faulty => ?_, failsResults⟩
          rw [← ofParameters, foundAll] at faulty
          cases faulty
        · cases returns
      · rintro ⟨faultless, failsResults⟩
        cases foundAll : parametersFrom (.unsupportedType interface name) 1
            (typedParameters (nameWildcards 0 parameters.toList)) with
        | error failure => exact absurd ((ofParameters failure).mp foundAll) (faultless failure)
        | ok all => exact ⟨all, rfl, except_bind_eq_error.mpr (.inl failsResults)⟩

/-- A signature without a fault declares a method. -/
theorem Method.exists_ofSignature_eq_ok_iff :
    (∃ method, Method.ofSignature interface signature = .ok method)
      ↔ ∀ failure, ¬SignatureFault interface signature failure := by
  simp only [← ofSignature_eq_error_iff]
  cases Method.ofSignature interface signature with
  | error failure => simp
  | ok method => simp

/-- A method has the name of its signature. -/
theorem Method.name_of_ofSignature
    {method : Method}
    (accepted : Method.ofSignature interface signature = .ok method) :
    method.name = signatureName signature := by
  cases signature with
  | functionSignature head name generics parameters trailing output =>
      obtain ⟨_, _, accepted⟩ := except_bind_eq_ok.mp accepted
      obtain ⟨_, _, accepted⟩ := except_bind_eq_ok.mp accepted
      cases accepted
      rfl

/-- Behind methods that are all right, the others fail with the fault of the first that has one. -/
theorem methodsFrom_eq_error_iff
    {seen : List String}
    (before : List (Node .signature))
    (passed : ∀ name, name ∈ seen ↔ name ∈ before.map signatureName) :
    methodsFrom interface seen signatures = .error failure
      ↔ FirstFault (fun front => MethodFault interface (before ++ front)) signatures failure := by
  induction signatures generalizing seen before with
  | nil =>
      simp only [methodsFrom, reduceCtorEq, false_iff]
      exact not_firstFault_nil
  | cons signature rest inductionHypothesis =>
      rw [firstFault_cons, methodsFrom, except_bind_eq_error, List.append_nil]
      cases accepted : Method.ofSignature interface signature with
      | error own =>
          have faulty := Method.ofSignature_eq_error_iff.mp accepted
          constructor
          · rintro (fails | ⟨_, succeeds, -⟩)
            · cases fails
              exact .inl (.signature faulty)
            · cases succeeds
          · rintro (fault | ⟨faultless, -⟩)
            · rcases fault with fault | ⟨sound, -⟩
              · exact .inl (accepted.symm.trans (Method.ofSignature_eq_error_iff.mpr fault))
              · exact absurd faulty (sound own)
            · exact absurd (.signature faulty) (faultless own)
      | ok method =>
          have sound := Method.exists_ofSignature_eq_ok_iff.mp ⟨method, accepted⟩
          have named := Method.name_of_ofSignature accepted
          have isFault {failure : Failure} :
              MethodFault interface before signature failure
                ↔ signatureName signature ∈ before.map signatureName
                  ∧ failure = .duplicateMethod interface (signatureName signature) := by
            constructor
            · rintro (fault | ⟨-, taken⟩)
              · exact absurd fault (sound failure)
              · exact ⟨taken, rfl⟩
            · rintro ⟨taken, rfl⟩
              exact .repeated sound taken
          simp only [reduceCtorEq, false_or, Except.ok.injEq, exists_eq_left', isFault,
            List.contains_iff_mem, named, passed]
          by_cases taken : signatureName signature ∈ before.map signatureName
          · rw [if_pos taken]
            simp [taken, throw, throwThe, MonadExceptOf.throw, eq_comm]
          · have passedBoth (name : String) :
                name ∈ signatureName signature :: seen
                  ↔ name ∈ (before ++ [signature]).map signatureName := by
              simp [passed, or_comm]
            have below := inductionHypothesis (before ++ [signature]) passedBoth
            simp only [List.append_assoc, List.singleton_append] at below
            rw [if_neg taken]
            simp [taken, except_bind_eq_error, pure, Except.pure, below]

theorem methodsFrom_cons_eq_ok_iff
    {seen : List String}
    {methods : List Method} :
    methodsFrom interface seen (signature :: signatures) = .ok methods
      ↔ ∃ method others, Method.ofSignature interface signature = .ok method ∧ method.name ∉ seen
        ∧ methodsFrom interface (method.name :: seen) signatures = .ok others
        ∧ methods = method :: others := by
  rw [methodsFrom, except_bind_eq_ok]
  constructor
  · rintro ⟨method, accepted, succeeds⟩
    split at succeeds
    · cases succeeds
    · next fresh =>
        obtain ⟨others, foundOthers, returns⟩ := except_bind_eq_ok.mp succeeds
        cases returns
        exact ⟨method, others, accepted, mt List.contains_iff_mem.mpr fresh, foundOthers, rfl⟩
  · rintro ⟨method, others, accepted, fresh, foundOthers, rfl⟩
    refine ⟨method, accepted, ?_⟩
    rw [if_neg (mt List.contains_iff_mem.mp fresh), foundOthers]
    rfl

/-- Signatures declare methods together exactly if each does and no two have one name. -/
theorem exists_methodsFrom_eq_ok_iff (seen : List String) :
    (∃ methods, methodsFrom interface seen signatures = .ok methods)
      ↔ (∀ signature ∈ signatures, ∃ method, Method.ofSignature interface signature = .ok method)
        ∧ (signatures.map signatureName).Nodup
        ∧ ∀ signature ∈ signatures, signatureName signature ∉ seen := by
  induction signatures generalizing seen with
  | nil => simp [methodsFrom]
  | cons signature rest inductionHypothesis =>
      simp only [methodsFrom_cons_eq_ok_iff, List.map_cons, List.nodup_cons, List.forall_mem_cons]
      constructor
      · rintro ⟨_, method, others, accepted, fresh, foundOthers, rfl⟩
        obtain ⟨behind, nodup, apart⟩ := (inductionHypothesis _).mp ⟨others, foundOthers⟩
        rw [Method.name_of_ofSignature accepted] at fresh apart
        simp only [List.mem_cons, not_or] at apart
        refine ⟨⟨⟨method, accepted⟩, behind⟩, ⟨?_, nodup⟩, fresh, fun other member =>
          (apart other member).2⟩
        rintro repeated
        obtain ⟨other, member, same⟩ := List.mem_map.mp repeated
        exact (apart other member).1 same
      · rintro ⟨⟨⟨method, accepted⟩, behind⟩, ⟨first, nodup⟩, fresh, apart⟩
        have named := Method.name_of_ofSignature accepted
        have others : ∀ other ∈ rest, signatureName other ∉ method.name :: seen := by
          intro other member
          rw [named, List.mem_cons, not_or]
          exact ⟨fun same => first (List.mem_map.mpr ⟨other, member, same⟩), apart other member⟩
        obtain ⟨methods, foundOthers⟩ := (inductionHypothesis _).mpr ⟨behind, nodup, others⟩
        exact ⟨method :: methods, method, methods, accepted, named ▸ fresh, foundOthers, rfl⟩

/-- The methods are those that the signatures declare, one behind the other. -/
theorem forall₂_of_methodsFrom
    {seen : List String}
    {methods : List Method}
    (found : methodsFrom interface seen signatures = .ok methods) :
    List.Forall₂ (fun signature method => Method.ofSignature interface signature = .ok method)
      signatures methods := by
  induction signatures generalizing seen methods with
  | nil =>
      cases found
      exact .nil
  | cons signature rest inductionHypothesis =>
      obtain ⟨method, others, accepted, -, foundOthers, rfl⟩ := methodsFrom_cons_eq_ok_iff.mp found
      exact .cons accepted (inductionHypothesis foundOthers)

end

/-! ### Interfaces -/

/-- The signatures of the functions that a trait declares, with a receiver or without. -/
def Source.Node.declaredSignatures : Node .item → List (Node .signature)
  | .traitItem _ _ _ _ _ _ _ _ _ _ items =>
      items.toList.filterMap fun
        | .functionItem _ _ _ signature _ => some signature
        | _ => none
  | _ => []

/-- The methods of a declared trait are its functions with a receiver. -/
theorem ServiceTrait.signatures_eq_filter
    {item : Node .item}
    {declaration : ServiceTrait}
    (declared : ServiceTrait.ofItem? item = some declaration) :
    declaration.signatures = item.declaredSignatures.filter hasReceiver := by
  cases item with
  | traitItem attributes visibility isUnchecked isAuto name generics colon bounds trailing inner items =>
      cases declared
      rw [Node.declaredSignatures, List.filter_filterMap]
      refine List.filterMap_congr fun item member => ?_
      cases item <;> simp [Option.filter]
  | _ => cases declared

/-- Among methods with distinct names each is found by its own. -/
theorem Interface.method?_name_of_mem
    {interface : Interface}
    {method : Method}
    (distinct : (interface.methods.map Method.name).Nodup)
    (member : method ∈ interface.methods) :
    interface.method? method.name = some method := by
  obtain ⟨front, back, split⟩ := List.append_of_mem member
  rw [split, List.map_append, List.nodup_append] at distinct
  rw [method?, List.find?_eq_some_iff_append]
  refine ⟨beq_self_eq_true _, front, back, split, fun earlier inFront => ?_⟩
  have different := distinct.2.2 earlier.name (List.mem_map_of_mem inFront) method.name (by simp)
  simpa using different

theorem Interface.ofTrait_eq_ok_iff
    {declaration : ServiceTrait}
    {package : String}
    {interface : Interface} :
    Interface.ofTrait declaration package = .ok interface
      ↔ ∃ methods, methodsFrom declaration.name [] declaration.signatures = .ok methods
        ∧ interface = ⟨declaration.name, package, methods, declaration.asyncTrait⟩ := by
  rw [ofTrait, except_bind_eq_ok]
  simp [pure, Except.pure, eq_comm]

theorem Interface.ofTrait_eq_error_iff
    {declaration : ServiceTrait}
    {package : String}
    {failure : Failure} :
    Interface.ofTrait declaration package = .error failure
      ↔ FirstFault (MethodFault declaration.name) declaration.signatures failure := by
  rw [ofTrait, except_bind_eq_error,
    methodsFrom_eq_error_iff [] (fun name => by simp)]
  simp [pure, Except.pure]

section

variable
  {declaration : ServiceTrait}
  {package : String}
  {interface : Interface}

/-- A trait declares an interface exactly if each of its methods is accepted and no two have one name. -/
theorem Interface.exists_ofTrait_eq_ok_iff :
    (∃ interface, Interface.ofTrait declaration package = .ok interface)
      ↔ (∀ signature ∈ declaration.signatures,
          ∃ method, Method.ofSignature declaration.name signature = .ok method)
        ∧ (declaration.signatures.map signatureName).Nodup := by
  have accepts :
      (∃ methods, methodsFrom declaration.name [] declaration.signatures = .ok methods) ↔ _ :=
    exists_methodsFrom_eq_ok_iff []
  simp only [List.not_mem_nil, not_false_eq_true, implies_true, and_true] at accepts
  rw [← accepts]
  simp only [ofTrait_eq_ok_iff]
  exact ⟨fun ⟨_, methods, found, _⟩ => ⟨methods, found⟩,
    fun ⟨methods, found⟩ => ⟨_, methods, found, rfl⟩⟩

/-- The methods of an interface are those that the signatures of its trait declare. -/
theorem Interface.forall₂_of_ofTrait
    (accepted : Interface.ofTrait declaration package = .ok interface) :
    List.Forall₂ (fun signature method => Method.ofSignature declaration.name signature = .ok method)
      declaration.signatures interface.methods := by
  obtain ⟨methods, found, rfl⟩ := ofTrait_eq_ok_iff.mp accepted
  exact forall₂_of_methodsFrom found

/-- The methods of an interface have distinct names. -/
theorem Interface.names_nodup
    (accepted : Interface.ofTrait declaration package = .ok interface) :
    (interface.methods.map Method.name).Nodup := by
  have named : interface.methods.map Method.name = declaration.signatures.map signatureName := by
    rw [← List.forall₂_eq_eq_eq, List.forall₂_map_left_iff, List.forall₂_map_right_iff]
    exact (forall₂_of_ofTrait accepted).flip.imp fun _ _ accepted => Method.name_of_ofSignature accepted
  rw [named]
  exact (exists_ofTrait_eq_ok_iff.mp ⟨interface, accepted⟩).2

/-- The methods of an interface are found by their names. -/
theorem Interface.forall₂_method?
    (accepted : Interface.ofTrait declaration package = .ok interface) :
    List.Forall₂
        (fun signature method => Method.ofSignature declaration.name signature = .ok method
          ∧ interface.method? (signatureName signature) = some method)
        declaration.signatures interface.methods := by
  have distinct := names_nodup accepted
  have looked := (List.forall₂_and_left interface.methods declaration.signatures).mpr
    ⟨fun method member => method?_name_of_mem distinct member, (forall₂_of_ofTrait accepted).flip⟩
  refine looked.flip.imp fun signature method ⟨isFound, accepted⟩ => ⟨accepted, ?_⟩
  rwa [← Method.name_of_ofSignature accepted]

end

/-- The interface of a trait, or why it has none. A trait declares one exactly if each of its methods is
accepted and no two have one name; the methods are then those that the signatures declare, in order,
and each is found by its name. Otherwise the answer is the fault of the first method that has one, and
that of its signature goes before a repeated name. A signature is refused for the first fault of its
parameters, from left to right, or if they have none for that of its results. -/
theorem Interface.ofTrait_answers
    {item : Node .item}
    {declaration : ServiceTrait}
    (declared : ServiceTrait.ofItem? item = some declaration)
    (package : String) :
    declaration.signatures = item.declaredSignatures.filter hasReceiver
      ∧ ((∃ interface, Interface.ofTrait declaration package = .ok interface)
        ↔ (∀ signature ∈ declaration.signatures,
            ∃ method, Method.ofSignature declaration.name signature = .ok method)
          ∧ (declaration.signatures.map signatureName).Nodup)
      ∧ (∀ interface, Interface.ofTrait declaration package = .ok interface →
        List.Forall₂
            (fun signature method => Method.ofSignature declaration.name signature = .ok method
              ∧ interface.method? (signatureName signature) = some method)
            declaration.signatures interface.methods)
      ∧ (∀ failure, Interface.ofTrait declaration package = .error failure
        ↔ FirstFault (MethodFault declaration.name) declaration.signatures failure)
      ∧ ∀ signature failure, Method.ofSignature declaration.name signature = .error failure
        ↔ SignatureFault declaration.name signature failure := by
  exact ⟨ServiceTrait.signatures_eq_filter declared, exists_ofTrait_eq_ok_iff,
    fun _ accepted => forall₂_method? accepted, fun _ => ofTrait_eq_error_iff,
    fun _ _ => Method.ofSignature_eq_error_iff⟩

/-- The type `&u8`. -/
def borrowedByte : Node .type :=
  .referenceType none false
    (.pathType (.simplePath false (.cons (.pathSegment "u8" .noArguments) .nil)))

/-- The trait `trait Calc { fn add(&self); fn add(); fn add(&self, _: &u8); }`. -/
def overloadedTrait : Node .item :=
  let method (parameters : List (Node .parameter)) : Node .item :=
    .functionItem .nil .inherited false
      (.functionSignature ⟨false, false, false, none⟩ "add" (.genericList false .nil false .absent false)
        (.ofList parameters) false .absent)
      .absent
  let receiver : Node .parameter := .selfParameter .nil (some none) false .absent
  .traitItem .nil .inherited false false "Calc" (.genericList false .nil false .absent false) false .nil
    false .nil
    (.ofList
      [method [receiver], method [],
        method [receiver, .typedParameter .nil .wildcardPattern borrowedByte]])

/-- Its two methods have one name, but the second is refused for the type of its parameter. -/
theorem Interface.ofTrait_refuses_overloaded :
    ∃ declaration, ServiceTrait.ofItem? overloadedTrait = some declaration
      ∧ Interface.ofTrait declaration "calc"
        = .error (.unsupportedType "Calc" "add" (.argument "arg0") (compactType borrowedByte)) := by
  obtain ⟨declaration, declared⟩ : ∃ declaration, ServiceTrait.ofItem? overloadedTrait = some declaration :=
    ⟨_, rfl⟩
  obtain ⟨-, -, -, refuses, faults⟩ := Interface.ofTrait_answers declared "calc"
  refine ⟨declaration, declared, (refuses _).mpr ?_⟩
  cases declared
  refine ⟨[_], _, [], rfl, faultless_cons.mpr ⟨?_, faultless_nil⟩, .signature (.inl ?_)⟩
  · rintro failure (faulty | ⟨-, taken⟩)
    · exact absurd ((faults _ _).mpr faulty) nofun
    · exact absurd taken List.not_mem_nil
  · exact ⟨[], _, [], rfl, faultless_nil, .type rfl rfl⟩

end Scaffold
