import Scaffold.Proofs.Interface.Parameters
import Scaffold.Proofs.Source.TypeReading

/-!
Contract: the type of the value of a method.

Owns:
- that the text of a reference is read as the type that it refers to;
- types up to redundant parentheses, and the type of the value that a return type declares;
- what the text of the type of a method's value is read as.

Does not own: which texts are read as types.
-/

namespace Scaffold

open Source

/-! ### Names of paths -/

theorem Source.Node.ofList_toList :
    {c : Category} → (nodes : Node (.many c)) → Node.ofList nodes.toList = nodes
  | _, .nil => rfl
  | _, .cons head tail => congrArg (Node.cons head) (ofList_toList tail)

theorem bareNames?_cons (name : String) (segments : List (Node .segment)) :
    bareNames? (.pathSegment name .noArguments :: segments) = (bareNames? segments).map (name :: ·) := by
  rw [bareNames?, List.mapM_cons]
  show (bareNames? segments).bind (fun names => some (name :: names)) = _
  cases bareNames? segments <;> rfl

theorem bareNames?_eq_some_iff {segments : List (Node .segment)} {names : List String} :
    bareNames? segments = some names ↔ segments = names.map (.pathSegment · .noArguments) := by
  constructor
  · intro found
    induction segments generalizing names with
    | nil =>
        cases found
        rfl
    | cons segment segments inductionHypothesis =>
        cases segment with
        | pathSegment name arguments =>
            cases arguments with
            | angleArguments | callArguments => cases found
            | noArguments =>
                rw [bareNames?_cons] at found
                obtain ⟨others, areOthers, rfl⟩ := Option.map_eq_some_iff.mp found
                rw [inductionHypothesis areOthers, List.map_cons]
  · rintro rfl
    induction names with
    | nil => rfl
    | cons name names inductionHypothesis =>
        rw [List.map_cons, bareNames?_cons, inductionHypothesis, Option.map_some]

theorem pathOf_injective : Function.Injective pathOf := by
  intro names others same
  injection same with same
  injection same with _ same
  have lists := congrArg Node.toList same
  rw [Node.toList_ofList, Node.toList_ofList, ← bareNames?_eq_some_iff,
    bareNames?_eq_some_iff.mpr rfl] at lists
  exact Option.some.inj lists

theorem isInvolved_pathOf (names : List String) : (pathOf names).isInvolved = false := by
  simp [pathOf, Node.isInvolved, Node.isBare, Grammar.PathParts.isBare]

/-! ### Parentheses -/

namespace Source.Node

/-- What holds of a node that is in no parentheses and in no group, and of those that are if it holds
inside of them, relates every node to what stands inside of all its parentheses and groups. -/
theorem withoutParentheses_induction
    (related : {c : Category} → Node c → Node c → Prop)
    (parenthesized : ∀ type inner : Node .type, related type inner →
      related (.parenthesizedType type) inner)
    (grouped : ∀ type inner : Node .type, related type inner → related (.groupedType type) inner)
    (bare : ∀ {c : Category} (node : Node c), node.withoutParentheses = node → related node node)
    {c : Category}
    (node : Node c) :
    related node node.withoutParentheses := by
  fun_induction withoutParentheses node with
  | case1 type inductionHypothesis => exact parenthesized type _ inductionHypothesis
  | case2 type inductionHypothesis => exact grouped type _ inductionHypothesis
  | case3 _ node noParentheses noGroup =>
      apply bare
      rw [withoutParentheses]
      · exact noParentheses
      · exact noGroup

theorem withoutParentheses_withoutParentheses {c : Category} (node : Node c) :
    node.withoutParentheses.withoutParentheses = node.withoutParentheses := by
  apply withoutParentheses_induction fun _ inner => inner.withoutParentheses = inner
  case parenthesized | grouped => exact fun _ _ inside_ => inside_
  case bare => exact fun _ isBare => isBare

theorem isInvolved_withoutParentheses {c : Category} (node : Node c) :
    node.withoutParentheses.isInvolved = node.isInvolved := by
  apply withoutParentheses_induction fun node inner => inner.isInvolved = node.isInvolved
  case parenthesized | grouped => exact fun _ _ inside_ => inside_
  case bare => exact fun _ _ => rfl

end Source.Node

namespace TypeRef

/-- A type with a reference is the unit or a path of names, in whatever parentheses, and the text
of the reference is that of this type. -/
theorem shape_of_classify
    {type : Node .type}
    {reference : TypeRef}
    (found : classify type = .ok reference) :
    (∃ trailing, type.withoutParentheses = .tupleType .nil trailing ∧ reference.text = "()")
      ∨ ∃ names, names ≠ [] ∧ type.withoutParentheses = pathOf names
        ∧ reference.text = joinedBy "::" names := by
  cases type with
  | parenthesizedType type =>
      have inside_ := shape_of_classify (show classify type = .ok reference from found)
      exact inside_
  | groupedType type =>
      have inside_ := shape_of_classify (show classify type = .ok reference from found)
      exact inside_
  | tupleType elements trailing =>
      cases elements with
      | nil =>
          cases found
          exact .inl ⟨trailing, rfl, rfl⟩
      | cons => contradiction
  | pathType path =>
      cases path with
      | qualifiedPath => contradiction
      | simplePath leading segments =>
          cases leading with
          | true => contradiction
          | false =>
              obtain ⟨names, areNames, isReference⟩ :=
                Option.bind_eq_some_iff.mp (classify_path_eq_ok_iff.mp found)
              have isPath : segments = .ofList (names.map (.pathSegment · .noArguments)) := by
                rw [← bareNames?_eq_some_iff.mp areNames, Node.ofList_toList]
              rw [isPath]
              obtain ⟨something, spelled⟩ := text_of_ofNames? isReference
              exact .inr ⟨names, something, rfl, spelled⟩
  | _ => contradiction

theorem ofType?_eq_some_iff {type : Node .type} {reference : TypeRef} :
    ofType? type = some reference ↔ classify type = .ok reference := by
  rw [ofType?]
  cases classify type <;> simp [Except.toOption]

/-- The text of the reference to a type that some text spells is read as this type, without the
parentheses around it. -/
theorem exists_isTypeText
    {type : Node .type}
    {reference : TypeRef}
    {text : String}
    (found : ofType? type = some reference)
    (spelled : readTypeText text = some type) :
    type.withoutParentheses.IsSimple
      ∧ ∃ row, IsTypeText 1 reference.text.toList row type.withoutParentheses := by
  have shape := shape_of_classify (ofType?_eq_some_iff.mp found)
  have notInvolved : type.isInvolved = false := by
    rw [← Node.isInvolved_withoutParentheses]
    rcases shape with ⟨trailing, isUnit, -⟩ | ⟨names, -, isPath, -⟩
    · rw [isUnit]
      rfl
    · rw [isPath, isInvolved_pathOf]
  have simple := isSimple_of_readTypeText spelled notInvolved
  refine ⟨simple, ?_⟩
  rcases shape with ⟨trailing, isUnit, sameText⟩ | ⟨names, -, isPath, sameText⟩
  · rcases simple with same | ⟨others, -, same⟩
    · rw [sameText, same]
      exact exists_isTypeText_unit
    · rw [isUnit] at same
      cases same
  · rcases simple with same | ⟨others, isTypePath, same⟩
    · rw [isPath] at same
      cases same
    · rw [isPath] at same
      rw [sameText, isPath]
      rw [← pathOf_injective same] at isTypePath
      exact exists_isTypeText_path isTypePath

end TypeRef

/-! ### Values -/

namespace Source.Node

/-- A type up to redundant parentheses, around it and around the elements of a tuple. -/
def plain (type : Node .type) : Node .type :=
  match type.withoutParentheses with
  | .tupleType elements _ => .tupleType (.ofList (elements.toList.map withoutParentheses)) false
  | other => other

theorem IsSimple.plain_eq {type : Node .type} (simple : type.withoutParentheses.IsSimple) :
    type.plain = type.withoutParentheses := by
  rw [plain]
  rcases simple with same | ⟨names, -, same⟩ <;> rw [same] <;> rfl

theorem plain_withoutParentheses (type : Node .type) : type.withoutParentheses.plain = type.plain := by
  rw [plain, plain, withoutParentheses_withoutParentheses]

end Source.Node

/-- The type of the value of a method with a return type: the first type argument of one for results,
and every other type as it is declared; the unit where none is. -/
def declaredValue : Option (Node .type) → Node .type
  | none => .tupleType .nil false
  | some type =>
      match resultArguments? type with
      | some (value :: _) => value
      | _ => type

theorem ne_nil_of_resultArguments?
    {type : Node .type}
    {types : List (Node .type)}
    (found : resultArguments? type = some types) :
    types ≠ [] := by
  rintro rfl
  unfold resultArguments? at found
  split at found
  · split at found
    · dsimp only at found
      split at found
      · next length =>
          rw [Option.some.inj found] at length
          revert length
          decide
      · cases found
    · cases found
  · cases found

/-- Is the declared return type a tuple? -/
def declaresTuple (output : Option (Node .type)) : Prop :=
  ∃ elements trailing, output = some (.tupleType elements trailing)

/-- A method without a tuple for its return type has no result, or the value is the type of the first
one; where that is not the only one the method is fallible. -/
theorem resultTypes_of_not_declaresTuple
    {output : Option (Node .type)}
    (noTuple : ¬declaresTuple output) :
    output = none
      ∨ ∃ others fallible, resultTypes output = (declaredValue output :: others, fallible)
        ∧ (fallible = true ∨ others = []) := by
  cases output with
  | none => exact .inl rfl
  | some type =>
      right
      unfold declaredValue resultTypes
      dsimp only
      cases isResult : resultArguments? type with
      | some types =>
          obtain ⟨value, others, rfl⟩ := List.exists_cons_of_ne_nil (ne_nil_of_resultArguments? isResult)
          exact ⟨others, true, rfl, .inl rfl⟩
      | none =>
          cases type with
          | tupleType elements trailing => exact absurd ⟨elements, trailing, rfl⟩ noTuple
          | _ => exact ⟨[], false, rfl, .inr rfl⟩

section

variable
  {types : List (Node .type)}
  {results : List Parameter}

theorem forall₂_isTypeText
    (found : types.map TypeRef.ofType? = results.map (some ∘ Parameter.type))
    (spelled : ∀ type ∈ types, ∃ text, readTypeText text = some type) :
    List.Forall₂ (fun text type => ∃ row, IsTypeText 1 text.toList row type)
      (results.map fun result => result.type.text) (types.map Node.withoutParentheses) := by
  induction types generalizing results with
  | nil =>
      obtain rfl : results = [] := List.map_eq_nil_iff.mp found.symm
      exact .nil
  | cons type types inductionHypothesis =>
      cases results with
      | nil => cases found
      | cons result results =>
          obtain ⟨isType, areTypes⟩ := List.cons.inj found
          obtain ⟨⟨text, spelledFirst⟩, spelledRest⟩ := List.forall_mem_cons.mp spelled
          exact .cons (TypeRef.exists_isTypeText isType spelledFirst).2
            (inductionHypothesis areTypes spelledRest)

end

namespace Method

variable
  {method : Method}
  {types : List (Node .type)}

/-- Without results the text is read as the unit. -/
theorem readTypeText_valueType_unit (noResults : method.results = []) :
    readTypeText method.valueType = some (.tupleType .nil false) := by
  obtain ⟨row, isUnit⟩ := exists_isTypeText_unit
  rw [valueType, noResults]
  exact isUnit.readTypeText_eq (by decide)

/-- The text is read as the type of the first result, where this is the only one or the method is
fallible. -/
theorem readTypeText_valueType_first
    {type : Node .type}
    (found : (type :: types).map TypeRef.ofType? = method.results.map (some ∘ Parameter.type))
    (spelled : ∃ text, readTypeText text = some type)
    (alone : method.fallible = true ∨ types = []) :
    ∃ read, readTypeText method.valueType = some read ∧ read.plain = type.plain
      ∧ type.plain.IsSimple := by
  obtain ⟨result, rest, isResults, isResult, isRest⟩ := List.map_eq_cons_iff.mp found.symm
  have isFirst : method.valueType = result.type.text := by
    rw [valueType, isResults]
    rcases alone with isFallible | rfl
    · rw [isFallible]
    · obtain rfl : rest = [] := List.map_eq_nil_iff.mp isRest
      cases method.fallible <;> rfl
  obtain ⟨text, spelled⟩ := spelled
  obtain ⟨simple, row, isText⟩ := TypeRef.exists_isTypeText isResult.symm spelled
  rw [isFirst]
  refine ⟨_, isText.readTypeText_eq (by decide), type.plain_withoutParentheses, ?_⟩
  rwa [Node.IsSimple.plain_eq simple]

/-- The text is read as the tuple of the types of several results. -/
theorem readTypeText_valueType_tuple
    (found : types.map TypeRef.ofType? = method.results.map (some ∘ Parameter.type))
    (spelled : ∀ type ∈ types, ∃ text, readTypeText text = some type)
    (infallible : method.fallible = false)
    (several : 2 ≤ types.length)
    (trailing : Bool) :
    ∃ read, readTypeText method.valueType = some read
      ∧ read.plain = (Node.tupleType (.ofList types) trailing).plain := by
  have isTuple : method.valueType
      = "(" ++ joinedBy ", " (method.results.map fun result => result.type.text) ++ ")" := by
    have count : types.length = method.results.length := by
      simpa using congrArg List.length found
    rw [count] at several
    rw [valueType, infallible]
    match method.results, several with
    | _ :: _ :: _, _ => rfl
  obtain ⟨row, isText⟩ := exists_isTypeText_tuple (forall₂_isTypeText found spelled)
    (by rwa [List.length_map])
  rw [isTuple]
  refine ⟨_, isText.readTypeText_eq (by decide), ?_⟩
  have twice : Node.withoutParentheses ∘ Node.withoutParentheses
      = (Node.withoutParentheses : Node .type → Node .type) :=
    funext Node.withoutParentheses_withoutParentheses
  simp only [Node.plain, Node.withoutParentheses, Node.toList_ofList, List.map_map, twice]

end Method

/-- A tuple of one element is another type than its element, where that is one that a text names. -/
theorem plain_ne_plain_singleTuple
    {element : Node .type}
    (simple : element.plain.IsSimple)
    (trailing : Bool) :
    element.plain ≠ (Node.tupleType (.cons element .nil) trailing).plain := by
  rcases simple with isUnit | ⟨names, -, isPath⟩
  · rw [isUnit]
    rintro ⟨⟩
  · rw [isPath]
    rintro ⟨⟩

/-- Where the types of the results are spelled by some texts, the text of the type of a method's value
is read as a type. Up to redundant parentheses that is the type of the value that the return type
declares, unless a tuple of one element is declared: of that it is the element. -/
theorem Method.valueType_reads_back_iff
    {interface : String}
    {signature : Node .signature}
    {method : Method}
    (accepted : Method.ofSignature interface signature = .ok method)
    (spelled : ∀ type ∈ (resultTypes signature.output).1, ∃ text, readTypeText text = some type) :
    ∃ read, readTypeText method.valueType = some read
      ∧ (read.plain = (declaredValue signature.output).plain
        ↔ ∀ element trailing, signature.output ≠ some (.tupleType (.cons element .nil) trailing))
      ∧ ∀ element trailing, signature.output = some (.tupleType (.cons element .nil) trailing) →
        read.plain = element.plain := by
  obtain ⟨-, ⟨fail, foundResults⟩, fallible⟩ := parts_of_ofSignature accepted
  have found := map_type_resultsFrom foundResults
  generalize signature.output = output at found spelled fallible ⊢
  by_cases isTuple : declaresTuple output
  · obtain ⟨elements, trailing, rfl⟩ := isTuple
    have types : resultTypes (some (.tupleType elements trailing)) = (elements.toList, false) := rfl
    have value : declaredValue (some (.tupleType elements trailing)) = .tupleType elements trailing := rfl
    rw [types] at found spelled fallible
    rw [value]
    cases elements with
    | nil =>
        refine ⟨_, readTypeText_valueType_unit (List.map_eq_nil_iff.mp found.symm), ?_, ?_⟩
        · simp [Node.plain, Node.withoutParentheses]
        · simp
    | cons first others =>
        cases others with
        | nil =>
            -- The list of the result types does not tell this tuple from its element.
            obtain ⟨read, reads, same, simple⟩ :=
              readTypeText_valueType_first found (spelled _ List.mem_cons_self) (.inr rfl)
            refine ⟨read, reads, ?_, ?_⟩
            · rw [same]
              exact iff_of_false (plain_ne_plain_singleTuple simple trailing)
                fun free => free first trailing rfl
            · rintro element _ ⟨⟩
              exact same
        | cons second others =>
            obtain ⟨read, reads, same⟩ := readTypeText_valueType_tuple found spelled fallible
              (show 2 ≤ others.toList.length + 1 + 1 by omega) trailing
            rw [Node.ofList_toList] at same
            refine ⟨read, reads, ?_, ?_⟩
            · simp [same]
            · simp
  · have notSingle : ∀ element trailing, output ≠ some (.tupleType (.cons element .nil) trailing) :=
      fun element trailing same => isTuple ⟨_, trailing, same⟩
    simp only [ne_eq, notSingle, not_false_eq_true, implies_true, iff_true, false_implies, and_true]
    rcases resultTypes_of_not_declaresTuple isTuple with rfl | ⟨others, isFallible, types, alone⟩
    · exact ⟨_, readTypeText_valueType_unit (List.map_eq_nil_iff.mp found.symm), rfl⟩
    · rw [types] at found spelled fallible
      obtain ⟨read, reads, same, -⟩ :=
        readTypeText_valueType_first found (spelled _ List.mem_cons_self) (by rwa [fallible])
      exact ⟨read, reads, same⟩

/-- The signature `fn f(&self) -> (u8,)`. -/
def singleTupleSignature : Node .signature :=
  .functionSignature ⟨false, false, false, none⟩ "f" (.genericList false .nil false .absent false)
    (.ofList [.selfParameter .nil (some none) false .absent]) false
    (.present (.tupleType (.cons (pathOf ["u8"]) .nil) true))

/-- The type of its value is read as another one than the tuple. -/
theorem Method.valueType_of_single_tuple :
    ∃ method, Method.ofSignature "Calc" singleTupleSignature = .ok method
      ∧ (∀ type ∈ (resultTypes singleTupleSignature.output).1, ∃ text, readTypeText text = some type)
      ∧ ∃ read, readTypeText method.valueType = some read
        ∧ read.plain ≠ (declaredValue singleTupleSignature.output).plain := by
  obtain ⟨method, accepted⟩ : ∃ method, Method.ofSignature "Calc" singleTupleSignature = .ok method :=
    ⟨_, rfl⟩
  have isPath : IsTypePath ["u8"] := ⟨by decide, by decide, by decide, by decide⟩
  have spelled : ∀ type ∈ (resultTypes singleTupleSignature.output).1,
      ∃ text, readTypeText text = some type := by
    obtain ⟨row, isText⟩ := exists_isTypeText_path isPath
    intro type member
    obtain rfl : type = pathOf ["u8"] := List.mem_singleton.mp member
    exact ⟨_, isText.readTypeText_eq (by decide)⟩
  obtain ⟨read, reads, isDeclared, -⟩ := Method.valueType_reads_back_iff accepted spelled
  exact ⟨method, accepted, spelled, read, reads, fun same => isDeclared.mp same _ _ rfl⟩

end Scaffold
