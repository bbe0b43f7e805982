import Scaffold.Proofs.Interface.SignatureText

/-!
Contract: the names of a method as words of its signature.

Owns:
- the words of types, parameters and results in the row of a signature;
- the names of types that are paths of such words;
- the names of the parameters and of the types of a method that is accepted.

Does not own: the text of the signature.
-/

namespace Scaffold

open Source

/-! ### Rows in rows -/

namespace Source

namespace Spelling

theorem subset_separated
    {separator : String}
    {row : List Token}
    {rows : List (List Token)}
    (member : row ∈ rows)
    (trailing : Bool) :
    row ⊆ separated separator rows trailing := by
  rw [separated]
  refine List.subset_append_of_subset_left _ ?_
  induction rows with
  | nil => contradiction
  | cons first rows inductionHypothesis =>
      cases rows with
      | nil =>
          rw [List.mem_singleton.mp member]
          simp
      | cons second rows =>
          rw [List.intersperse_cons_cons, List.flatten_cons, List.flatten_cons]
          rcases List.mem_cons.mp member with rfl | later
          · exact List.subset_append_left _ _
          · exact List.subset_append_of_subset_right _
              (List.subset_append_of_subset_right _ (inductionHypothesis later))

theorem subset_group (delimiter : Delimiter) (row : List Token) : row ⊆ Token.group delimiter row :=
  List.subset_cons_of_subset _ (List.subset_append_left _ _)

/-- A word between separators is one of a row. -/
theorem exists_of_word_mem_separated
    {separator name : String}
    {rows : List (List Token)}
    {trailing : Bool}
    (member : .word name ∈ separated separator rows trailing)
    (marks : .word name ∉ Token.marks separator) :
    ∃ row ∈ rows, .word name ∈ row := by
  rw [separated, List.mem_append] at member
  rcases member with within | atEnd
  · induction rows with
    | nil => contradiction
    | cons first rows inductionHypothesis =>
        cases rows with
        | nil => exact ⟨first, List.mem_cons_self, by simpa using within⟩
        | cons second rows =>
            rw [List.intersperse_cons_cons, List.flatten_cons, List.flatten_cons, List.mem_append,
              List.mem_append] at within
            rcases within with here | isMark | later
            · exact ⟨first, List.mem_cons_self, here⟩
            · contradiction
            · obtain ⟨row, inRows, here⟩ := inductionHypothesis later
              exact ⟨row, List.mem_cons_of_mem _ inRows, here⟩
  · cases trailing with
    | true => contradiction
    | false => contradiction

end Spelling

namespace Node

theorem spell_toList
    {c : Category}
    (full : Bool)
    (nodes : Node (.many c)) :
    (nodes.spell full : List (Spelled c)) = nodes.toList.map (Node.spell full) := by
  cases nodes with
  | nil => rfl
  | cons head tail =>
      show head.spell full :: tail.spell full = head.spell full :: tail.toList.map (Node.spell full)
      rw [spell_toList full tail]

theorem mem_lifetimesFirst
    {c : Category}
    {α : Type}
    {node : Node c}
    {nodes : Node (.many c)}
    (member : node ∈ nodes.toList)
    (row : Node c → α) :
    row node ∈ nodes.lifetimesFirst (nodes.toList.map row) := by
  have marked : (node.isLifetime, row node)
      ∈ (nodes.toList.map isLifetime).zip (nodes.toList.map row) := by
    rw [List.zip_map']
    exact List.mem_map_of_mem member
  rw [lifetimesFirst]
  refine List.mem_map.mpr ⟨(node.isLifetime, row node), List.mem_append.mpr ?_, rfl⟩
  cases lifetime : node.isLifetime with
  | true => exact .inl (List.mem_filter.mpr ⟨lifetime ▸ marked, rfl⟩)
  | false => exact .inr (List.mem_filter.mpr ⟨lifetime ▸ marked, rfl⟩)

end Node

/-! ### Types -/

theorem tokens_simplePath (leading : Bool) (segments : Node (.many .segment)) :
    (Node.pathType (.simplePath leading segments)).tokens
      = Spelling.marksIf leading "::" ++ Spelling.separated "::" (segments.toList.map Node.tokens)
        false := by
  rw [show (segments.toList.map Node.tokens) = segments.spell false from
    (Node.spell_toList false segments).symm]
  rfl

end Source

/-- A type by reference is the unit, or a path of words of a row. -/
def TypeRef.IsWordedBy (row : List Token) (reference : TypeRef) : Prop :=
  reference.text = "()"
    ∨ ∃ names ≠ [], reference.text = joinedBy "::" names ∧ ∀ name ∈ names, .word name ∈ row

namespace TypeRef

theorem IsWordedBy.mono
    {row whole : List Token}
    {reference : TypeRef}
    (worded : reference.IsWordedBy row)
    (within : row ⊆ whole) :
    reference.IsWordedBy whole := by
  refine worded.imp_right ?_
  rintro ⟨names, something, spelled, inRow⟩
  exact ⟨names, something, spelled, fun name member => within (inRow name member)⟩

theorem joinedBy_concat
    {separator : String}
    {front : List String}
    (something : front ≠ [])
    (last : String) :
    joinedBy separator (front ++ [last]) = joinedBy separator front ++ separator ++ last := by
  induction front with
  | nil => contradiction
  | cons first front inductionHypothesis =>
      cases front with
      | nil => simp [joinedBy]
      | cons second front =>
          have below := inductionHypothesis (List.cons_ne_nil _ _)
          simp only [joinedBy, List.cons_append] at below ⊢
          rw [String.intercalate_cons_cons, String.intercalate_cons_cons, below]
          simp [String.append_assoc]

theorem text_of_ofNames?
    {names : List String}
    {reference : TypeRef}
    (found : ofNames? names = some reference) :
    names ≠ [] ∧ reference.text = joinedBy "::" names := by
  unfold ofNames? at found
  split at found
  · contradiction
  · next name same =>
      cases found
      have single : names = [name] := by simpa using congrArg List.reverse same
      rw [single]
      exact ⟨List.cons_ne_nil _ _, by simp [text, joinedBy]⟩
  · next name before noSingle same =>
      cases found
      have split : names = before.reverse ++ [name] := by simpa using congrArg List.reverse same
      have something : before.reverse ≠ [] := by
        intro empty
        exact noSingle (List.reverse_eq_nil_iff.mp empty)
      rw [split]
      exact ⟨by simp, (joinedBy_concat something name).symm⟩

theorem word_mem_of_bareNames?
    {segments : List (Node .segment)}
    {names : List String}
    (found : bareNames? segments = some names) :
    ∀ name ∈ names, ∃ segment ∈ segments, .word name ∈ segment.tokens := by
  induction segments generalizing names with
  | nil =>
      cases found
      simp
  | cons segment segments inductionHypothesis =>
      rw [bareNames?, List.mapM_cons] at found
      obtain ⟨first, isFirst, found⟩ := Option.bind_eq_some_iff.mp found
      obtain ⟨rest, isRest, found⟩ := Option.bind_eq_some_iff.mp found
      cases found
      have below := inductionHypothesis isRest
      intro name member
      rcases List.mem_cons.mp member with rfl | later
      · refine ⟨segment, List.mem_cons_self, ?_⟩
        cases segment with
        | pathSegment name arguments =>
            cases arguments with
            | noArguments =>
                cases isFirst
                exact List.mem_cons_self
            | angleArguments | callArguments => contradiction
      · obtain ⟨other, inSegments, within⟩ := below name later
        exact ⟨other, List.mem_cons_of_mem _ inSegments, within⟩

/-- The reference of a path with no colons in front is that of the names of its segments. -/
theorem classify_path_eq_ok_iff
    {segments : Node (.many .segment)}
    {reference : TypeRef} :
    classify (.pathType (.simplePath false segments)) = .ok reference
      ↔ (bareNames? segments.toList).bind ofNames? = some reference := by
  rw [classify]
  cases (bareNames? segments.toList).bind ofNames? <;> simp

theorem isWordedBy_of_classify
    {type : Node .type}
    {reference : TypeRef}
    (found : classify type = .ok reference) :
    reference.IsWordedBy type.tokens := by
  cases type with
  | parenthesizedType type =>
      exact (isWordedBy_of_classify (show classify type = .ok reference from found)).mono (Spelling.subset_group _ _)
  | groupedType type =>
      have inside_ : reference.IsWordedBy type.tokens := isWordedBy_of_classify found
      exact inside_
  | tupleType elements trailing =>
      cases elements with
      | nil =>
          cases found
          exact .inl rfl
      | cons => contradiction
  | pathType path =>
      cases path with
      | qualifiedPath => contradiction
      | simplePath leading segments =>
          cases leading with
          | true => contradiction
          | false =>
              obtain ⟨names, areNames, isReference⟩ :=
                Option.bind_eq_some_iff.mp (classify_path_eq_ok_iff.mp found)
              obtain ⟨something, spelled⟩ := text_of_ofNames? isReference
              refine .inr ⟨names, something, spelled, fun name member => ?_⟩
              obtain ⟨segment, inSegments, within⟩ := word_mem_of_bareNames? areNames name member
              rw [tokens_simplePath]
              exact Spelling.subset_separated (List.mem_map_of_mem inSegments) false within
  | _ => contradiction

theorem isWordedBy_of_ofType?
    {type : Node .type}
    {reference : TypeRef}
    (found : ofType? type = some reference) :
    reference.IsWordedBy type.tokens := by
  rw [ofType?] at found
  cases classified : classify type with
  | error message =>
      rw [classified] at found
      contradiction
  | ok other =>
      rw [classified] at found
      cases found
      exact isWordedBy_of_classify classified

end TypeRef

/-! ### Parameters -/

theorem mem_parametersFrom
    {fail : TypePosition → String → Failure}
    {number : Nat}
    {declared : List (Node .pattern × Node .type)}
    {parameters : List Parameter}
    (found : parametersFrom fail number declared = .ok parameters) :
    ∀ parameter ∈ parameters, ∃ pattern type, (pattern, type) ∈ declared
      ∧ boundName? pattern = some parameter.name ∧ TypeRef.ofType? type = some parameter.type := by
  induction declared generalizing number parameters with
  | nil =>
      cases found
      simp
  | cons first rest inductionHypothesis =>
      obtain ⟨pattern, type⟩ := first
      rw [parametersFrom] at found
      split at found
      · contradiction
      · next name isName =>
          split at found
          · contradiction
          · next reference isType =>
              obtain ⟨others, foundRest, found⟩ := except_bind_eq_ok.mp found
              cases found
              intro parameter member
              rcases List.mem_cons.mp member with rfl | later
              · exact ⟨pattern, type, List.mem_cons_self, isName, isType⟩
              · obtain ⟨pattern, type, inRest, known⟩ := inductionHypothesis foundRest parameter later
                exact ⟨pattern, type, List.mem_cons_of_mem _ inRest, known⟩

theorem word_mem_of_boundName?
    {pattern : Node .pattern}
    {name : String}
    (found : boundName? pattern = some name) :
    .word name ∈ pattern.tokens := by
  unfold boundName? at found
  split at found
  · next mutable other =>
      cases found
      cases mutable
      · exact List.mem_cons_self
      · exact List.mem_cons_of_mem _ List.mem_cons_self
  · contradiction

/-- The pattern and the type of a typed parameter are part of it. -/
theorem subset_of_mem_typedParameters
    {parameters : List (Node .parameter)}
    {pattern : Node .pattern}
    {type : Node .type}
    (member : (pattern, type) ∈ typedParameters parameters) :
    ∃ parameter ∈ parameters, pattern.tokens ⊆ parameter.tokens ∧ type.tokens ⊆ parameter.tokens := by
  obtain ⟨parameter, inParameters, same⟩ := List.mem_filterMap.mp member
  cases parameter with
  | selfParameter | variadicParameter => contradiction
  | typedParameter attributes other otherType =>
      cases same
      refine ⟨_, inParameters, ?_, List.subset_append_right _ _⟩
      exact List.subset_append_of_subset_left _
        (List.subset_append_of_subset_left _ (List.subset_append_right _ _))

theorem append_splitContext (parameters : List Parameter) :
    (splitContext parameters).1.toList ++ (splitContext parameters).2 = parameters := by
  cases parameters with
  | nil => rfl
  | cons first rest =>
      rw [splitContext]
      split <;> rfl

/-! ### Results -/

/-- The results of a method have the types that are declared, in order. -/
theorem map_type_resultsFrom
    {fail : TypePosition → String → Failure}
    {number : Nat}
    {types : List (Node .type)}
    {results : List Parameter}
    (found : resultsFrom fail number types = .ok results) :
    types.map TypeRef.ofType? = results.map (some ∘ Parameter.type) := by
  induction types generalizing number results with
  | nil =>
      cases found
      rfl
  | cons type rest inductionHypothesis =>
      rw [resultsFrom] at found
      split at found
      · contradiction
      · next reference isType =>
          obtain ⟨others, foundRest, found⟩ := except_bind_eq_ok.mp found
          cases found
          rw [List.map_cons, List.map_cons, isType, inductionHypothesis foundRest]
          rfl

theorem mem_resultsFrom
    {fail : TypePosition → String → Failure}
    {number : Nat}
    {types : List (Node .type)}
    {results : List Parameter}
    (found : resultsFrom fail number types = .ok results) :
    ∀ result ∈ results, ∃ type ∈ types, TypeRef.ofType? type = some result.type := by
  intro result member
  have inTypes : some result.type ∈ types.map TypeRef.ofType? := by
    rw [map_type_resultsFrom found]
    exact List.mem_map_of_mem member
  exact List.mem_map.mp inTypes

theorem mem_of_mem_typeArguments
    {arguments : List (Node .argument)}
    {type : Node .type}
    (member : type ∈ typeArguments arguments) :
    .typeArgument type ∈ arguments := by
  obtain ⟨argument, inArguments, same⟩ := List.mem_filterMap.mp member
  cases argument with
  | typeArgument => cases same; exact inArguments
  | lifetimeArgument | constArgument | typeBinding | constBinding | boundConstraint => contradiction

/-- The arguments of a segment are part of it. -/
theorem subset_of_mem_arguments
    {name : String}
    {turbofish trailing : Bool}
    {arguments : Node (.many .argument)}
    {argument : Node .argument}
    (member : argument ∈ arguments.toList) :
    argument.tokens ⊆ (Node.pathSegment name (.angleArguments turbofish arguments trailing)).tokens := by
  have spelled : (Node.pathSegment name (.angleArguments turbofish arguments trailing)).tokens
      = Spelling.word name ++ (Spelling.marksIf turbofish "::"
        ++ Spelling.angled (Spelling.lifetimesLed false arguments (arguments.spell false) trailing)) :=
    rfl
  have inOrder := Node.mem_lifetimesFirst member Node.tokens
  rw [show arguments.toList.map Node.tokens = arguments.spell false from
    (Node.spell_toList false arguments).symm] at inOrder
  rw [spelled]
  refine List.subset_append_of_subset_right _ (List.subset_append_of_subset_right _ ?_)
  rw [Spelling.angled, Spelling.lifetimesLed, if_neg Bool.false_ne_true]
  exact List.subset_append_of_subset_left _ (List.subset_append_of_subset_right _
    (Spelling.subset_separated inOrder _))

theorem subset_of_mem_resultArguments?
    {output type : Node .type}
    {types : List (Node .type)}
    (found : resultArguments? output = some types)
    (member : type ∈ types) :
    type.tokens ⊆ output.tokens := by
  unfold resultArguments? at found
  split at found
  · next leading segments =>
      split at found
      · next turbofish arguments trailing before same =>
          obtain ⟨-, same'⟩ := Option.ite_none_right_eq_some.mp found
          cases same'
          have last : .pathSegment "Result" (.angleArguments turbofish arguments trailing)
              ∈ segments.toList := by
            rw [← List.mem_reverse, same]
            exact List.mem_cons_self
          have inArguments := mem_of_mem_typeArguments member
          have within : type.tokens
              ⊆ (Node.pathSegment "Result" (.angleArguments turbofish arguments trailing)).tokens :=
            subset_of_mem_arguments inArguments
          rw [tokens_simplePath]
          exact List.subset_append_of_subset_right _
            (List.Subset.trans within (Spelling.subset_separated (List.mem_map_of_mem last) false))
      · contradiction
  · contradiction

/-- The types of the results are part of the return type. -/
theorem subset_of_mem_resultTypes
    {output : Option (Node .type)}
    {type : Node .type}
    (member : type ∈ (resultTypes output).1) :
    ∃ declared ∈ output, type.tokens ⊆ declared.tokens := by
  unfold resultTypes at member
  split at member
  · contradiction
  · next declared =>
      refine ⟨declared, rfl, ?_⟩
      split at member
      · next found => exact subset_of_mem_resultArguments? found member
      · split at member
        · next elements trailing _ =>
            have inElements : type.tokens ∈ (elements.spell false : List (List Token)) := by
              rw [Node.spell_toList]
              exact List.mem_map_of_mem (f := Node.tokens) member
            exact List.Subset.trans (Spelling.subset_separated inElements trailing)
              (Spelling.subset_group _ _)
        · rw [List.mem_singleton.mp member]
          exact List.Subset.refl _

/-! ### Signatures -/

namespace Source.Node

section

variable
  (head : FunctionHead)
  (name : String)
  (generics : Node .generics)
  (parameters : List (Node .parameter))
  (trailing : Bool)
  (output : Node (.maybe .type))

theorem tokens_signature :
    (functionSignature head name generics (.ofList parameters) trailing output).tokens
      = head.tokens ++ .word name :: (generics.tokens.1 ++ .opening .parenthesis
        :: (Spelling.commaSeparated (parameters.map Node.tokens) trailing ++ .closing .parenthesis
          :: (Spelling.output (output.toOption.map Node.tokens) ++ generics.tokens.2))) := by
  have spelled := tokens_signature_append head name generics parameters trailing output []
  rwa [List.append_nil, List.append_nil] at spelled

theorem name_mem_signature :
    .word name ∈ (functionSignature head name generics (.ofList parameters) trailing output).tokens := by
  rw [tokens_signature]
  exact List.mem_append_right _ List.mem_cons_self

theorem parameter_subset_signature
    {parameter : Node .parameter}
    (member : parameter ∈ parameters) :
    parameter.tokens
      ⊆ (functionSignature head name generics (.ofList parameters) trailing output).tokens := by
  intro token inParameter
  rw [tokens_signature]
  have inList : token ∈ Spelling.commaSeparated (parameters.map Node.tokens) trailing :=
    Spelling.subset_separated (List.mem_map_of_mem member) trailing inParameter
  simp [inList]

theorem output_subset_signature
    {type : Node .type}
    (isOutput : type ∈ output.toOption) :
    type.tokens
      ⊆ (functionSignature head name generics (.ofList parameters) trailing output).tokens := by
  intro token inType
  rw [tokens_signature, Option.mem_def.mp isOutput]
  simp [Spelling.output, Spelling.led, inType]

end

/-- The words of a signature: those of its parts, and keywords. -/
theorem of_word_mem_signature
    {head : FunctionHead}
    {name word : String}
    {generics : Node .generics}
    {parameters : List (Node .parameter)}
    {trailing : Bool}
    {output : Node (.maybe .type)}
    (member : .word word
      ∈ (functionSignature head name generics (.ofList parameters) trailing output).tokens) :
    .word word ∈ head.tokens ∨ word = name ∨ .word word ∈ generics.tokens.1
      ∨ (∃ parameter ∈ parameters, .word word ∈ parameter.tokens)
      ∨ (∃ type ∈ output.toOption, .word word ∈ type.tokens) ∨ .word word ∈ generics.tokens.2 := by
  have comma : .word word ∉ Token.marks "," := by simp [Token.marks, Token.marksOf]
  rw [tokens_signature] at member
  simp only [List.mem_append, List.mem_cons, Token.word.injEq, reduceCtorEq, false_or] at member
  rcases member with inHead | isName | inLead | inList | inOutput | inConditions
  · exact .inl inHead
  · exact .inr (.inl isName)
  · exact .inr (.inr (.inl inLead))
  · obtain ⟨row, inRows, within⟩ := Spelling.exists_of_word_mem_separated inList comma
    obtain ⟨parameter, inParameters, rfl⟩ := List.mem_map.mp inRows
    exact .inr (.inr (.inr (.inl ⟨parameter, inParameters, within⟩)))
  · cases isType : output.toOption with
    | none =>
        rw [isType] at inOutput
        contradiction
    | some type =>
        rw [isType] at inOutput
        have within : .word word ∈ type.tokens := by
          simpa [Spelling.output, Spelling.led, Token.marks, Token.marksOf] using inOutput
        exact .inr (.inr (.inr (.inr (.inl ⟨type, rfl, within⟩))))
  · exact .inr (.inr (.inr (.inr (.inr inConditions))))

theorem word_mem_plain
    {isAsync : Bool}
    {word : String}
    (member : .word word ∈ (FunctionHead.plain isAsync).tokens) :
    word = "async" ∨ word = "fn" := by
  cases isAsync with
  | false => exact .inr (Token.word.inj (List.mem_singleton.mp member))
  | true =>
      rcases List.mem_cons.mp member with same | later
      · exact .inl (Token.word.inj same)
      · exact .inr (Token.word.inj (List.mem_singleton.mp later))

/-- The words that a signature states are words of it, or `async` or `fn`. -/
theorem word_mem_of_mem_stated
    {signature : Node .signature}
    {word : String}
    (member : .word word ∈ signature.named.stated.tokens) :
    word = "async" ∨ word = "fn" ∨ .word word ∈ signature.named.tokens := by
  cases signature with
  | functionSignature head name generics parameters trailing output =>
      rw [named, stated_functionSignature] at member
      rw [named, tokens_signature]
      rcases of_word_mem_signature member with
        inHead | isName | inLead | ⟨parameter, stays, within⟩ | ⟨type, isType, within⟩ | inConditions
      · exact (word_mem_plain inHead).imp_right .inl
      · simp [isName]
      · simp [inLead]
      · have inParameters := List.mem_of_mem_filter stays
        rw [← tokens_signature]
        exact .inr (.inr (parameter_subset_signature _ _ _ _ _ _ inParameters within))
      · rw [← tokens_signature]
        exact .inr (.inr (output_subset_signature _ _ _ _ _ _ isType within))
      · simp [inConditions]

theorem isWord_of_mem_head
    {head : FunctionHead}
    {word : String}
    (member : .word word ∈ head.tokens) :
    Scan.isWord word = true := by
  have keywords : ∀ keyword ∈ ["const", "async", "unsafe", "extern", "fn"],
      Scan.isWord keyword = true := by
    decide
  apply keywords
  obtain ⟨isConst, isAsync, isUnchecked, convention⟩ := head
  have inConvention : .word word ∈ Convention.tokens convention → word = "extern" := by
    rcases convention with _ | _ | _ <;> simp [Convention.tokens, Spelling.word]
  simp only [FunctionHead.tokens, Spelling.wordIf, Spelling.word, List.mem_append] at member
  grind

/-- The words of a legible signature. -/
theorem isWord_of_mem_named
    {signature : Node .signature}
    {word : String}
    (legible : signature.named.IsLegible)
    (member : .word word ∈ signature.named.tokens) :
    Scan.isWord word = true := by
  cases signature with
  | functionSignature head name generics parameters trailing output =>
      obtain ⟨isName, lead, conditions, inputs, outputs⟩ := legible
      rw [toList_ofList] at inputs
      rcases of_word_mem_signature member with
        inHead | rfl | inLead | ⟨parameter, isInput, within⟩ | ⟨type, isType, within⟩ | inConditions
      · exact isWord_of_mem_head inHead
      · exact isName
      · exact lead.isRow.spelled _ inLead
      · exact (inputs parameter isInput).isRow.spelled _ within
      · exact (outputs type isType).isRow.spelled _ within
      · exact conditions.isRow.spelled _ inConditions

end Source.Node

/-- The name of a method, the names of its parameters and those of its types are words of the
signature that declares it. -/
theorem Method.names_of_ofSignature
    {interface : String}
    {signature : Node .signature}
    {method : Method}
    (accepted : Method.ofSignature interface signature = .ok method) :
    .word method.name ∈ signature.named.tokens
      ∧ (∀ parameter ∈ method.forwarded, .word parameter.name ∈ signature.named.tokens
        ∧ parameter.type.IsWordedBy signature.named.tokens)
      ∧ ∀ result ∈ method.results, result.type.IsWordedBy signature.named.tokens := by
  cases signature with
  | functionSignature head name generics parameters trailing output =>
      obtain ⟨all, foundAll, accepted⟩ := except_bind_eq_ok.mp accepted
      obtain ⟨results, foundResults, accepted⟩ := except_bind_eq_ok.mp accepted
      cases accepted
      refine ⟨Node.name_mem_signature .., ?_, ?_⟩
      · intro parameter member
        have inAll : parameter ∈ all := append_splitContext all ▸ member
        obtain ⟨pattern, type, declared, isName, isType⟩ :=
          mem_parametersFrom foundAll parameter inAll
        obtain ⟨whole, inParameters, patternWithin, typeWithin⟩ := subset_of_mem_typedParameters declared
        have within := Node.parameter_subset_signature head name generics
          (nameWildcards 0 parameters.toList) trailing output inParameters
        exact ⟨within (patternWithin (word_mem_of_boundName? isName)),
          (TypeRef.isWordedBy_of_ofType? isType).mono (List.Subset.trans typeWithin within)⟩
      · intro result member
        obtain ⟨type, inTypes, isType⟩ := mem_resultsFrom foundResults result member
        obtain ⟨declared, isOutput, within⟩ := subset_of_mem_resultTypes inTypes
        exact (TypeRef.isWordedBy_of_ofType? isType).mono
          (List.Subset.trans within
            (Node.output_subset_signature head name generics _ trailing output isOutput))

end Scaffold
