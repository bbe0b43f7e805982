import Scaffold.Proofs.Artifact.Mirror

/-!
Contract: what the file of the endpoints of a service declares.

Owns:
- the endpoint of a method, with the names of its inputs;
- the two envelopes of a method, with their fields;
- that the lines of the file are read as just these declarations.

Does not own: what the endpoints answer.
-/

namespace Scaffold

open Source Source.Scan Artifact

/-! ### Heads with inputs -/

/-- The name of a function with inputs. -/
def endpointName (endpoint : Routine × List String) : String :=
  endpoint.1.name

/-- A row that no entry ends in, and that declares a function with inputs of these names. -/
structure IsInputHead
    (routine : Routine)
    (names : List String)
    (head : List Token) : Prop where
  flat : IsFlat ';' head
  reads : endpoint? head = some (routine, names)
  declares : declaredAhead (Token.surface 0 head) = some ⟨"fn", routine.name⟩

theorem IsInputHead.memberRead?
    {routine : Routine}
    {names : List String}
    {head : List Token}
    (isHead : IsInputHead routine names head)
    (body : Option (List Token)) :
    RowEntry.memberRead? endpoint? ⟨head, body⟩ = some (memberOf endpointName (routine, names)) := by
  rw [RowEntry.memberRead?, RowEntry.function?, RowEntry.declared?, isHead.reads, isHead.declares]
  rfl

/-- A head with its inputs in parentheses: some in front of commas, and the last. -/
theorem isInputHead_of_lists
    {routine : Routine}
    {names : List String}
    {name : String}
    {front listed last rear : List Token}
    (flatFront : IsFlat ';' front)
    (flatRear : IsFlat ';' rear)
    (isRoutine : ∀ rest, endpoint? (front ++ .opening .parenthesis :: rest)
      = some (routine, inputs (.opening .parenthesis :: rest)))
    (declares : ∀ rest, declaredAhead (Token.surface 0 (front ++ rest)) = some ⟨"fn", routine.name⟩)
    (lists : Enlists ',' (fun entry => inputName? entry.head) names listed)
    (flat : IsFlat ',' last)
    (isLast : inputName? last = some name) :
    IsInputHead routine (names ++ [name])
      (front ++ .opening .parenthesis :: (listed ++ last ++ .closing .parenthesis :: rear)) := by
  have balanced : Token.openBehind [] (listed ++ last) = some [] := by
    rw [Token.openBehind_append, lists.balanced, Option.bind_some, flat.balanced]
  refine ⟨?_, ?_, declares _⟩
  · have group : IsFlat ';' (.opening .parenthesis :: (listed ++ last ++ [.closing .parenthesis])) :=
      IsFlat.group (by decide) balanced
    simpa using flatFront.append (group.append flatRear)
  · have something : last ≠ [] := by
      rintro rfl
      contradiction
    rw [isRoutine, inputs_group balanced, lists.filterMap_entries_append flat something]
    simp only [isLast, Option.toList_some]

/-- The head of an endpoint that takes a context. -/
theorem isInputHead_context
    {name context request requestType responseType text : String}
    {middle : List Token}
    (isType : IsTyped text middle) :
    IsInputHead ⟨true, name⟩ [context, request]
      ([.word "pub", .word "async", .word "fn", .word name, .opening .parenthesis, .mark '&' .alone,
        .word "self", .mark ',' .alone, .word context, .mark ':' .alone] ++ middle
        ++ [.mark ',' .alone, .word request, .mark ':' .alone, .word requestType,
          .closing .parenthesis, .mark '-' .alone, .mark '>' .alone, .word responseType]) := by
  have receiver : Enlists ',' (fun entry => inputName? entry.head) []
      [.mark '&' .alone, .word "self", .mark ',' .alone] := ⟨rfl, rfl, rfl⟩
  have flat : IsFlat ',' ([.word context, .mark ':' .alone] ++ middle) := IsFlat.append rfl (isType.flat ',' (by decide))
  have first : Enlists ',' (fun entry => inputName? entry.head) [context]
      ([.word context, .mark ':' .alone] ++ middle ++ [.mark ',' .alone]) := Enlists.separated flat .alone
  have flatFront : IsFlat ';' [.word "pub", .word "async", .word "fn", .word name] := rfl
  have flatRear : IsFlat ';' [.mark '-' .alone, .mark '>' .alone, .word responseType] := rfl
  have flatLast : IsFlat ',' [.word request, .mark ':' .alone, .word requestType] := rfl
  have head : IsInputHead ⟨true, name⟩ _ _ :=
    isInputHead_of_lists flatFront flatRear (fun _ => rfl) (fun _ => rfl) (receiver.append first) flatLast rfl
  simpa using head

/-! ### Endpoints -/

theorem Method.requestName_cases (method : Method) :
    method.requestName = "_request" ∨ method.requestName = "request" := by
  rw [requestName]
  split
  · exact .inl rfl
  · exact .inr rfl

/-- The line that begins the endpoint of a method without a context. -/
theorem opens_alone
    {name requestType responseType : String}
    (isName : Glyph.IsSound (.name name))
    (isRequest : Glyph.IsSound (.name requestType))
    (isResponse : Glyph.IsSound (.name responseType))
    {request : String}
    (named : request = "_request" ∨ request = "request") :
    Line.Reads (Opens (IsInputHead ⟨true, name⟩ [request]))
      [.fixed "pub async fn ", .name name, .fixed "(&self, ", .fixed request, .fixed ": ",
        .name requestType, .fixed ") -> ", .name responseType, .fixed " \x7b"] := by
  have opens : Line.Reads
      (Opens (· = [.word "pub", .word "async", .word "fn", .word name, .opening .parenthesis,
        .mark '&' .alone, .word "self", .mark ',' .alone, .word request, .mark ':' .alone,
        .word requestType, .closing .parenthesis, .mark '-' .alone, .mark '>' .alone,
        .word responseType]))
      [.fixed "pub async fn ", .name name, .fixed "(&self, ", .fixed request, .fixed ": ",
        .name requestType, .fixed ") -> ", .name responseType, .fixed " \x7b"] := by
    rcases named with rfl | rfl
    all_goals
      apply Line.Shows.opens
      · repeat' first | with_reducible constructor | with_reducible assumption
      · rfl
  refine opens.mono ?_
  rintro _ ⟨_, rfl, rfl⟩
  exact ⟨_, ⟨by cbv, by cbv, by cbv⟩, rfl⟩

/-- The line that begins the endpoint of a method with a context. -/
theorem opens_context
    {name context type requestType responseType : String}
    (isName : Glyph.IsSound (.name name))
    (isContext : Glyph.IsSound (.name context))
    (isType : Glyph.IsSound (.code type))
    (isRequest : Glyph.IsSound (.name requestType))
    (isResponse : Glyph.IsSound (.name responseType))
    (typed : IsRead (IsTyped type) type)
    {request : String}
    (named : request = "_request" ∨ request = "request") :
    Line.Reads (Opens (IsInputHead ⟨true, name⟩ [context, request]))
      [.fixed "pub async fn ", .name name, .fixed "(&self, ", .name context, .fixed ": ", .code type,
        .fixed ", ", .fixed request, .fixed ": ", .name requestType, .fixed ") -> ",
        .name responseType, .fixed " \x7b"] := by
  have opens : Line.Reads
      (Opens fun head => ∃ middle, IsTyped type middle
        ∧ head = ([.word "pub", .word "async", .word "fn", .word name, .opening .parenthesis,
            .mark '&' .alone, .word "self", .mark ',' .alone, .word context, .mark ':' .alone]
            : List Token)
          ++ middle ++ ([.mark ',' .alone, .word request, .mark ':' .alone, .word requestType,
            .closing .parenthesis, .mark '-' .alone, .mark '>' .alone, .word responseType]
            : List Token))
      [.fixed "pub async fn ", .name name, .fixed "(&self, ", .name context, .fixed ": ", .code type,
        .fixed ", ", .fixed request, .fixed ": ", .name requestType, .fixed ") -> ",
        .name responseType, .fixed " \x7b"] := by
    rcases named with rfl | rfl
    all_goals
      apply typed.opens
      · repeat' first | with_reducible constructor | with_reducible assumption
      · rfl
      · decide
  refine opens.mono ?_
  rintro _ ⟨_, ⟨middle, isTyped, rfl⟩, rfl⟩
  exact ⟨_, isInputHead_context isTyped, rfl⟩

/-- The endpoint of a method takes its context, if it has one, and the request. -/
theorem endpoint_listing
    {service : Service}
    {method : Method}
    (readable : method.IsReadable)
    (sound : method.IsSound service) :
    Listing ';' (RowEntry.memberRead? endpoint?) [memberOf endpointName (Service.endpointOutline method)]
      (Template.endpoint service method) := by
  have answer : Reads (fun row => Token.openBehind [] row = some [])
      ([Template.endpointAnswer service method].flatMap Code.lines) := by
    have comply : Comply (fun _ => True) [] [] [] (Template.endpointAnswer service method).lines :=
      Template.endpointAnswer_comply (fun _ _ => trivial) sound []
    simpa using comply.reads
  obtain ⟨name, -, requestType, responseType, -, -, -, -, -, -, -, parameters⟩ := sound
  have gap : Reads (· = []) ([(.line "" : Code)].flatMap Code.lines) := .line (.fixed .nil) rfl
  have named := method.requestName_cases
  have known (routine : Routine) (names : List String) (lead head inner : List Token)
      (isLead : lead = [])
      (isHead : IsInputHead routine names head)
      (isBalanced : Token.openBehind [] inner = some []) :
      IsFlat ';' (lead ++ head) ∧ Token.openBehind [] inner = some []
        ∧ (RowEntry.memberRead? endpoint? ⟨lead ++ head, some inner⟩).toList
          = [memberOf endpointName (routine, names)] := by
    rw [isLead, List.nil_append, isHead.memberRead?]
    exact ⟨isHead.flat, isBalanced, rfl⟩
  unfold Template.endpoint Service.endpointOutline
  rw [← Method.requestName]
  cases given : method.context with
  | none =>
      exact Listing.block gap
        (Reads.nest (opens_alone name requestType responseType named) answer) (known _ _)
  | some context =>
      have forwarded : context ∈ method.forwarded := by simp [Method.forwarded, given]
      obtain ⟨contextName, contextType⟩ := parameters context forwarded
      have typed := readable.parameters context forwarded
      exact Listing.block gap
        (Reads.nest (opens_context name contextName contextType requestType responseType typed named)
          answer) (known _ _)

/-! ### Envelopes -/

section Envelopes

variable {name methodName requestType responseType value : String}

/-- A field with the type of an argument. -/
theorem argument_listing
    {argument : Parameter}
    (name : Glyph.IsSound (.name argument.name))
    (type : Glyph.IsSound (.code argument.type.text))
    (typed : IsRead (IsTyped argument.type.text) argument.type.text) :
    Reads (BeginsField [(argument.name, argument.type.text)])
      ([Code.line ["pub ", .name argument.name, ": ", .code argument.type.text, ","]].flatMap
        Code.lines) := by
  have line : Line.Shows ["pub ", .name argument.name, ": ", .code argument.type.text, ","]
      ([.known 'p', .known 'u', .known 'b', .known ' ', .name argument.name, .known ':', .known ' ',
        .code argument.type.text, .known ',']) :=
    .fixed (.name name (.fixed (.code type (.fixed .nil))))
  have cut : Glyph.around? [.known 'p', .known 'u', .known 'b', .known ' ', .name argument.name,
        .known ':', .known ' ', .code argument.type.text, .known ',']
      = some ([.word "pub", .word argument.name, .mark ':' .alone], argument.type.text, [.known ','],
        [.mark ',' .alone]) := by
    rfl
  refine (Reads.single (typed.inLine line cut (by decide))).mono ?_
  rintro _ ⟨middle, isType, rfl⟩
  let front : List Token := [.word "pub", .word argument.name, .mark ':' .alone]
  have flat : IsFlat ',' (front ++ middle) := IsFlat.append rfl (isType.flat ',' (by decide))
  have lists : Enlists ',' (fun entry => publicField? entry.head) _ _ := Enlists.separated flat .alone
  have field : publicField? (front ++ middle)
      = some (argument.name, String.join (middle.map Token.spelled)) := rfl
  have flatEntry : IsFlat ';' (front ++ middle ++ [.mark ',' .alone]) :=
    (IsFlat.append (by rfl) (isType.flat ';' (by decide))).append rfl
  rw [field, isType.spelled] at lists
  exact ⟨⟨lists, flatEntry⟩, .inr ⟨_, _, _, rfl⟩⟩

/-- The structure of a request. -/
theorem request_listing
    {arguments : List Parameter}
    (isName : Glyph.IsSound (.name name))
    (isMethod : Glyph.IsSound (.name methodName))
    (isRequest : Glyph.IsSound (.name requestType))
    (sound : ∀ argument ∈ arguments,
      Glyph.IsSound (.name argument.name) ∧ Glyph.IsSound (.code argument.type.text))
    (typed : ∀ argument ∈ arguments, IsRead (IsTyped argument.type.text) argument.type.text) :
    Listing ';' (RowEntry.survey? endpoint?)
      [Outline.survey endpointName
        (.struct requestType (arguments.map fun argument => (argument.name, argument.type.text)))]
      ["",
       .line ["/// Request parameters for [`", .name name, "::", .name methodName, "`]."],
       "#[derive(Debug, Clone, Serialize, Deserialize)]",
       .nest ["pub struct ", .name requestType, " \x7b"]
         [.each arguments fun argument =>
            [.line ["pub ", .name argument.name, ": ", .code argument.type.text, ","]]]
         "\x7d"] := by
  have fields := (Reads.each .nil .append fun argument member => argument_listing
    (sound argument member).1 (sound argument member).2 (typed argument member)).mono
      fun _ => BeginsField.holds
  rw [← List.map_eq_flatMap] at fields
  have opens : Line.Reads (Opens (· = [.word "pub", .word "struct", .word requestType]))
      ["pub struct ", .name requestType, " \x7b"] :=
    Line.Shows.opens (.fixed (.name isRequest (.fixed .nil))) (by rfl)
  show Listing _ _ _ ([_, _, _] ++ [_])
  apply Listing.struct
  case blocks => exact Reads.nest opens fields
  case leads => repeat' first | with_reducible constructor | with_reducible assumption | rfl
  case flat => rfl
  case isStruct => cbv
  case declares => cbv

/-- The attribute of a field that may be left out. -/
def optionalTokens : List Token :=
  [.mark '#' .alone, .opening .bracket, .word "serde", .opening .parenthesis, .word "default",
    .mark ',' .alone, .word "skip_serializing_if", .mark '=' .alone, .literal "",
    .closing .parenthesis, .closing .bracket]

/-- A field with the type of a value. -/
theorem value_listing
    (isValue : Glyph.IsSound (.code value))
    (typed : IsRead (IsTyped value) value) :
    Reads (ListsFields [("result", "Option<" ++ value ++ ">")])
      ([("#[serde(default, skip_serializing_if = \"Option::is_none\")]" : Code),
        .line ["pub result: Option<", .code value, ">,"]].flatMap Code.lines) := by
  have attributed : Reads (· = optionalTokens)
      [["#[serde(default, skip_serializing_if = \"Option::is_none\")]"]] :=
    Reads.line (.fixed .nil) (by rfl)
  have field : Line.Reads (fun row => ∃ middle, IsTyped value middle
      ∧ row = ([.word "pub", .word "result", .mark ':' .alone, .word "Option", .mark '<' .alone]
          : List Token)
        ++ middle ++ ([.mark '>' .alone, .mark ',' .alone] : List Token))
      ["pub result: Option<", .code value, ">,"] :=
    typed.inLine (.fixed (.code isValue (.fixed .nil))) (by rfl) (by decide)
  refine attributed.append fun _ same => (Reads.single field).mono ?_
  rintro _ ⟨middle, isType, rfl⟩
  let front : List Token := optionalTokens.append
    [.word "pub", .word "result", .mark ':' .alone, .word "Option", .mark '<' .alone]
  have flat : IsFlat ',' (front ++ (middle ++ [.mark '>' .alone])) :=
    IsFlat.append (by decide) ((isType.flat ',' (by decide)).append rfl)
  have named : publicField? (front ++ (middle ++ [.mark '>' .alone]))
      = some ("result", "Option<" ++ value ++ ">") := by
    have found : publicField? (front ++ (middle ++ [.mark '>' .alone]))
      = some ("result", String.join ((.word "Option" :: .mark '<' .alone
        :: (middle ++ [.mark '>' .alone])).map Token.spelled)) := rfl
    rw [found]
    simp [String.join_cons, String.join_append, isType.spelled, Token.spelled, ← String.append_assoc]
  have lists : Enlists ',' (fun entry => publicField? entry.head) _ _ := Enlists.separated flat .alone
  have flatEntry : IsFlat ';' (front ++ (middle ++ [.mark '>' .alone]) ++ [.mark ',' .alone]) :=
    IsFlat.append (IsFlat.append (by decide) ((isType.flat ';' (by decide)).append (by rfl))) (by rfl)
  rw [named] at lists
  have field : ListsFields _ _ := ⟨lists, flatEntry⟩
  simpa [same, front] using field

/-- The structure of a response. -/
theorem response_listing
    (isName : Glyph.IsSound (.name name))
    (isMethod : Glyph.IsSound (.name methodName))
    (isResponse : Glyph.IsSound (.name responseType))
    (isValue : Glyph.IsSound (.code value))
    (typed : IsRead (IsTyped value) value) :
    Listing ';' (RowEntry.survey? endpoint?)
      [Outline.survey endpointName (.struct responseType
        [("success", "bool"), ("result", "Option<" ++ value ++ ">"), ("error", "Option<String>")])]
      ["",
       .line ["/// Response envelope for [`", .name name, "::", .name methodName, "`]."],
       "#[derive(Debug, Clone, Serialize, Deserialize)]",
       .block ["pub struct ", .name responseType]
         ["pub success: bool,",
          "#[serde(default, skip_serializing_if = \"Option::is_none\")]",
          .line ["pub result: Option<", .code value, ">,"],
          "#[serde(default, skip_serializing_if = \"Option::is_none\")]",
          "pub error: Option<String>,"]] := by
  have success : Reads (BeginsField [("success", "bool")])
      ([("pub success: bool," : Code)].flatMap Code.lines) := by
    refine (Reads.line (.fixed .nil) (by rfl)).mono ?_
    rintro _ rfl
    exact ⟨⟨⟨by cbv, by cbv, by cbv⟩, by cbv⟩, .inr ⟨_, _, _, rfl⟩⟩
  have error : Reads (ListsFields [("error", "Option<String>")])
      ([("#[serde(default, skip_serializing_if = \"Option::is_none\")]" : Code),
        "pub error: Option<String>,"].flatMap Code.lines) := by
    have known : Sketched _ [("#[serde(default, skip_serializing_if = \"Option::is_none\")]" : Code),
        "pub error: Option<String>,"] :=
      .line (.fixed .nil) (by rfl) (.line (.fixed .nil) (by rfl) .nil)
    refine known.reads.mono ?_
    rintro _ rfl
    exact ⟨⟨by cbv, by cbv, by cbv⟩, by cbv⟩
  have fields := (success.append fun _ first => (value_listing isValue typed).append fun _ second =>
    error.mono fun _ third =>
      first.append_fields (List.cons_ne_nil _ _) (second.append third)).mono fun _ => BeginsField.holds
  have opens : Line.Reads (Opens (· = [.word "pub", .word "struct", .word responseType]))
      ["pub struct ", .name responseType, " \x7b"] :=
    Line.Shows.opens (.fixed (.name isResponse (.fixed .nil))) (by rfl)
  show Listing _ _ _ ([_, _, _] ++ [_])
  apply Listing.struct
  case blocks => exact Reads.nest opens fields
  case leads => repeat' first | with_reducible constructor | with_reducible assumption | rfl
  case flat => rfl
  case isStruct => cbv
  case declares => cbv

/-- The constructor of a response of a success. -/
theorem success_listing
    (isValue : Glyph.IsSound (.code value))
    (typed : IsRead (IsTyped value) value) :
    Listing ';' (RowEntry.memberRead? endpoint?) [memberOf endpointName (⟨false, "success"⟩, ["result"])]
      [.block ["pub fn success(result: ", .code value, ") -> Self"]
         [.block "Self"
            ["success: true,",
             "result: Some(result),",
             "error: None,"]]] := by
  have opens : Line.Reads (Opens fun head => ∃ middle, IsTyped value middle
      ∧ head = ([.word "pub", .word "fn", .word "success", .opening .parenthesis, .word "result",
          .mark ':' .alone] : List Token)
        ++ middle ++ ([.closing .parenthesis, .mark '-' .alone, .mark '>' .alone, .word "Self"]
          : List Token))
      [.fixed "pub fn success(result: ", .code value, .fixed ") -> Self", .fixed " \x7b"] :=
    typed.opens (.fixed (.code isValue (.fixed (.fixed .nil)))) (by rfl) (by decide)
  have body : Reads (fun row => Token.openBehind [] row = some [])
      ([(.block "Self" ["success: true,", "result: Some(result),", "error: None,"] : Code)].flatMap
        Code.lines) := by
    apply Outlined.balanced
    repeat' first | with_reducible constructor | with_reducible assumption | rfl
  have nothing : Reads (· = []) (([] : List Code).flatMap Code.lines) := .nil rfl
  refine Listing.block nothing (Reads.nest opens body) ?_
  rintro _ _ inner rfl ⟨middle, isType, rfl⟩ balanced
  have flatFront : IsFlat ';' [.word "pub", .word "fn", .word "success"] := rfl
  have flatRear : IsFlat ';' [.mark '-' .alone, .mark '>' .alone, .word "Self"] := rfl
  have flatLast : IsFlat ',' (([.word "result", .mark ':' .alone] : List Token) ++ middle) :=
    IsFlat.append rfl (isType.flat ',' (by decide))
  have head : IsInputHead ⟨false, "success"⟩ _ _ :=
    isInputHead_of_lists flatFront flatRear (fun _ => rfl) (fun _ => rfl) .nil flatLast rfl
  have spelled : ([.word "pub", .word "fn", .word "success", .opening .parenthesis, .word "result",
        .mark ':' .alone] : List Token) ++ middle
        ++ ([.closing .parenthesis, .mark '-' .alone, .mark '>' .alone, .word "Self"] : List Token)
      = ([.word "pub", .word "fn", .word "success"] : List Token) ++ (.opening .parenthesis
        :: (([] : List Token) ++ (([.word "result", .mark ':' .alone] : List Token) ++ middle)
          ++ ([.closing .parenthesis, .mark '-' .alone, .mark '>' .alone, .word "Self"] : List Token))
        : List Token) := by
    simp
  rw [List.nil_append, spelled, head.memberRead?]
  exact ⟨head.flat, balanced, rfl⟩

/-- The constructors of a response. -/
theorem constructors_listing
    (isResponse : Glyph.IsSound (.name responseType))
    (isValue : Glyph.IsSound (.code value))
    (typed : IsRead (IsTyped value) value) :
    Listing ';' (RowEntry.survey? endpoint?)
      [Outline.survey endpointName (.implementation [] none responseType
        [(⟨false, "success"⟩, ["result"]), (⟨false, "failure"⟩, ["error"]), (⟨false, "failed"⟩, [])])]
      ["",
       .block ["impl ", .name responseType]
         [.block ["pub fn success(result: ", .code value, ") -> Self"]
            [.block "Self"
               ["success: true,",
                "result: Some(result),",
                "error: None,"]],
          "",
          .block "pub fn failure(error: impl Into<String>) -> Self"
            [.block "Self"
               ["success: false,",
                "result: None,",
                "error: Some(error.into()),"]],
          "",
          "/// The business error carried by the response, if any.",
          .block "pub fn failed(&self) -> Option<&str>"
            ["self.error.as_deref()"]]] := by
  have opens : Line.Reads (Opens (· = [.word "impl", .word responseType]))
      ["impl ", .name responseType, " \x7b"] :=
    Line.Shows.opens (.fixed (.name isResponse (.fixed .nil))) (by rfl)
  show Listing _ _ _ ([_] ++ [_])
  apply Listing.implementation
  case blocks =>
    refine Reads.nest opens ?inside
    show Listing _ _ ([_] ++ [_, _]) ([_] ++ [_, _, _, _, _])
    refine Listing.append (success_listing isValue typed) ?others
    apply Listing.known
    · repeat' first | with_reducible constructor | with_reducible assumption | rfl
    · exact ⟨by cbv, by cbv, by cbv⟩
  case leads => exact .line (.fixed .nil) rfl .nil
  case flat => rfl
  case isImplementation => cbv
  case attributed => cbv
  case nothing => cbv

end Envelopes

/-! ### The file -/

/-- The envelopes of a method are read as their declarations. -/
theorem envelopes_listing
    {service : Service}
    {method : Method}
    (name : Glyph.IsSound (.name service.name))
    (readable : method.IsReadable)
    (sound : method.IsSound service) :
    Listing ';' (RowEntry.survey? endpoint?)
      ((service.envelopeOutlines method).map (Outline.survey endpointName)) (Template.envelopes service method) := by
  have forwarded (argument : Parameter) (member : argument ∈ method.arguments) :
      argument ∈ method.forwarded := List.mem_append_right _ member
  have request := request_listing name sound.name sound.request
    (fun argument member => sound.parameters argument (forwarded argument member))
    fun argument member => readable.parameters argument (forwarded argument member)
  have response := response_listing name sound.name sound.response sound.value readable.value
  have constructors := constructors_listing sound.response sound.value readable.value
  exact request.append (response.append constructors)

/-- The type of the endpoints, and the function that makes them. -/
theorem endpointsType_listing
    {name snake : String}
    (isName : Glyph.IsSound (.name name))
    (isSnake : Glyph.IsSound (.inner snake)) :
    Listing ';' (RowEntry.survey? endpoint?)
      ([.struct (name ++ "Endpoints") [],
        .implementation [] (some "Clone") (name ++ "Endpoints") [(⟨false, "clone"⟩, [])],
        .routine ⟨false, "make_" ++ snake ++ "_endpoints"⟩].map (Outline.survey endpointName))
      ["",
       .line ["/// One endpoint per [`", .name name, "`] method, each taking a request envelope."],
       .block ["pub struct ", .name name, "Endpoints<S>"]
         ["service: Arc<S>,"],
       "",
       .block ["impl<S> Clone for ", .name name, "Endpoints<S>"]
         [.block "fn clone(&self) -> Self"
            [.block "Self"
               ["service: Arc::clone(&self.service),"]]],
       "",
       .line ["/// Wrap a [`", .name name, "`] implementation into its endpoints."],
       .block
         ["pub fn make_", .inner snake, "_endpoints<S: ", .name name, ">(service: S) -> ", .name name,
           "Endpoints<S>"]
         [.block [.name name, "Endpoints"]
            ["service: Arc::new(service),"]]] := by
  show Listing _ _ ([_, _] ++ [_]) ([_, _, _, _, _] ++ ([_, _] ++ [_]))
  apply Listing.append
  case first =>
    apply Listing.known
    · repeat' first | with_reducible constructor | with_reducible assumption | rfl
    · exact ⟨by cbv, by cbv, by cbv⟩
  case second =>
    have opens : Line.Reads
        (Opens (· = [.word "pub", .word "fn", .word ("make_" ++ snake ++ "_endpoints"), .mark '<' .alone,
          .word "S", .mark ':' .alone, .word name, .mark '>' .alone, .opening .parenthesis,
          .word "service", .mark ':' .alone, .word "S", .closing .parenthesis, .mark '-' .alone,
          .mark '>' .alone, .word (name ++ "Endpoints"), .mark '<' .alone, .word "S", .mark '>' .alone]))
        ["pub fn make_", .inner snake, "_endpoints<S: ", .name name, ">(service: S) -> ", .name name,
          "Endpoints<S>", " \x7b"] := by
      apply Line.Shows.opens
      · repeat' first | with_reducible constructor | with_reducible assumption
      · rfl
    apply Listing.routine
    case blocks =>
      have made : Line.Reads (Opens (· = [.word (name ++ "Endpoints")]))
          [.name name, "Endpoints", " \x7b"] :=
        Line.Shows.opens (.name isName (.fixed (.fixed .nil))) (by rfl)
      have inside := Outlined.balanced
        (.line (.fixed .nil) (by rfl) .nil : Outlined _ [] [] _ ["service: Arc::new(service),"])
      have body : Reads HoldsStatements
          ([Code.block [.name name, "Endpoints"] ["service: Arc::new(service),"]].flatMap Code.lines) := by
        rw [List.flatMap_singleton]
        refine (Reads.nest made inside).mono ?_
        rintro _ ⟨_, inner, rfl, balanced, rfl⟩
        exact .block (by rfl) (declaredAhead_of_noName rfl rfl _) balanced
      exact Reads.nest opens body
    case leads => repeat' first | with_reducible constructor | with_reducible assumption | rfl
    case flat => cbv
    case isRoutine => cbv
    case declares => cbv

/-- The lines of the endpoints are read as their declarations. -/
theorem Service.transport_listing
    {service : Service}
    {path : ModulePath}
    (below : service.IsBelow path)
    (sound : service.IsSound)
    (readable : ∀ method ∈ service.methods, method.IsReadable) :
    Listing ';' (RowEntry.survey? endpoint?) 
      (service.transportOutlines.map (Outline.survey endpointName)) (Template.transport service) := by
  have endpoints := Listing.each_single fun method member =>
    endpoint_listing (readable method member) (sound.methods method member)
  have gap : Listing ';' (RowEntry.survey? endpoint?) [] [.line ""] :=
    .known (.line (.fixed .nil) rfl .nil) .nil
  have envelopes := (Listing.each fun method member =>
    envelopes_listing sound.name (readable method member) (sound.methods method member)).append gap
  rw [List.append_nil, ← List.map_flatMap] at envelopes
  obtain ⟨name, inner, -, -, -, -⟩ := sound
  unfold Template.transport
  show Listing _ _ ([] ++ ([] ++ ([_, _, _] ++ ([_] ++ _))))
    ([_, _] ++ ([_] ++ ([_, _, _, _, _, _, _, _] ++ ([_, _] ++ [_, _]))))
  refine Listing.append ?foreign (Listing.append (service.package_listing below)
    (Listing.append ?type (Listing.append ?endpoints envelopes)))
  case foreign =>
    apply Listing.known
    · repeat' first | with_reducible constructor | with_reducible assumption | rfl
    · exact ⟨by cbv, by cbv, by cbv⟩
  case type => exact endpointsType_listing name inner
  case endpoints =>
    have opens : Line.Reads
        (Opens (· = [.word "impl", .mark '<' .alone, .word "S", .mark ':' .alone, .word service.name,
          .mark '>' .alone, .word (service.name ++ "Endpoints"), .mark '<' .alone, .word "S",
          .mark '>' .alone]))
        ["impl<S: ", .name service.name, "> ", .name service.name, "Endpoints<S>", " \x7b"] :=
      Line.Shows.opens
        (.fixed (.name name (.fixed (.name name (.fixed (.fixed .nil)))))) (by rfl)
    show Listing _ _ _ ([_] ++ [_])
    apply Listing.implementation
    case blocks =>
      refine Reads.nest opens ?inside
      show Listing _ _ ([_] ++ _) ([_] ++ [_])
      refine Listing.append ?service ?others
      case service =>
        apply Listing.known
        · repeat' first | with_reducible constructor | with_reducible assumption | rfl
        · exact ⟨by cbv, by cbv, by cbv⟩
      case others =>
        rw [List.map_map]
        exact endpoints
    case leads => exact .line (.fixed .nil) rfl .nil
    case flat => rfl
    case isImplementation => cbv
    case attributed => cbv
    case nothing => cbv

end Scaffold
