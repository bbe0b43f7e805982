import Scaffold.Proofs.Artifact.Block
import Scaffold.Proofs.Interface.Parameters

/-!
Contract: the calls that the layers of a service forward.

Owns:
- the names that lines of text bind;
- the body of a method of a layer: what stands in front of the forwarded call, the call, and what
  stands behind it;
- when a name that is handed on was bound anew.

Does not own: what the rest of the body does.
-/

namespace Scaffold

open Source Artifact

/-! ### Statements -/

/-- A line without the blanks in front. -/
def unindented (line : String) : List Char :=
  line.toList.dropWhile (· == ' ')

/-- What a line binds that begins a `let` statement. -/
def letName? (line : String) : Option String :=
  match unindented line with
  | 'l' :: 'e' :: 't' :: ' ' :: rest => some (String.ofList (rest.takeWhile (· != ' ')))
  | _ => none

/-- The names that a body of a layer binds in front of the forwarded call. -/
def ArtifactKind.bindings : ArtifactKind → List String
  | .loggingMiddleware => ["begin", "arguments"]
  | .tracingMiddleware => ["span"]
  | .implementation | .errorEnvelope | .transport | .httpAdapter | .natsAdapter | .tracingSetup
  | .config | .httpEntryPoint => []

/-- The text of a kind has the method with this body, which forwards its call. -/
structure ArtifactKind.Forwards
    (kind : ArtifactKind)
    (service : Service)
    (method : Method)
    (before call after : List String) : Prop where
  body : HasLines (kind.render service)
    ((method.signature ++ " \x7b") :: (before ++ call ++ after).map indent ++ ["\x7d"])
  /-- What stands in front of the call are whole statements. -/
  complete : [';'] <:+ before.flatMap unindented
  /-- They bind these names. -/
  bindings : before.filterMap letName? = kind.bindings
  /-- The call hands on the context and all arguments. -/
  call : ("self.next." ++ method.name ++ "(" ++ method.callArguments ++ ")").toList
    <:+: call.flatMap unindented

/-- A line that begins with no blank, by the characters that spell it. -/
theorem unindented_text
    {line : Line}
    {characters : List Char}
    (spells : line.Spells characters)
    (noBlank : characters.dropWhile (· == ' ') = characters) :
    unindented line.text = characters := by
  rw [unindented, Line.toList_text, spells.characters_eq, noBlank]

theorem unindented_indent (line : String) : unindented (indent line) = unindented line := by
  rw [indent]
  split
  · next isEmpty => rw [isEmpty]
  · have blanks : Code.margin.toList = [' ', ' ', ' ', ' '] := by decide
    rw [unindented, String.toList_append, blanks]
    rfl

theorem letName?_indent (line : String) : letName? (indent line) = letName? line := by
  rw [letName?, letName?, unindented_indent]

/-- The lines of a method of a layer. -/
theorem Artifact.Code.textLines_method (method : Method) (front call back : List Code) :
    textLines [.block [.code method.signature] (front ++ call ++ back)]
      = (method.signature ++ " \x7b")
        :: (textLines front ++ textLines call ++ textLines back).map indent ++ ["\x7d"] := by
  have head : Line.text ([Piece.code method.signature] ++ [.fixed " \x7b"])
      = method.signature ++ " \x7b" := by
    simp [Line.text, Piece.text]
  have closing : Line.text ["\x7d"] = "\x7d" := by
    simp [Line.text, Piece.text]
  rw [block, textLines_nest, head, closing, textLines_append, textLines_append]

/-- A layer has the method of each method of the service. -/
theorem ArtifactKind.hasLines_method
    {kind : ArtifactKind}
    {service : Service}
    {method : Method}
    {make : Method → Code}
    {head : Line}
    {front call back : List Code}
    (isLayer : Code.members head (service.methods.map make) ∈ kind.code service)
    (isMethod : make method = .block [.code method.signature] (front ++ call ++ back))
    (declared : method ∈ service.methods) :
    HasLines (kind.render service)
      ((method.signature ++ " \x7b")
        :: (Code.textLines front ++ Code.textLines call ++ Code.textLines back).map indent
        ++ ["\x7d"]) := by
  have holds := Code.holds_textLines [make method]
  rw [isMethod, Code.textLines_method, ← isMethod] at holds
  exact ((holds.members (List.mem_map_of_mem declared) head).of_mem isLayer).hasLines

/-! ### Logging -/

namespace Artifact.Template

/-- The line that takes down the arguments. -/
def loggedArguments (method : Method) : Line :=
  let arguments := String.join (method.arguments.map fun argument => s!"&{argument.name}, ")
  ["let arguments = format!(\"\x7b:?\x7d\", (", .code arguments, "));"]

/-- The call that is logged. -/
def loggedCall (method : Method) : Line :=
  ["let output = self.next.", .name method.name, "(", .code method.callArguments, ")",
    method.awaiting, ";"]

theorem exists_loggedMethod (name : String) (method : Method) :
    ∃ back, loggedMethod name method = .block [.code method.signature]
      ([.line ["let begin = Instant::now();"], .line (loggedArguments method)]
        ++ [Code.line (loggedCall method)] ++ back) :=
  ⟨_, rfl⟩

end Artifact.Template

theorem ArtifactKind.forwards_loggingMiddleware
    {service : Service}
    {method : Method}
    (declared : method ∈ service.methods) :
    ∃ before call after, loggingMiddleware.Forwards service method before call after := by
  obtain ⟨back, isMethod⟩ := Template.exists_loggedMethod service.name method
  have isLayer : Code.members
      ["impl<S: ", .name service.name, "> ", .name service.name, " for ", .name service.name,
        "LoggingMiddleware<S>"]
      (service.methods.map (Template.loggedMethod service.name))
      ∈ loggingMiddleware.code service := by
    simp [code, Template.loggingMiddleware]
  have first : unindented (Line.text ["let begin = Instant::now();"]) = _ :=
    unindented_text (.fixed .nil) rfl
  have second : unindented (Template.loggedArguments method).text = _ :=
    unindented_text (.fixed (.piece (.fixed .nil))) rfl
  have third : unindented (Template.loggedCall method).text = _ :=
    unindented_text (.fixed (.piece (.fixed (.piece (.fixed (.piece (.fixed .nil))))))) rfl
  have names : letName? (Line.text ["let begin = Instant::now();"]) = some "begin"
      ∧ letName? (Template.loggedArguments method).text = some "arguments" := by
    rw [letName?, first, letName?, second]
    exact ⟨rfl, rfl⟩
  have before :
      Code.textLines [.line ["let begin = Instant::now();"], .line (Template.loggedArguments method)]
      = [Line.text ["let begin = Instant::now();"], (Template.loggedArguments method).text] :=
    rfl
  refine ⟨_, _, _, hasLines_method isLayer isMethod declared, ?_, ?_, ?_⟩
  · have ends : [';'] <:+ unindented (Template.loggedArguments method).text := by
      rw [second]
      exact (((by decide : [';'] <:+ [')', ')', ';'] ++ []).trans
        (List.suffix_append _ _)).trans (List.suffix_append _ _))
    rw [before]
    simpa using ends.trans (List.suffix_append _ _)
  · rw [before]
    simp [names, bindings]
  · refine ⟨"let output = ".toList, (method.awaiting ++ ";").toList, ?_⟩
    rw [Code.textLines_line, List.flatMap_cons, List.flatMap_nil, third]
    simp [Piece.text, String.toList_append]

/-! ### Tracing -/

namespace Artifact.Template

/-- The fields of a span. -/
def spanFields (snake : String) (method : Method) : List Code :=
  [.line ["\"", .prose snake, ".", .name method.name, "\","],
    .line ["otel.kind = \"server\","],
    .line ["error = tracing::field::Empty,"]]

theorem exists_spannedMethod (snake : String) (method : Method) :
    ∃ back, spannedMethod snake method = .block [.code method.signature]
      ([.nest ["let span = tracing::info_span!("] (spanFields snake method) [");"]]
        ++ [spannedCall method] ++ back) :=
  ⟨_, rfl⟩

/-- The fields bind no names. -/
theorem letName?_spanFields (snake : String) (method : Method) :
    ∀ line ∈ Code.textLines (spanFields snake method), letName? line = none := by
  have lines : Code.textLines (spanFields snake method)
      = [Line.text ["\"", .prose snake, ".", .name method.name, "\","],
        Line.text ["otel.kind = \"server\","],
        Line.text ["error = tracing::field::Empty,"]] := rfl
  have first : unindented (Line.text ["\"", .prose snake, ".", .name method.name, "\","]) = _ :=
    unindented_text (.fixed (.piece (.fixed (.piece (.fixed .nil))))) rfl
  have second : unindented (Line.text ["otel.kind = \"server\","]) = _ :=
    unindented_text (.fixed .nil) rfl
  have third : unindented (Line.text ["error = tracing::field::Empty,"]) = _ :=
    unindented_text (.fixed .nil) rfl
  rw [lines]
  intro line member
  simp only [List.mem_cons, List.not_mem_nil, or_false] at member
  rcases member with rfl | rfl | rfl
  · rw [letName?, first]
    rfl
  · rw [letName?, second]
    rfl
  · rw [letName?, third]
    rfl

/-- The call inside of the span, on one line or on several. -/
theorem call_infix_spannedCall (method : Method) :
    ("self.next." ++ method.name ++ "(" ++ method.callArguments ++ ")").toList
      <:+: (Code.textLines [spannedCall method]).flatMap unindented := by
  rw [spannedCall]
  split
  · have head : unindented (Line.text ["let output = self"]) = _ :=
      unindented_text (.fixed .nil) rfl
    have next : unindented (Line.text [".next"]) = _ :=
      unindented_text (.fixed .nil) rfl
    have call : unindented (Line.text [".", .name method.name, "(", .code method.callArguments, ")"]) = _ :=
      unindented_text (.fixed (.piece (.fixed (.piece (.fixed .nil))))) rfl
    have lines : Code.textLines
          [".next", .line [".", .name method.name, "(", .code method.callArguments, ")"],
            ".instrument(span.clone())", ".await;"]
        = [Line.text [".next"],
          Line.text [".", .name method.name, "(", .code method.callArguments, ")"],
          Line.text [".instrument(span.clone())"], Line.text [".await;"]] := rfl
    rw [Code.textLines_hang, List.flatMap_cons, List.flatMap_map, funext unindented_indent, lines]
    refine ⟨"let output = ".toList,
      unindented (Line.text [".instrument(span.clone())"]) ++ unindented (Line.text [".await;"]), ?_⟩
    simp [head, next, call, Piece.text, String.toList_append]
  · have line : unindented (Line.text ["let output = span.in_scope(|| self.next.", .name method.name, "(",
        .code method.callArguments, "));"]) = _ :=
      unindented_text (.fixed (.piece (.fixed (.piece (.fixed .nil))))) rfl
    refine ⟨"let output = span.in_scope(|| ".toList, ");".toList, ?_⟩
    rw [Code.textLines_line, List.flatMap_cons, List.flatMap_nil, line]
    simp [Piece.text, String.toList_append]

end Artifact.Template

theorem ArtifactKind.forwards_tracingMiddleware
    {service : Service}
    {method : Method}
    (declared : method ∈ service.methods) :
    ∃ before call after, tracingMiddleware.Forwards service method before call after := by
  obtain ⟨back, isMethod⟩ := Template.exists_spannedMethod service.snake method
  have isLayer : Code.members
      ["impl<S: ", .name service.name, "> ", .name service.name, " for ", .name service.name,
        "TracingMiddleware<S>"]
      (service.methods.map (Template.spannedMethod service.snake))
      ∈ tracingMiddleware.code service := by
    simp [code, Template.tracingMiddleware]
  have before : Code.textLines
        [.nest ["let span = tracing::info_span!("] (Template.spanFields service.snake method) [");"]]
      = Line.text ["let span = tracing::info_span!("]
        :: (Code.textLines (Template.spanFields service.snake method)).map indent ++ [Line.text [");"]] :=
    Code.textLines_nest _ _ _
  have opening : unindented (Line.text ["let span = tracing::info_span!("]) = _ :=
    unindented_text (.fixed .nil) rfl
  have closing : unindented (Line.text [");"]) = _ :=
    unindented_text (.fixed .nil) rfl
  refine ⟨_, _, _, hasLines_method isLayer isMethod declared, ?_, ?_,
    Template.call_infix_spannedCall method⟩
  · rw [before, List.flatMap_append, List.flatMap_singleton, closing]
    exact (by decide : [';'] <:+ [')', ';'] ++ []).trans (List.suffix_append _ _)
  · have fields : ((Code.textLines (Template.spanFields service.snake method)).map indent).filterMap letName?
        = [] := by
      rw [List.filterMap_map, Function.comp_def, funext letName?_indent, List.filterMap_eq_nil_iff]
      exact Template.letName?_spanFields service.snake method
    have names : letName? (Line.text ["let span = tracing::info_span!("]) = some "span"
        ∧ letName? (Line.text [");"]) = none := by
      rw [letName?, opening, letName?, closing]
      exact ⟨rfl, rfl⟩
    simp [before, fields, names, bindings]

/-! ### Forwarded names -/

theorem ArtifactKind.bindings_subset (kind : ArtifactKind) :
    kind.bindings ⊆ ["begin", "arguments", "span"] := by
  cases kind <;> decide

theorem wildcardName_not_mem_bindings (place : Nat) (kind : ArtifactKind) :
    wildcardName place ∉ kind.bindings := by
  have other : ∀ name ∈ ["begin", "arguments", "span"], wildcardName place ≠ name := by
    intro name member same
    have digits : (name.toList.drop 3).all Char.isDigit = true := by
      rw [← same, wildcardName, String.toList_append, List.drop_left' (by decide),
        Nat.toString_eq_ofList_toDigits, String.toList_ofList, List.all_eq_true]
      exact fun char inDigits => Nat.isDigit_of_mem_toDigits (by decide) (by decide) inDigits
    have letters : ∀ name ∈ ["begin", "arguments", "span"],
        (name.toList.drop 3).all Char.isDigit = false := by decide
    rw [letters name member] at digits
    cases digits
  exact fun member => other _ (kind.bindings_subset member) rfl

/-- In the layers that log a call or run it in a span, none of the names that are handed on is bound
anew in front of the call exactly if no parameter is declared by one of the names that the layer binds
there. -/
theorem Method.forwarded_names_unbound_iff
    {interface : String}
    {signature : Node .signature}
    {method : Method}
    {service : Service}
    {kind : ArtifactKind}
    (accepted : Method.ofSignature interface signature = .ok method)
    (declared : method ∈ service.methods)
    (isLayer : kind ∈ [.loggingMiddleware, .tracingMiddleware]) :
    ∃ before call after, kind.Forwards service method before call after
      ∧ ((∀ name ∈ method.forwarded.map Parameter.name, name ∉ before.filterMap letName?)
        ↔ ∀ name ∈ signature.declaredNames, name ∉ kind.bindings) := by
  have forwards : ∃ before call after, kind.Forwards service method before call after := by
    simp only [List.mem_cons, List.not_mem_nil, or_false] at isLayer
    rcases isLayer with rfl | rfl
    · exact ArtifactKind.forwards_loggingMiddleware declared
    · exact ArtifactKind.forwards_tracingMiddleware declared
  obtain ⟨before, call, after, forwards⟩ := forwards
  refine ⟨before, call, after, forwards, ?_⟩
  have matches_ := matchParameters_forwarded accepted
  rw [forwards.bindings, matches_.map_name]
  -- A name made up for an underscore is bound by no layer, so the declared names decide.
  constructor
  · intro free name isDeclared
    obtain ⟨typed, isTyped, isName⟩ := List.mem_filterMap.mp isDeclared
    obtain ⟨place, inRange, rfl⟩ := List.getElem_of_mem isTyped
    refine free name (List.mem_mapIdx.mpr ⟨place, inRange, ?_⟩)
    rw [isName, Option.getD_some]
  · intro free name isForwarded
    obtain ⟨place, inRange, rfl⟩ := List.mem_mapIdx.mp isForwarded
    cases isName : boundName? signature.typed[place].1 with
    | some name => exact free name (List.mem_filterMap.mpr ⟨_, List.getElem_mem inRange, isName⟩)
    | none => exact wildcardName_not_mem_bindings place kind

/-- The signature `fn f(&self, begin: u8)`. -/
def reboundSignature : Node .signature :=
  .functionSignature ⟨false, false, false, none⟩ "f" (.genericList false .nil false .absent false)
    (.ofList
      [.selfParameter .nil (some none) false .absent,
        .typedParameter .nil (.namePattern false false "begin" .absent)
          (.pathType (.simplePath false (.cons (.pathSegment "u8" .noArguments) .nil)))])
    false .absent

/-- What the logging layer hands on of it is not what the caller gave. -/
theorem Method.forwarded_name_rebound :
    ∃ method, Method.ofSignature "Calc" reboundSignature = .ok method
      ∧ ∀ service : Service, method ∈ service.methods →
        ∃ before call after,
          ArtifactKind.loggingMiddleware.Forwards service method before call after
          ∧ ∃ name ∈ method.forwarded.map Parameter.name, name ∈ before.filterMap letName? := by
  obtain ⟨method, accepted⟩ : ∃ method, Method.ofSignature "Calc" reboundSignature = .ok method :=
    ⟨_, rfl⟩
  refine ⟨method, accepted, fun service declared => ?_⟩
  obtain ⟨before, call, after, forwards, unbound⟩ :=
    Method.forwarded_names_unbound_iff accepted declared (List.mem_cons_self ..)
  refine ⟨before, call, after, forwards, ?_⟩
  by_contra free
  push Not at free
  exact unbound.mp free "begin" (by decide) (by decide)

end Scaffold
