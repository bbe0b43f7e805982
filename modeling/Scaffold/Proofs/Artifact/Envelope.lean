import Scaffold.Proofs.Artifact.Block
import Scaffold.Proofs.Interface.Parameters

/-!
Contract: the arguments of a method on their way through its request envelope.

Owns:
- the names of the declared parameters, as they are and as fields of a request;
- the request envelope of a method in the text of the endpoints;
- that no list that forwards a call leaves a parameter out, or has one in another place.

Does not own: the names themselves.
-/

namespace Scaffold

open Source Artifact

/-- The names of the typed parameters of a signature in the order of their declaration, those made up
for underscores among them. -/
def Source.Node.parameterNames (signature : Node .signature) : List String :=
  signature.typed.mapIdx fun place typed => (boundName? typed.1).getD (wildcardName place)

/-- The lines that declare the request envelope of a method, a field for each argument. -/
def Service.requestLines (service : Service) (method : Method) : List String :=
  ("pub struct " ++ service.requestType method ++ " \x7b")
    :: (method.arguments.map fun argument =>
        "    pub " ++ argument.name ++ ": " ++ argument.type.text ++ ",")
    ++ ["\x7d"]

/-- The parts of the endpoints of a service declare the request envelope of each method. -/
theorem Service.holds_requestLines
    {service : Service}
    {method : Method}
    (declared : method ∈ service.methods) :
    Code.Holds (Template.transport service) (service.requestLines method) := by
  have isStruct := Code.holds_textLines [Code.nest
    ["pub struct ", .name (service.requestType method), " \x7b"]
    [.each method.arguments fun argument =>
      [.line ["pub ", .name argument.name, ": ", .code argument.type.text, ","]]]
    "\x7d"]
  rw [Code.textLines_nest, Code.textLines_each, List.map_map] at isStruct
  have opening : Line.text ["pub struct ", .name (service.requestType method), " \x7b"]
      = "pub struct " ++ service.requestType method ++ " \x7b" := by
    simp [Line.text, Piece.text, String.append_assoc]
  have field (argument : Parameter) :
      indent (Line.text ["pub ", .name argument.name, ": ", .code argument.type.text, ","])
        = "    pub " ++ argument.name ++ ": " ++ argument.type.text ++ "," := by
    have text : Line.text ["pub ", .name argument.name, ": ", .code argument.type.text, ","]
        = "pub " ++ (argument.name ++ ": " ++ argument.type.text ++ ",") := by
      simp [Line.text, Piece.text, String.append_assoc]
    rw [text, indent, if_neg (by simp), Code.margin, ← String.append_assoc]
    simp only [String.append_assoc]
    rfl
  have closing : Line.text ["\x7d"] = "\x7d" := by
    simp [Line.text, Piece.text]
  rw [opening, closing, Function.comp_def, funext field] at isStruct
  have envelope : Code.Holds (Template.envelopes service method) (service.requestLines method) :=
    isStruct.of_mem (.tail _ (.tail _ (.tail _ (.head _))))
  exact (envelope.each declared).of_mem (by simp [Template.transport])

/-- Every list that forwards a call of a method has the typed parameters of its signature, all of
them, in the order of their declaration. -/
structure Method.ForwardsAll
    (signature : Node .signature)
    (method : Method)
    (service : Service) : Prop where
  /-- The context and the arguments behind it have the names and the types that are declared. -/
  parameters : MatchParameters 0 signature.typed method.forwarded
  /-- The context is there exactly if the first parameter is declared by one of its names. -/
  context : method.context.isSome = true
    ↔ ∃ first ∈ signature.typed.head?, ∃ name ∈ contextNames, boundName? first.1 = some name
  /-- The arguments of a call are all names. -/
  call : method.callArguments = joinedBy ", " signature.parameterNames
  /-- The arguments out of a request are all names, as fields of it but for the context. -/
  request : method.requestArguments
    = joinedBy ", " (signature.parameterNames.take method.context.toList.length
        ++ (signature.parameterNames.drop method.context.toList.length).map ("request." ++ ·))
  /-- The request envelope has these fields in the same order, -/
  fields : method.arguments.map Parameter.name
    = signature.parameterNames.drop method.context.toList.length
  /-- and so it is declared in the text of the endpoints. -/
  envelope : HasLines (ArtifactKind.transport.render service) (service.requestLines method)

/-- The lists that forward a call of a method agree. -/
theorem Method.forwardsAll
    {interface : String}
    {signature : Node .signature}
    {method : Method}
    {service : Service}
    (accepted : Method.ofSignature interface signature = .ok method)
    (declared : method ∈ service.methods) :
    method.ForwardsAll signature service := by
  have parameters := matchParameters_forwarded accepted
  have names : method.forwarded.map Parameter.name = signature.parameterNames := parameters.map_name
  have front : signature.parameterNames.take method.context.toList.length
      = method.context.toList.map Parameter.name := by
    rw [← names, forwarded, ← List.map_take, List.take_left]
  have back : signature.parameterNames.drop method.context.toList.length
      = method.arguments.map Parameter.name := by
    rw [← names, forwarded, ← List.map_drop, List.drop_left]
  refine
    { parameters
      context := context_isSome_iff accepted
      call := by rw [callArguments, names]
      request := ?_
      fields := ?_
      envelope := (Service.holds_requestLines declared).hasLines }
  · rw [requestArguments, front, back, List.map_map]
    rfl
  · rw [back]

/-- The signature `fn f(&self, ctx: Context, _: u8, _ctx: u16)`. -/
def forwardingSignature : Node .signature :=
  .functionSignature ⟨false, false, false, none⟩ "f" (.genericList false .nil false .absent false)
    (.ofList
      [.selfParameter .nil (some none) false .absent,
        .typedParameter .nil (.namePattern false false "ctx" .absent)
          (.pathType (.simplePath false (.cons (.pathSegment "Context" .noArguments) .nil))),
        .typedParameter .nil .wildcardPattern
          (.pathType (.simplePath false (.cons (.pathSegment "u8" .noArguments) .nil))),
        .typedParameter .nil (.namePattern false false "_ctx" .absent)
          (.pathType (.simplePath false (.cons (.pathSegment "u16" .noArguments) .nil)))])
    false .absent

/-- Its first parameter is passed by; the underscore and the other name of a context are fields. -/
theorem Method.forwardsAll_forwardingSignature :
    ∃ method, Method.ofSignature "Calc" forwardingSignature = .ok method
      ∧ method.callArguments = "ctx, arg1, _ctx"
      ∧ method.requestArguments = "ctx, request.arg1, request._ctx"
      ∧ ∀ service : Service, method ∈ service.methods →
        HasLines (ArtifactKind.transport.render service)
          ["pub struct " ++ service.requestType method ++ " \x7b",
            "    pub arg1: u8,",
            "    pub _ctx: u16,",
            "\x7d"] := by
  obtain ⟨method, accepted⟩ : ∃ method, Method.ofSignature "Calc" forwardingSignature = .ok method :=
    ⟨_, rfl⟩
  let service : Service := ⟨⟨"Calc", "calc", [method], false⟩, "crate::calc", .ofOptions []⟩
  have forwards : method.ForwardsAll forwardingSignature service :=
    Method.forwardsAll accepted (List.mem_singleton.mpr rfl)
  have names : forwardingSignature.parameterNames = ["ctx", "arg1", "_ctx"] := by decide
  have context : method.context.toList.length = 1 := by
    cases accepted
    rfl
  refine ⟨method, accepted, ?_, ?_, ?_⟩
  · rw [forwards.call, names]
    decide
  · rw [forwards.request, names, context]
    decide
  · intro service declared
    have envelope := (Method.forwardsAll accepted declared).envelope
    have arguments : method.arguments = [⟨"arg1", .simple "u8"⟩, ⟨"_ctx", .simple "u16"⟩] := by
      cases accepted
      rfl
    rw [Service.requestLines, arguments] at envelope
    exact envelope

end Scaffold
