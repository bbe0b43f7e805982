import Mathlib
import Scaffold.Proofs.Artifact.Templates
import Scaffold.Proofs.Artifact.Texts

/-!
Contract: what the files of a service declare, method by method.

Owns:
- the declarations of the service type, of the layers, of the endpoints and of the HTTP adapter;
- lines that import from below the package;
- that the lines of the service type and of the layers are read as just their declarations.

Does not own: that the text of a file is one of tokens.
-/

namespace Scaffold

open Source Source.Scan Artifact

/-! ### Declarations -/

/-- The name of the request in the endpoint of a method. -/
def Method.requestName (method : Method) : String :=
  if method.arguments.isEmpty then "_request" else "request"

namespace Service

/-- The attributes of an implementation of the interface. -/
def boxing (service : Service) : List (List String) :=
  if service.interface.asyncTrait then [["async_trait", "async_trait"]] else []

/-- The declarations of the service type: without methods, the type and its constructor alone. -/
def implementationOutlines (service : Service) : List (Outline Routine) :=
  let owner := service.name ++ "Service"
  [.struct owner [], .implementation [] none owner [⟨false, "new"⟩]]
    ++ if !service.methods.isEmpty then
        [.implementation (service.boxing ++ [["allow"]]) (some service.name) owner
          (service.methods.map Method.routine)]
      else []

/-- The declarations of a layer. -/
def layerOutlines (service : Service) (layer : String) : List (Outline Routine) :=
  let owner := service.name ++ layer
  [.struct owner [],
   .implementation [] none owner [⟨false, "new"⟩],
   .implementation service.boxing (some service.name) owner (service.methods.map Method.routine)]

/-- The endpoint of a method, with the names of its inputs: the context, if the method takes one, and
the request. -/
def endpointOutline (method : Method) : Routine × List String :=
  (⟨true, method.name⟩,
    method.context.toList.map Parameter.name ++ [method.requestName])

/-- The declarations of the two envelopes of a method. -/
def envelopeOutlines (service : Service) (method : Method) : List (Outline (Routine × List String)) :=
  [.struct (service.requestType method)
    (method.arguments.map fun argument => (argument.name, argument.type.text)),
   .struct (service.responseType method)
    [("success", "bool"), ("result", "Option<" ++ method.valueType ++ ">"),
      ("error", "Option<String>")],
   .implementation [] none (service.responseType method)
    [(⟨false, "success"⟩, ["result"]), (⟨false, "failure"⟩, ["error"]), (⟨false, "failed"⟩, [])]]

/-- The declarations of the endpoints. -/
def transportOutlines (service : Service) : List (Outline (Routine × List String)) :=
  let owner := service.name ++ "Endpoints"
  [.struct owner [],
   .implementation [] (some "Clone") owner [(⟨false, "clone"⟩, [])],
   .routine ⟨false, "make_" ++ service.snake ++ "_endpoints"⟩,
   .implementation [] none owner
    ((⟨false, "service"⟩, []) :: service.methods.map endpointOutline)]
    ++ service.methods.flatMap service.envelopeOutlines

/-- The declarations of the HTTP adapter: the routes, for each method a handler and the encoding of its
answer, and the encoding of errors. -/
def httpOutlines (service : Service) : List (Outline Routine) :=
  .routine ⟨false, "register_" ++ service.snake ++ "_routes"⟩
    :: (service.methods.flatMap (fun method =>
        [.routine ⟨true, service.handlerName method⟩, .routine ⟨false, service.encoderName method⟩])
      ++ [.routine ⟨false, "encode_" ++ service.snake ++ "_error"⟩])

end Service

/-! ### Lines -/

section Lines

variable
  {α : Type}
  {read : RowEntry → Option α}
  {member? : List Token → Option α}
  {service : Service}
  {path : ModulePath}

/-- The tokens of a path are in no block and end no entry. -/
theorem ModulePath.isFlat_tokens (path : ModulePath) :
    IsFlat ';' (((if path.fromRoot then Token.marks "::" else []) ++ tokensOf path.names).map
      Token.sketch) := by
  rw [isFlat_map_sketch]
  refine IsFlat.append (by cases path.fromRoot <;> rfl) ?_
  induction path.names with
  | nil => rfl
  | cons name names inductionHypothesis =>
      cases names with
      | nil => rfl
      | cons next names => exact inductionHypothesis

theorem ModulePath.IsSound.isCode (sound : path.IsSound) : IsCode path.text.toList := by
  have names := IsCode.path sound.something sound.words
  unfold ModulePath.text
  cases path.fromRoot with
  | false => simpa using names
  | true =>
      have mark : ':' ∈ markChars := by decide
      have second := names.behindMark mark (by decide) (by decide)
      simpa using second.behindMark mark (by decide) (by decide)

/-- What stands around the path in a line that imports from below it. -/
theorem Glyph.around?_import
    {text : String}
    {glyphs : List Glyph}
    {rear : List Token}
    (spelled : Glyph.sketch? (.known ':' :: glyphs) = some rear) :
    Glyph.around?
        (.known 'u' :: .known 's' :: .known 'e' :: .known ' ' :: .code text :: .known ':' :: glyphs)
      = some ([.word "use"], text, .known ':' :: glyphs, rear) := by
  unfold Glyph.around?
  split
  · next lexemes code back cut =>
      obtain ⟨rfl, same⟩ := Prod.mk.inj (Option.some.inj cut)
      cases same
      rw [spelled]
      rfl
  · next other =>
      exact absurd rfl (other _ _ _)

/-- A line that imports from below the package declares nothing. -/
theorem Service.import_listing
    {tail : Line}
    {glyphs : List Glyph}
    {rear : List Token}
    (below : service.IsBelow path)
    (shows_ : tail.Shows (.known ':' :: glyphs))
    (spelled : Glyph.sketch? (.known ':' :: glyphs) = some rear)
    (balanced : Token.openBehind [] rear = some [])
    (ended : ∀ head, (readEntries ';' ⟨0, .word "use" :: head, none⟩ rear).2 = .start)
    (nothing : ∀ head,
      (readEntries ';' ⟨0, .word "use" :: head, none⟩ rear).1.filterMap read = []) :
    Listing ';' read []
      [.line (.fixed "use " :: .code service.packagePath :: tail)] := by
  have line : Line.Shows (.fixed "use " :: .code path.text :: tail)
      (['u', 's', 'e', ' '].map .known ++ .code path.text :: .known ':' :: glyphs) :=
    .fixed (.code below.sound.isCode shows_)
  have imports := line.reads_around (Glyph.around?_import spelled) fun text =>
    ⟨_, ModulePath.passes_text below.sound _, path.isFlat_tokens⟩
  rw [below.spelled]
  refine (Reads.single imports).mono ?_
  rintro _ ⟨middle, flat, rfl⟩
  have flatHead : IsFlat ';' (.word "use" :: middle) :=
    IsFlat.append (rfl : IsFlat ';' [.word "use"]) flat
  exact Enlists.behind flatHead balanced (ended middle) (nothing middle)

theorem Service.package_listing (below : service.IsBelow path) :
    Listing ';' (RowEntry.survey? member?) [] [.line ["use ", .code service.packagePath, "::*;"]] :=
  import_listing below (.fixed .nil) rfl (by cbv) (fun _ => by cbv) fun _ => by cbv

end Lines

/-! ### Methods -/

section Method

variable
  {service : Service}
  {method : Method}
  {body : List Code}

/-- A method with its signature as text, and its body. -/
theorem Method.signed_listing
    (readable : method.IsReadable)
    (sound : method.IsSound service)
    (balanced : Reads (fun row => Token.openBehind [] row = some []) (body.flatMap Code.lines)) :
    Listing ';' (RowEntry.memberRead? routine?) [memberOf Routine.name method.routine]
      [.block [.code method.signature] body] := by
  have line : Line.Shows [.code method.signature, .fixed " \x7b"]
      [.code method.signature, .known ' ', .known '\x7b'] := .code sound.signature (.fixed .nil)
  have cut : Glyph.around? [.code method.signature, .known ' ', .known '\x7b']
      = some ([], method.signature, [.known ' ', .known '\x7b'], [] ++ [.opening .brace]) := rfl
  have opens := readable.head.opens line cut (by decide)
  have nothing : Reads (· = []) (([] : List Code).flatMap Code.lines) := .nil rfl
  refine Listing.block nothing (Reads.nest opens balanced) ?_
  rintro _ _ inner rfl ⟨head, isHead, rfl⟩ isBalanced
  rw [List.append_nil]
  have member : RowEntry.memberRead? routine? ⟨head, some inner⟩
      = some (memberOf Routine.name method.routine) := by
    rw [RowEntry.memberRead?, RowEntry.function?, RowEntry.declared?, isHead.reads, isHead.declares]
    rfl
  exact ⟨isHead.flat, isBalanced, congrArg Option.toList member⟩

theorem todoMethod_listing
    (name : Glyph.IsSound (.name service.name))
    (readable : method.IsReadable)
    (sound : method.IsSound service) :
    Listing ';' (RowEntry.memberRead? routine?) [memberOf Routine.name method.routine]
      [Template.todoMethod service.name method] := by
  refine Method.signed_listing readable sound ?_
  obtain ⟨methodName, -, -, -, -, -, -, -, -, -, -, -⟩ := sound
  apply Outlined.balanced
  repeat' first | with_reducible constructor | with_reducible assumption | rfl

theorem loggedMethod_listing
    (name : Glyph.IsSound (.name service.name))
    (readable : method.IsReadable)
    (sound : method.IsSound service) :
    Listing ';' (RowEntry.memberRead? routine?) [memberOf Routine.name method.routine]
      [Template.loggedMethod service.name method] := by
  refine Method.signed_listing readable sound ?_
  obtain ⟨methodName, -, -, -, -, -, -, called, -, logged, -, -⟩ := sound
  rcases Template.awaiting_cases method with waits | waits
  all_goals
    rw [waits]
    apply Outlined.balanced
    repeat' first | with_reducible constructor | with_reducible assumption | rfl | intro _

theorem spannedMethod_listing
    (prose : Glyph.IsSound (.prose service.snake))
    (readable : method.IsReadable)
    (sound : method.IsSound service) :
    Listing ';' (RowEntry.memberRead? routine?) [memberOf Routine.name method.routine]
      [Template.spannedMethod service.snake method] := by
  have call : Comply (fun _ => True) [] [] [] (Template.spannedCall method).lines :=
    Template.spannedCall_comply (fun _ _ => trivial) sound []
  refine Method.signed_listing readable sound ?_
  obtain ⟨methodName, -, -, -, -, -, -, called, -, logged, -, -⟩ := sound
  apply Outlined.balanced
  repeat' first
    | apply Outlined.known (by with_reducible assumption)
    | with_reducible constructor | with_reducible assumption | rfl | intro _

end Method

/-! ### Files -/

/-- The lines of the service type are read as its declarations. -/
theorem Service.implementation_listing
    {service : Service}
    {path : ModulePath}
    (below : service.IsBelow path)
    (sound : service.IsSound)
    (readable : ∀ method ∈ service.methods, method.IsReadable) :
    Listing ';' (RowEntry.survey? routine?)
      (service.implementationOutlines.map (Outline.survey Routine.name))
      (Template.implementation service) := by
  have owned : Line.Shows ["impl ", .name service.name, " for ", .name service.name, "Service"] _ :=
    .fixed (.name sound.name (.fixed (.name sound.name (.fixed .nil))))
  have todo := Listing.members
    [.word "impl", .word service.name, .word "for", .word (service.name ++ "Service")]
    owned (by rfl) (by rfl) fun method member =>
      todoMethod_listing sound.name (readable method member) (sound.methods method member)
  obtain ⟨name, -, -, -, -, -⟩ := sound
  unfold Template.implementation
  rw [implementationOutlines, List.map_append, apply_ite (List.map (Outline.survey Routine.name))]
  show Listing _ _ ([] ++ ([_, _] ++ _)) ([_] ++ ([_, _, _, _, _, _, _] ++ [_]))
  refine Listing.append ?uses (Listing.append ?type (Listing.when _ ?methods))
  case uses =>
    split
    · exact .known (.line (.fixed .nil) rfl .nil) .nil
    · exact service.package_listing below
  case type =>
    apply Listing.known
    · repeat' first | with_reducible constructor | with_reducible assumption | rfl
    · exact ⟨by cbv, by cbv, by cbv⟩
  case methods =>
    unfold asyncTraitAttribute
    cases boxed : service.interface.asyncTrait
    all_goals
      simp only [Bool.false_eq_true, if_false, if_true]
      show Listing _ _ _ ([_, _] ++ [_])
      apply Listing.implementation
      case blocks =>
        rw [List.map_map]
        exact todo
      case leads => repeat' first | with_reducible constructor | with_reducible assumption | rfl
      case flat => cbv
      case isImplementation => cbv
      case attributed =>
        rw [Service.boxing, boxed]
        cbv
      case nothing => cbv

/-- The head of the implementation of a trait by a layer. -/
def layerTokens (trait owner : String) : List Token :=
  [.word "impl", .mark '<' .alone, .word "S", .mark ':' .alone, .word trait, .mark '>' .alone,
    .word trait, .word "for", .word owner, .mark '<' .alone, .word "S", .mark '>' .alone]

/-- The implementation of the interface by a layer, boxed as the interface asks for. -/
theorem Service.layer_listing
    {service : Service}
    {owner : String}
    {code : Code}
    (blocks : Reads
      (Blocks (· = layerTokens service.name owner)
        (Enlists ';' (RowEntry.memberRead? routine?)
          (service.methods.map fun method => memberOf Routine.name method.routine)))
      code.lines) :
    Listing ';' (RowEntry.survey? routine?)
      [Outline.survey Routine.name
        (.implementation service.boxing (some service.name) owner (service.methods.map Method.routine))]
      [.when service.interface.asyncTrait [asyncTraitAttribute], code] := by
  unfold asyncTraitAttribute
  cases boxed : service.interface.asyncTrait
  all_goals
    show Listing _ _ _ ([_] ++ [_])
    apply Listing.implementation
    case blocks =>
      rw [List.map_map]
      exact blocks
    case leads => repeat' first | with_reducible constructor | rfl
    case flat => cbv
    case isImplementation => cbv
    case attributed =>
      rw [Service.boxing, boxed]
      cbv
    case nothing => cbv

/-- The lines of the logging layer are read as its declarations. -/
theorem Service.loggingMiddleware_listing
    {service : Service}
    {path : ModulePath}
    (below : service.IsBelow path)
    (sound : service.IsSound)
    (readable : ∀ method ∈ service.methods, method.IsReadable) :
    Listing ';' (RowEntry.survey? routine?)
      ((service.layerOutlines "LoggingMiddleware").map (Outline.survey Routine.name))
      (Template.loggingMiddleware service) := by
  have owned : Line.Shows
      ["impl<S: ", .name service.name, "> ", .name service.name, " for ", .name service.name,
        "LoggingMiddleware<S>"] _ :=
    .fixed (.name sound.name (.fixed (.name sound.name (.fixed (.name sound.name (.fixed .nil))))))
  have logged := Listing.members (layerTokens service.name (service.name ++ "LoggingMiddleware"))
    owned (by rfl) (by rfl) fun method member =>
      loggedMethod_listing sound.name (readable method member) (sound.methods method member)
  obtain ⟨name, -, -, -, -, -⟩ := sound
  unfold Template.loggingMiddleware
  show Listing _ _ ([] ++ ([] ++ ([_, _] ++ [_]))) ([_] ++ ([_] ++ ([_, _, _, _, _, _] ++ [_, _])))
  refine Listing.append ?foreign (Listing.append (service.package_listing below)
    (Listing.append ?type ?methods))
  case foreign =>
    exact .known (.line (.fixed .nil) rfl .nil) ⟨by cbv, by cbv, by cbv⟩
  case type =>
    apply Listing.known
    · repeat' first | with_reducible constructor | with_reducible assumption | rfl
    · exact ⟨by cbv, by cbv, by cbv⟩
  case methods => exact service.layer_listing logged

/-- The lines of the tracing layer are read as its declarations. -/
theorem Service.tracingMiddleware_listing
    {service : Service}
    {path : ModulePath}
    (below : service.IsBelow path)
    (sound : service.IsSound)
    (readable : ∀ method ∈ service.methods, method.IsReadable) :
    Listing ';' (RowEntry.survey? routine?)
      ((service.layerOutlines "TracingMiddleware").map (Outline.survey Routine.name))
      (Template.tracingMiddleware service) := by
  have owned : Line.Shows
      ["impl<S: ", .name service.name, "> ", .name service.name, " for ", .name service.name,
        "TracingMiddleware<S>"] _ :=
    .fixed (.name sound.name (.fixed (.name sound.name (.fixed (.name sound.name (.fixed .nil))))))
  have spanned := Listing.members (layerTokens service.name (service.name ++ "TracingMiddleware"))
    owned (by rfl) (by rfl) fun method member =>
      spannedMethod_listing sound.prose (readable method member) (sound.methods method member)
  have instrumented : Listing ';' (RowEntry.survey? routine?) []
      [.when service.anyAsync ["use tracing::Instrument;"]] := by
    have imported : Listing ';' (RowEntry.survey? routine?) [] ["use tracing::Instrument;"] :=
      .known (.line (.fixed .nil) rfl .nil) ⟨by cbv, by cbv, by cbv⟩
    cases service.anyAsync with
    | false => exact Listing.when false imported
    | true => exact Listing.when true imported
  obtain ⟨name, -, -, -, -, -⟩ := sound
  unfold Template.tracingMiddleware
  show Listing _ _ ([] ++ ([] ++ ([_, _] ++ [_]))) ([_] ++ ([_] ++ ([_, _, _, _, _, _] ++ [_, _])))
  refine Listing.append (service.package_listing below) (Listing.append instrumented
    (Listing.append ?type ?methods))
  case type =>
    apply Listing.known
    · repeat' first | with_reducible constructor | with_reducible assumption | rfl
    · exact ⟨by cbv, by cbv, by cbv⟩
  case methods => exact service.layer_listing spanned

end Scaffold
