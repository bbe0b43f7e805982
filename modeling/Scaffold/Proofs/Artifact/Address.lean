import Scaffold.Generation.Build
import Scaffold.Proofs.Artifact.Block
import Scaffold.Proofs.Interface.Acceptance
import Scaffold.Proofs.Text.Spellings

/-!
Contract: the addresses at which the methods of services are reached.

Owns:
- the routes that the text of the HTTP adapter registers, and the subjects that the text of the NATS
  adapter subscribes to;
- when two methods share an address.

Does not own: the handlers behind the addresses.
-/

namespace Scaffold

open Source Artifact

/-! ### Routes -/

theorem Artifact.indent_of_ne_empty
    {text : String}
    (nonempty : text ≠ "") :
    indent text = "    " ++ text := by
  rw [indent, if_neg nonempty]
  rfl

/-- The route of a method. -/
def Method.route (method : Method) : String :=
  "/" ++ Text.kebabCase method.name

/-- The lines that make the router of a service, with a route for each method and nothing else. -/
def Service.routerLines (service : Service) : List String :=
  "Router::new()"
    :: (service.methods.map fun method =>
        "    .route(\"" ++ method.route ++ "\", post(" ++ service.handlerName method ++ "::<S>))")
    ++ ["    .with_state(endpoints)"]

/-- The HTTP adapter of a service makes its router. -/
theorem Service.holds_routerLines (service : Service) :
    Code.Holds (Template.httpAdapter service) service.routerLines := by
  have isRouter := Code.holds_textLines [Code.hang ["Router::new()"]
    [.each service.methods fun method =>
      [.line [".route(\"/", .prose (Text.kebabCase method.name), "\", post(",
        .code (service.handlerName method), "::<S>))"]],
      ".with_state(endpoints)"]]
  rw [Code.textLines_hang, Code.textLines_cons, Code.textLines_each, Code.textLines_line, List.map_append,
    List.map_map] at isRouter
  have opening : Line.text ["Router::new()"] = "Router::new()" := by
    simp [Line.text, Piece.text]
  have closing : [Line.text [".with_state(endpoints)"]].map indent = ["    .with_state(endpoints)"] := by
    decide
  have route (method : Method) :
      indent (Line.text [".route(\"/", .prose (Text.kebabCase method.name), "\", post(",
          .code (service.handlerName method), "::<S>))"])
        = "    .route(\"" ++ method.route ++ "\", post(" ++ service.handlerName method ++ "::<S>))" := by
    have text : Line.text [".route(\"/", .prose (Text.kebabCase method.name), "\", post(",
          .code (service.handlerName method), "::<S>))"]
        = ".route(\"" ++ (method.route ++ "\", post(" ++ service.handlerName method ++ "::<S>))") := by
      simp [Line.text, Piece.text, Method.route, String.append_assoc]
      rfl
    rw [text, indent_of_ne_empty (by simp), ← String.append_assoc]
    simp only [String.append_assoc]
    rfl
  rw [opening, closing, Function.comp_def, funext route] at isRouter
  exact (Code.Holds.nest isRouter "\x7b" "\x7d").of_mem (by simp [Template.httpAdapter])

/-! ### Subjects -/

/-- The subject that the calls of a method are published on. -/
def Service.subject (service : Service) (method : Method) : String :=
  service.snake ++ "." ++ method.name

/-- The subjects of all methods of a service. -/
def Service.subjects (service : Service) : List String :=
  service.methods.map service.subject

/-- The line that declares what the subjects of a service begin with. -/
def Service.prefixLine (service : Service) : String :=
  "pub const " ++ service.prefixName ++ ": &str = \"" ++ service.snake ++ "\";"

/-- The lines that subscribe to the subject of a method. -/
def Service.subscriptionLines (service : Service) (method : Method) : List String :=
  ["let mut subscriber = client",
    "    .queue_subscribe(",
    "        format!(\"\x7b\x7d." ++ method.name ++ "\", " ++ service.prefixName ++ "),",
    "        " ++ service.prefixName ++ ".to_string(),",
    "    )",
    "    .await?;"]

/-- The NATS adapter of a service declares its prefix. -/
theorem Service.holds_prefixLine (service : Service) :
    Code.Holds (Template.natsAdapter service) [service.prefixLine] := by
  have isLine := Code.holds_textLines [Code.line
    ["pub const ", .code service.prefixName, ": &str = \"", .prose service.snake, "\";"]]
  have text : Line.text ["pub const ", .code service.prefixName, ": &str = \"", .prose service.snake, "\";"]
      = service.prefixLine := by
    simp [Line.text, Piece.text, prefixLine, String.append_assoc]
  rw [Code.textLines_line, text] at isLine
  exact isLine.of_mem (by simp [Template.natsAdapter])

/-- The NATS adapter of a service subscribes to the subject of each method. -/
theorem Service.holds_subscriptionLines
    {service : Service}
    {method : Method}
    (declared : method ∈ service.methods) :
    Code.Holds (Template.natsAdapter service) (service.subscriptionLines method) := by
  have subject : Line.text
        ["format!(\"\x7b\x7d.", .name method.name, "\", ", .code service.prefixName, "),"]
      = "format!(\"\x7b\x7d." ++ method.name ++ "\", " ++ service.prefixName ++ ")," := by
    simp [Line.text, Piece.text, String.append_assoc]
  have group : Line.text [.code service.prefixName, ".to_string(),"]
      = service.prefixName ++ ".to_string()," := by
    simp [Line.text, Piece.text]
  have call := Code.textLines_nest [".queue_subscribe("] [")"]
    [.line ["format!(\"\x7b\x7d.", .name method.name, "\", ", .code service.prefixName, "),"],
      .line [.code service.prefixName, ".to_string(),"]]
  have isSubscription := Code.holds_textLines [Code.hang ["let mut subscriber = client"]
    [.nest [".queue_subscribe("]
      [.line ["format!(\"\x7b\x7d.", .name method.name, "\", ", .code service.prefixName, "),"],
        .line [.code service.prefixName, ".to_string(),"]]
      [")"],
      ".await?;"]]
  have lines : Code.textLines [Code.hang ["let mut subscriber = client"]
      [.nest [".queue_subscribe("]
        [.line ["format!(\"\x7b\x7d.", .name method.name, "\", ", .code service.prefixName, "),"],
          .line [.code service.prefixName, ".to_string(),"]]
        [")"],
        ".await?;"]]
      = service.subscriptionLines method := by
    rw [Code.textLines_hang, Code.textLines_cons, call, Code.textLines_cons (.line _), Code.textLines_line,
      Code.textLines_line, Code.textLines_line, subject, group]
    have twice (text : String) : "    " ++ ("    " ++ text) = "        " ++ text := by
      rw [← String.append_assoc]
      rfl
    simp [indent_of_ne_empty, subscriptionLines, Line.text, Piece.text, String.append_assoc, twice]
    rw [← String.append_assoc]
    rfl
  rw [lines] at isSubscription
  have ofMethod : Code.Holds (Template.natsSubscription service method) (service.subscriptionLines method) :=
    isSubscription.of_mem (List.mem_cons_self ..)
  have inBody : Code.Holds [.each service.methods (Template.natsSubscription service), "Ok(())"]
      (service.subscriptionLines method) :=
    (ofMethod.each declared).of_mem (List.mem_cons_self ..)
  exact (inBody.nest "\x7b" "\x7d").of_mem (by simp [Template.natsAdapter])

/-! ### Shared addresses -/

theorem nodup_map_congr
    {α β γ : Type}
    {left : α → β}
    {right : α → γ}
    (same : ∀ first second, left first = left second ↔ right first = right second)
    (elements : List α) :
    (elements.map left).Nodup ↔ (elements.map right).Nodup := by
  simp only [List.Nodup, List.pairwise_map, ne_eq, same]

/-- Two methods have one route exactly if their names have the same words in lower case. -/
theorem Method.route_eq_iff {first second : Method} :
    first.route = second.route ↔ Text.lowerWords first.name = Text.lowerWords second.name := by
  rw [route, route, String.append_right_inj, Text.kebabCase_eq_iff]

/-- Two methods have one subject exactly if they have one name and the names of their interfaces have
the same words in lower case. -/
theorem Service.subject_eq_iff
    {first second : Service}
    {method other : Method} :
    first.subject method = second.subject other
      ↔ Text.lowerWords first.name = Text.lowerWords second.name ∧ method.name = other.name := by
  have spelled (service : Service) (method : Method) :
      (service.subject method).toList = service.snake.toList ++ '.' :: method.name.toList := by
    simp [subject, String.toList_append]
  -- Nothing in a name in snake case is a dot, so the first piece between dots is this name.
  have firstPiece (service : Service) (method : Method) :
      Text.splitAtAll (· == '.') (service.subject method).toList
        = service.snake.toList :: Text.splitAtAll (· == '.') method.name.toList := by
    have whole : ∀ char ∈ service.snake.toList, (char == '.') = false := by
      intro char member
      refine beq_false_of_ne fun isDot => ?_
      exact Text.mark_not_mem_snakeCase (by decide) (by decide) service.name (isDot ▸ member)
    rw [spelled, Text.splitAtAll_append_cons (· == '.') _ _ '.' rfl,
      Text.splitAtAll_of_forall_not whole, List.singleton_append]
  rw [← Text.snakeCase_eq_iff]
  constructor
  · intro same
    have pieces := congrArg (fun text => Text.splitAtAll (· == '.') text.toList) same
    simp only [firstPiece, List.cons.injEq] at pieces
    have snakes : first.snake = second.snake := String.toList_inj.mp pieces.1
    have texts := congrArg String.toList same
    rw [spelled, spelled, pieces.1] at texts
    exact ⟨snakes, String.toList_inj.mp (List.cons.inj (List.append_cancel_left texts)).2⟩
  · rintro ⟨sameSnake, sameName⟩
    have snakes : first.snake = second.snake := sameSnake
    rw [subject, subject, snakes, sameName]

/-- The methods of the interface of a job have distinct names. -/
theorem Job.names_nodup
    {job : Job}
    {service : Service}
    (accepted : job.service = .ok service) :
    (service.methods.map Method.name).Nodup := by
  obtain ⟨interface, isInterface, returned⟩ := except_bind_eq_ok.mp accepted
  cases returned
  exact Interface.names_nodup isInterface

/-- Where services are reached. The text of the HTTP adapter registers a route for each method and
nothing else, and these are distinct exactly if the words of the names of the methods are, in lower
case. The text of the NATS adapter subscribes to the subject of each method, and over all services
these are distinct exactly if no two services, the words of whose names are the same in lower case, have
methods of one name. -/
theorem Service.addresses_nodup_iff
    {services : List Service}
    (accepted : ∀ service ∈ services, ∃ job : Job, job.service = .ok service) :
    (∀ service ∈ services,
        HasLines (ArtifactKind.httpAdapter.render service) service.routerLines
          ∧ ((service.methods.map Method.route).Nodup
            ↔ (service.methods.map fun method => Text.lowerWords method.name).Nodup)
          ∧ HasLines (ArtifactKind.natsAdapter.render service) [service.prefixLine]
          ∧ ∀ method ∈ service.methods,
            HasLines (ArtifactKind.natsAdapter.render service) (service.subscriptionLines method))
      ∧ ((services.flatMap Service.subjects).Nodup
        ↔ services.Pairwise fun first second =>
          Text.lowerWords first.name = Text.lowerWords second.name →
            ∀ method ∈ first.methods, ∀ other ∈ second.methods, method.name ≠ other.name) := by
  constructor
  · intro service _
    exact ⟨service.holds_routerLines.hasLines, nodup_map_congr (fun _ _ => Method.route_eq_iff) _,
      service.holds_prefixLine.hasLines, fun method declared =>
        (Service.holds_subscriptionLines declared).hasLines⟩
  · have ofOne : ∀ service ∈ services, service.subjects.Nodup := by
      intro service member
      obtain ⟨job, isService⟩ := accepted service member
      have same (first second : Method) :
          service.subject first = service.subject second ↔ first.name = second.name := by
        simp [subject_eq_iff]
      exact (nodup_map_congr same _).mpr (Job.names_nodup isService)
    rw [List.nodup_flatMap, and_iff_right ofOne]
    refine List.Pairwise.iff ?_
    intro first second
    simp only [Function.onFun, List.disjoint_left, subjects, List.mem_map, not_exists, not_and,
      forall_exists_index, and_imp, forall_apply_eq_imp_iff₂, Service.subject_eq_iff]
    constructor
    · intro apart sameWords method declared other otherDeclared sameName
      exact apart method declared other otherDeclared sameWords.symm sameName.symm
    · intro apart method declared other otherDeclared sameWords sameName
      exact apart sameWords.symm method declared other otherDeclared sameName.symm

/-- The job of the trait `trait <name> { fn get_user(&self); fn getUser(&self); }`. -/
def clashingJob (name : String) : Job :=
  let method (name : String) : Node .signature :=
    .functionSignature ⟨false, false, false, none⟩ name (.genericList false .nil false .absent false)
      (.ofList [.selfParameter .nil (some none) false .absent]) false .absent
  ⟨⟨name, [method "get_user", method "getUser"], false⟩, ⟨"crate::users", "users"⟩, .ofOptions [.http, .nats]⟩

/-- Distinct names do not make the addresses distinct: the two methods of each trait share a route, and
the two traits share their subjects. -/
theorem Service.addresses_clash :
    ∃ services : List Service, (∀ service ∈ services, ∃ job : Job, job.service = .ok service)
      ∧ (services.map Service.name).Nodup
      ∧ (∀ service ∈ services, (service.methods.map Method.name).Nodup
        ∧ ¬(service.methods.map Method.route).Nodup)
      ∧ ¬(services.flatMap Service.subjects).Nodup := by
  obtain ⟨first, isFirst⟩ : ∃ service, (clashingJob "UserStore").service = .ok service := ⟨_, rfl⟩
  obtain ⟨second, isSecond⟩ : ∃ service, (clashingJob "User_Store").service = .ok service := ⟨_, rfl⟩
  have accepted : ∀ service ∈ [first, second], ∃ job : Job, job.service = .ok service := by
    simpa using ⟨⟨_, isFirst⟩, ⟨_, isSecond⟩⟩
  obtain ⟨ofEach, subjects⟩ := Service.addresses_nodup_iff accepted
  refine ⟨[first, second], accepted, ?_, fun service member => ⟨?_, ?_⟩, ?_⟩
  · cases isFirst
    cases isSecond
    decide
  · obtain ⟨job, isService⟩ := accepted service member
    exact Job.names_nodup isService
  · rw [(ofEach service member).2.1]
    cases isFirst
    cases isSecond
    simp only [List.mem_cons, List.not_mem_nil, or_false] at member
    rcases member with rfl | rfl
    · decide
    · decide
  · rw [subjects]
    cases isFirst
    cases isSecond
    intro apart
    exact List.rel_of_pairwise_cons apart (List.mem_singleton.mpr rfl) (by decide)
      _ List.mem_cons_self _ List.mem_cons_self rfl

end Scaffold
