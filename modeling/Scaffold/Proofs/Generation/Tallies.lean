import Scaffold.Proofs.Artifact.Naming
import Scaffold.Proofs.Artifact.Tallies
import Scaffold.Proofs.Generation.Mirror

/-!
Contract: the declarations of the files that a job renders.

Owns:
- what is counted of the file of each kind for a service;
- that a file which the text of a kind spells declares no more than is counted.

Does not own: that the names of the declarations are apart.
-/

namespace Scaffold

open Source Source.Scan Artifact Text

/-! ### Kinds -/

/-- What is counted of the file of a kind. The error envelope and the set-up of tracing are the same
texts for every service, and nothing is counted of them. -/
def Service.tallies (service : Service) : ArtifactKind → List Tally
  | .implementation => service.implementationOutlines.filterMap (Outline.tally? Routine.name)
  | .loggingMiddleware =>
      (service.layerOutlines "LoggingMiddleware").filterMap (Outline.tally? Routine.name)
  | .tracingMiddleware =>
      (service.layerOutlines "TracingMiddleware").filterMap (Outline.tally? Routine.name)
  | .transport => service.transportOutlines.filterMap (Outline.tally? endpointName)
  | .httpAdapter => service.httpOutlines.filterMap (Outline.tally? Routine.name)
  | .natsAdapter => service.natsTallies
  | .config => configTallies
  | .httpEntryPoint => service.entryPointTallies
  | .errorEnvelope | .tracingSetup => []

/-- The kinds whose text depends on the service beyond its options. -/
def ArtifactKind.isCounted : ArtifactKind → Bool
  | .errorEnvelope | .tracingSetup => false
  | _ => true

/-- Declarations of two kinds for each element, sorted by the kind. -/
theorem perm_flatMap_pair
    {α β : Type}
    (first second : α → β)
    (elements : List α) :
    (elements.flatMap fun element => [first element, second element]).Perm
      (elements.map first ++ elements.map second) := by
  rw [← List.flatMap_singleton' (elements.map second), List.flatMap_map]
  exact (List.map_append_flatMap_perm elements first fun element => [second element]).symm

/-- The declarations that are counted are those of the forms of the kind. -/
theorem Service.perm_declared_tallies (service : Service) (kind : ArtifactKind) :
    ((service.tallies kind).filterMap Tally.declared).Perm (service.interface.declared kind) := by
  cases kind with
  | implementation =>
      simp only [tallies, implementationOutlines, List.filterMap_filterMap]
      cases service.methods <;> exact .refl _
  | loggingMiddleware | tracingMiddleware =>
      simp only [tallies, layerOutlines, List.filterMap_filterMap]
      cases service.methods <;> exact .refl _
  | transport =>
      have envelopes := perm_flatMap_pair
        (fun method => (⟨"struct", service.requestType method⟩ : Declared))
        (fun method => (⟨"struct", service.responseType method⟩ : Declared)) service.methods
      have counted : (service.tallies .transport).filterMap Tally.declared
          = ⟨"struct", service.name ++ "Endpoints"⟩ :: ⟨"fn", "make_" ++ service.snake ++ "_endpoints"⟩
            :: service.methods.flatMap fun method =>
              [⟨"struct", service.requestType method⟩, ⟨"struct", service.responseType method⟩] := by
        simp only [tallies, transportOutlines, List.filterMap_filterMap, List.filterMap_append,
          List.filterMap_flatMap]
        rfl
      rw [counted]
      refine ((envelopes.cons _).cons _).trans (.of_eq ?_)
      simp [Interface.declared, ArtifactKind.forms, NameForm.declared, NameForm.declare, Stem.texts,
        Function.comp_def,         requestType, responseType, methods, name, snake]
  | httpAdapter =>
      have handled := perm_flatMap_pair
        (fun method => (⟨"fn", service.handlerName method⟩ : Declared))
        (fun method => (⟨"fn", service.encoderName method⟩ : Declared)) service.methods
      have counted : (service.tallies .httpAdapter).filterMap Tally.declared
          = ⟨"fn", "register_" ++ service.snake ++ "_routes"⟩
            :: (service.methods.flatMap (fun method =>
              [⟨"fn", service.handlerName method⟩, ⟨"fn", service.encoderName method⟩])
              ++ [⟨"fn", "encode_" ++ service.snake ++ "_error"⟩]) := by
        simp [tallies, httpOutlines, List.filterMap_append, List.filterMap_flatMap, Outline.tally?,
          Tally.function]
      rw [counted]
      refine (((handled.append_right _).trans List.perm_append_comm).cons _).trans (.of_eq ?_)
      simp [Interface.declared, ArtifactKind.forms, NameForm.declared, NameForm.declare, Stem.texts,
        Function.comp_def,         handlerName, encoderName, methods, snake, String.append_assoc]
  | natsAdapter =>
      have counted : (service.tallies .natsAdapter).filterMap Tally.declared
          = ⟨"const", service.prefixName⟩ :: ⟨"fn", "register_" ++ service.snake ++ "_subscribers"⟩
            :: (service.methods.map (fun method => ⟨"fn", service.encoderName method⟩)
              ++ [⟨"fn", "encode_" ++ service.snake ++ "_error"⟩]) := by
        simp [tallies, natsTallies, List.filterMap_append, Tally.constant, Tally.function,
          List.filterMap_map]
      rw [counted]
      refine ((List.perm_append_comm.cons _).cons _).trans (.of_eq ?_)
      simp [Interface.declared, ArtifactKind.forms, NameForm.declared, NameForm.declare, Stem.texts,
        Function.comp_def,         prefixName, encoderName, methods, name, snake, String.append_assoc]
  | config | httpEntryPoint | errorEnvelope | tracingSetup => exact .refl _

/-- The members of an implementation. -/
def Source.Outline.members {α : Type} : Outline α → List α
  | .implementation _ _ _ members => members
  | _ => []

/-- The functions that are counted of declarations are the members of these. -/
theorem nodup_functions_of_outlines
    {α : Type}
    {name : α → String}
    {found : List (Outline α)}
    (apart : ∀ outline ∈ found, (outline.members.map name).Nodup) :
    ∀ tally ∈ found.filterMap (Outline.tally? name), tally.functions.Nodup := by
  intro tally counted
  obtain ⟨outline, member, counted⟩ := List.mem_filterMap.mp counted
  cases outline with
  | routine | struct =>
      cases counted
      exact List.nodup_nil
  | implementation =>
      obtain ⟨-, same⟩ := Option.ite_none_left_eq_some.mp counted
      cases same
      exact apart _ member

/-- No block that is counted has a function twice. -/
theorem Service.nodup_functions_of_tallies
    {service : Service}
    {kind : ArtifactKind}
    (apart : service.interface.HasApartNames)
    (named : (service.methods.map Method.name).Nodup) :
    ∀ tally ∈ service.tallies kind, tally.functions.Nodup := by
  have routines : ((service.methods.map Method.routine).map Routine.name).Nodup := by
    rwa [List.map_map]
  have constructors : ["success", "failure", "failed"].Nodup := by decide
  have endpoints : ((service.methods.map endpointOutline).map endpointName).Nodup := by
    rwa [List.map_map]
  cases kind with
  | implementation =>
      apply nodup_functions_of_outlines
      rw [implementationOutlines, List.forall_mem_append, List.forall_mem_cons, List.forall_mem_singleton]
      refine ⟨⟨List.nodup_nil, List.nodup_singleton _⟩, fun outline member => ?_⟩
      obtain rfl := List.mem_singleton.mp (List.mem_ite_nil_right.mp member).2
      exact routines
  | loggingMiddleware | tracingMiddleware =>
      apply nodup_functions_of_outlines
      simp only [layerOutlines, List.forall_mem_cons, List.not_mem_nil, false_implies, implies_true,
        and_true]
      exact ⟨List.nodup_nil, List.nodup_singleton _, routines⟩
  | transport =>
      apply nodup_functions_of_outlines
      have accessor : "service" ∉ (service.methods.map endpointOutline).map endpointName := by
        rw [List.map_map]
        intro member
        obtain ⟨method, isMethod, same⟩ := List.mem_map.mp member
        exact apart.accessor method isMethod same
      simp only [transportOutlines, envelopeOutlines, List.forall_mem_append, List.forall_mem_cons,
        List.not_mem_nil, false_implies, implies_true, and_true, List.forall_mem_flatMap]
      refine ⟨⟨List.nodup_nil, List.nodup_singleton _, List.nodup_nil, ?_⟩, fun method _ => ?_⟩
      · exact List.nodup_cons.mpr ⟨accessor, endpoints⟩
      · exact ⟨List.nodup_nil, List.nodup_nil, constructors⟩
  | httpAdapter =>
      apply nodup_functions_of_outlines
      simp only [httpOutlines, List.forall_mem_append, List.forall_mem_cons, List.not_mem_nil,
        false_implies, implies_true, and_true, List.forall_mem_flatMap]
      exact ⟨List.nodup_nil, fun _ _ => ⟨List.nodup_nil, List.nodup_nil⟩, List.nodup_nil⟩
  | natsAdapter =>
      simp only [tallies, natsTallies, List.forall_mem_append, List.forall_mem_cons, List.not_mem_nil,
        false_implies, implies_true, and_true, List.forall_mem_map]
      exact ⟨List.nodup_nil, List.nodup_nil, fun _ _ => List.nodup_nil, List.nodup_nil⟩
  | config | httpEntryPoint | errorEnvelope | tracingSetup =>
      simp [tallies, configTallies, entryPointTallies, Tally.function, Tally.struct, Tally.constant,
        Tally.block]

/-- A file that is read of all the tokens of a text declares what their entries do. -/
theorem Source.SourceFile.isReadFrom_of_readAll
    {row : List Token}
    {file : SourceFile}
    (reads : readAll fileContent row = some file) :
    file.IsReadFrom row := by
  unfold readAll at reads
  split at reads
  · next whole =>
      cases reads
      exact isReadFrom_of_fileContent whole
  · contradiction

section Service

variable
  {declaration : ServiceTrait}
  {package : String}
  {service : Service}
  {path : ModulePath}
  {kind : ArtifactKind}

/-- The lines of a kind are counted, for a plain trait with flat heads in a package whose name ends no
string. -/
theorem Service.listing_tallies
    (accepted : Interface.ofTrait declaration package = .ok service.interface)
    (plain : declaration.IsPlain)
    (heads : declaration.HasFlatHeads)
    (below : service.IsBelow path)
    (described : ∀ char ∈ package.toList, char ∉ specialChars)
    (counted : kind.isCounted = true) :
    Listing ';' RowEntry.tally? (service.tallies kind) (kind.code service) := by
  have sound : service.IsSound := Service.isSound_of_isPlain accepted plain described
  have readable : ∀ method ∈ service.methods, method.IsReadable := fun _ member =>
    (Method.isReadable_of_mem accepted plain heads member).1
  have letters : ∀ method ∈ service.methods, ∀ char ∈ method.name.toList, continuesIdentifier char = true :=
    fun _ member => (Method.isReadable_of_mem accepted plain heads member).2
  obtain ⟨methods, found, same⟩ := Interface.ofTrait_eq_ok_iff.mp accepted
  have snake : isWord service.snake = true := by
    rw [Service.snake, same]
    exact plain.snake
  have named : service.interface.package = package := by rw [same]
  cases kind with
  | implementation => exact (service.implementation_listing below sound readable).tallies
  | loggingMiddleware => exact (service.loggingMiddleware_listing below sound readable).tallies
  | tracingMiddleware => exact (service.tracingMiddleware_listing below sound readable).tallies
  | transport => exact (service.transport_listing below sound readable).tallies
  | httpAdapter => exact (service.httpAdapter_listing below sound snake letters).tallies
  | natsAdapter => exact natsAdapter_tallied below sound snake letters
  | config => exact config_tallied (by rwa [named])
  | httpEntryPoint => exact httpEntryPoint_tallied below sound
  | errorEnvelope | tracingSetup => contradiction

/-- The file of a kind declares no more than is counted. -/
theorem Service.isWithin_tallies
    (accepted : Interface.ofTrait declaration package = .ok service.interface)
    (plain : declaration.IsPlain)
    (heads : declaration.HasFlatHeads)
    (below : service.IsBelow path)
    (described : ∀ char ∈ package.toList, char ∉ specialChars)
    (counted : kind.isCounted = true)
    {file : SourceFile}
    (spelled : service.fragment kind = .ok file) :
    file.IsWithin (service.tallies kind) := by
  obtain ⟨row, scanned, reads⟩ := Option.bind_eq_some_iff.mp (fragment_eq_ok_iff.mp spelled)
  have lists := service.enlists_of_row? scanned
    (service.listing_tallies accepted plain heads below described counted)
  exact SourceFile.isWithin_of_sketch (SourceFile.isReadFrom_of_readAll reads) lists.filterMap_entries

end Service

end Scaffold
