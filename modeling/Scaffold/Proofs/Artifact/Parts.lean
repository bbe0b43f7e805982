import Scaffold.Artifact.Service
import Scaffold.Artifact.Template.Config
import Scaffold.Proofs.Artifact.Fragment
import Scaffold.Proofs.Interface.Names
import Scaffold.Proofs.Text.Words

/-!
Contract: the parts that the lines of a service are made of.

Owns:
- what makes the names and the texts of a service what the templates take them for;
- traits that are plain: their names are words, and their signatures legible;
- that the service of a plain trait is what the templates take it for.

Does not own: the lines.
-/

namespace Scaffold

open Source Source.Scan Artifact Text

/-! ### Services -/

/-- The texts of a method are what the templates take them for. -/
structure Method.IsSound (service : Service) (method : Method) : Prop where
  name : Glyph.IsSound (.name method.name)
  route : Glyph.IsSound (.prose (Text.kebabCase method.name))
  request : Glyph.IsSound (.name (service.requestType method))
  response : Glyph.IsSound (.name (service.responseType method))
  handler : Glyph.IsSound (.code (service.handlerName method))
  encoder : Glyph.IsSound (.code (service.encoderName method))
  signature : Glyph.IsSound (.code method.signature)
  called : Glyph.IsSound (.code method.callArguments)
  requested : Glyph.IsSound (.code method.requestArguments)
  logged : Glyph.IsSound
    (.code (String.join (method.arguments.map fun argument => s!"&{argument.name}, ")))
  value : Glyph.IsSound (.code method.valueType)
  parameters : ∀ parameter ∈ method.forwarded,
    Glyph.IsSound (.name parameter.name) ∧ Glyph.IsSound (.code parameter.type.text)

/-- The texts of a service are what the templates take them for. -/
structure Service.IsSound (service : Service) : Prop where
  name : Glyph.IsSound (.name service.name)
  inner : Glyph.IsSound (.inner service.snake)
  prose : Glyph.IsSound (.prose service.snake)
  prefixed : Glyph.IsSound (.name service.prefixName)
  description : Glyph.IsSound (.code (Template.description service.interface.package))
  methods : ∀ method ∈ service.methods, method.IsSound service

/-! ### Names -/

theorem hasIdentifierLetters_of_isWord {name : String} (word : isWord name = true) :
    Text.HasIdentifierLetters name := by
  intro char member letter
  have within := isWordChar_of_isWord word char member
  rw [isWordChar, Bool.or_eq_true, Bool.or_eq_true, beq_iff_eq] at within
  rcases within with (continues | starts) | rfl
  · exact continues
  · exact Literal.continues_of_startsWord starts
  · exact absurd letter (by decide)

theorem not_special_of_continues
    {char : Char}
    (continues : continuesIdentifier char = true) :
    char ∉ specialChars :=
  not_special_of_isWordChar (by rw [isWordChar, continues, Bool.true_or, Bool.true_or])

theorem continues_append
    {front back : String}
    (continues : ∀ char ∈ front.toList, continuesIdentifier char = true)
    (continuesBack : ∀ char ∈ back.toList, continuesIdentifier char = true) :
    ∀ char ∈ (front ++ back).toList, continuesIdentifier char = true := by
  intro char member
  rw [String.toList_append] at member
  rcases List.mem_append.mp member with inFront | inBack
  · exact continues char inFront
  · exact continuesBack char inBack

/-- A word that runs on by letters is one that begins no import. -/
theorem isSound_append
    {name whole : String}
    (word : isWord name = true)
    (more : String)
    (continues : ∀ char ∈ more.toList, continuesIdentifier char = true)
    (long : 6 ≤ more.toList.length)
    (spelled : name ++ more = whole) :
    Glyph.IsSound (.name whole) := by
  have same : String.ofList (name.toList ++ more.toList) = whole := by
    rw [← spelled, ← String.toList_inj, String.toList_ofList, String.toList_append]
  rw [← same]
  exact ⟨isWord_append word continues long, IsCode.ofList_ne_use (by rw [List.length_append]; omega)⟩

/-- A name between letters that begin with a word. -/
theorem isSound_spliced
    {front name back : String}
    {first : Char}
    {letters : List Char}
    (word : isWord name = true)
    (begins : front.toList = first :: letters)
    (starts : Literal.startsWord first = true)
    (continues : ∀ char ∈ letters, continuesIdentifier char = true)
    (something : letters ≠ [])
    (continuesBack : ∀ char ∈ back.toList, continuesIdentifier char = true)
    (long : 3 ≤ back.toList.length) :
    Glyph.IsSound (.code (front ++ name ++ back)) := by
  have code := IsCode.spliced starts continues something word continuesBack long
  show IsCode (front ++ name ++ back).toList
  simpa [begins] using code

/-! ### Traits -/

/-- The names that a trait declares are words that begin no import, in every spelling that is asked
for, and its signatures are legible and hold no such word. -/
structure ServiceTrait.IsPlain (declaration : ServiceTrait) : Prop where
  name : isWord declaration.name = true
  other : declaration.name ≠ "use"
  snake : isWord (Text.snakeCase declaration.name) = true
  shouty : isWord (Text.shoutySnakeCase declaration.name) = true
  legible : ∀ signature ∈ declaration.signatures, signature.named.IsLegible
  noImport : ∀ signature ∈ declaration.signatures, .word "use" ∉ signature.named.tokens

/-! ### Texts of a method -/

theorem Service.isCode_handlerName
    {service : Service}
    {method : Method}
    (snake : isWord service.snake = true)
    (inner : Glyph.IsSound (.inner service.snake))
    (word : isWord method.name = true) :
    Glyph.IsSound (.code (service.handlerName method)) := by
  obtain ⟨first, tail, begins, starts, -⟩ := exists_start_of_isWord (ends_of_stops stops_nil) snake
  have front : (service.snake ++ "_").toList = first :: (tail ++ ['_']) := by simp [begins]
  have continues : ∀ char ∈ tail, continuesIdentifier char = true := fun char member =>
    inner char (by rw [begins]; exact List.mem_cons_of_mem _ member)
  have mark : continuesIdentifier '_' = true := by decide
  refine isSound_spliced word front starts ?_ (by simp) (List.all_eq_true.mp (by decide)) (by decide)
  simpa [or_imp, forall_and, mark] using continues

theorem Service.isCode_encoderName
    {service : Service}
    {method : Method}
    (inner : Glyph.IsSound (.inner service.snake))
    (word : isWord method.name = true) :
    Glyph.IsSound (.code (service.encoderName method)) := by
  have front : ("encode_" ++ service.snake ++ "_").toList
      = 'e' :: ("ncode_".toList ++ (service.snake.toList ++ ['_'])) := by simp
  refine isSound_spliced word front (by decide) ?_ (by simp) (List.all_eq_true.mp (by decide))
    (by decide)
  have lead : ∀ char ∈ "ncode_".toList, continuesIdentifier char = true :=
    List.all_eq_true.mp (by decide)
  intro char member
  rcases List.mem_append.mp member with inLead | behind
  · exact lead char inLead
  · rcases List.mem_append.mp behind with inSnake | isMark
    · exact inner char inSnake
    · rw [List.mem_singleton.mp isMark]
      decide

/-- The name of a method in pascal case between a word and a fixed ending. -/
theorem Method.isSound_envelopeName
    {name ending whole : String}
    {method : Method}
    (word : isWord name = true)
    (letters : Text.HasIdentifierLetters method.name)
    (long : 6 ≤ (method.pascalName ++ ending).toList.length)
    (continues : ending.toList.all continuesIdentifier = true)
    (spelled : whole = name ++ (method.pascalName ++ ending)) :
    Glyph.IsSound (.name whole) :=
  isSound_append word _
    (continues_append (Text.continues_pascalCase letters) (List.all_eq_true.mp continues)) long
    spelled.symm

/-- The values that are forwarded to a method have names that are words and begin no import. -/
def Method.ForwardsWords (method : Method) : Prop :=
  ∀ parameter ∈ method.forwarded, isWord parameter.name = true ∧ parameter.name ≠ "use"

namespace Method.ForwardsWords

variable {method : Method} (words : method.ForwardsWords)

include words

theorem isWord_of_mem_map
    {name : String}
    (member : name ∈ method.forwarded.map Parameter.name) :
    isWord name = true ∧ name ≠ "use" := by
  obtain ⟨parameter, isForwarded, rfl⟩ := List.mem_map.mp member
  exact words parameter isForwarded

theorem isCode_callArguments : IsCode method.callArguments.toList :=
  IsCode.joined fun _ member =>
    IsCode.word (words.isWord_of_mem_map member).1 (words.isWord_of_mem_map member).2

theorem isCode_requestArguments : IsCode method.requestArguments.toList := by
  apply IsCode.joined
  intro part member
  rcases List.mem_append.mp member with isContext | isArgument
  · have inNames : part ∈ method.forwarded.map Parameter.name := by
      rw [Method.forwarded, List.map_append]
      exact List.mem_append_left _ isContext
    exact IsCode.word (words.isWord_of_mem_map inNames).1 (words.isWord_of_mem_map inNames).2
  · obtain ⟨argument, inArguments, rfl⟩ := List.mem_map.mp isArgument
    have known := words argument (List.mem_append_right _ inArguments)
    have code := IsCode.field (by decide : isWord "request" = true) (by decide)
      (IsCode.word known.1 known.2)
    simpa using code

/-- The arguments as a log borrows them, each with a comma behind it. -/
theorem isCode_logged :
    IsCode (String.join (method.arguments.map fun argument => s!"&{argument.name}, ")).toList := by
  have spelled : method.arguments.map (fun argument => s!"&{argument.name}, ")
      = (method.arguments.map fun argument => "&" ++ argument.name).map (· ++ ", ") := by
    rw [List.map_map]
    rfl
  rw [spelled]
  apply IsCode.listed
  intro part member
  obtain ⟨argument, inArguments, rfl⟩ := List.mem_map.mp member
  have known := words argument (List.mem_append_right _ inArguments)
  have code : IsCode ('&' :: argument.name.toList) :=
    (IsCode.word known.1 known.2).behindMark (by decide) (by decide) (by decide)
  simpa using code

end Method.ForwardsWords

theorem Method.isCode_valueType
    {method : Method}
    (outputs : ∀ result ∈ method.results, IsCode result.type.text.toList) :
    IsCode method.valueType.toList := by
  unfold Method.valueType
  split
  · exact IsCode.nil.group
  · next same => exact outputs _ (by simp [same])
  · next same => exact outputs _ (by simp [same])
  · next many _ =>
      have code : IsCode (joinedBy ", " (method.results.map fun result => result.type.text)).toList := by
        apply IsCode.joined
        intro part member
        obtain ⟨result, inResults, rfl⟩ := List.mem_map.mp member
        exact outputs result inResults
      simpa using code.group

/-! ### Methods -/

section Method

variable
  {interface : String}
  {signature : Node .signature}
  {method : Method}
  (accepted : Method.ofSignature interface signature = .ok method)
  (legible : signature.named.IsLegible)
  (noImport : .word "use" ∉ signature.named.tokens)

include legible noImport

theorem isSound_of_mem_named
    {name : String}
    (member : .word name ∈ signature.named.tokens) :
    isWord name = true ∧ name ≠ "use" := by
  refine ⟨Node.isWord_of_mem_named legible member, ?_⟩
  rintro rfl
  exact noImport member

theorem isCode_of_isWordedBy
    {reference : TypeRef}
    (worded : reference.IsWordedBy signature.named.tokens) :
    IsCode reference.text.toList := by
  rcases worded with unit | ⟨names, something, spelled, inRow⟩
  · rw [unit]
    exact IsCode.nil.group
  · rw [spelled]
    exact IsCode.path something fun name member =>
      isSound_of_mem_named legible noImport (inRow name member)

include accepted

omit noImport in
/-- The signature of a method as text spells what it states, in front of a semicolon. -/
theorem Method.spells_of_ofSignature :
    Token.Spells (signature.named.stated.tokens ++ Token.marks ";")
      (method.signature.toList ++ [';']) := by
  cases signature with
  | functionSignature head name generics parameters trailing output =>
      obtain ⟨word, lead, conditions, inputs, outputs⟩ := legible
      rw [Node.toList_ofList] at inputs
      have text := signature_of_ofSignature accepted
      rw [String.toList_append] at text
      show Token.Spells _ (method.signature.toList ++ ";".toList)
      rw [text]
      exact spells_signature word lead.isRow conditions.isRow
        (fun parameter member => (inputs parameter member).isRow)
        fun type member => (outputs type member).isRow

/-- The signature of a method as text is whole tokens. -/
theorem Method.isCode_signature : IsCode method.signature.toList := by
  have spells := Method.spells_of_ofSignature accepted legible
  have stated : .word "use" ∉ signature.named.stated.tokens := by
    intro member
    rcases Node.word_mem_of_mem_stated member with same | same | within
    · exact absurd same (by decide)
    · exact absurd same (by decide)
    · exact noImport within
  cases signature with
  | functionSignature head name generics parameters trailing output =>
      have text := signature_of_ofSignature accepted
      obtain ⟨word, lead, conditions, inputs, outputs⟩ := legible
      rw [Node.toList_ofList] at inputs
      have inputRows : ∀ parameter ∈ nameWildcards 0 parameters.toList,
          Token.IsRow parameter.tokens := fun parameter member => (inputs parameter member).isRow
      have outputRows : ∀ type ∈ output.toOption, Token.IsRow type.tokens :=
        fun type member => (outputs type member).isRow
      have fixedRows : ∀ parameter ∈ (fixedParameters (nameWildcards 0 parameters.toList) trailing).1,
          Token.IsRow parameter.tokens := fun parameter member =>
        inputRows parameter (List.mem_of_mem_filter member)
      have balanced := balanced_signature head.isAsync name
        (fixedParameters (nameWildcards 0 parameters.toList) trailing).2 lead.isRow conditions.isRow
        fixedRows outputRows
      rw [Token.openBehind_append, ← Node.stated_functionSignature head] at balanced
      have ended : (fun behind => Token.openBehind behind (Token.marks ";")) = some := rfl
      rw [ended, Option.bind_fun_some] at balanced
      refine IsCode.of_spells spells ?_ ⟨stated, balanced⟩
      have begins : (method.signature ++ ";").toList.head? ≠ some '/' := by
        rw [text]
        cases head.isAsync <;> simp
      rw [String.toList_append] at begins
      cases spelled : method.signature.toList with
      | nil => simp
      | cons first behind =>
          rw [spelled] at begins
          exact begins

theorem Method.isSound_of_ofSignature
    {service : Service}
    (name : Glyph.IsSound (.name service.name))
    (snake : isWord service.snake = true)
    (inner : Glyph.IsSound (.inner service.snake)) :
    method.IsSound service := by
  obtain ⟨isName, inputs, outputs⟩ := Method.names_of_ofSignature accepted
  have isName := isSound_of_mem_named legible noImport isName
  have inputs : ∀ parameter ∈ method.forwarded,
      (isWord parameter.name = true ∧ parameter.name ≠ "use") ∧ IsCode parameter.type.text.toList :=
    fun parameter member =>
      ⟨isSound_of_mem_named legible noImport (inputs parameter member).1,
        isCode_of_isWordedBy legible noImport (inputs parameter member).2⟩
  have outputs : ∀ result ∈ method.results, IsCode result.type.text.toList := fun result member =>
    isCode_of_isWordedBy legible noImport (outputs result member)
  have words : method.ForwardsWords := fun parameter member => (inputs parameter member).1
  have letters := hasIdentifierLetters_of_isWord isName.1
  exact {
    name := isName
    route := by
      intro char member
      rcases Text.mem_kebabCase letters char member with rfl | letter
      · decide
      · exact not_special_of_continues letter
    request := Method.isSound_envelopeName name.1 letters (by simp) (by decide) (String.append_assoc ..)
    response := Method.isSound_envelopeName name.1 letters (by simp) (by decide) (String.append_assoc ..)
    handler := Service.isCode_handlerName snake inner isName.1
    encoder := Service.isCode_encoderName inner isName.1
    signature := Method.isCode_signature accepted legible noImport
    called := words.isCode_callArguments
    requested := words.isCode_requestArguments
    logged := words.isCode_logged
    value := Method.isCode_valueType outputs
    parameters := inputs }

end Method

/-! ### Interfaces -/

theorem exists_of_mem_methodsFrom
    {interface : String}
    {seen : List String}
    {signatures : List (Node .signature)}
    {methods : List Method}
    (accepted : methodsFrom interface seen signatures = .ok methods) :
    ∀ method ∈ methods, ∃ signature ∈ signatures,
      Method.ofSignature interface signature = .ok method := by
  induction signatures generalizing seen methods with
  | nil =>
      cases accepted
      simp
  | cons signature rest inductionHypothesis =>
      rw [methodsFrom] at accepted
      obtain ⟨first, isFirst, accepted⟩ := except_bind_eq_ok.mp accepted
      split at accepted
      · contradiction
      · obtain ⟨others, acceptedRest, accepted⟩ := except_bind_eq_ok.mp accepted
        cases accepted
        intro method member
        rcases List.mem_cons.mp member with rfl | later
        · exact ⟨signature, List.mem_cons_self, isFirst⟩
        · obtain ⟨other, inRest, isMethod⟩ := inductionHypothesis acceptedRest method later
          exact ⟨other, List.mem_cons_of_mem _ inRest, isMethod⟩

/-- The service of a plain trait, in a package whose name ends no string. -/
theorem Service.isSound_of_isPlain
    {declaration : ServiceTrait}
    {package : String}
    {service : Service}
    (accepted : Interface.ofTrait declaration package = .ok service.interface)
    (plain : declaration.IsPlain)
    (described : ∀ char ∈ package.toList, char ∉ specialChars) :
    service.IsSound := by
  obtain ⟨methods, acceptedMethods, same⟩ := except_bind_eq_ok.mp accepted
  have same : ⟨declaration.name, package, methods, declaration.asyncTrait⟩ = service.interface :=
    Except.ok.inj same
  have isName : service.name = declaration.name := by rw [Service.name, ← same]
  have isSnake : service.snake = Text.snakeCase declaration.name := by rw [Service.snake, ← same]
  have letters := hasIdentifierLetters_of_isWord plain.name
  have name : Glyph.IsSound (.name service.name) := by
    rw [isName]
    exact ⟨plain.name, plain.other⟩
  have inner : Glyph.IsSound (.inner service.snake) := by
    rw [isSnake]
    exact Text.continues_snakeCase letters
  exact {
    name
    inner
    prose := fun char member => not_special_of_continues (inner char member)
    prefixed := by
      have spelled : Text.shoutySnakeCase declaration.name ++ "_SUBJECT_PREFIX" = service.prefixName := by
        rw [Service.prefixName, isName]
      exact isSound_append plain.shouty _ (List.all_eq_true.mp (by decide)) (by simp) spelled
    description := by
      have package_ : service.interface.package = package := by rw [← same]
      have ending : IsInside (" service".toList ++ []) := IsInside.nil.append (by simp [specialChars])
      have code := IsCode.string (ending.append described)
      rw [package_]
      show IsCode (Template.description package).toList
      simpa [Template.description] using code
    methods := by
      intro method member
      rw [Service.methods, ← same] at member
      obtain ⟨signature, inTrait, isMethod⟩ := exists_of_mem_methodsFrom acceptedMethods method member
      exact Method.isSound_of_ofSignature isMethod (plain.legible signature inTrait)
        (plain.noImport signature inTrait) name (isSnake ▸ plain.snake) inner }

end Scaffold
