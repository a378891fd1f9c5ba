import SymbolSearch.Proofs.Json.Records
import SymbolSearch.Ranking.Exchange

set_option autoImplicit false

namespace SymbolSearch

open Json (Exactly Layout units)
open Json.Reader
open Jsonc (Value plain)

namespace Ranking

def IsMessage (message : Value) (content : Option String) : Prop :=
  ∃ found, Single "content" false (Nullable IsText) message found ∧ content = found.join

def IsChoice (choice : Value) (content : Option String) : Prop :=
  Single "message" true IsMessage choice (some content)

def IsResponse (response : Value) (contents : List (Option String)) : Prop :=
  ∃ found, Single "choices" false (ListOf IsChoice) response found ∧ contents = found.getD []

def IsAnswer (answer : Value) (ids : List String) : Prop :=
  Single "ids" true (ListOf IsText) answer (some ids)

theorem messageReader_exactly : Exactly messageReader IsMessage := by
  have content : Exactly (nullable text) (Nullable IsText) :=
    nullable_exactly text_exactly (by simp [IsText])
  refine (single_exactly "struct ChatMessage" none content).congr fun message content => ?_
  refine exists_congr fun found => and_congr_right fun _ => ?_
  cases found <;> rfl

theorem required_iff {α : Type} {name : String} {shape : Value → α → Prop} {value : Value}
    {initial result : α} :
    (∃ found, Single name true shape value found ∧
        result = found.elim initial fun found => found) ↔
      Single name true shape value (some result) := by
  constructor
  · rintro ⟨found, single, rfl⟩
    cases single with
    | object among complete =>
      obtain ⟨found, rfl⟩ := Option.isSome_iff_exists.mp (complete rfl)
      exact .object among complete
    | list fits => exact .list fits
    | emptyList optional => cases optional
  · exact fun single => ⟨_, single, rfl⟩

theorem choiceReader_exactly : Exactly choiceReader IsChoice :=
  (single_exactly "struct Choice" none messageReader_exactly).congr fun _ _ => required_iff

theorem responseReader_exactly : Exactly responseReader IsResponse := by
  refine (single_exactly "struct ChatResponse" [] (list_exactly choiceReader_exactly)).congr
    fun response contents => ?_
  refine exists_congr fun found => and_congr_right fun _ => ?_
  cases found <;> rfl

theorem idsReader_exactly : Exactly idsReader IsAnswer :=
  (single_exactly "struct RankedIds" [] (list_exactly text_exactly)).congr fun _ _ => required_iff

end Ranking

structure Json.Beside (name : String) where
  before : List (String × Json)
  after : List (String × Json)
  other : ∀ member ∈ before ++ after, member.1 ≠ name
  exact : ∀ member ∈ before ++ after, member.2.Exact

namespace Json.Beside

variable {name : String} (beside : Beside name)

def object (value : Json) : Json :=
  .object (beside.before ++ (name, value) :: beside.after)

theorem object_exact {value : Json} (exact : value.Exact) : (beside.object value).Exact := by
  refine .object fun member isMember => ?_
  rw [List.mem_append, List.mem_cons] at isMember
  rcases isMember with before | rfl | after
  · exact beside.exact member (List.mem_append_left _ before)
  · exact exact
  · exact beside.exact member (List.mem_append_right _ after)

theorem among_others {α : Type} {shape : Value → α → Prop} {found : Option α}
    {others : List (String × Json)} {members : List (List Nat × Value)}
    (other : ∀ member ∈ others, member.1 ≠ name) (more : Among name shape members found) :
    Among name shape (memberMeanings others ++ members) found := by
  induction others with
  | nil => exact more
  | cons member others ih =>
    obtain ⟨different, other⟩ := List.forall_mem_cons.mp other
    exact .other different (ih other)

theorem memberMeanings_append (members others : List (String × Json)) :
    memberMeanings (members ++ others) = memberMeanings members ++ memberMeanings others := by
  induction members with
  | nil => rfl
  | cons member members ih => exact congrArg _ ih

theorem object_single {α : Type} {required : Bool} {shape : Value → α → Prop} {value : Json}
    {found : α} (fits : shape value.meaning found) :
    Single name required shape (beside.object value).meaning (some found) := by
  have other : (∀ member ∈ beside.before, member.1 ≠ name) ∧
      ∀ member ∈ beside.after, member.1 ≠ name := List.forall_mem_append.mp beside.other
  have nothing : Among name shape (memberMeanings beside.after) none := by
    simpa using among_others other.2 Among.nil
  rw [object, Json.meaning, memberMeanings_append]
  exact .object (among_others other.1 (.named fits nothing)) fun _ => rfl

end Json.Beside

namespace Ranking

theorem ids_of_content {body content : String} {later : List (Option String)}
    (decoded : ofText responseReader body = .ok (some content :: later)) (ids : List String) :
    rankedIds body = .ok ids ↔ ofText idsReader content = .ok ids := by
  unfold rankedIds
  rw [decoded]
  cases answer : ofText idsReader content with
  | error fault => simp [answer]
  | ok ids => simp [answer]

theorem empty_of_contents {body : String} {contents : List (Option String)}
    (decoded : ofText responseReader body = .ok contents)
    (nothing : contents = [] ∨ contents.head? = some none) :
    rankedIds body = .error .emptyResponse := by
  unfold rankedIds
  rw [decoded]
  rcases nothing with rfl | head
  · rfl
  · simp [head]

theorem rankedIds_eq_empty {body : String} {contents : List (Option String)}
    (decoded : ofText responseReader body = .ok contents) :
    rankedIds body = .error .emptyResponse ↔ contents = [] ∨ contents.head? = some none := by
  refine ⟨fun empty => ?_, empty_of_contents decoded⟩
  match contents with
  | [] => exact .inl rfl
  | none :: later => exact .inr rfl
  | some content :: later =>
    unfold rankedIds at empty
    rw [decoded] at empty
    cases answer : ofText idsReader content <;> simp [answer] at empty

theorem rankedIds_eq_ok (body : String) (ids : List String) :
    rankedIds body = .ok ids ↔
      ∃ content later, ofText responseReader body = .ok (some content :: later) ∧
        ofText idsReader content = .ok ids := by
  constructor
  · intro ranked
    cases decoded : ofText responseReader body with
    | error fault => simp [rankedIds, decoded] at ranked
    | ok contents =>
      match contents with
      | [] => simp [empty_of_contents decoded (.inl rfl)] at ranked
      | none :: later => simp [empty_of_contents decoded (.inr rfl)] at ranked
      | some content :: later => exact ⟨content, later, rfl, (ids_of_content decoded ids).mp ranked⟩
  · rintro ⟨content, later, decoded, answered⟩
    exact (ids_of_content decoded ids).mpr answered

def writtenResponse (response : Json.Beside "choices") (choice : Json.Beside "message")
    (message : Json.Beside "content") (answer : Json.Beside "ids") (ids : List String)
    (later : List Json) : String :=
  let content := (answer.object (.array (ids.map .text))).compact
  (response.object
    (.array (choice.object (message.object (.text content)) :: later))).compact

theorem compact_renders {json : Json} (exact : json.Exact) :
    plain.Renders json.meaning json.compact.toList := by
  simpa using exact.compact_layout.renders Json.space_nil

theorem meanings_eq_map (items : List Json) : Json.meanings items = items.map Json.meaning := by
  induction items with
  | nil => rfl
  | cons item items ih => exact congrArg _ ih

theorem texts_listed (ids : List String) :
    ListOf IsText (Json.array (ids.map .text)).meaning ids := by
  refine ⟨_, rfl, ?_⟩
  rw [meanings_eq_map, List.map_map, List.forall₂_map_left_iff, List.forall₂_same]
  exact fun id _ => rfl

theorem choices_listed {later : List Json}
    (fits : ∀ choice ∈ later, ∃ content, IsChoice choice.meaning content) :
    ∃ contents, List.Forall₂ IsChoice (Json.meanings later) contents := by
  induction later with
  | nil => exact ⟨[], .nil⟩
  | cons choice later ih =>
    obtain ⟨⟨content, first⟩, fits⟩ := List.forall_mem_cons.mp fits
    obtain ⟨contents, others⟩ := ih fits
    exact ⟨content :: contents, .cons first others⟩

theorem writtenResponse_read (response : Json.Beside "choices") (choice : Json.Beside "message")
    (message : Json.Beside "content") (answer : Json.Beside "ids") (ids : List String)
    {later : List Json}
    (fits : ∀ choice ∈ later, choice.Exact ∧ ∃ content, IsChoice choice.meaning content) :
    rankedIds (writtenResponse response choice message answer ids later) = .ok ids := by
  obtain ⟨contents, others⟩ := choices_listed fun choice member => (fits choice member).2
  -- The inner text first: it is one of an answer with these ids.
  have ids_exact : (answer.object (.array (ids.map .text))).Exact := by
    refine answer.object_exact (.array fun item isId => ?_)
    obtain ⟨id, -, rfl⟩ := List.mem_map.mp isId
    exact .text id
  have listed : IsAnswer (answer.object (.array (ids.map .text))).meaning ids :=
    answer.object_single (texts_listed ids)
  -- As the content of a message it is a string like any other.
  refine (rankedIds_eq_ok _ ids).mpr
    ⟨_, contents, ?_, (ofText_eq_ok idsReader_exactly).mpr ⟨_, compact_renders ids_exact, listed⟩⟩
  have chosen : IsChoice (choice.object (message.object
      (.text (answer.object (.array (ids.map .text))).compact))).meaning
      (some (answer.object (.array (ids.map .text))).compact) :=
    choice.object_single ⟨_, message.object_single (.some rfl), rfl⟩
  refine (ofText_eq_ok responseReader_exactly).mpr ⟨_, compact_renders ?_, _,
    response.object_single ⟨_, rfl, .cons chosen others⟩, rfl⟩
  refine response.object_exact (.array fun item isChoice => ?_)
  rcases List.mem_cons.mp isChoice with rfl | isLater
  · exact choice.object_exact (message.object_exact (.text _))
  · exact (fits item isLater).1

theorem ranked_ids_read_back :
    (∀ (response : Json.Beside "choices") (choice : Json.Beside "message")
        (message : Json.Beside "content") (answer : Json.Beside "ids") (ids : List String)
        (later : List Json),
      (∀ choice ∈ later, choice.Exact ∧ ∃ content, IsChoice choice.meaning content) →
        rankedIds (writtenResponse response choice message answer ids later) = .ok ids) ∧
    ∀ body,
      (∀ contents, ofText responseReader body = .ok contents →
        (rankedIds body = .error .emptyResponse ↔ contents = [] ∨ contents.head? = some none)) ∧
      (∀ contents, ofText responseReader body = .ok contents ↔
        ∃ response, plain.Renders response body.toList ∧ IsResponse response contents) ∧
      ∀ ids, rankedIds body = .ok ids ↔
        ∃ content later, ofText responseReader body = .ok (some content :: later) ∧
          ∃ answer, plain.Renders answer content.toList ∧ IsAnswer answer ids := by
  refine ⟨fun response choice message answer ids later fits =>
    writtenResponse_read response choice message answer ids fits, fun body => ⟨?_, ?_, ?_⟩⟩
  · exact fun contents decoded => rankedIds_eq_empty decoded
  · exact fun contents => ofText_eq_ok responseReader_exactly
  · intro ids
    rw [rankedIds_eq_ok]
    simp only [ofText_eq_ok idsReader_exactly]

def besideId (name : String) (apart : "id" ≠ name) : Json.Beside name where
  before := [("id", .array [.null, .natural 10])]
  after := [("id", .text "]\x7d\"")]
  other := by simp [apart]
  exact := by
    have items : ∀ item ∈ [Json.null, .natural 10], item.Exact := by
      simpa using ⟨.null, .natural 10⟩
    simpa using ⟨.array items, .text _⟩

theorem ranked_ids_read_back_escapes :
    (∀ choice ∈ [Json.object [("message", .object [("content", .null)])]],
      choice.Exact ∧ ∃ content, IsChoice choice.meaning content) ∧
    rankedIds (writtenResponse (besideId "choices" (by decide)) (besideId "message" (by decide))
        (besideId "content" (by decide)) (besideId "ids" (by decide)) ["\"\\n\"", "é\n😀", ""]
        [.object [("message", .object [("content", .null)])]]) =
      .ok ["\"\\n\"", "é\n😀", ""] := by
  have fits : ∀ choice ∈ [Json.object [("message", .object [("content", .null)])]],
      choice.Exact ∧ ∃ content, IsChoice choice.meaning content := by
    have message : IsMessage (Json.object [("content", .null)]).meaning none :=
      ⟨some none, .object (.named .null .nil) (by simp), rfl⟩
    refine List.forall_mem_singleton.mpr ⟨.object ?_, none, .object (.named message .nil) (by simp)⟩
    exact List.forall_mem_singleton.mpr (.object (List.forall_mem_singleton.mpr .null))
  exact ⟨fits, ranked_ids_read_back.1 _ _ _ _ _ _ fits⟩

end Ranking

end SymbolSearch
