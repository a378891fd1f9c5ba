import SymbolSearch.Proofs.Json.Decoding
import SymbolSearch.Ranking.Exchange

set_option autoImplicit false

namespace SymbolSearch

open Json (Exact Layout Decodes)
open Json.Reader
open Jsonc (plain)

namespace ExportedElement

theorem toJson_exact (element : ExportedElement) : element.toJson.Exact := by
  refine .object fun member isMember => ?_
  simp only [List.mem_append, List.mem_cons, List.not_mem_nil, or_false, Option.mem_toList,
    Option.map_eq_some_iff] at isMember
  obtain (((rfl | rfl | rfl) | ⟨_, -, rfl⟩) | ⟨_, -, rfl⟩) | rfl | rfl | rfl := isMember
  all_goals first | exact .text _ | exact .natural _

theorem kind_decodes (kind : Kind) : Decodes kindReader (.text kind.name) kind :=
  choice_decodes (by cases kind <;> rfl)

theorem reader_decodes (element : ExportedElement) (line : element.line < Nat.pow 2 32) :
    Decodes reader element.toJson element := by
  have lineRead : Decodes (natural "u32" (Text.lineLimit + 1)) (.natural element.line)
      element.line := natural_decodes (by decide) line
  refine record_decodes ?fills ?distinct ?complete
  case fills =>
    exact .append (.append (.append
      (.stores rfl (text_decodes element.id) (.stores rfl (text_decodes element.name)
        (.stores rfl (kind_decodes element.kind) .nil)))
      (.optional element.parentName rfl text_decodes (by simp) rfl))
      (.optional element.parentKind rfl kind_decodes (by simp) rfl))
      (.stores rfl (text_decodes element.path) (.stores rfl lineRead
        (.stores rfl (text_decodes element.context) .nil)))
  case distinct => cases element.parentName <;> cases element.parentKind <;> simp
  case complete => simp [Member.of]

theorem list_reader_decodes (elements : List ExportedElement)
    (lines : ∀ element ∈ elements, element.line < Nat.pow 2 32) :
    Decodes (list reader) (.array (elements.map (·.toJson))) elements := by
  refine list_decodes ?_
  rw [List.forall₂_map_left_iff, List.forall₂_same]
  exact fun element member => element.reader_decodes (lines element member)

theorem document_layout (elements : List Element) :
    ∃ text, Layout (.value (.array ((elements.map ofElement).map (·.toJson)))) text ∧
      (document elements).toList = text ++ ['\n'] := by
  have exact : (Json.array ((elements.map ofElement).map (·.toJson))).Exact := by
    refine .array fun item member => ?_
    obtain ⟨element, -, rfl⟩ := List.mem_map.mp member
    exact element.toJson_exact
  refine ⟨_, exact.prettyAt_layout 0, ?_⟩
  simp [document, Json.pretty, Function.comp_def]

end ExportedElement

namespace Ranking.Request

theorem payload_exact (request : Request) : request.payload.Exact := by
  refine .object fun member isMember => ?_
  simp only [List.mem_cons, List.not_mem_nil, or_false] at isMember
  obtain rfl | rfl | rfl := isMember
  · exact .text _
  · exact .natural _
  · refine .array fun item member => ?_
    obtain ⟨candidate, -, rfl⟩ := List.mem_map.mp member
    exact candidate.toJson_exact

theorem reader_decodes (request : Request) (limit : request.limit < Nat.pow 2 64)
    (lines : ∀ candidate ∈ request.candidates, candidate.line < Nat.pow 2 32) :
    Decodes reader request.payload request := by
  refine record_decodes ?members (by simp) (by simp [Member.of])
  exact .stores rfl (text_decodes request.query)
    (.stores rfl (natural_decodes (Nat.le_refl _) limit)
      (.stores rfl (ExportedElement.list_reader_decodes request.candidates lines) .nil))

end Ranking.Request

inductive Json.Step where
  | member (name : String)
  | item (place : Nat)

def Json.at? : Json → List Step → Option Json
  | json, [] => some json
  | .object members, .member name :: rest => (members.lookup name).bind (·.at? rest)
  | .array items, .item place :: rest => items[place]?.bind (·.at? rest)
  | _, _ => none

open Json (units)

theorem exports_read_back (elements : List Element) (model : String) (request : Ranking.Request)
    (lines : ∀ element ∈ elements, element.line < Nat.pow 2 32)
    (limit : request.limit < Nat.pow 2 64)
    (candidateLines : ∀ candidate ∈ request.candidates, candidate.line < Nat.pow 2 32) :
    (plain.Renders (Json.array ((elements.map ExportedElement.ofElement).map (·.toJson))).meaning
        (ExportedElement.document elements).toList ∧
      ofText (list ExportedElement.reader) (ExportedElement.document elements) =
        .ok (elements.map ExportedElement.ofElement)) ∧
    ∃ content,
      (request.body model).at? [.member "messages", .item 1, .member "content"] =
        some (.text content) ∧
      plain.Renders
        (.object
          [(units "query", .scalar (.text (units request.query))),
            (units "limit", .scalar (.number false ⟨request.limit, 0⟩)),
            (units "candidates",
              (Json.array (request.candidates.map (·.toJson))).meaning)])
        content.toList ∧
      ofText Ranking.Request.reader content = .ok request ∧
      (request.body model).at? [.member "response_format", .member "json_schema",
          .member "schema", .member "properties", .member "ids", .member "items",
          .member "enum"] =
        some (.array (request.candidates.map fun candidate => .text candidate.id)) := by
  have exportedLines : ∀ exported ∈ elements.map ExportedElement.ofElement,
      exported.line < Nat.pow 2 32 := by
    simpa [ExportedElement.ofElement] using lines
  obtain ⟨text, layout, same⟩ := ExportedElement.document_layout elements
  have newline : Jsonc.Space ['\n'] := by simp [Jsonc.Space, Json.Cursor.isSpace]
  have payload := request.payload_exact.compact_layout
  have rendered := payload.renders Json.space_nil
  rw [List.append_nil] at rendered
  refine ⟨⟨same ▸ layout.renders newline, ?_⟩, request.payload.compact, rfl, rendered, ?_, rfl⟩
  · exact ofText_decodes (ExportedElement.list_reader_decodes _ exportedLines) layout newline same
  · exact ofText_decodes (request.reader_decodes limit candidateLines) payload Json.space_nil
      (List.append_nil _).symm

def escapedElement : Element where
  id := "method-\"7\""
  kind := .method
  name := "\\d\x01\x7f\u2028"
  parent := some { name := "😀/\t", kind := .classDecl }
  path := { text := "src\\a b.ts" }
  line := 2
  description := ""
  searchable := ""
  content := "'\\u0041'\r\n\x0c\"é\"\n"

def largestRequest : Ranking.Request where
  query := "\"\\\n"
  limit := 18446744073709551615
  candidates := [.ofElement escapedElement]

theorem exports_read_back_escapes :
    (∀ element ∈ [escapedElement], element.line < Nat.pow 2 32) ∧
      largestRequest.limit < Nat.pow 2 64 ∧
      (∀ candidate ∈ largestRequest.candidates, candidate.line < Nat.pow 2 32) ∧
      ofText (list ExportedElement.reader) (ExportedElement.document [escapedElement]) =
        .ok [.ofElement escapedElement] ∧
      ∃ content,
        (largestRequest.body "small").at? [.member "messages", .item 1, .member "content"] =
          some (.text content) ∧
        ofText Ranking.Request.reader content = .ok largestRequest := by
  have lines : ∀ element ∈ [escapedElement], element.line < Nat.pow 2 32 := by decide
  have limit : largestRequest.limit < Nat.pow 2 64 := by decide
  have candidateLines : ∀ candidate ∈ largestRequest.candidates,
      candidate.line < Nat.pow 2 32 := by decide
  obtain ⟨⟨-, read⟩, content, place, -, payload, -⟩ :=
    exports_read_back [escapedElement] "small" largestRequest lines limit candidateLines
  exact ⟨lines, limit, candidateLines, read, content, place, payload⟩

end SymbolSearch
