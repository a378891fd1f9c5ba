import Mathlib.Data.List.Forall2
import SymbolSearch.Json.Reader
import SymbolSearch.Proofs.Json.Strings

set_option autoImplicit false

namespace SymbolSearch.Json

open Jsonc (Space Stops isWordChar)

-- On every text of the value, behind any space, the reader finds the result.
def Decodes {α : Type} (read : Reader α) (json : Json) (result : α) : Prop :=
  ∀ ⦃text gap behind : List Char⦄ ⦃cursor : Cursor⦄, Layout (.value json) text → Space gap →
    Stops isWordChar behind → cursor.rest = gap ++ (text ++ behind) →
      Finds (read cursor) result behind

def Opens (c : Char) : Prop :=
  Cursor.isSpace c = false ∧ c ∉ [',', ']', '\x7d']

instance (c : Char) : Decidable (Opens c) :=
  inferInstanceAs (Decidable (_ ∧ _))

theorem opens_of_isDigit {c : Char} (digit : c.isDigit) : Opens c := by
  refine ⟨Bool.eq_false_iff.mpr fun space => ?_, fun mark => ?_⟩
  · simp only [Cursor.isSpace, Bool.or_eq_true, decide_eq_true_eq] at space
    rcases space with ((rfl | rfl) | rfl) | rfl <;> cases digit
  · simp only [List.mem_cons, List.not_mem_nil, or_false] at mark
    rcases mark with rfl | rfl | rfl <;> cases digit

theorem Layout.opens {json : Json} {text : List Char} (layout : Layout (.value json) text) :
    ∃ c more, text = c :: more ∧ Opens c ∧ (c = 'n' → json = .null) := by
  cases layout with
  | null => exact ⟨'n', _, rfl, by decide, fun _ => rfl⟩
  | natural number =>
    obtain ⟨c, more, begins, digit⟩ := (toDigits_whole number).digital []
    refine ⟨c, more, by simpa using begins, opens_of_isDigit digit, ?_⟩
    rintro rfl
    cases digit
  | text text => exact ⟨'"', _, toList_quoted text, by decide, by simp⟩
  | _ => exact ⟨_, _, rfl, by decide, by simp⟩

def Part.count : Part → Nat
  | .value _ => 0
  | .items list => list.length
  | .members list => list.length

theorem Layout.count_le {part : Part} {text : List Char} (layout : Layout part text) :
    part.count ≤ text.length := by
  induction layout with
  | lastItem | item | lastMember | member =>
    simp only [Part.count, List.length_append, List.length_cons, List.length_nil] at *
    omega
  | _ => exact Nat.zero_le _

namespace Reader

variable {α β : Type} {result : α} {gap behind : List Char} {cursor : Cursor}

theorem value_finds {read : Reader α} {c : Char} {more : List Char} (space : Space gap)
    (solid : Cursor.isSpace c = false) (here : cursor.rest = gap ++ c :: more)
    (reads : ∀ start : Cursor, start.rest = c :: more → Finds (read start) result behind) :
    Finds (value read cursor) result behind := by
  have start := Cursor.rest_skipSpace space solid here
  simpa [value, start] using reads _ start

theorem quoted_decodes {read : Reader α} {text : String}
    (reads : ∀ (start : Cursor) (behind : List Char),
      start.rest = '"' :: (text.toList.flatMap escapeChar ++ '"' :: behind) →
        Finds (read start) result behind) :
    Decodes (value read) (.text text) result := by
  rintro _ gap behind cursor ⟨⟩ space _ here
  rw [toList_quoted, List.cons_append, List.append_assoc] at here
  exact value_finds space rfl here fun start rest => reads start behind rest

theorem text_decodes (text : String) : Decodes Reader.text (.text text) text := by
  refine quoted_decodes fun start behind here => ?_
  simpa [here] using textBody_finds (escaped_spelled _) (Cursor.rest_next here)

theorem choice_decodes {variants : List (String × α)} {name : String}
    (known : (variants.find? fun variant => variant.1 == name) = some (name, result)) :
    Decodes (choice variants) (.text name) result := by
  refine quoted_decodes fun start behind here => ?_
  simp only [here]
  refine value_finds space_nil rfl here fun start here => ?_
  simp only [here]
  refine (textBody_finds (escaped_spelled _) (Cursor.rest_next here)).bind fun stop behindName => ?_
  exact ⟨stop, by simp [known], behindName⟩

theorem natural_decodes {expected : String} {limit number : Nat} (word : limit ≤ wordLimit)
    (small : number < limit) : Decodes (natural expected limit) (.natural number) number := by
  rintro _ gap behind cursor ⟨⟩ space stop here
  obtain ⟨c, more, begins, digit⟩ := (toDigits_whole number).digital behind
  rw [begins] at here
  unfold natural numeric
  refine value_finds space (opens_of_isDigit digit).1 here fun start rest => ?_
  obtain ⟨place, read, behindNumber⟩ :=
    number_finds (Nat.lt_of_lt_of_le small word) stop (rest.trans begins.symm)
  exact ⟨place, by simp [rest, digit, read, small], behindNumber⟩

theorem nullable_decodes {read : Reader α} {json : Json} (decodes : Decodes read json result)
    (some : json ≠ .null) : Decodes (nullable read) json (.some result) := by
  intro text gap behind cursor layout space stop here
  obtain ⟨c, more, rfl, opens, isNull⟩ := layout.opens
  have start : cursor.skipSpace.rest = c :: (more ++ behind) :=
    Cursor.rest_skipSpace space opens.1 here
  have noNull : c ≠ 'n' := fun same => some (isNull same)
  obtain ⟨place, read, rest⟩ := decodes layout space stop here
  exact ⟨place, by simp [nullable, start, noNull, read, Except.map], rest⟩

def separator (first : Bool) : List Char :=
  if first then [] else [',']

theorem stops_comma (text : List Char) : Stops isWordChar (',' :: text) :=
  (Jsonc.stops_cons _ _ _).mpr rfl

theorem nextItem_goesOn {first : Bool} {c : Char} {more : List Char} (space : Space gap)
    (opens : Opens c) (here : cursor.rest = separator first ++ (gap ++ c :: more)) :
    ∃ start, nextItem first cursor = .ok (some start) ∧ start.rest = c :: more := by
  obtain ⟨comma, close, -⟩ : c ≠ ',' ∧ c ≠ ']' ∧ c ≠ '\x7d' := by simpa using opens.2
  cases first with
  | true =>
    have start := Cursor.rest_skipSpace space opens.1 here
    exact ⟨_, by simp [nextItem, start], start⟩
  | false =>
    have atComma := Cursor.rest_skipSpace_solid rfl here
    have start := Cursor.rest_skipSpace space opens.1 (Cursor.rest_next atComma)
    exact ⟨_, by simp [nextItem, atComma, start], start⟩

theorem nextItem_ends (first : Bool) (space : Space gap)
    (here : cursor.rest = gap ++ ']' :: behind) : nextItem first cursor = .ok none := by
  have start := Cursor.rest_skipSpace space rfl here
  simp [nextItem, start]

theorem closeList_comes (space : Space gap) (here : cursor.rest = gap ++ ']' :: behind) :
    Comes (closeList cursor) behind := by
  have start := Cursor.rest_skipSpace space rfl here
  exact ⟨_, by simp [closeList, start], Cursor.rest_next start⟩

theorem items_end {read : Reader α} {fuel : Nat} {first : Bool} (found : List α)
    (space : Space gap) (here : cursor.rest = gap ++ ']' :: behind) :
    Finds (items read (fuel + 1) first found cursor) found.reverse behind := by
  obtain ⟨stop, closed, rest⟩ := closeList_comes space here
  exact ⟨stop, by simp [items, nextItem_ends first space here, closed, bind, Except.bind], rest⟩

theorem items_step {read : Reader α} {item : Json} {fuel : Nat} {first : Bool}
    {before results : List α} {text after : List Char} (decodes : Decodes read item result)
    (space : Space gap) (layout : Layout (.value item) text) (stop : Stops isWordChar after)
    (here : cursor.rest = separator first ++ (gap ++ (text ++ after)))
    (goesOn : ∀ stop : Cursor, stop.rest = after →
      Finds (items read fuel false (result :: before) stop) results behind) :
    Finds (items read (fuel + 1) first before cursor) results behind := by
  obtain ⟨c, more, rfl, opens, -⟩ := layout.opens
  obtain ⟨start, next, atItem⟩ := nextItem_goesOn space opens here
  have found := decodes layout space_nil stop atItem
  have run : items read (fuel + 1) first before cursor =
      read start >>= fun found => items read fuel false (found.1 :: before) found.2 := by
    simp [items, next, bind, Except.bind]
  exact run ▸ found.bind goesOn

theorem items_find {read : Reader α} {list : List Json} {results : List α} {text : List Char}
    {fuel : Nat} (first : Bool) (found : List α) (each : List.Forall₂ (Decodes read) list results)
    (layout : Layout (.items list) text) (enough : list.length < fuel)
    (here : cursor.rest = separator first ++ (text ++ behind)) :
    Finds (items read fuel first found cursor) (found.reverse ++ results) behind := by
  induction each generalizing text fuel first found cursor with
  | nil => cases layout
  | @cons item result list results decodes each ih =>
    -- One turn for each item, and one more behind the last one for the bracket.
    obtain _ | fuel := fuel
    · simp at enough
    have fuelLeft : list.length < fuel := Nat.lt_of_succ_lt_succ enough
    cases layout with
    | lastItem before last gap =>
      cases each
      have close := Jsonc.Space.stops gap ((Jsonc.stops_cons isWordChar ']' behind).mpr rfl)
      refine items_step decodes before last close (by simpa using here) fun stop rest => ?_
      obtain _ | fuel := fuel
      · simp at fuelLeft
      simpa using items_end (result :: found) gap rest
    | item before layout others =>
      refine items_step decodes before layout (stops_comma _) (by simpa using here)
        fun stop rest => ?_
      simpa using ih false (result :: found) others fuelLeft rest

theorem list_decodes {read : Reader α} {list : List Json} {results : List α}
    (each : List.Forall₂ (Decodes read) list results) :
    Decodes (Reader.list read) (.array list) results := by
  intro text gap behind cursor layout space stop here
  obtain ⟨inside, rfl, read⟩ :
      ∃ inside, text = '[' :: inside ∧ ∀ cursor : Cursor, cursor.rest = inside ++ behind →
        Finds (items read ((inside ++ behind).length + 1) true [] cursor) results behind := by
    cases layout with
    | emptyArray =>
      cases each
      exact ⟨_, rfl, fun cursor rest => items_end [] space_nil rest⟩
    | @array _ inside layout =>
      have short : list.length ≤ inside.length := layout.count_le
      refine ⟨_, rfl, fun cursor rest => ?_⟩
      exact items_find true [] each layout (by rw [List.length_append]; omega) rest
  refine value_finds space rfl here fun start rest => ?_
  simpa [rest] using read _ (Cursor.rest_next rest)

theorem nextMember_goesOn {first : Bool} {more : List Char} (space : Space gap)
    (here : cursor.rest = separator first ++ (gap ++ '"' :: more)) :
    ∃ start, nextMember first cursor = .ok (some start) ∧ start.rest = more := by
  cases first with
  | true =>
    have start := Cursor.rest_skipSpace space rfl here
    exact ⟨_, by simp [nextMember, start], Cursor.rest_next start⟩
  | false =>
    have atComma := Cursor.rest_skipSpace_solid rfl here
    have start := Cursor.rest_skipSpace space rfl (Cursor.rest_next atComma)
    exact ⟨_, by simp [nextMember, atComma, start], Cursor.rest_next start⟩

theorem nextMember_ends (first : Bool) (space : Space gap)
    (here : cursor.rest = gap ++ '\x7d' :: behind) : nextMember first cursor = .ok none := by
  have start := Cursor.rest_skipSpace space rfl here
  simp [nextMember, start]

theorem rest_leaveObject (space : Space gap) (here : cursor.rest = gap ++ '\x7d' :: behind) :
    (leaveObject cursor).rest = behind := by
  have start := Cursor.rest_skipSpace space rfl here
  simpa [leaveObject, start] using Cursor.rest_next start

theorem colon_comes (here : cursor.rest = ':' :: behind) : Comes (colon cursor) behind := by
  have start := Cursor.rest_skipSpace_solid rfl here
  exact ⟨_, by simp [colon, start], Cursor.rest_next start⟩

theorem Decodes.store {read : Reader α} {json : Json} (decodes : Decodes read json result)
    (name : String) (store : α → β → β) (required : Bool) :
    Decodes (Member.of name read store required).read json (store result) :=
  fun _ _ _ _ layout space stop here => (decodes layout space stop here).map

inductive Fills (known : List (Member β)) : List (String × Json) → β → β → Prop
  | nil {record : β} : Fills known [] record record
  | cons {name : String} {value : Json} {rest : List (String × Json)} {record final : β}
      {member : Member β} {store : β → β}
      (named : (known.find? fun member => member.name == name) = some member)
      (decodes : Decodes member.read value store) (more : Fills known rest (store record) final) :
      Fills known ((name, value) :: rest) record final

variable {known : List (Member β)} {members : List (String × Json)} {record final : β}

theorem Fills.append {others : List (String × Json)} {middle : β}
    (fills : Fills known members record middle) (more : Fills known others middle final) :
    Fills known (members ++ others) record final := by
  induction fills with
  | nil => exact more
  | cons named decodes _ ih => exact .cons named decodes (ih more)

theorem Fills.stores {name : String} {value : Json} {read : Reader α} {store : α → β → β}
    {required : Bool}
    (named : (known.find? fun member => member.name == name) =
      some (Member.of name read store required))
    (decodes : Decodes read value result) (more : Fills known members (store result record) final) :
    Fills known ((name, value) :: members) record final :=
  .cons named (Decodes.store decodes name store required) more

theorem Fills.optional {name : String} {read : Reader α} {store : Option α → β → β}
    {write : α → Json} (entry : Option α)
    (named : (known.find? fun member => member.name == name) =
      some (Member.of name (nullable read) store))
    (decodes : ∀ value, Decodes read (write value) value) (solid : ∀ value, write value ≠ .null)
    (absent : store none record = record) :
    Fills known (entry.map fun value => (name, write value)).toList record
      (store entry record) := by
  cases entry with
  | none => exact absent.symm ▸ .nil
  | some value =>
    exact .stores named (nullable_decodes (decodes value) (solid value)) .nil

variable {seen : List String}

theorem membersFrom_end {fuel : Nat} {first : Bool} (space : Space gap)
    (complete : ∀ member ∈ known, member.required → member.name ∈ seen)
    (here : cursor.rest = gap ++ '\x7d' :: behind) :
    Finds (membersFrom known (fuel + 1) first seen record cursor) record behind := by
  have nothing :
      (known.find? fun member => member.required && !seen.contains member.name) = none := by
    simpa using complete
  refine ⟨leaveObject cursor, ?_, rest_leaveObject space here⟩
  simp only [membersFrom, nextMember_ends first space here, nothing, bind, Except.bind]

theorem membersFrom_step {name : String} {value : Json} {fuel : Nat} {first : Bool}
    {member : Member β} {store : β → β} {between text after : List Char}
    (named : (known.find? fun member => member.name == name) = some member)
    (new : name ∉ seen) (decodes : Decodes member.read value store)
    (space : Space gap) (apart : Space between) (layout : Layout (.value value) text)
    (stop : Stops isWordChar after)
    (here : cursor.rest =
      separator first ++ (gap ++ ((quoted name).toList ++ ':' :: (between ++ (text ++ after)))))
    (goesOn : ∀ stop : Cursor, stop.rest = after →
      Finds (membersFrom known fuel false (name :: seen) (store record) stop) final behind) :
    Finds (membersFrom known (fuel + 1) first seen record cursor) final behind := by
  rw [toList_quoted, List.cons_append, List.append_assoc] at here
  have unseen : seen.contains name = false := by simpa using new
  obtain ⟨start, next, atName⟩ := nextMember_goesOn space here
  obtain ⟨atColon, isNamed, rest⟩ := textBody_finds (escaped_spelled _) atName
  obtain ⟨atValue, passed, rest⟩ := colon_comes rest
  obtain ⟨atEnd, read, rest⟩ := decodes layout apart stop rest
  simpa only [membersFrom, next, isNamed, named, unseen, passed, read, bind, Except.bind,
    Bool.false_eq_true, if_false] using goesOn atEnd rest

theorem Fills.find {text : List Char} {fuel : Nat} (first : Bool)
    (fills : Fills known members record final) (layout : Layout (.members members) text)
    (distinct : (members.map (·.1)).Nodup) (new : ∀ name ∈ members.map (·.1), name ∉ seen)
    (complete : ∀ member ∈ known, member.required →
      member.name ∈ seen ∨ member.name ∈ members.map (·.1))
    (enough : members.length < fuel) (here : cursor.rest = separator first ++ (text ++ behind)) :
    Finds (membersFrom known fuel first seen record cursor) final behind := by
  induction fills generalizing text fuel first seen cursor with
  | nil => cases layout
  | @cons name value members record final member store named decodes more ih =>
    obtain _ | fuel := fuel
    · simp at enough
    have fuelLeft : members.length < fuel := Nat.lt_of_succ_lt_succ enough
    obtain ⟨notLater, distinct⟩ := List.nodup_cons.mp distinct
    obtain ⟨newName, new⟩ := List.forall_mem_cons.mp new
    have complete : ∀ member ∈ known, member.required →
        member.name ∈ name :: seen ∨ member.name ∈ members.map (·.1) := by
      intro member isKnown required
      have either := complete member isKnown required
      grind
    cases layout with
    | lastMember before apart last gap =>
      cases more
      have close := Jsonc.Space.stops gap ((Jsonc.stops_cons isWordChar '\x7d' behind).mpr rfl)
      refine membersFrom_step named newName decodes before apart last close (by simpa using here)
        fun stop rest => ?_
      obtain _ | fuel := fuel
      · simp at fuelLeft
      exact membersFrom_end gap (by simpa using complete) rest
    | member before apart layout others =>
      refine membersFrom_step named newName decodes before apart layout (stops_comma _)
        (by simpa using here) fun stop rest => ?_
      refine ih false others distinct (fun name later => ?_) complete fuelLeft rest
      have unseen := new name later
      grind

theorem record_decodes {title : String} (fills : Fills known members record final)
    (distinct : (members.map (·.1)).Nodup)
    (complete : ∀ member ∈ known, member.required → member.name ∈ members.map (·.1)) :
    Decodes (Reader.record title known record) (.object members) final := by
  intro text gap behind cursor layout space stop here
  obtain ⟨inside, rfl, read⟩ :
      ∃ inside, text = '\x7b' :: inside ∧ ∀ cursor : Cursor, cursor.rest = inside ++ behind →
        Finds (membersFrom known ((inside ++ behind).length + 1) true [] record cursor) final
          behind := by
    cases layout with
    | emptyObject =>
      cases fills
      exact ⟨_, rfl, fun cursor rest => membersFrom_end space_nil complete rest⟩
    | @object _ inside layout =>
      have short : members.length ≤ inside.length := layout.count_le
      refine ⟨_, rfl, fun cursor rest => ?_⟩
      exact fills.find true layout distinct (by simp)
        (fun member isKnown required => .inr (complete member isKnown required))
        (by rw [List.length_append]; omega) rest
  refine value_finds space rfl here fun start rest => ?_
  simpa [rest] using read _ (Cursor.rest_next rest)

theorem ofText_decodes {read : Reader α} {json : Json} {written : String} {text : List Char}
    (decodes : Decodes read json result) (layout : Layout (.value json) text) (space : Space gap)
    (same : written.toList = text ++ gap) : ofText read written = .ok result := by
  have stop : Stops isWordChar gap := by
    simpa using Jsonc.Space.stops space (Jsonc.stops_nil isWordChar)
  have start : (Cursor.ofText written).rest = [] ++ (text ++ gap) := same
  obtain ⟨place, found, rest⟩ := decodes layout space_nil stop start
  have skipped := Cursor.rest_skipSpace_end space rest
  simp [ofText, found, skipped, bind, Except.bind]

end Reader

end SymbolSearch.Json
