import SymbolSearch.Proofs.Json.Exactness

set_option autoImplicit false

namespace SymbolSearch.Json.Reader

open Jsonc (Mark MarkFirst Reads Spelled Token Value plain)

section Names

variable {cursor start stop : Cursor} {name : List Nat} {tokens rest : List Token} {first : Bool}

def NameAhead (start : Cursor) (name : List Nat) (tokens : List Token) : Prop :=
  ∃ body text, Spelled name body ∧ start.rest = body ++ '"' :: text ∧ plain.Spaced tokens text

theorem NameAhead.reads {name : String} (ahead : NameAhead start (units name) tokens) :
    ∃ stop, textBody start = .ok (name, stop) ∧ Ahead stop tokens := by
  obtain ⟨body, text, spelled, here, spaced⟩ := ahead
  obtain ⟨stop, read, same⟩ := textBody_finds spelled here
  exact ⟨stop, read, by rwa [Ahead, same]⟩

theorem nameAhead_of_read {name : String} (read : textBody start = .ok (name, stop))
    (ahead : Ahead stop tokens) : NameAhead start (units name) tokens := by
  obtain ⟨body, spelled, here⟩ := textBody_found read
  exact ⟨body, stop.rest, spelled, here, ahead⟩

theorem nextMember_closing (first : Bool) (ahead : Ahead cursor (.mark .closeObject :: rest)) :
    nextMember first cursor = .ok none ∧ Ahead (leaveObject cursor) rest := by
  obtain ⟨⟨text, here⟩, ahead⟩ := ahead.marked
  exact ⟨by simp [nextMember, here, Mark.char], by simpa [leaveObject, here, Mark.char] using ahead⟩

theorem nextMember_separated
    (ahead : Ahead cursor (separated first (.scalar (.text name) :: tokens))) :
    ∃ start, nextMember first cursor = .ok (some start) ∧ NameAhead start name tokens := by
  cases first with
  | true =>
    obtain ⟨body, text, spelled, here, spaced⟩ := Ahead.quoted ahead
    exact ⟨_, by simp [nextMember, here], body, text, spelled, Cursor.rest_next here, spaced⟩
  | false =>
    obtain ⟨⟨more, comma⟩, ahead⟩ := Ahead.marked ahead
    obtain ⟨body, text, spelled, here, spaced⟩ := Ahead.quoted ahead
    exact ⟨_, by simp [nextMember, comma, Mark.char, here], body, text, spelled,
      Cursor.rest_next here, spaced⟩

theorem nextMember_none (ended : nextMember first cursor = .ok none)
    (ahead : Ahead (leaveObject cursor) rest) : Ahead cursor (.mark .closeObject :: rest) := by
  unfold nextMember at ended
  simp only at ended
  split at ended
  next here =>
    simp only [leaveObject, here] at ahead
    exact ahead_of_mark .closeObject here ahead
  next => cases ended
  next =>
    split at ended
    next => split at ended <;> cases ended
    next =>
      split at ended
      next => split at ended <;> cases ended
      next => cases ended

theorem nextMember_some (next : nextMember first cursor = .ok (some start))
    (ahead : NameAhead start name tokens) :
    Ahead cursor (separated first (.scalar (.text name) :: tokens)) := by
  obtain ⟨body, text, spelled, same, spaced⟩ := ahead
  have quoted {place : Cursor} {more : List Char} (quote : place.skipSpace.rest = '"' :: more)
      (behind : start = place.skipSpace.next) : Ahead place (.scalar (.text name) :: tokens) := by
    rw [behind, Cursor.rest_next quote] at same
    exact ahead_of_quoted spelled quote same spaced
  -- The quote is looked for at once in front of the first member, behind a comma later on.
  unfold nextMember at next
  simp only at next
  split at next
  next => cases next
  next => cases next
  next c more here =>
    cases first with
    | true =>
      simp only [if_true] at next
      split at next
      next quote =>
        cases next
        exact quoted (quote ▸ here) rfl
      next => cases next
    | false =>
      simp only [Bool.false_eq_true, if_false] at next
      split at next
      next comma =>
        rw [comma] at here
        split at next
        next quote =>
          cases next
          exact ahead_of_mark .comma here (quoted quote rfl)
        next => cases next
        next => cases next
        next => cases next
      next => cases next

theorem colon_goesOn (ahead : Ahead cursor (.mark .colon :: tokens)) :
    ∃ stop, colon cursor = .ok stop ∧ Ahead stop tokens := by
  obtain ⟨⟨text, here⟩, ahead⟩ := ahead.marked
  exact ⟨_, by simp [colon, here, Mark.char], ahead⟩

theorem colon_found (passed : colon cursor = .ok stop) (ahead : Ahead stop tokens) :
    Ahead cursor (.mark .colon :: tokens) := by
  unfold colon at passed
  simp only at passed
  split at passed
  next here =>
    cases passed
    exact ahead_of_mark .colon here ahead
  next => cases passed
  next => cases passed

end Names

section Records

variable {β : Type} {known : List (Member β)} {shape : Member β → Value → (β → β) → Prop}
  {cursor stop : Cursor} {tokens rest : List Token} {record final : β}

-- The members of an object, behind others of which the known names are given, make a record of
-- another: a known name stands there once, and the values of unknown names may be anything.
inductive Collects (known : List (Member β)) (shape : Member β → Value → (β → β) → Prop) :
    List String → List (List Nat × Value) → β → β → Prop
  | nil {seen : List String} {record : β}
      (complete : ∀ member ∈ known, member.required → member.name ∈ seen) :
      Collects known shape seen [] record record
  | unknown {seen : List String} {name : String} {value : Value}
      {members : List (List Nat × Value)} {record final : β}
      (other : (known.find? fun member => member.name == name) = none)
      (more : Collects known shape seen members record final) :
      Collects known shape seen ((units name, value) :: members) record final
  | known {seen : List String} {name : String} {value : Value} {member : Member β}
      {store : β → β} {members : List (List Nat × Value)} {record final : β}
      (named : (known.find? fun member => member.name == name) = some member)
      (new : name ∉ seen) (fits : shape member value store)
      (more : Collects known shape (name :: seen) members (store record) final) :
      Collects known shape seen ((units name, value) :: members) record final

-- The items of a list make a record of another, one for each member. Members that are not required
-- may be missing at the end.
inductive Places (shape : Member β → Value → (β → β) → Prop) :
    List (Member β) → List Value → β → β → Prop
  | nil {record : β} : Places shape [] [] record record
  | absent {member : Member β} {known : List (Member β)} {record final : β}
      (optional : member.required = false) (more : Places shape known [] record final) :
      Places shape (member :: known) [] record final
  | value {member : Member β} {known : List (Member β)} {value : Value} {values : List Value}
      {store : β → β} {record final : β} (fits : shape member value store)
      (more : Places shape known values (store record) final) :
      Places shape (member :: known) (value :: values) record final

theorem memberFuel {first : Bool} {name : List Nat} {form : Jsonc.Form} {behind : List Token}
    {fuel : Nat} (reads : Reads false form behind rest)
    (enough :
      (separated first (.scalar (.text name) :: .mark .colon :: behind)).length < fuel + 1) :
    rest.length < fuel := by
  have shorter := reads_shorter reads
  have short := length_le_separated first (.scalar (.text name) :: .mark .colon :: behind)
  simp only [List.length_cons] at short
  omega

theorem membersFrom_finds (exact : ∀ member ∈ known, Exactly member.read (shape member))
    {seen : List String} {members : List (List Nat × Value)}
    (collects : Collects known shape seen members record final) {first : Bool} {fuel : Nat}
    (listed : MemberTokens first members tokens rest) (ahead : Ahead cursor tokens)
    (enough : tokens.length < fuel) :
    ∃ stop, membersFrom known fuel first seen record cursor = .ok (final, stop) ∧
      Ahead stop rest := by
  induction collects generalizing first fuel tokens cursor with
  | @nil seen record complete =>
    obtain ⟨fuel, rfl⟩ := Nat.exists_eq_add_of_le' (show 1 ≤ fuel by omega)
    cases memberTokens_nil.mp listed
    obtain ⟨ended, ahead⟩ := nextMember_closing first ahead
    have nothing :
        (known.find? fun member => member.required && !seen.contains member.name) = none := by
      simpa using complete
    exact ⟨_, by simp only [membersFrom, ended, nothing, bind, Except.bind], ahead⟩
  | @unknown seen name value members record final other more ih =>
    obtain ⟨fuel, rfl⟩ := Nat.exists_eq_add_of_le' (show 1 ≤ fuel by omega)
    obtain ⟨behind, middle, rfl, reads, others⟩ := memberTokens_cons.mp listed
    have fuelLeft : middle.length < fuel := memberFuel reads enough
    obtain ⟨start, next, ahead⟩ := nextMember_separated ahead
    obtain ⟨atColon, isNamed, ahead⟩ := ahead.reads
    obtain ⟨atValue, passed, ahead⟩ := colon_goesOn ahead
    obtain ⟨place, skipped, ahead⟩ := skipValue_goesOn reads others.markFirst ahead
    obtain ⟨stop, found, ahead⟩ := ih others ahead fuelLeft
    refine ⟨stop, ?_, ahead⟩
    simpa only [membersFrom, next, isNamed, other, passed, skipped, bind, Except.bind] using found
  | @known seen name value member store members record final named new fits more ih =>
    obtain ⟨fuel, rfl⟩ := Nat.exists_eq_add_of_le' (show 1 ≤ fuel by omega)
    obtain ⟨behind, middle, rfl, reads, others⟩ := memberTokens_cons.mp listed
    have fuelLeft : middle.length < fuel := memberFuel reads enough
    have unseen : seen.contains name = false := by simpa using new
    obtain ⟨start, next, ahead⟩ := nextMember_separated ahead
    obtain ⟨atColon, isNamed, ahead⟩ := ahead.reads
    obtain ⟨atValue, passed, ahead⟩ := colon_goesOn ahead
    obtain ⟨place, read, ahead⟩ :=
      (exact member (List.mem_of_find?_eq_some named)).finds fits reads others.markFirst ahead
    obtain ⟨stop, found, ahead⟩ := ih others ahead fuelLeft
    refine ⟨stop, ?_, ahead⟩
    simpa only [membersFrom, next, isNamed, named, unseen, passed, read, bind, Except.bind,
      Bool.false_eq_true, if_false] using found

theorem membersFrom_found (exact : ∀ member ∈ known, Exactly member.read (shape member))
    {seen : List String} {first : Bool} {fuel : Nat}
    (found : membersFrom known fuel first seen record cursor = .ok (final, stop))
    (ahead : Ahead stop rest) :
    ∃ members tokens, Collects known shape seen members record final ∧
      MemberTokens first members tokens rest ∧ Ahead cursor tokens := by
  induction fuel generalizing first seen record cursor with
  | zero => cases found
  | succ fuel ih =>
    unfold membersFrom at found
    obtain ⟨next, nextRead, found⟩ := run_bind found
    cases next with
    | none =>
      simp only at found
      split at found
      next => cases found
      next nothing =>
        cases found
        refine ⟨[], _, .nil (by simpa using nothing), memberTokens_nil.mpr rfl,
          nextMember_none nextRead ahead⟩
    | some start =>
      obtain ⟨⟨name, atColon⟩, isNamed, found⟩ := run_bind found
      simp only at found
      -- The tokens are put together from the back: those behind this member come from the
      -- induction, then its value, the colon and the name are set in front of them.
      split at found
      next other =>
        obtain ⟨atValue, passed, found⟩ := run_bind found
        obtain ⟨place, skipped, found⟩ := run_bind found
        obtain ⟨members, middle, collects, listed, behind⟩ := ih found
        obtain ⟨value, tokens, reads, before⟩ := skipValue_came skipped behind
        have named := nameAhead_of_read isNamed (colon_found passed before)
        exact ⟨_, _, .unknown other collects, memberTokens_cons.mpr ⟨tokens, middle, rfl, reads,
          listed⟩, nextMember_some nextRead named⟩
      next member known =>
        split at found
        next => cases found
        next unseen =>
          obtain ⟨atValue, passed, found⟩ := run_bind found
          obtain ⟨⟨store, place⟩, read, found⟩ := run_bind found
          obtain ⟨members, middle, collects, listed, behind⟩ := ih found
          obtain ⟨value, tokens, fits, reads, before⟩ :=
            (exact member (List.mem_of_find?_eq_some known)).found read behind
          have named := nameAhead_of_read isNamed (colon_found passed before)
          exact ⟨_, _, .known known (by simpa using unseen) fits collects,
            memberTokens_cons.mpr ⟨tokens, middle, rfl, reads, listed⟩,
            nextMember_some nextRead named⟩

theorem positional_finds (exact : ∀ member ∈ known, Exactly member.read (shape member))
    {values : List Value} (places : Places shape known values record final) (expected : String)
    {count : Nat} (listed : ItemTokens (count == 0) values tokens rest)
    (ahead : Ahead cursor tokens) :
    ∃ stop, positional expected known count record cursor = .ok (final, stop) ∧
      Ahead stop rest := by
  induction places generalizing count tokens cursor with
  | nil =>
    cases itemTokens_nil.mp listed
    obtain ⟨-, stop, closed, ahead⟩ := nextItem_closing (count == 0) ahead
    exact ⟨stop, by simp [positional, closed, Except.map], ahead⟩
  | absent optional more ih =>
    -- Nothing is read for this member, and the same bracket is looked at again for the next.
    obtain ⟨ended, -⟩ := nextItem_closing (count == 0) (itemTokens_nil.mp listed ▸ ahead)
    obtain ⟨stop, found, ahead⟩ :=
      ih (fun member isKnown => exact member (List.mem_cons_of_mem _ isKnown)) listed ahead
    exact ⟨stop, by simpa [positional, ended, optional, bind, Except.bind] using found, ahead⟩
  | @value member known value values store record final fits more ih =>
    obtain ⟨_, middle, rfl, reads, others⟩ := itemTokens_cons.mp listed
    obtain ⟨exactHead, exact⟩ := List.forall_mem_cons.mp exact
    have goesOn := reads.not_closesFirst
    obtain ⟨token, tail, rfl⟩ := List.exists_cons_of_ne_nil reads.ne_nil
    obtain ⟨start, next, ahead⟩ := nextItem_separated goesOn ahead
    obtain ⟨place, read, ahead⟩ := exactHead.finds fits reads others.markFirst ahead
    have others : ItemTokens (count + 1 == 0) values middle rest := by simpa using others
    obtain ⟨stop, found, ahead⟩ := ih exact others ahead
    exact ⟨stop, by simpa [positional, next, read, bind, Except.bind] using found, ahead⟩

theorem positional_found (exact : ∀ member ∈ known, Exactly member.read (shape member))
    {expected : String} {count : Nat}
    (found : positional expected known count record cursor = .ok (final, stop))
    (ahead : Ahead stop rest) :
    ∃ values tokens, Places shape known values record final ∧
      ItemTokens (count == 0) values tokens rest ∧ Ahead cursor tokens := by
  induction known generalizing count record cursor with
  | nil =>
    obtain ⟨place, closed, same⟩ := run_map found
    cases same
    exact ⟨[], _, .nil, itemTokens_nil.mpr rfl, closeList_found closed ahead⟩
  | cons member known ih =>
    obtain ⟨exactHead, exact⟩ := List.forall_mem_cons.mp exact
    unfold positional at found
    obtain ⟨next, nextRead, found⟩ := run_bind found
    cases next with
    | none =>
      simp only at found
      split at found
      next =>
        obtain ⟨_, -, failed⟩ := run_bind found
        cases failed
      next optional =>
        obtain ⟨values, tokens, places, listed, ahead⟩ := ih exact found
        cases values with
        | nil => exact ⟨[], tokens, .absent (by simpa using optional) places, listed, ahead⟩
        | cons value values =>
          -- The list has come to its end, so no item can follow.
          obtain ⟨_, _, rfl, reads, -⟩ := itemTokens_cons.mp listed
          have goesOn := reads.not_closesFirst
          obtain ⟨token, tail, rfl⟩ := List.exists_cons_of_ne_nil reads.ne_nil
          obtain ⟨start, next, -⟩ := nextItem_separated goesOn ahead
          cases next.symm.trans nextRead
    | some start =>
      obtain ⟨⟨store, place⟩, read, found⟩ := run_bind found
      obtain ⟨values, middle, places, listed, behind⟩ := ih exact found
      obtain ⟨value, tokens, fits, reads, before⟩ := exactHead.found read behind
      exact ⟨value :: values, _, .value fits places,
        itemTokens_cons.mpr ⟨tokens, middle, rfl, reads, by simpa using listed⟩,
        nextItem_some nextRead before⟩

theorem record_exactly (title : String) (initial : β)
    (exact : ∀ member ∈ known, Exactly member.read (shape member)) :
    Exactly (Reader.record title known initial) fun value final =>
      (∃ members, value = .object members ∧ Collects known shape [] members initial final) ∨
        ∃ values, value = .array values ∧ Places shape known values initial final where
  finds := by
    rintro _ final _ rest cursor (⟨members, rfl, collects⟩ | ⟨values, rfl, places⟩) reads mark ahead
    · obtain ⟨more, rfl, listed⟩ := reads_object.mp reads
      obtain ⟨⟨text, here⟩, ahead⟩ := ahead.marked
      have short := length_le_spaced ahead
      rw [Cursor.rest_next here] at short
      obtain ⟨stop, read, ahead⟩ :=
        membersFrom_finds exact collects listed ahead (Nat.lt_succ_of_le short)
      exact ⟨stop, by simpa [Reader.record, value_eq here, here, Mark.char] using read, ahead⟩
    · obtain ⟨more, rfl, listed⟩ := reads_array.mp reads
      obtain ⟨⟨text, here⟩, ahead⟩ := ahead.marked
      have first : ItemTokens ((0 : Nat) == 0) values more rest := listed
      obtain ⟨stop, read, ahead⟩ := positional_finds exact places
        (title ++ " with " ++ toString known.length ++
          (if known.length = 1 then " element" else " elements")) first ahead
      exact ⟨stop, by simpa [Reader.record, value_eq here, here, Mark.char] using read, ahead⟩
  found := by
    intro final rest cursor stop found ahead
    have read := value_found found
    split at read
    next more here =>
      obtain ⟨members, tokens, collects, listed, before⟩ := membersFrom_found exact read ahead
      exact ⟨_, _, .inl ⟨members, rfl, collects⟩, reads_object.mpr ⟨tokens, rfl, listed⟩,
        ahead_of_mark .openObject here before⟩
    next here =>
      obtain ⟨values, tokens, places, listed, before⟩ := positional_found exact read ahead
      exact ⟨_, _, .inr ⟨values, rfl, places⟩, reads_array.mpr ⟨tokens, rfl, listed⟩,
        ahead_of_mark .openArray here before⟩
    next => cases read

end Records

section Single

variable {α β : Type} {name : String} {required : Bool} {read : Reader α}
  {shape : Value → α → Prop} {store : α → β → β}

theorem member_exactly (exact : Exactly read shape) :
    Exactly (Member.of name read store required).read
      fun value change => ∃ found, shape value found ∧ store found = change where
  finds := by
    rintro value _ tokens rest cursor ⟨found, fits, rfl⟩ reads mark ahead
    obtain ⟨stop, read, ahead⟩ := exact.finds fits reads mark ahead
    exact ⟨stop, by simp [Member.of, read, Except.map], ahead⟩
  found := by
    intro change rest cursor stop read ahead
    obtain ⟨⟨found, place⟩, read, same⟩ := run_map read
    cases same
    obtain ⟨value, tokens, fits, reads, before⟩ := exact.found read ahead
    exact ⟨value, tokens, ⟨found, fits, rfl⟩, reads, before⟩

inductive Among (name : String) (shape : Value → α → Prop) :
    List (List Nat × Value) → Option α → Prop
  | nil : Among name shape [] none
  | other {other : String} {value : Value} {members : List (List Nat × Value)} {found : Option α}
      (different : other ≠ name) (more : Among name shape members found) :
      Among name shape ((units other, value) :: members) found
  | named {value : Value} {found : α} {members : List (List Nat × Value)}
      (fits : shape value found) (more : Among name shape members none) :
      Among name shape ((units name, value) :: members) (some found)

inductive Single (name : String) (required : Bool) (shape : Value → α → Prop) :
    Value → Option α → Prop
  | object {members : List (List Nat × Value)} {found : Option α}
      (among : Among name shape members found) (complete : required → found.isSome) :
      Single name required shape (.object members) found
  | list {value : Value} {found : α} (fits : shape value found) :
      Single name required shape (.array [value]) (some found)
  | emptyList (optional : required = false) : Single name required shape (.array []) none

theorem collects_single {seen : List String} {members : List (List Nat × Value)}
    {record final : β}
    (collects : Collects [Member.of name read store required]
      (fun _ value change => ∃ found, shape value found ∧ store found = change) seen members
      record final) :
    (name ∉ seen → ∃ found, Among name shape members found ∧ (required → found.isSome) ∧
        final = found.elim record (store · record)) ∧
      (name ∈ seen → Among name shape members none ∧ final = record) := by
  -- Members behind the first one of this name are under the second half: the name is then among
  -- those that have been seen, so none of them can have it.
  induction collects with
  | nil complete =>
    refine ⟨fun new => ⟨none, .nil, fun needed => ?_, rfl⟩, fun _ => ⟨.nil, rfl⟩⟩
    exact absurd (complete _ (List.mem_singleton_self _) needed) new
  | @unknown seen other value members record final unknown more ih =>
    have different : other ≠ name := by
      rintro rfl
      simp [Member.of] at unknown
    refine ⟨fun new => ?_, fun old => ⟨.other different (ih.2 old).1, (ih.2 old).2⟩⟩
    obtain ⟨found, among, complete, same⟩ := ih.1 new
    exact ⟨found, .other different among, complete, same⟩
  | @known seen other value member change members record final named new fits more ih =>
    obtain ⟨found, fits, rfl⟩ := fits
    obtain rfl : name = other := by
      by_contra different
      simp [Member.of, different] at named
    obtain ⟨among, same⟩ := ih.2 (by simp)
    exact ⟨fun _ => ⟨some found, .named fits among, fun _ => rfl, same⟩,
      fun old => absurd old new⟩

theorem Among.collects {seen : List String} {members : List (List Nat × Value)}
    {found : Option α} (among : Among name shape members found) (record : β)
    (new : found.isSome → name ∉ seen) (complete : required → name ∈ seen ∨ found.isSome) :
    Collects [Member.of name read store required]
      (fun _ value change => ∃ found, shape value found ∧ store found = change) seen members
      record (found.elim record (store · record)) := by
  induction among generalizing seen record with
  | nil =>
    refine .nil fun member isKnown needed => ?_
    cases List.mem_singleton.mp isKnown
    simpa [Member.of] using complete needed
  | @other other value members found different more ih =>
    have unknown : ([Member.of name read store required].find?
        fun member => member.name == other) = none := by
      simpa [Member.of] using Ne.symm different
    exact .unknown unknown (ih record new complete)
  | @named value found members fits more ih =>
    have known : ([Member.of name read store required].find?
        fun member => member.name == name) = some (Member.of name read store required) := by
      simp [Member.of]
    exact .known known (new rfl) ⟨found, fits, rfl⟩
      (ih (store found record) (by simp) fun _ => .inl (by simp))

theorem single_exactly (title : String) (initial : β) (exact : Exactly read shape) :
    Exactly (Reader.record title [Member.of name read store required] initial) fun value final =>
      ∃ found, Single name required shape value found ∧
        final = found.elim initial (store · initial) := by
  have each : ∀ member ∈ [Member.of name read store required], Exactly member.read
      fun value change => ∃ found, shape value found ∧ store found = change := by
    simpa using member_exactly exact
  refine (record_exactly title initial each).congr fun value final => ⟨?_, ?_⟩
  · rintro (⟨members, rfl, collects⟩ | ⟨values, rfl, places⟩)
    · obtain ⟨found, among, complete, same⟩ := (collects_single collects).1 (by simp)
      exact ⟨found, .object among complete, same⟩
    · rcases places with _ | ⟨optional, ⟨⟩⟩ | ⟨⟨found, fits, rfl⟩, ⟨⟩⟩
      · exact ⟨none, .emptyList optional, rfl⟩
      · exact ⟨some found, .list fits, rfl⟩
  · rintro ⟨found, single, rfl⟩
    cases single with
    | object among complete =>
      exact .inl ⟨_, rfl, among.collects initial (by simp) fun needed => .inr (complete needed)⟩
    | list fits => exact .inr ⟨_, rfl, .value ⟨_, fits, rfl⟩ .nil⟩
    | emptyList optional => exact .inr ⟨_, rfl, .absent optional .nil⟩

end Single

end SymbolSearch.Json.Reader
