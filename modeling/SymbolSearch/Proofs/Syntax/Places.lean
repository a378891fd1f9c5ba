import SymbolSearch.Proofs.Text.Windows
import SymbolSearch.Syntax.Scan

set_option autoImplicit false

namespace SymbolSearch.Syntax

open SymbolSearch.Text (rowAt)

namespace Place

-- What follows a place of a text is the rest of it, and its row counts the newlines before.
structure Of (source : List Char) (place : Place) : Prop where
  rest : place.rest = source.drop place.offset
  row : place.row = rowAt source place.offset
  inside : place.offset ≤ source.length

@[grind intro]
inductive Leads : Place → Place → Prop where
  | refl (place : Place) : Leads place place
  | next {place stop : Place} (rest : Leads place.next stop) : Leads place stop

variable {source : List Char} {place stop last : Place}

theorem of_ofText (source : List Char) : (ofText source).Of source :=
  ⟨rfl, by simp [ofText, rowAt], by simp [ofText]⟩

theorem Of.lt_length (isPlace : place.Of source) {c : Char} {rest : List Char}
    (here : place.rest = c :: rest) : place.offset < source.length := by
  apply Nat.lt_of_le_of_ne isPlace.inside
  intro same
  have nothing := isPlace.rest
  simp [here, same] at nothing

theorem Of.next (isPlace : place.Of source) : place.next.Of source := by
  unfold Place.next
  split
  next => exact isPlace
  next c behind here =>
    have before := isPlace.lt_length here
    have split := isPlace.rest
    rw [here, List.drop_eq_getElem_cons before, List.cons.injEq] at split
    refine ⟨split.2, ?_, before⟩
    simp only [rowAt, List.take_succ_eq_append_getElem before, List.count_append, ← split.1,
      List.count_singleton, isPlace.row]
    by_cases newline : c = '\n' <;> simp [newline]

theorem Of.leads (isPlace : place.Of source) (leads : place.Leads stop) : stop.Of source := by
  induction leads with
  | refl => exact isPlace
  | next _ ih => exact ih isPlace.next

theorem offset_le_next (place : Place) : place.offset ≤ place.next.offset := by
  unfold Place.next
  split <;> simp

theorem Leads.offset_le (leads : place.Leads stop) : place.offset ≤ stop.offset := by
  induction leads with
  | refl => exact Nat.le_refl _
  | @next place _ _ ih => exact Nat.le_trans place.offset_le_next ih

theorem Leads.trans (first : place.Leads stop) (second : stop.Leads last) : place.Leads last := by
  induction first with
  | refl => exact second
  | next _ ih => exact .next (ih second)

theorem leads_next (place : Place) : place.Leads place.next :=
  .next (.refl _)

theorem leads_skip (count : Nat) (place : Place) : place.Leads (place.skip count) := by
  induction count generalizing place with
  | zero => exact .refl place
  | succ count ih => exact .next (ih place.next)

theorem leads_skipWhile (keep : Char → Bool) (place : Place) :
    place.Leads (place.skipWhile keep) := by
  have scan (rest : List Char) (place : Place) : place.Leads (skipWhile.go keep rest place) := by
    induction rest generalizing place with
    | nil => exact .refl place
    | cons c rest ih =>
      rw [skipWhile.go]
      split
      · exact .next (ih place.next)
      · exact .refl place
  exact scan place.rest place

end Place

open Place (Leads leads_next leads_skip leads_skipWhile)

theorem skipGap_leads (gap : Gap) (fresh : Bool) (rest : List Char) (place : Place) :
    place.Leads (skipGap gap fresh rest place).2 := by
  fun_induction skipGap gap fresh rest place <;> grind [Place.skip]

theorem skipSpace_leads (place : Place) : place.Leads (skipSpace place).2 :=
  skipGap_leads ..

theorem stringEnd_leads (quote : Char) (rest : List Char) (place : Place) :
    place.Leads (stringEnd quote rest place) := by
  fun_induction stringEnd quote rest place <;> grind [Place.skip]

theorem patternEnd_leads (inClass : Bool) (rest : List Char) (place : Place) :
    place.Leads (patternEnd inClass rest place) := by
  fun_induction patternEnd inClass rest place <;> grind [Place.skip]

theorem skipAngles_leads (depth : Nat) (rest : List Char) (place : Place) :
    place.Leads (skipAngles depth rest place) := by
  fun_induction skipAngles depth rest place <;> grind [Place.skip]

theorem numberEnd_go_leads (radix dotted : Bool) (rest : List Char) (place : Place) :
    place.Leads (numberEnd.go radix dotted rest place) := by
  fun_induction numberEnd.go radix dotted rest place <;> grind [Place.skip]

theorem numberEnd_leads (start : Place) : start.Leads (numberEnd start) := by
  unfold numberEnd
  extract_lets radix
  split
  · exact .next (numberEnd_go_leads ..)
  · exact numberEnd_go_leads ..

-- The functions that scan tokens, templates and markup elements call each other.
structure ScansLead (markup : Bool) (fuel : Nat) : Prop where
  items : ∀ close context place scanned,
    Leads place (scanItems markup fuel close context place scanned).2
  template : ∀ place, Leads place (scanTemplate markup fuel place)
  element : ∀ place stop, scanMarkup markup fuel place = some stop → Leads place stop
  attributes : ∀ name place stop,
    scanAttributes markup fuel name place = some stop → Leads place stop
  children : ∀ name place stop, scanChildren markup fuel name place = some stop → Leads place stop

-- A step of the scan for tokens, from the place of the next one on: the scan ends, or it goes on
-- behind a token without parts, or behind a group that it has scanned.
inductive ItemsStep (markup : Bool) (fuel : Nat) (close : Option Char) (fresh : Bool)
    (start : Place) (scanned : List Token) : List Token × Place → Prop where
  | ends {stop : Place} (leads : Leads start stop) :
      ItemsStep markup fuel close fresh start scanned (scanned.reverse, stop)
  | leaf {stop : Place} (sort : Leaf) (text : String) (context : Context) (more : start.rest ≠ [])
      (leads : Leads start stop) :
      ItemsStep markup fuel close fresh start scanned
        (scanItems markup fuel close context stop (.leaf sort text start.row fresh :: scanned))
  | group {items : List Token} {stop : Place} (bracket : Char) (text : String)
      (inner outer : Context) (more : start.rest ≠ [])
      (inside :
        scanItems markup fuel (some (closing bracket)) inner start.next [] = (items, stop)) :
      ItemsStep markup fuel close fresh start scanned
        (scanItems markup fuel close outer stop
          (.group bracket items text start.row fresh :: scanned))

theorem scanItems_step {markup : Bool} {fuel : Nat} (scans : ScansLead markup fuel)
    (close : Option Char) (context : Context) (place : Place) (scanned : List Token) :
    ItemsStep markup fuel close (skipSpace place).1 (skipSpace place).2 scanned
      (scanItems markup (fuel + 1) close context place scanned) := by
  rw [scanItems]
  obtain ⟨fresh, start⟩ := skipSpace place
  dsimp only
  split
  next => exact .ends (.refl start)
  next c rest here =>
    have more : start.rest ≠ [] := by simp [here]
    -- One case for each kind of token, in the order in which the scan asks for them.
    split
    next => exact .ends (leads_next start)
    split
    next => exact .group _ _ _ _ more rfl
    split
    next => exact .leaf _ _ _ more (.next (stringEnd_leads ..))
    split
    next => exact .leaf _ _ _ more (.next (scans.template _))
    split
    next => exact .leaf _ _ _ more (numberEnd_leads start)
    split
    next => exact .leaf _ _ _ more (.next ((patternEnd_leads ..).trans (leads_skipWhile ..)))
    split
    next =>
      split
      next stop found => exact .leaf _ _ _ more (scans.element _ _ found)
      next => exact .leaf _ _ _ more (leads_skip 1 start)
    split
    next => exact .leaf _ _ _ more (.next (leads_skipWhile ..))
    split
    next => exact .leaf _ _ _ more (leads_skip _ start)
    next => exact .leaf _ _ _ more (leads_skip 1 start)

theorem ItemsStep.leads {markup : Bool} {fuel : Nat} {close : Option Char} {fresh : Bool}
    {start : Place} {scanned : List Token} {scan : List Token × Place}
    (scans : ScansLead markup fuel)
    (step : ItemsStep markup fuel close fresh start scanned scan) : Leads start scan.2 := by
  cases step with
  | ends leads => exact leads
  | leaf _ _ _ _ leads => exact leads.trans (scans.items ..)
  | group bracket _ inner _ _ inside =>
    have within := scans.items (some (closing bracket)) inner start.next []
    rw [inside] at within
    exact .next (within.trans (scans.items ..))

variable {markup : Bool} {fuel : Nat} {name : String} {place stop : Place}

theorem scanTemplate_leads (scans : ScansLead markup fuel) (place : Place) :
    place.Leads (scanTemplate markup (fuel + 1) place) := by
  rw [scanTemplate]
  split
  next => exact .refl place
  next => exact (leads_skip 2 place).trans (scans.template _)
  next => exact (leads_skip 2 place).trans ((scans.items ..).trans (scans.template _))
  next =>
    split
    next => exact leads_next place
    next => exact .next (scans.template _)

theorem scanMarkup_leads (scans : ScansLead markup fuel)
    (scan : scanMarkup markup (fuel + 1) place = some stop) : place.Leads stop := by
  rw [scanMarkup] at scan
  dsimp only at scan
  apply Leads.next
  apply (skipSpace_leads place.next).trans
  split at scan
  next => exact .next (scans.children _ _ _ scan)
  next =>
    split at scan
    next =>
      exact (leads_skipWhile ..).trans ((skipAngles_leads ..).trans (scans.attributes _ _ _ scan))
    next => simp at scan
  next => simp at scan

theorem scanAttributes_leads (scans : ScansLead markup fuel)
    (scan : scanAttributes markup (fuel + 1) name place = some stop) : place.Leads stop := by
  rw [scanAttributes] at scan
  dsimp only at scan
  apply (skipSpace_leads place).trans
  split at scan
  next => exact Option.some.inj scan ▸ leads_skip 2 _
  next => exact .next (scans.children _ _ _ scan)
  next => exact .next ((scans.items ..).trans (scans.attributes _ _ _ scan))
  next =>
    split at scan
    next =>
      apply (leads_skipWhile isMarkupNameChar _).trans
      split at scan
      next =>
        apply (skipSpace_leads _).trans
        apply Leads.next
        apply (skipSpace_leads _).trans
        split at scan
        next => exact .next ((leads_skipWhile ..).trans (.next (scans.attributes _ _ _ scan)))
        next => exact .next ((leads_skipWhile ..).trans (.next (scans.attributes _ _ _ scan)))
        next => exact .next ((scans.items ..).trans (scans.attributes _ _ _ scan))
        next =>
          split at scan
          next found => exact (scans.element _ _ found).trans (scans.attributes _ _ _ scan)
          next => simp at scan
        next => simp at scan
      next => exact scans.attributes _ _ _ scan
    next => simp at scan
  next => simp at scan

theorem scanChildren_leads (scans : ScansLead markup fuel)
    (scan : scanChildren markup (fuel + 1) name place = some stop) : place.Leads stop := by
  rw [scanChildren] at scan
  dsimp only at scan
  split at scan
  next => simp at scan
  next =>
    split at scan
    next =>
      split at scan
      next =>
        split at scan
        next =>
          obtain rfl := Option.some.inj scan
          apply Leads.next
          apply (skipSpace_leads _).trans
          apply Leads.next
          apply (skipSpace_leads _).trans
          apply (leads_skipWhile isMarkupNameChar _).trans
          exact (skipSpace_leads _).trans (leads_next _)
        next => simp at scan
      next => simp at scan
    next =>
      split at scan
      next found => exact (scans.element _ _ found).trans (scans.children _ _ _ scan)
      next => simp at scan
  next => exact .next ((scans.items ..).trans (scans.children _ _ _ scan))
  next => exact .next (scans.children _ _ _ scan)

theorem scansLead (markup : Bool) (fuel : Nat) : ScansLead markup fuel := by
  induction fuel with
  | zero =>
    constructor
    · intros
      exact .refl _
    · intros
      exact .refl _
    all_goals simp [scanMarkup, scanAttributes, scanChildren]
  | succ fuel scans =>
    constructor
    · intro close context place scanned
      exact (skipSpace_leads place).trans ((scanItems_step scans ..).leads scans)
    · exact scanTemplate_leads scans
    · exact fun _ _ => scanMarkup_leads scans
    · exact fun _ _ _ => scanAttributes_leads scans
    · exact fun _ _ _ => scanChildren_leads scans

end SymbolSearch.Syntax
