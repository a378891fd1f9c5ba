import Mathlib.Data.List.Induction
import SymbolSearch.Listing
import SymbolSearch.Proofs.Lists.FirstOccurrences

set_option autoImplicit false

namespace SymbolSearch

def Element.file (element : Element) : List Path.Component :=
  element.path.components

namespace Listing

theorem addToGroup_eq (element : Element) (groups : List (Path × List Element)) :
    addToGroup element groups =
      changeOrAdd (·.1.components) element.file (fun group => (group.1, group.2 ++ [element]))
        (element.path, [element]) groups := by
  induction groups with
  | nil => rfl
  | cons group groups ih =>
    rw [addToGroup, changeOrAdd, ih]
    exact if_congr Path.same_iff rfl rfl

def joined (element : Element) : Path × List Element → Path × List Element :=
  changed (·.1.components) element.file fun group => (group.1, group.2 ++ [element])

theorem joined_own {element : Element} {group : Path × List Element}
    (own : group.1.components = element.file) :
    joined element group = (group.1, group.2 ++ [element]) :=
  changed_own own

theorem joined_other {element : Element} {group : Path × List Element}
    (other : group.1.components ≠ element.file) : joined element group = group :=
  changed_other other

def fileGroup? (elements : List Element) (file : List Path.Component) :
    Option (Path × List Element) :=
  let members := elements.filter fun element => element.file == file
  members.head?.map fun first => (first.path, members)

def files (elements : List Element) : List (List Path.Component) :=
  (elements.map Element.file).eraseDups

section Files

variable {elements : List Element} {element : Element} {file : List Path.Component}

theorem fileGroup?_eq_some {group : Path × List Element}
    (found : fileGroup? elements file = some group) :
    group.1.components = file ∧ group.2 = elements.filter (fun element => element.file == file) ∧
      group.2.head?.map (·.path) = some group.1 := by
  obtain ⟨first, head, rfl⟩ := Option.map_eq_some_iff.mp found
  have member := List.mem_of_head? head
  refine ⟨?_, rfl, by simp [head]⟩
  simpa [Element.file] using (List.mem_filter.mp member).2

theorem exists_fileGroup? (occurs : file ∈ files elements) :
    ∃ group, fileGroup? elements file = some group := by
  obtain ⟨element, member, rfl⟩ := List.mem_map.mp (List.mem_eraseDups.mp occurs)
  have own : element ∈ elements.filter fun other => other.file == element.file := by
    simpa using member
  obtain ⟨first, head⟩ :=
    Option.isSome_iff_exists.mp (List.isSome_head?.mpr (List.ne_nil_of_mem own))
  exact ⟨_, by rw [fileGroup?, head, Option.map_some]⟩

theorem fileGroup?_concat_other (other : element.file ≠ file) :
    fileGroup? (elements ++ [element]) file = fileGroup? elements file := by
  simp [fileGroup?, other]

theorem fileGroup?_concat_known (occurs : file ∈ files elements) :
    fileGroup? (elements ++ [element]) file = (fileGroup? elements file).map (joined element) := by
  obtain ⟨group, found⟩ := exists_fileGroup? occurs
  obtain ⟨isFile, members, head⟩ := fileGroup?_eq_some found
  rw [found, Option.map_some]
  by_cases own : element.file = file
  · obtain ⟨first, isFirst, spelled⟩ := Option.map_eq_some_iff.mp head
    rw [joined_own (isFile.trans own.symm), fileGroup?, List.filter_append, ← members]
    simp [own, isFirst, spelled]
  · rw [joined_other (isFile.trans_ne (Ne.symm own)), fileGroup?_concat_other own, found]

theorem fileGroup?_concat_new (unknown : element.file ∉ files elements) :
    fileGroup? (elements ++ [element]) element.file = some (element.path, [element]) := by
  have none : elements.filter (fun other => other.file == element.file) = [] := by
    rw [List.filter_eq_nil_iff]
    intro other member same
    have listed : other.file ∈ files elements :=
      List.mem_eraseDups.mpr (List.mem_map_of_mem member)
    exact unknown (eq_of_beq same ▸ listed)
  simp [fileGroup?, none]

theorem files_concat_known (known : element.file ∈ files elements) :
    files (elements ++ [element]) = files elements := by
  rw [files, List.map_append, List.map_singleton]
  exact eraseDups_concat_known (List.mem_eraseDups.mp known)

theorem files_concat_new (unknown : element.file ∉ files elements) :
    files (elements ++ [element]) = files elements ++ [element.file] := by
  rw [files, List.map_append, List.map_singleton]
  exact eraseDups_concat_new (mt List.mem_eraseDups.mpr unknown)

end Files

section Filed

variable {elements : List Element}

def filed (elements : List Element) : List (Path × List Element) :=
  (files elements).filterMap (fileGroup? elements)

theorem filed_map {α : Type} {view : Path × List Element → α} {own : List Path.Component → α}
    (each : ∀ file group, fileGroup? elements file = some group → view group = own file) :
    (filed elements).map view = (files elements).map own := by
  rw [filed, List.map_filterMap, ← List.filterMap_eq_map]
  apply List.filterMap_congr
  intro file occurs
  obtain ⟨group, found⟩ := exists_fileGroup? occurs
  rw [found, Option.map_some, each file group found, Function.comp_apply]

theorem filed_files (elements : List Element) :
    (filed elements).map (·.1.components) = files elements := by
  rw [filed_map fun _ _ found => (fileGroup?_eq_some found).1, List.map_id']

theorem filed_members (elements : List Element) :
    (filed elements).flatMap Prod.snd = gathered Element.file elements := by
  rw [List.flatMap_def, filed_map fun _ _ found => (fileGroup?_eq_some found).2.1,
    ← List.flatMap_def]
  rfl

theorem addToGroup_filed (elements : List Element) (element : Element) :
    addToGroup element (filed elements) = filed (elements ++ [element]) := by
  have distinct : (files elements).Nodup := eraseDups_nodup _
  have grouped := filed_files elements
  by_cases known : element.file ∈ files elements
  · -- The group of the file grows, and the others stay.
    rw [← grouped] at distinct
    rw [addToGroup_eq, changeOrAdd_known distinct (grouped ▸ known), filed, filed, files_concat_known known,
      List.map_filterMap]
    exact List.filterMap_congr fun file occurs => (fileGroup?_concat_known occurs).symm
  · -- The group of a new file is opened behind the others.
    rw [addToGroup_eq, changeOrAdd_new (grouped ▸ known), filed, filed, files_concat_new known,
      List.filterMap_append, List.filterMap_cons_some (fileGroup?_concat_new known),
      List.filterMap_nil]
    congr 1
    apply List.filterMap_congr
    intro file occurs
    exact (fileGroup?_concat_other (ne_of_mem_of_not_mem occurs known).symm).symm

theorem groupByFile_eq (elements : List Element) : groupByFile elements = filed elements := by
  induction elements using List.reverseRecOn with
  | nil => rfl
  | append_singleton elements element ih =>
    rw [groupByFile, List.foldl_concat, ← groupByFile, ih]
    exact addToGroup_filed elements element

theorem filed_gathered (elements : List Element) :
    filed (gathered Element.file elements) = filed elements := by
  have sameFiles : files (gathered Element.file elements) = files elements := gathered_keys ..
  rw [filed, filed, sameFiles]
  apply List.filterMap_congr
  intro file _
  rw [fileGroup?, gathered_filter, fileGroup?]

def firstPlace (elements : List Element) (path : Path) : Nat :=
  elements.findIdx fun element => element.path.same path

theorem filed_ordered (elements : List Element) :
    (filed elements).Pairwise fun left right =>
      firstPlace elements left.1 < firstPlace elements right.1 := by
  have ordered := eraseDups_ordered (elements.map Element.file)
  rw [← files, ← filed_files, List.pairwise_map] at ordered
  refine ordered.imp fun {left right} before => ?_
  rw [List.idxOf, List.idxOf, List.findIdx_map, List.findIdx_map] at before
  exact before

theorem filed_apart (elements : List Element) :
    (filed elements).Pairwise fun left right => left.1.same right.1 = false := by
  have distinct : (files elements).Nodup := eraseDups_nodup _
  rw [← filed_files, List.Nodup, List.pairwise_map] at distinct
  exact distinct.imp fun differ => by simpa [Path.same] using differ

end Filed

def isHeading (fragment : Fragment) : Bool :=
  fragment.style == some ⟨true, some .magenta⟩

def isEntry (fragment : Fragment) : Bool :=
  fragment.style == some ⟨false, some .cyan⟩

structure Block where
  heading : String
  location : String
  entries : List (String × String)

-- What a reader who goes by the styles finds: the entries that stand under no heading, and the
-- blocks. The fragment behind a heading is the line of its path, and that behind the kind of an
-- entry is the rest of the entry.
def read : List Fragment → List (String × String) × List Block
  | first :: next :: rest =>
    let (entries, blocks) := read (next :: rest)
    if isHeading first then
      ([], { heading := first.text, location := next.text, entries } :: blocks)
    else if isEntry first then ((first.text, next.text) :: entries, blocks)
    else (entries, blocks)
  | _ => ([], [])

def entryTexts (element : Element) : String × String :=
  ("**" ++ element.kind.name ++ "**", ": " ++ element.scopedName ++ "\n")

def Block.ofGroup (file : Path × List Element) : Block :=
  { heading := "## " ++ file.1.baseName ++ "\n"
    location := "*Path: " ++ file.1.text ++ "*\n"
    entries := file.2.map entryTexts }

theorem read_other {fragment : Fragment} (noHeading : isHeading fragment = false)
    (noEntry : isEntry fragment = false) (rest : List Fragment) :
    read (fragment :: rest) = read rest := by
  cases rest with
  | nil => rfl
  | cons next rest => simp [read, noHeading, noEntry]

theorem read_plain (text : String) (rest : List Fragment) :
    read (plain text :: rest) = read rest :=
  read_other rfl rfl rest

theorem read_entry (element : Element) (rest : List Fragment) :
    read (entry element ++ rest) = (entryTexts element :: (read rest).1, (read rest).2) := by
  rw [entry, List.cons_append, read_plain, List.cons_append, List.cons_append, List.nil_append,
    read, read_plain]
  rfl

theorem read_entries (elements : List Element) (rest : List Fragment) :
    read (elements.flatMap entry ++ rest) =
      (elements.map entryTexts ++ (read rest).1, (read rest).2) := by
  induction elements with
  | nil => rfl
  | cons element elements ih =>
    rw [List.flatMap_cons, List.append_assoc, read_entry, ih]
    rfl

theorem read_group (file : Path × List Element) {rest : List Fragment} (none : (read rest).1 = []) :
    read (group file ++ rest) = ([], Block.ofGroup file :: (read rest).2) := by
  have under : read (plain "\n" :: (file.2.flatMap entry ++ rest)) =
      (file.2.map entryTexts, (read rest).2) := by
    rw [read_plain, read_entries, none, List.append_nil]
  rw [group, List.append_assoc, List.cons_append, read_plain]
  simp only [List.cons_append, List.nil_append]
  rw [read, read_plain, under]
  rfl

theorem read_groups (groups : List (Path × List Element)) :
    read (groups.flatMap group) = ([], groups.map Block.ofGroup) := by
  induction groups with
  | nil => rfl
  | cons file groups ih => rw [List.flatMap_cons, read_group file (by rw [ih]), ih, List.map_cons]

theorem read_grouped (elements : List Element) :
    read (grouped elements) = ([], (groupByFile elements).map Block.ofGroup) := by
  rw [grouped, read_other rfl rfl, read_groups]

theorem countP_group (marked : Fragment → Bool) (inHead inEntry : Nat) (file : Path × List Element)
    (head : (group (file.1, [])).countP marked = inHead)
    (each : ∀ element, (entry element).countP marked = inEntry) :
    (group file).countP marked = inHead + file.2.length * inEntry := by
  have apart : group file = group (file.1, []) ++ file.2.flatMap entry := by
    simp [group]
  rw [apart, List.countP_append, head, List.countP_flatMap]
  simp [Function.comp_def, each]

theorem count_headings (elements : List Element) :
    (grouped elements).countP isHeading = (groupByFile elements).length := by
  have one (file : Path × List Element) : (group file).countP isHeading = 1 :=
    countP_group isHeading 1 0 file rfl fun _ => rfl
  rw [grouped, List.countP_cons_of_neg (by decide), List.countP_flatMap]
  simp [Function.comp_def, one]

theorem count_entries (elements : List Element) :
    (grouped elements).countP isEntry = ((groupByFile elements).flatMap Prod.snd).length := by
  have each (file : Path × List Element) : (group file).countP isEntry = 0 + file.2.length * 1 :=
    countP_group isEntry 0 1 file rfl fun _ => rfl
  rw [grouped, List.countP_cons_of_neg (by decide), List.countP_flatMap, List.length_flatMap]
  simp [Function.comp_def, each]

/-- No two groups are of one file, and they stand in the order of the first elements of their files;
a group holds the elements of its file as they stood, under the spelling of the first, and all
groups together hold every element once. The listing has one heading for each file and one entry for
each element, and what is read under a heading are the elements of its group. Listed again file by
file the elements make the same groups and the same listing. -/
theorem groupByFile_stable_partition (elements : List Element) :
    let groups := groupByFile elements
    (groups.Pairwise fun left right => left.1.same right.1 = false) ∧
    (groups.Pairwise fun left right =>
      firstPlace elements left.1 < firstPlace elements right.1) ∧
    (∀ group ∈ groups, group.2 ≠ [] ∧ group.2.head?.map (·.path) = some group.1 ∧
      group.2 = elements.filter fun element => element.path.same group.1) ∧
    (groups.flatMap Prod.snd).Perm elements ∧
    (grouped elements).countP isHeading = (files elements).length ∧
    (grouped elements).countP isEntry = elements.length ∧
    read (grouped elements) = ([], groups.map Block.ofGroup) ∧
    groupByFile (groups.flatMap Prod.snd) = groups ∧
    grouped (groups.flatMap Prod.snd) = grouped elements := by
  intro groups
  have isFiled : groups = filed elements := groupByFile_eq elements
  have together : groups.flatMap Prod.snd = gathered Element.file elements :=
    isFiled ▸ filed_members elements
  have perm : (groups.flatMap Prod.snd).Perm elements := together ▸ gathered_perm ..
  have again : groupByFile (groups.flatMap Prod.snd) = groups := by
    rw [together, groupByFile_eq, filed_gathered, isFiled]
  refine ⟨isFiled ▸ filed_apart elements, isFiled ▸ filed_ordered elements, ?_, perm, ?_, ?_,
    read_grouped elements, again, ?_⟩
  · intro group member
    rw [isFiled] at member
    obtain ⟨file, _, found⟩ := List.mem_filterMap.mp member
    obtain ⟨isFile, members, head⟩ := fileGroup?_eq_some found
    refine ⟨?_, head, ?_⟩
    · rintro none
      simp [none] at head
    · rw [members, ← isFile]
      rfl
  · rw [count_headings, ← filed_files, List.length_map, ← isFiled]
  · rw [count_entries, perm.length_eq]
  · rw [grouped, again, grouped]

def spelledTwice : List Element :=
  ["src/a.ts", "b.ts", "src//a.ts"].map fun text =>
    { (default : Element) with name := text, path := ⟨text⟩ }

theorem groupByFile_stable_partition_spellings :
    ∃ group ∈ groupByFile spelledTwice, group.1.text = "src/a.ts" ∧
      group.2.map (·.name) = ["src/a.ts", "src//a.ts"] ∧ group.2 ≠ [] ∧
      group.2 = spelledTwice.filter fun element => element.path.same group.1 := by
  obtain ⟨-, -, parts, -⟩ := groupByFile_stable_partition spelledTwice
  obtain ⟨group, member, spelled, names⟩ : ∃ group ∈ groupByFile spelledTwice,
      group.1.text = "src/a.ts" ∧ group.2.map (·.name) = ["src/a.ts", "src//a.ts"] :=
    ⟨_, List.mem_cons_self, rfl, rfl⟩
  obtain ⟨some, -, members⟩ := parts group member
  exact ⟨group, member, spelled, names, some, members⟩

end Listing

end SymbolSearch
