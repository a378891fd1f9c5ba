import Mathlib.Tactic.MkIffOfInductiveProp
import SymbolSearch.Proofs.Glob.Plain
import SymbolSearch.Proofs.Project.SourceFiles

set_option autoImplicit false

namespace SymbolSearch

namespace Project

open SymbolSearch.Path

def relative (names : List String) : String :=
  "/".intercalate names

@[mk_iff]
structure IsName (name : String) : Prop where
  given : name ≠ ""
  notHere : name ≠ "."
  noSlash : '/' ∉ name.toList

def LiesBelow (folder file : List String) : Prop :=
  folder <+: file ∧ folder ≠ file

instance (folder file : List String) : Decidable (LiesBelow folder file) :=
  inferInstanceAs (Decidable (_ ∧ _))

structure Parted (names : List String) : Prop where
  nonempty : names ≠ []
  noSlash : ∀ name ∈ names, '/' ∉ name.toList

variable {folder file names : List String} {text : List Char}

theorem piecesFrom_name (piece : List Char) (noSlash : '/' ∉ text) :
    piecesFrom piece text = [piece.reverse ++ text] := by
  induction text generalizing piece with
  | nil => simp [piecesFrom]
  | cons c text ih =>
    obtain ⟨other, noSlash⟩ := not_or.mp (List.mem_cons.not.mp noSlash)
    simp [piecesFrom, Ne.symm other, ih _ noSlash]

theorem piecesFrom_ne_nil (piece text : List Char) : piecesFrom piece text ≠ [] := by
  fun_induction piecesFrom piece text <;> simp_all

theorem relative_cons_cons (name next : String) (names : List String) :
    (relative (name :: next :: names)).toList =
      name.toList ++ '/' :: (relative (next :: names)).toList := by
  simp [relative, String.append_assoc]

theorem Parted.pieces (parted : Parted names) :
    (piecesFrom [] (relative names).toList).map String.ofList = names := by
  obtain ⟨nonempty, noSlash⟩ := parted
  induction names with
  | nil => exact absurd rfl nonempty
  | cons name names ih =>
    obtain ⟨own, noSlash⟩ := List.forall_mem_cons.mp noSlash
    cases names with
    | nil => simp [relative, piecesFrom_name _ own]
    | cons next names =>
      have rest := ih (by simp) noSlash
      rw [relative_cons_cons, piecesFrom_slash, List.map_append, rest, piecesFrom_name _ own]
      simp

theorem Parted.relative_eq_iff (parted : Parted folder) (other : Parted file) :
    (relative file).toList = (relative folder).toList ↔ file = folder := by
  constructor
  · intro same
    rw [← parted.pieces, ← other.pieces, same]
  · rintro rfl
    rfl

theorem Parted.liesBelow_iff (parted : Parted folder) (other : Parted file) :
    (∃ rest, (relative file).toList = (relative folder).toList ++ '/' :: rest) ↔
      LiesBelow folder file := by
  constructor
  · rintro ⟨rest, split⟩
    have names := other.pieces
    rw [split, piecesFrom_slash, List.map_append, parted.pieces] at names
    refine ⟨⟨_, names⟩, ?_⟩
    -- Behind a slash there is always a name, if only an empty one.
    rintro rfl
    simp [piecesFrom_ne_nil] at names
  · rintro ⟨⟨more, rfl⟩, differ⟩
    have behind : more ≠ [] := by
      rintro rfl
      simp at differ
    refine ⟨(relative more).toList, ?_⟩
    simp [relative, String.intercalate_append_of_ne_nil parted.nonempty behind]

def folderText (folder : List String) : List Char :=
  if folder = [] then ['.'] else (relative folder).toList

def spelling (dots : Nat) (folder : List String) (slashes : Nat) : String :=
  String.ofList ((List.replicate dots ['.', '/']).flatten ++ folderText folder ++
    List.replicate slashes '/')

theorem trimHere_dots (dots : Nat) (text : List Char) :
    trimHere ((List.replicate dots ['.', '/']).flatten ++ text) = trimHere text := by
  induction dots with
  | zero => rfl
  | succ dots ih => simpa [List.replicate_succ, trimHere] using ih

theorem trimHere_name {name : String} (isName : IsName name) (behind : List Char) :
    trimHere (name.toList ++ behind) = name.toList ++ behind := by
  rw [trimHere.eq_def]
  split
  next text rest starts =>
    exfalso
    obtain ⟨given, notHere, noSlash⟩ := isName
    rcases letters : name.toList with _ | ⟨first, _ | ⟨second, more⟩⟩
    · exact given (String.toList_eq_nil_iff.mp letters)
    · obtain ⟨rfl, -⟩ : first = '.' ∧ _ := by simpa [letters] using starts
      exact notHere (String.toList_inj.mp letters)
    · obtain ⟨-, rfl, -⟩ : first = '.' ∧ second = '/' ∧ _ := by simpa [letters] using starts
      simp [letters] at noSlash
  next => rfl

theorem trimSlashes_append {text : List Char} (solid : text.getLast? ≠ some '/') (slashes : Nat) :
    trimSlashes (text ++ List.replicate slashes '/') = text := by
  have whole : text.reverse.dropWhile (· = '/') = text.reverse := by
    rw [List.getLast?_eq_head?_reverse] at solid
    cases backwards : text.reverse with
    | nil => rfl
    | cons c rest => exact List.dropWhile_cons_of_neg (by simpa [backwards] using solid)
  rw [trimSlashes, List.reverse_append, List.reverse_replicate,
    List.dropWhile_append_of_pos (by simp), whole, List.reverse_reverse]

theorem relative_getLast (names : ∀ name ∈ folder, IsName name) :
    (relative folder).toList.getLast? ≠ some '/' := by
  rcases List.eq_nil_or_concat folder with rfl | ⟨front, last, rfl⟩
  · simp [relative]
  · obtain ⟨given, -, noSlash⟩ := names last (by simp)
    have begun : last.toList ≠ [] := by simpa using given
    have behind : ∃ before, (relative (front ++ [last])).toList = before ++ last.toList := by
      by_cases alone : front = []
      · exact ⟨[], by simp [alone, relative]⟩
      · exact ⟨(relative front).toList ++ ['/'], by
          simp [relative, String.intercalate_append_of_ne_nil alone]⟩
    obtain ⟨before, behind⟩ := behind
    rw [List.concat_eq_append, behind, List.getLast?_append_of_ne_nil _ begun]
    exact fun ends => noSlash (List.mem_of_getLast? ends)

theorem relative_cons (name : String) (names : List String) :
    ∃ behind, (relative (name :: names)).toList = name.toList ++ behind := by
  cases names with
  | nil => exact ⟨[], by simp [relative]⟩
  | cons next names => exact ⟨_, relative_cons_cons name next names⟩

theorem trimmed_spelling (dots slashes : Nat) (nonempty : folder ≠ [])
    (names : ∀ name ∈ folder, IsName name) :
    trimSlashes (trimHere (spelling dots folder slashes).toList) = (relative folder).toList := by
  obtain ⟨name, more, rfl⟩ := List.exists_cons_of_ne_nil nonempty
  obtain ⟨behind, starts⟩ := relative_cons name more
  have kept := trimHere_name (names name (by simp)) (behind ++ List.replicate slashes '/')
  rw [← List.append_assoc, ← starts] at kept
  rw [spelling, String.toList_ofList, List.append_assoc, trimHere_dots, folderText,
    if_neg nonempty, kept, trimSlashes_append (relative_getLast names)]

theorem trimmed_spelling_here (dots slashes : Nat) :
    trimSlashes (trimHere (spelling dots [] slashes).toList) =
      if slashes = 0 then ['.'] else [] := by
  rw [spelling, String.toList_ofList, List.append_assoc, trimHere_dots]
  cases slashes with
  | zero => rfl
  | succ slashes =>
    have left : trimHere (folderText [] ++ List.replicate (slashes + 1) '/') =
        List.replicate slashes '/' := by
      cases slashes <;> rfl
    simpa [left] using @trimSlashes_append [] (by simp) slashes

def plainGlobs (text : List Char) : List Glob :=
  [⟨text.map .literal⟩, ⟨text.map .literal ++ [.anythingBelow]⟩]

theorem globsOf_plain {pattern : String} (left : trimSlashes (trimHere pattern.toList) = text)
    (begun : text ≠ []) (plain : Glob.Plain text) : globsOf pattern = .ok (plainGlobs text) := by
  have given : (String.ofList text).isEmpty = false := by simpa using begun
  simp only [globsOf, left, given, parsePattern, Glob.ofText_plain plain, Glob.ofText_below plain]
  rfl

theorem globsOf_empty {pattern : String} (left : trimSlashes (trimHere pattern.toList) = []) :
    globsOf pattern = .ok [] := by
  rw [globsOf, left]
  rfl

theorem plainGlobs_match (parted : Parted folder) (other : Parted file) :
    (plainGlobs (relative folder).toList).any (·.isMatch (relative file)) ↔
      file = folder ∨ LiesBelow folder file := by
  simp only [plainGlobs, List.any_cons, List.any_nil, Bool.or_false, Bool.or_eq_true,
    Glob.isMatch_literals, Glob.isMatch_below, parted.relative_eq_iff other,
    parted.liesBelow_iff other]

theorem globsOfAll_singleton {pattern : String} {globs : List Glob}
    (one : globsOf pattern = .ok globs) : globsOfAll [pattern] = .ok globs := by
  simp [globsOfAll, one, bind, Except.bind, pure, Except.pure]

theorem relative_plain (plain : ∀ name ∈ folder, Glob.Plain name.toList) :
    Glob.Plain (relative folder).toList := by
  induction folder with
  | nil => simp [relative, Glob.Plain]
  | cons name names ih =>
    obtain ⟨own, plain⟩ := List.forall_mem_cons.mp plain
    cases names with
    | nil => simpa [relative] using own
    | cons next names =>
      have slash : '/' ∉ Glob.marks := by decide
      rw [relative_cons_cons]
      exact List.forall_mem_append.mpr ⟨own, List.forall_mem_cons.mpr ⟨slash, ih plain⟩⟩

theorem Parted.ofNames (nonempty : names ≠ []) (each : ∀ name ∈ names, IsName name) : Parted names :=
  ⟨nonempty, fun name member => (each name member).noSlash⟩

theorem globsOfAll_folder (dots slashes : Nat) (nonempty : folder ≠ [])
    (names : ∀ name ∈ folder, IsName name ∧ Glob.Plain name.toList) :
    globsOfAll [spelling dots folder slashes] = .ok (plainGlobs (relative folder).toList) := by
  have plain := relative_plain fun name member => (names name member).2
  have isName := fun name member => (names name member).1
  have begun : (relative folder).toList ≠ [] := by
    obtain ⟨name, more, rfl⟩ := List.exists_cons_of_ne_nil nonempty
    obtain ⟨behind, starts⟩ := relative_cons name more
    simp [starts, (isName name (by simp)).given]
  exact globsOfAll_singleton
    (globsOf_plain (trimmed_spelling dots slashes nonempty isName) begun plain)

theorem here_matches_nothing (nonempty : file ≠ []) (each : ∀ name ∈ file, IsName name) :
    ¬ (plainGlobs ['.']).any (·.isMatch (relative file)) := by
  -- The dot that is left reads as a folder of that name, and no file has it among its names.
  have here : Parted ["."] := ⟨by simp, by simp⟩
  have stands : ['.'] = (relative ["."]).toList := by simp [relative]
  have absent : ¬ ["."] <+: file := fun starts =>
    (each "." (starts.subset (by simp))).notHere rfl
  rw [stands, plainGlobs_match here (.ofNames nonempty each)]
  rintro (rfl | ⟨starts, -⟩)
  · exact absent (List.prefix_refl _)
  · exact absent starts

theorem globsOfAll_ownFolder (dots slashes : Nat) :
    ∃ included, globsOfAll [spelling dots [] slashes] = .ok included ∧
      ∀ file, file ≠ [] → (∀ name ∈ file, IsName name) →
        ¬ included.any (·.isMatch (relative file)) := by
  cases slashes with
  | zero =>
    have left : _ = ['.'] := trimmed_spelling_here dots 0
    have plain : Glob.Plain ['.'] := by simp [Glob.Plain, Glob.marks]
    exact ⟨_, globsOfAll_singleton (globsOf_plain left (by simp) plain),
      fun _ => here_matches_nothing⟩
  | succ slashes =>
    have left : _ = [] := trimmed_spelling_here dots (slashes + 1)
    exact ⟨[], globsOfAll_singleton (globsOf_empty left), by simp⟩

theorem globsOfAll_spelling (dots slashes : Nat)
    (names : ∀ name ∈ folder, IsName name ∧ Glob.Plain name.toList) :
    ∃ included, globsOfAll [spelling dots folder slashes] = .ok included ∧
      ∀ file, file ≠ [] → (∀ name ∈ file, IsName name) →
        (included.any (·.isMatch (relative file)) ↔
          folder ≠ [] ∧ (file = folder ∨ LiesBelow folder file)) := by
  by_cases own : folder = []
  · subst own
    obtain ⟨included, includes, nothing⟩ := globsOfAll_ownFolder dots slashes
    refine ⟨included, includes, fun file given each => ?_⟩
    simp [nothing file given each]
  · have parted : Parted folder := .ofNames own fun name member => (names name member).1
    refine ⟨_, globsOfAll_folder dots slashes own names, fun file given each => ?_⟩
    rw [plainGlobs_match parted (.ofNames given each), and_iff_right own]

def sourceFilesBelow (project : Project) (folder : List String) (walked : List (List String)) :
    List Path :=
  (walked.filter fun file => LiesBelow folder file &&
      project.isSourceFile (project.folder.child (relative file))).map
    fun file => project.folder.child (relative file)

theorem selected_below {project : Project} {included excluded : List Glob}
    {walked : List (List String)} (given : project.included ≠ [])
    (picks : ∀ file ∈ walked,
      (included.any (·.isMatch (relative file)) ↔ folder ≠ [] ∧ LiesBelow folder file))
    (spares : ∀ file ∈ walked, excluded.any (·.isMatch (relative file)) = false) :
    project.selected included excluded (walked.map relative) =
      if folder = [] then [] else project.sourceFilesBelow folder walked := by
  have selects : ∀ file ∈ walked,
      project.selects (fun path => included.any (·.isMatch path))
        (fun path => excluded.any (·.isMatch path)) (relative file) =
      (decide (folder ≠ []) && (LiesBelow folder file &&
        project.isSourceFile (project.folder.child (relative file)))) := by
    intro file member
    rw [Project.selects, spares file member, Bool.eq_iff_iff]
    simp only [Bool.and_eq_true, picks file member, decide_eq_true_iff, Bool.not_false, and_true]
    tauto
  rw [selected, if_neg (by simpa using given), List.filter_map, List.map_map]
  simp only [Function.comp_def]
  rw [List.filter_congr selects]
  by_cases own : folder = []
  · simp [own]
  · simp [own, sourceFilesBelow]

/-- A folder by any spelling selects the source files below it, but the project's own folder
selects none. -/
theorem directory_pattern_selects {project : Project} {excluded : List Glob}
    {walked : List (List String)} (dots slashes : Nat)
    (names : ∀ name ∈ folder, IsName name ∧ Glob.Plain name.toList)
    (only : project.included = [spelling dots folder slashes])
    (excludes : globsOfAll project.excluded = .ok excluded)
    (spares : ∀ file ∈ walked, excluded.any (·.isMatch (relative file)) = false)
    (files : ∀ file ∈ walked, file ≠ [] ∧ ∀ name ∈ file, IsName name)
    (isFolder : folder ∉ walked) (isFile : Path → Bool) :
    project.sourceFiles isFile (walked.map relative) =
      .ok (canonical (project.listedFiles isFile ++
        if folder = [] then [] else project.sourceFilesBelow folder walked)) := by
  obtain ⟨included, includes, picks⟩ := globsOfAll_spelling dots slashes names
  rw [← only] at includes
  have below : ∀ file ∈ walked,
      (included.any (·.isMatch (relative file)) ↔ folder ≠ [] ∧ LiesBelow folder file) := by
    intro file member
    have other : file ≠ folder := fun same => isFolder (same ▸ member)
    obtain ⟨nonempty, each⟩ := files file member
    rw [picks file nonempty each, or_iff_right other]
  rw [sourceFiles_eq isFile _ includes excludes, selected_below (by simp [only]) below spares]

def patternProject (pattern : String) : Project :=
  { folder := ⟨"/p"⟩
    configPath := ⟨"/p/tsconfig.json"⟩
    files := []
    included := [pattern]
    excluded := []
    allowsScripts := false }

theorem directory_pattern_selects_nested :
    (∀ name ∈ ["src"], IsName name ∧ Glob.Plain name.toList) ∧
      spelling 1 ["src"] 1 = "./src/" ∧
      (∀ file ∈ [["src", "a", "b.ts"], ["src2", "a.ts"], ["src", "a.md"]],
        file ≠ [] ∧ ∀ name ∈ file, IsName name) ∧
      (patternProject "./src/").sourceFiles (fun _ => true)
          ([["src", "a", "b.ts"], ["src2", "a.ts"], ["src", "a.md"]].map relative) =
        .ok [⟨"/p/src/a/b.ts"⟩] := by
  have names : ∀ name ∈ ["src"], IsName name ∧ Glob.Plain name.toList := by
    simp [isName_iff, Glob.Plain, Glob.marks]
  have files : ∀ file ∈ [["src", "a", "b.ts"], ["src2", "a.ts"], ["src", "a.md"]],
      file ≠ [] ∧ ∀ name ∈ file, IsName name := by
    simp [isName_iff]
  have below : (patternProject "./src/").sourceFilesBelow ["src"]
      [["src", "a", "b.ts"], ["src2", "a.ts"], ["src", "a.md"]] = [⟨"/p/src/a/b.ts"⟩] := by
    with_unfolding_all rfl
  have ran := @directory_pattern_selects ["src"] (patternProject "./src/") [] _ 1 1 names rfl rfl
    (fun _ _ => rfl) files (by decide) fun _ => true
  rw [below, if_neg (by simp)] at ran
  exact ⟨names, rfl, files, ran.trans (by with_unfolding_all rfl)⟩

/-- A file lies below the project's own folder, and no spelling of that folder selects it. -/
theorem own_folder_selects_nothing :
    (patternProject ".").sourceFilesBelow [] [["src", "a.ts"]] = [⟨"/p/src/a.ts"⟩] ∧
      (patternProject ".").sourceFiles (fun _ => true) ([["src", "a.ts"]].map relative) = .ok [] ∧
      (patternProject "./").sourceFiles (fun _ => true) ([["src", "a.ts"]].map relative) =
        .ok [] := by
  have dot : globsOfAll (patternProject ".").included = .ok (plainGlobs ['.']) := by
    with_unfolding_all rfl
  have slash : globsOfAll (patternProject "./").included = .ok [] := by
    with_unfolding_all rfl
  refine ⟨by with_unfolding_all rfl, ?_, ?_⟩
  · rw [sourceFiles_eq _ _ dot (rfl : globsOfAll (patternProject ".").excluded = .ok [])]
    with_unfolding_all rfl
  · rw [sourceFiles_eq _ _ slash (rfl : globsOfAll (patternProject "./").excluded = .ok [])]
    with_unfolding_all rfl

end Project

end SymbolSearch
