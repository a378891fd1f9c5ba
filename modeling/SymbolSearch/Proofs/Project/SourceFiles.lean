import SymbolSearch.Proofs.Project.Joining
import SymbolSearch.Proofs.Project.PathOrder

set_option autoImplicit false

namespace SymbolSearch

namespace Project

open SymbolSearch.Path

def trimmed (file : String) : String :=
  String.ofList (trimHere file.toList)

def listedPath (project : Project) (file : String) : Path :=
  project.folder.join ⟨trimmed file⟩

-- A relative name that leaves a slash in front when its dots are taken away.
def LosesFolder (file : String) : Prop :=
  Path.isAbsolute ⟨file⟩ = false ∧ Path.isAbsolute ⟨trimmed file⟩ = true

theorem componentsBelow_trimHere (text : List Char) :
    componentsBelow (trimHere text) = componentsBelow text := by
  fun_induction trimHere text with
  | case1 rest ih =>
    rw [ih]
    exact (componentsBelow_slash ['.'] rest).symm
  | case2 => rfl

theorem trimmed_absolute {file : String} (absolute : Path.isAbsolute ⟨file⟩ = true) :
    trimmed file = file := by
  obtain ⟨rest, starts⟩ : ∃ rest, file.toList = '/' :: rest := by
    simpa [Path.isAbsolute, List.head?_eq_some_iff] using absolute
  rw [trimmed, starts, trimHere, ← starts, String.ofList_toList]
  simp

theorem listedPath_same {project : Project} {file : String} (given : project.folder.text ≠ "")
    (stays : ¬ LosesFolder file) :
    (project.listedPath file).same (project.folder.join ⟨file⟩) := by
  rw [same_iff, listedPath]
  cases absolute : Path.isAbsolute ⟨file⟩ with
  | true => rw [trimmed_absolute absolute]
  | false =>
    have relative : Path.isAbsolute ⟨trimmed file⟩ = false := by
      simpa [LosesFolder, absolute] using stays
    rw [components_join given relative, components_join given absolute]
    simp [trimmed, componentsBelow_trimHere]

theorem listedPath_absolute {project : Project} {file : String} (loses : LosesFolder file) :
    project.listedPath file = ⟨trimmed file⟩ := by
  simp [listedPath, join, loses.2]

theorem listedFiles_eq (project : Project) (isFile : Path → Bool) :
    project.listedFiles isFile = (project.files.map project.listedPath).filter isFile := rfl

section Files

variable {project : Project} {included excluded : List Glob} (isFile : Path → Bool)
  (walked : List String)

def selected (project : Project) (included excluded : List Glob) (walked : List String) :
    List Path :=
  if project.included.isEmpty then []
  else
    (walked.filter (project.selects (fun path => included.any (·.isMatch path))
      fun path => excluded.any (·.isMatch path))).map project.folder.child

theorem sourceFiles_eq (includes : globsOfAll project.included = .ok included)
    (excludes : globsOfAll project.excluded = .ok excluded) :
    project.sourceFiles isFile walked =
      .ok (canonical (project.listedFiles isFile ++ project.selected included excluded walked)) := by
  rw [sourceFiles, includes, excludes]
  rfl

theorem mem_selected {path : Path} :
    path ∈ project.selected included excluded walked ↔
      project.included ≠ [] ∧ ∃ file ∈ walked, project.isSourceFile (project.folder.child file) ∧
        included.any (·.isMatch file) ∧ excluded.any (·.isMatch file) = false ∧
        project.folder.child file = path := by
  unfold selected
  cases project.included with
  | nil => simp
  | cons pattern patterns => simp [selects, and_assoc]

theorem mem_sourceFiles {found : List Path} (includes : globsOfAll project.included = .ok included)
    (excludes : globsOfAll project.excluded = .ok excluded)
    (ran : project.sourceFiles isFile walked = .ok found) (path : Path) :
    (∃ file ∈ found, file.same path) ↔
      (∃ file ∈ project.files, isFile (project.listedPath file) ∧
        (project.listedPath file).same path) ∨
      project.included ≠ [] ∧ ∃ file ∈ walked, project.isSourceFile (project.folder.child file) ∧
        included.any (·.isMatch file) ∧ excluded.any (·.isMatch file) = false ∧
        (project.folder.child file).same path := by
  rw [sourceFiles_eq isFile walked includes excludes] at ran
  cases ran
  simp only [exists_same_canonical, List.mem_append, or_and_right, exists_or, mem_selected,
    listedFiles_eq, List.mem_filter, List.mem_map]
  constructor
  · rintro (⟨_, ⟨⟨file, listed, rfl⟩, there⟩, same⟩ |
      ⟨_, ⟨given, file, member, source, picked, kept, rfl⟩, same⟩)
    · exact .inl ⟨file, listed, there, same⟩
    · exact .inr ⟨given, file, member, source, picked, kept, same⟩
  · rintro (⟨file, listed, there, same⟩ | ⟨given, file, member, source, picked, kept, same⟩)
    · exact .inl ⟨_, ⟨⟨file, listed, rfl⟩, there⟩, same⟩
    · exact .inr ⟨_, ⟨given, file, member, source, picked, kept, rfl⟩, same⟩

theorem sourceFiles_components_eq {files others : List String}
    (listed : ∀ file, file ∈ files ↔ file ∈ project.files)
    (seen : ∀ file, file ∈ others ↔ file ∈ walked) :
    (canonical ({ project with files := files }.listedFiles isFile ++
        project.selected included excluded others)).map Path.components =
      (canonical (project.listedFiles isFile ++
        project.selected included excluded walked)).map Path.components := by
  apply canonical_components_eq
  have sameListed : ∀ path, path ∈ { project with files := files }.listedFiles isFile ↔
      path ∈ project.listedFiles isFile := by
    intro path
    simp only [listedFiles_eq, List.mem_filter, List.mem_map, listed]
    rfl
  have sameSelected : ∀ path, path ∈ project.selected included excluded others ↔
      path ∈ project.selected included excluded walked := by
    intro path
    simp only [mem_selected, seen]
  intro components
  simp only [List.mem_map, List.mem_append, sameListed, sameSelected]

end Files

theorem source_files_canonical {project : Project} {included excluded : List Glob}
    (includes : globsOfAll project.included = .ok included)
    (excludes : globsOfAll project.excluded = .ok excluded) (isFile : Path → Bool)
    (walked : List String) :
    ∃ found, project.sourceFiles isFile walked = .ok found ∧ Increasing found ∧
      (∀ path, (∃ file ∈ found, file.same path) ↔
        (∃ file ∈ project.files, isFile (project.listedPath file) ∧
          (project.listedPath file).same path) ∨
        project.included ≠ [] ∧ ∃ file ∈ walked, project.isSourceFile (project.folder.child file) ∧
          included.any (·.isMatch file) ∧ excluded.any (·.isMatch file) = false ∧
          (project.folder.child file).same path) ∧
      (∀ files others, (∀ file, file ∈ files ↔ file ∈ project.files) →
        (∀ file, file ∈ others ↔ file ∈ walked) →
        ∃ again, { project with files := files }.sourceFiles isFile others = .ok again ∧
          again.map Path.components = found.map Path.components) ∧
      -- Where a listed file is looked for.
      ∀ file, (project.folder.text ≠ "" → ¬ LosesFolder file →
          (project.listedPath file).same (project.folder.join ⟨file⟩)) ∧
        (LosesFolder file → project.listedPath file = ⟨trimmed file⟩) := by
  have ran := sourceFiles_eq isFile walked includes excludes
  refine ⟨_, ran, canonical_increasing _, mem_sourceFiles isFile walked includes excludes ran,
    fun files others listed seen => ?_, fun file => ⟨fun given => listedPath_same given, listedPath_absolute⟩⟩
  have again : { project with files := files }.sourceFiles isFile others = _ :=
    sourceFiles_eq isFile others includes excludes
  exact ⟨_, again, sourceFiles_components_eq isFile walked listed seen⟩

def smallProject (file : String) : Project :=
  { folder := ⟨"/p"⟩
    configPath := ⟨"/p/tsconfig.json"⟩
    files := [file]
    included := ["s"]
    excluded := []
    allowsScripts := false }

def smallGlobs : List Glob :=
  [⟨[.literal 's']⟩, ⟨[.literal 's', .anythingBelow]⟩]

theorem smallProject_globs (file : String) :
    globsOfAll (smallProject file).included = .ok smallGlobs := by
  with_unfolding_all rfl

theorem source_files_canonical_spellings :
    globsOfAll (smallProject "./s/a.ts").included = .ok smallGlobs ∧
      globsOfAll (smallProject "./s/a.ts").excluded = .ok [] ∧
      ∃ found, (smallProject "./s/a.ts").sourceFiles (·.same ⟨"/p/s/a.ts"⟩)
          ["s/./b.ts", "s//a.ts", "t/c.ts"] = .ok found ∧ Increasing found ∧
        (∃ file ∈ found, file.same ⟨"/p/s/a.ts"⟩) ∧ (∃ file ∈ found, file.same ⟨"/p/s/b.ts"⟩) ∧
        ∃ again, (smallProject "./s/a.ts").sourceFiles (·.same ⟨"/p/s/a.ts"⟩)
            ["t/c.ts", "s//a.ts", "s/./b.ts", "s//a.ts"] = .ok again ∧
          again.map Path.components = found.map Path.components := by
  have includes := smallProject_globs "./s/a.ts"
  obtain ⟨found, ran, increasing, mem, independent, -⟩ :=
    source_files_canonical includes rfl (·.same ⟨"/p/s/a.ts"⟩)
      ["s/./b.ts", "s//a.ts", "t/c.ts"]
  refine ⟨includes, rfl, found, ran, increasing, (mem _).mpr (.inl ?_), (mem _).mpr (.inr ?_),
    independent _ _ (fun _ => .rfl) ?_⟩
  · exact ⟨"./s/a.ts", by simp [smallProject], by decide, by decide⟩
  · exact ⟨by simp [smallProject], "s/./b.ts", by simp, by decide +kernel, by decide +kernel, rfl,
      by decide⟩
  · intro file
    simp only [List.mem_cons, List.not_mem_nil, or_false]
    tauto

/-- The project has the file `a.ts`, and its list names it with a slash too many. -/
theorem listed_file_not_found :
    ∃ found, (smallProject ".//a.ts").sourceFiles (·.same ⟨"/p/a.ts"⟩) [] = .ok found ∧
      ¬ ∀ path, (∃ file ∈ found, file.same path) ↔
        (∃ file ∈ (smallProject ".//a.ts").files,
          ((smallProject ".//a.ts").folder.join ⟨file⟩).same ⟨"/p/a.ts"⟩ ∧
            ((smallProject ".//a.ts").folder.join ⟨file⟩).same path) := by
  have ran := sourceFiles_eq (·.same ⟨"/p/a.ts"⟩) [] (smallProject_globs ".//a.ts")
    (rfl : globsOfAll (smallProject ".//a.ts").excluded = .ok [])
  refine ⟨_, ran, fun listed => ?_⟩
  obtain ⟨file, member, same⟩ :=
    (listed ⟨"/p/a.ts"⟩).mpr ⟨".//a.ts", by simp [smallProject], by decide, by decide⟩
  obtain ⟨other, member, -⟩ := exists_same_canonical.mp ⟨file, member, same⟩
  have nothing : (smallProject ".//a.ts").listedFiles (·.same ⟨"/p/a.ts"⟩) = [] := by
    rfl
  simp [nothing, selected] at member

end Project

end SymbolSearch
