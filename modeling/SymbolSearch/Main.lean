import SymbolSearch.CommandLine.Run

set_option autoImplicit false

namespace SymbolSearch.Main

def placeOf (path : String) : Place :=
  (FileTree.pieces ⟨path⟩).filter (· ≠ "")

partial def copy (targets : IO.Ref (List String)) (item : IO.FS.DirEntry) : IO (Option Entry) := do
  match (← item.path.symlinkMetadata).type with
  | .file => return some (.file (← IO.FS.readBinFile item.path))
  | .symlink =>
    try
      let target := (← IO.FS.realPath item.path).toString
      targets.modify (target :: ·)
      return some (.link ⟨target⟩)
    catch _ => return some (.link ⟨item.fileName⟩)
  | .dir =>
    let mut children : List (String × Entry) := []
    for child in ← item.path.readDir do
      unless FileTree.barred.contains child.fileName do
        if let some entry ← (try copy targets child catch _ => pure none) then
          children := (child.fileName, entry) :: children
    return some (.folder children)
  | .other => return none

def itemAt (path : String) : IO.FS.DirEntry :=
  { root := "/", fileName := "/".intercalate (placeOf path) }

structure Snapshot where
  tree : FileTree
  copied : List Place

def Snapshot.covers (snapshot : Snapshot) (place : Place) : Bool :=
  snapshot.copied.any fun copied => copied.isPrefixOf place

partial def addAll (snapshot : Snapshot) : List String → IO Snapshot
  | [] => return snapshot
  | path :: rest => do
    let place := placeOf path
    if snapshot.covers place then addAll snapshot rest
    else
      let targets ← IO.mkRef []
      match ← (try copy targets (itemAt path) catch _ => pure none) with
      | none => addAll snapshot rest
      | some entry =>
        let tree := snapshot.tree.put place entry
        addAll { tree, copied := place :: snapshot.copied } (rest ++ (← targets.get))

def addPath (snapshot : Snapshot) (path : Path) : IO Snapshot := do
  let here := (← IO.currentDir).toString
  let spelled := (Path.mk here).join path
  try
    let real := (← IO.FS.realPath spelled.text).toString
    let rules := (FileTree.outerPlaces (placeOf real)).map fun place =>
      (FileTree.pathOf (place ++ [".ignore"])).text
    let snapshot ← addAll snapshot (real :: rules)
    let place := (placeOf spelled.text).filter (· ≠ ".")
    if place.contains ".." || snapshot.covers place then return snapshot
    else return { snapshot with tree := snapshot.tree.put place (.link ⟨real⟩) }
  catch _ => return snapshot

def addPaths (snapshot : Snapshot) (paths : List Path) : IO Snapshot :=
  paths.foldlM addPath snapshot

def namedFiles (tree : FileTree) (root : Path) : List Path :=
  match Project.load tree root with
  | .ok project => project.files.map fun file => project.folder.join ⟨file⟩
  | .error _ => []

def ownPath (folder : Path) : IO Path := do
  let isFolder ← (itemAt folder.text).path.isDir
  return if isFolder then folder.child CommandLine.programName else folder

def treeFor (invocation : CommandLine.Invocation) (folder : Option Path) : IO FileTree := do
  let here := placeOf (← IO.currentDir).toString
  let roots := if invocation.command = .config then [] else invocation.rootsOrHere
  let own ← folder.toList.mapM ownPath
  let start : Snapshot := { tree := { FileTree.empty with workingFolder := here }, copied := [] }
  let found ← addPaths start (roots ++ invocation.config.toList ++ own)
  let named ← addPaths found (roots.flatMap (namedFiles found.tree))
  let tree := named.tree
  return if tree.isFolderAt here then tree else tree.put here (.folder [])

def lookUp (names : List String) : IO (List (String × String)) :=
  names.filterMapM fun name => return (← IO.getEnv name).map fun value => (name, value)

def surroundingsFor (arguments : List String) : IO CommandLine.Surroundings := do
  let fixed ← lookUp ["XDG_DATA_HOME", "HOME", "TERM", "NO_COLOR"]
  let empty : CommandLine.Surroundings :=
    { tree := .empty
      lookup := fun name => fixed.lookup name
      service := fun service _ => .error service.unreachable }
  match CommandLine.read arguments with
  | .error _ => return empty
  | .ok invocation =>
    let folder := empty.dataFolder?
    if CommandLine.needsFolder invocation then
      if let some folder := folder then
        try IO.FS.createDirAll (folder.child CommandLine.programName).text catch _ => pure ()
    let tree ← treeFor invocation folder
    let keys :=
      match { empty with tree }.settingsPath invocation.config with
      | .error _ => []
      | .ok (path, _) =>
        match Settings.ofFile tree path with
        | .ok settings => [settings.ranking.keyVariable]
        | .error _ => []
    let all := fixed ++ (← lookUp keys)
    return { empty with tree, lookup := fun name => all.lookup name }

end SymbolSearch.Main

def main (arguments : List String) : IO UInt32 := do
  let surroundings ← SymbolSearch.Main.surroundingsFor arguments
  let report := SymbolSearch.CommandLine.run surroundings arguments
  (← IO.getStdout).putStr report.output
  (← IO.getStderr).putStr report.complaints
  return report.code.toUInt32
