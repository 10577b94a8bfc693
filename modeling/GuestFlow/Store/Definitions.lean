import GuestFlow.Document.Source
import GuestFlow.Store.Shelf
import GuestFlow.Workflow.Graph

/-!
# The definitions that are known

Definitions are kept under their ids.  They can be loaded from a directory: every file
in YAML or JSON is read in the order of the names, and one that holds no usable
definition is named in the journal and passed over.
-/

set_option autoImplicit false

namespace GuestFlow

abbrev DefinitionStore := Shelf Definition

namespace DefinitionStore

def save (store : DefinitionStore) (definition : Definition) : DefinitionStore :=
  store.put definition.id definition

/-- Whether a file has one of the suffixes of definitions. -/
def isCandidate (path : Path) : Bool :=
  [".yaml", ".yml", ".json"].contains (Letter.small path.suffix)

/-- The definition in a file, if it makes a graph. -/
def readUsable (tree : Tree) (supply : IdSupply) (path : Path) :
    Logged (Definition × IdSupply) × IdSupply :=
  let (journal, result) := Document.readPath tree supply path
  match result with
  | .error fault => ((journal, .error fault), supply)
  | .ok (definition, after) =>
    match Graph.ofDefinition definition with
    | .ok graph => ((journal ++ [graph.entryRemark], .ok (definition, after)), after)
    | .error fault => ((journal, .error fault), after)

/-- How far loading has come: the store, the ids in the order in which they were loaded, and the
supply of fresh ids. -/
structure Loading where
  store : DefinitionStore
  ids : List String
  supply : IdSupply
  journal : Journal
  /-- A fault that is not about a definition ends the loading. -/
  fault : Option Fault

/-- Loads one file. -/
def loadPath (tree : Tree) (loading : Loading) (path : Path) : Loading :=
  match loading.fault with
  | some _ => loading
  | none =>
    let ((journal, result), supply) := readUsable tree loading.supply path
    let loading := { loading with supply, journal := loading.journal ++ journal }
    match result with
    | .ok (definition, _) =>
      { loading with
        store := loading.store.save definition, ids := loading.ids ++ [definition.id] }
    | .error fault =>
      if fault.isDefinitionFault then
        { loading with journal := loading.journal ++
            [.error ("Skipping invalid definition " ++ path.name ++ ": " ++ fault.message)] }
      else { loading with fault := some fault }

/-- Loads every definition in a directory. -/
def loadDirectory (tree : Tree) (store : DefinitionStore) (supply : IdSupply) (directory : Path) :
    Loading :=
  if tree.isDirectory directory then
    let paths := ((tree.names directory).map directory.child).filter isCandidate
    let loading := paths.foldl (loadPath tree) ⟨store, [], supply, [], none⟩
    match loading.fault with
    | some _ => loading
    | none =>
      { loading with journal := loading.journal ++
          [.info ("Loaded " ++ toString loading.ids.length ++ " workflow definitions from " ++
            directory.text)] }
  else
    ⟨store, [], supply, [], some (.invalidDefinition
      ("Definitions directory not found: " ++ directory.text) [])⟩

end DefinitionStore

end GuestFlow
