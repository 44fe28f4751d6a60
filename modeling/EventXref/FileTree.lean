import EventXref.Path

/-!
Trees of files. A file has a text unless its bytes spell none; a link names a path from the root.
Reading follows links, listing a folder shows them as what they are. A locked folder is shown as a
folder, but cannot be listed or entered.
-/
namespace EventXref

inductive FileTree where
  | file (text : Option String)
  | folder (entries : List (String × FileTree))
  | locked
  | link (target : String)

namespace FileTree

def entry? (name : String) : FileTree → Option FileTree
  | .folder entries => entries.lookup name
  | _ => none

def isFolder : FileTree → Bool
  | .folder _ | .locked => true
  | .file _ | .link _ => false

def at? (t : FileTree) : List String → Option FileTree
  | [] => some t
  | name :: names => (t.entry? name).bind fun child => child.at? names

def pathParts (path : String) : List String := (Text.splitOn '/' path.toList).map String.ofList

/-- Walks names from `place` on. An empty name or a dot stays in a folder, two dots leave it, and a
link goes on with `follow`, which is given the names from the root. -/
def walk (root : FileTree) (follow : List String → Option (List String)) :
    (place parts : List String) → Option (List String)
  | place, [] => some place
  | place, part :: parts =>
    match root.at? place with
    | some (.folder entries) =>
      if part = "" ∨ part = "." then walk root follow place parts
      else if part = ".." then walk root follow place.dropLast parts
      else match entries.lookup part with
        | none => none
        | some (.link target) => follow (pathParts target ++ parts)
        | some _ => walk root follow (place ++ [part]) parts
    | _ => none

def resolve? (root : FileTree) : Nat → List String → Option (List String)
  | 0, parts => root.walk (fun _ => none) [] parts
  | links + 1, parts => root.walk (root.resolve? links) [] parts

def maxLinks : Nat := 40

def namesOf? (path : Path) : Option (List String) :=
  (Text.splitOn Path.slash path.bytes).mapM fun part => (Text.decode? part).map String.ofList

def maxPathLength : Nat := 4095

def open? (root : FileTree) (path : Path) : Option FileTree := do
  if !path.isAbsolute || path.bytes.length > maxPathLength then none
  let place ← root.resolve? maxLinks (← namesOf? path)
  root.at? place

def readText? (root : FileTree) (path : Path) : Option String :=
  match root.open? path with
  | some (.file text) => text
  | _ => none

structure Entry where
  name : String
  isFolder : Bool
deriving DecidableEq, Repr

def insertEntry (e : Entry) : List Entry → List Entry
  | [] => [e]
  | d :: ds => if compare d.name e.name = .gt then e :: d :: ds else d :: insertEntry e ds

def sortEntries : List (String × FileTree) → List Entry
  | [] => []
  | (name, node) :: rest =>
    match node with
    | .link _ => sortEntries rest
    | .folder _ | .locked => insertEntry ⟨name, true⟩ (sortEntries rest)
    | .file _ => insertEntry ⟨name, false⟩ (sortEntries rest)

def list? (root : FileTree) (path : Path) : Option (List Entry) :=
  match root.open? path with
  | some (.folder entries) => some (sortEntries entries)
  | _ => none

def setEntry (name : String) (node : FileTree) :
    List (String × FileTree) → List (String × FileTree)
  | [] => [(name, node)]
  | e :: es => if e.1 = name then (name, node) :: es else e :: setEntry name node es

def put (node : FileTree) : List String → FileTree → FileTree
  | [], _ => node
  | name :: names, .folder entries =>
    .folder (setEntry name (put node names ((entries.lookup name).getD (.folder []))) entries)
  | _, t => t

/-- Puts a node at a place, except that a folder with nothing in it leaves a folder as it is. -/
def add (tree node : FileTree) (names : List String) : FileTree :=
  match node, tree.at? names with
  | .folder [], some (.folder _) => tree
  | _, _ => put node names tree

def remove : List String → FileTree → FileTree
  | [name], .folder entries => .folder (entries.filter (·.1 ≠ name))
  | name :: names, .folder entries =>
    match entries.lookup name with
    | some child => .folder (setEntry name (remove names child) entries)
    | none => .folder entries
  | _, t => t

mutual
def depth : FileTree → Nat
  | .folder entries => depthOfEntries entries + 1
  | .locked => 1
  | .file _ | .link _ => 0
def depthOfEntries : List (String × FileTree) → Nat
  | [] => 0
  | (_, node) :: rest => max (depth node) (depthOfEntries rest)
end

end FileTree

end EventXref
