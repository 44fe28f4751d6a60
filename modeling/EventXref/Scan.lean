import EventXref.Event.Occurrence
import EventXref.FanOut
import EventXref.FileTree
import EventXref.Path

/-!
Scanning resource folders. A folder directly below the root is a resource if a manifest file stands
in it; a folder whose name is in brackets only groups others, and one that is neither is left alone.
Every file of a resource is parsed, at any depth. The files and folders of a resource take turns: a
resource that fails is given up as a whole, and each of its files stays where it stands.
-/
namespace EventXref

inductive ScanError where
  | unlisted (path : Path)
  | cancelled
deriving DecidableEq, Repr

def ScanError.message : ScanError → String
  | .unlisted path => "failed to read directory " ++ path.text
  | .cancelled => "workspace scan cancelled"

structure ScanState (τ : Type) where
  files : FileTree
  isCancelled : Bool
  parser : τ

structure Scanner (τ : Type) where
  isExcluded : Path → Bool
  manifests : List String
  parse : FileTree → Path → τ → List Occurrence × τ
  announce : String → ScanState τ → ScanState τ
  turns : String → Nat → Nat
  /-- Why a resource that was told of is given up before one of its folders is found unlisted. -/
  failure : String → Option ScanError
  abandon : String → FileTree → Path → τ → τ

abbrev Scanned (τ : Type) := Except ScanError (List Occurrence) × ScanState τ

namespace Scanner

variable {τ : Type}

def andThen (r : Scanned τ) (rest : ScanState τ → Scanned τ) : Scanned τ :=
  match r with
  | (.error x, s) => (.error x, s)
  | (.ok found, s) =>
    match rest s with
    | (.error x, s) => (.error x, s)
    | (.ok more, s) => (.ok (found ++ more), s)

def visit (f : FileTree.Entry → ScanState τ → Scanned τ) :
    List FileTree.Entry → ScanState τ → Scanned τ
  | [], s => (.ok [], s)
  | e :: es, s => andThen (f e s) fun s => visit f es s

inductive Part where
  | file (path : Path)
  | folder (depth : Nat) (path : Path)
deriving DecidableEq, Repr

def partsIn (c : Scanner τ) (depth : Nat) (dir : Path) (entries : List FileTree.Entry) :
    List Part :=
  (entries.filter fun e => !c.isExcluded (Path.join dir (.ofString e.name))).map fun e =>
    let path := Path.join dir (.ofString e.name)
    if e.isFolder then .folder depth path else .file path

def advance (c : Scanner τ) (part : Part) (s : ScanState τ) :
    Except ScanError (List (Slot Part (List Occurrence))) × ScanState τ :=
  if s.isCancelled then (.error .cancelled, s)
  else match part with
    | .file path =>
      let (found, parser) := c.parse s.files path s.parser
      (.ok [.done found], { s with parser })
    | .folder 0 _ => (.ok [], s)
    | .folder (depth + 1) dir =>
      if c.isExcluded dir then (.ok [], s)
      else match s.files.list? dir with
        | none => (.error (.unlisted dir), s)
        | some entries => (.ok ((c.partsIn depth dir entries).map .left), s)

def Part.spread (f : Path → List Part) : Part → List Part
  | .file path => [.file path]
  | .folder _ path => f path

def partsBelow (c : Scanner τ) (files : FileTree) : Nat → Path → List Part
  | 0, dir => [.folder 0 dir]
  | depth + 1, dir => .folder (depth + 1) dir ::
    if c.isExcluded dir then []
    else
      let parts := c.partsIn depth dir ((files.list? dir).getD [])
      parts.flatMap fun part => part.spread (c.partsBelow files depth)

/-- Parses everything below a folder of a resource; the parts take turns. -/
def scanUnit (c : Scanner τ) (turns : Nat → Nat) (depth : Nat) (dir : Path) (s : ScanState τ) :
    Scanned τ :=
  let (answer, s') := FanOut.run c.advance (c.partsBelow s.files depth dir).length
    (fun n _ => turns n) [.left (.folder depth dir)] s
  (answer.map List.flatten, s')

def Part.file? : Part → Option Path
  | .file path => some path
  | .folder _ _ => none

def filesBelow (c : Scanner τ) (files : FileTree) (depth : Nat) (dir : Path) : List Path :=
  (c.partsBelow files depth dir).filterMap Part.file?

def giveUp (c : Scanner τ) (message : String) (dir : Path) (s : ScanState τ) : ScanState τ :=
  { s with
    parser := (c.filesBelow s.files (s.files.depth + 1) dir).foldl
      (fun now path => c.abandon message s.files path now) s.parser }

def hasManifest (c : Scanner τ) (entries : List FileTree.Entry) : Bool :=
  entries.any fun e => !e.isFolder && c.manifests.contains e.name

def scanResource (c : Scanner τ) (root path : Path) (s : ScanState τ) : Scanned τ :=
  match s.files.list? path with
  | none => (.error (.unlisted path), s)
  | some entries =>
    if c.hasManifest entries then
      let message := "Parsing: " ++ Path.display root path
      let s := c.announce message s
      if s.isCancelled then (.error .cancelled, s)
      else match c.failure message with
        | some x => (.error x, c.giveUp message path s)
        | none =>
          match c.scanUnit (c.turns message) (s.files.depth + 1) path s with
          | (.ok found, s') => (.ok found, s')
          -- The files are read side by side, so those that were begun stand somewhere.
          | (.error x, _) => (.error x, c.giveUp message path s)
    else (.ok [], s)

def scanGroup (c : Scanner τ) (root : Path) : Nat → Path → ScanState τ → Scanned τ
  | 0, _, s => (.ok [], s)
  | depth + 1, dir, s =>
    if c.isExcluded dir then (.ok [], s)
    else match s.files.list? dir with
      | none => (.error (.unlisted dir), s)
      | some entries =>
        let step := fun (e : FileTree.Entry) (s : ScanState τ) =>
          let path := Path.join dir (.ofString e.name)
          if s.isCancelled then (.error .cancelled, s)
          else if !e.isFolder || c.isExcluded path then (.ok [], s)
          else if Path.isGrouping e.name then c.scanGroup root depth path s
          else c.scanResource root path s
        visit step entries s

def scan (c : Scanner τ) (root : Path) (s : ScanState τ) : Scanned τ :=
  if (s.files.open? root).isNone then (.ok [], s)
  else c.scanGroup root (s.files.depth + 1) root s

def scanAll (c : Scanner τ) : List Path → ScanState τ → Scanned τ
  | [], s => (.ok [], s)
  | root :: roots, s => andThen (c.scan root s) fun s => c.scanAll roots s

end Scanner

end EventXref
