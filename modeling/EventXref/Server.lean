import EventXref.Event.Cache
import EventXref.Event.Index
import EventXref.Event.Lens
import EventXref.Glob
import EventXref.Progress
import EventXref.Scan
import EventXref.Tokenizer

/-!
Cross references of a workspace. The server follows documents through their life in a host and files
on disk, and keeps an index of the events in them. What fails for one document yields no
occurrences; only a scan of the workspace reports errors.
-/
namespace EventXref

structure Server (σ : Type) where
  config : Config
  patterns : PatternTable
  excludes : PathFilter
  tokenizer : Tokenizer σ
  cache : Cache
  index : Index
  progress : Progress

/-- What follows a report on a resource. The host may stop the scan at once or remove files. The
resource may also be given up while its files are read, because the scan is stopped then or for
another reason; each file that has been begun then stands at one of its pauses, or is done if it has
no further pause. -/
structure Reaction where
  cancels : Bool
  removed : List (List String)
  failure : Option ScanError
  standing : Path → Option Nat
  turns : Nat → Nat

def Reaction.nothing : Reaction := ⟨false, [], none, fun _ => none, fun _ => 0⟩

namespace Server

variable {σ : Type}

def new (config : Config) (provider : Provider) (engine : Engine σ) :
    Except ConfigError (Server σ) := do
  let patterns ← PatternTable.compile config
  let excludes ← PathFilter.compile config.excludeGlobs
  return {
    config, patterns, excludes
    tokenizer := Tokenizer.new provider engine
    cache := Cache.empty
    index := Index.empty
    progress := Progress.empty }

def withFolders (s : Server σ) (folders : List String) : Server σ :=
  { s with config := { s.config with workspaceFolders := folders } }

def languages (s : Server σ) : List String := s.patterns.languages

def languageOf? (s : Server σ) (path : Path) : Option String :=
  path.extension?.bind fun ext => s.tokenizer.registry.provider.languageOf? ("." ++ ext)

def shouldSkip (s : Server σ) (path : Path) (language : Option String) : Bool :=
  s.excludes.contains path ||
    match language with
    | some language => !s.patterns.contains language
    | none => path.extension?.isSome && !(s.languageOf? path).any s.patterns.contains

def roots (s : Server σ) : List Path :=
  s.config.workspaceFolders.map fun folder =>
    Path.join (.ofString folder) (.ofString s.config.resourcesDir)

def displayPath (s : Server σ) (path : Path) : String :=
  match s.roots.find? fun root => (Path.below? root path).isSome with
  | some root => Path.display root path
  | none => path.text

def remove (s : Server σ) (u : Uri) : Server σ :=
  { s with
    tokenizer := s.tokenizer.close u
    cache := s.cache.remove u
    index := (s.index.remove u).2 }

def didClose (s : Server σ) (u : Uri) : Server σ :=
  { s with tokenizer := s.tokenizer.close u, cache := s.cache.close u }

def references (s : Server σ) (kind : EventKind) (name : String) : List Location :=
  s.index.lookup kind name

def lens (s : Server σ) (kind : EventKind) (name : String) : String :=
  Lens.title kind (s.references kind name).length

variable [DecidableEq σ]

def extract (s : Server σ) (files : FileTree) (d : Document) (cancel : Option Cancellation)
    (t : Tokenizer σ) : Extraction × Tokenizer σ :=
  Extraction.extract s.patterns s.config.maxFileSize (fun t p => t.scopeAt files d p) d cancel t

/-- The occurrences of a document, extracted unless this version is cached; new ones go into the
index. An extraction that is late is shown. -/
def parse (s : Server σ) (files : FileTree) (d : Document) (cancel : Option Cancellation) :
    List Occurrence × Server σ :=
  if s.shouldSkip d.path (some d.language) then ([], s)
  else
    let (answer, cache, tokenizer) :=
      s.cache.getOrExtract d.uri d.version (s.extract files d cancel) s.tokenizer.watch
    let start := s.tokenizer.registry.clock
    let progress := s.progress.during s.config.parseTimeout (tokenizer.registry.clock - start)
      (tokenizer.registry.lastWait.map (· - start)) "Parsing events"
      (some (s.displayPath d.path)) id
    let index := if answer.changed then s.index.replace d.uri answer.occurrences else s.index
    (answer.occurrences, { s with tokenizer, cache, index, progress })

def didOpen (s : Server σ) (files : FileTree) (d : Document) : List Occurrence × Server σ :=
  if s.shouldSkip d.path (some d.language) then ([], s)
  else
    let (_, tokenizer) := s.tokenizer.openDocument files d
    { s with tokenizer }.parse files d none

def didChange (s : Server σ) (files : FileTree) (d : Document) (changes : List Change)
    (cancel : Option Cancellation) : List Occurrence × Server σ :=
  { s with tokenizer := s.tokenizer.change d changes }.parse files d cancel

def reload (s : Server σ) (files : FileTree) (d : Document) : List Occurrence × Server σ :=
  (s.remove d.uri).didOpen files d

def fileToRead? (s : Server σ) (files : FileTree) (path : Path) : Option Document :=
  if s.shouldSkip path none then none
  else match Uri.ofFilePath? path with
    | none => none
    | some u =>
      if (s.cache.live? u).isSome || s.tokenizer.isTracked u then none
      else match s.languageOf? path, files.readText? path with
        | some language, some text => some ⟨u, language, Cache.closedVersion, text.toList⟩
        | _, _ => none

def openFile? (s : Server σ) (path : Path) : Option (Uri × List Occurrence) :=
  if s.shouldSkip path none then none
  else (Uri.ofFilePath? path).bind fun u => (s.cache.live? u).map fun e => (u, e.occurrences)

def keepClosed (s : Server σ) (u : Uri) (found : List Occurrence) (t : Tokenizer σ) : Server σ :=
  { s with tokenizer := t.close u, cache := s.cache.insertClosed u found }

/-- Reads a file as a closed document. A document that is open in the host keeps what is cached for
it, and one that is open but not parsed yet is left alone. -/
def extractFile (s : Server σ) (files : FileTree) (path : Path) :
    Option (Uri × List Occurrence) × Server σ :=
  match s.fileToRead? files path with
  | none => (s.openFile? path, s)
  | some d =>
    let (x, tokenizer) := s.extract files d none s.tokenizer
    (some (d.uri, x.occurrences), s.keepClosed d.uri x.occurrences tokenizer)

/-- Reads a file as a closed document, but gives it up after so many pauses; if it has one pause
more, the document stays tracked and nothing is kept of it. -/
def abandonFile (s : Server σ) (files : FileTree) (path : Path) (pauses : Nat) : Server σ :=
  match s.fileToRead? files path with
  | none => s
  | some d =>
    let (x, work) := Extraction.extract s.patterns s.config.maxFileSize
      (fun work p => work.scopeAt files d p) d none (⟨s.tokenizer, some pauses⟩ : Tokenizer.Work σ)
    match work.pausesLeft with
    | none => { s with tokenizer := work.tokenizer }
    | some _ => s.keepClosed d.uri x.occurrences work.tokenizer

def didCreate (s : Server σ) (files : FileTree) (u : Uri) : List Occurrence × Server σ :=
  match u.filePath? with
  | none => ([], s)
  | some path =>
    match s.extractFile files path with
    | (none, s) => ([], s)
    | (some (u, found), s) => (found, { s with index := s.index.replace u found })

def didRename (s : Server σ) (files : FileTree) (old new : Uri) : List Occurrence × Server σ :=
  (s.remove old).didCreate files new

def byDocument (found : List Occurrence) : Std.ExtTreeMap Uri (List Occurrence) :=
  found.foldl (fun m o => m.alter o.uri fun before => some (before.getD [] ++ [o])) ∅

def scanner (s : Server σ) (id : Nat) (react : String → Reaction) : Scanner (Server σ) where
  isExcluded := s.excludes.contains
  manifests := s.config.manifestFiles
  parse files path now :=
    let (answer, now) := now.extractFile files path
    ((answer.map Prod.snd).getD [], now)
  announce message state :=
    let reaction := react message
    { files := reaction.removed.foldl (fun files names => files.remove names) state.files
      isCancelled := state.isCancelled || reaction.cancels
      parser := { state.parser with progress := state.parser.progress.report id message } }
  turns message := (react message).turns
  failure message := (react message).failure
  abandon message files path now :=
    match (react message).standing path with
    | none => now
    | some pauses => now.abandonFile files path pauses

/-- Reads all resources of the workspace again and makes a new index of them and of the open
documents; if the scan fails the index stays. Gives the files as the host leaves them. -/
def rescan (s : Server σ) (files : FileTree) (isCancelled : Bool) (react : String → Reaction) :
    Except ScanError (List Occurrence) × Server σ × FileTree :=
  let progress := s.progress.start "Parsing resources"
  let id := progress.begun
  let start : ScanState (Server σ) :=
    ⟨files, isCancelled, { s with progress, cache := s.cache.clearClosed }⟩
  let (result, last) := (s.scanner id react).scanAll s.roots start
  let now := { last.parser with progress := last.parser.progress.finish id }
  match result with
  | .error e => (.error e, now, last.files)
  | .ok found =>
    -- For an open document the host's text counts, whatever its file holds.
    let documents := now.cache.openEntries.foldl (fun m (u, found) => m.insert u found)
      (byDocument found)
    (.ok found, { now with index := Index.ofDocuments documents.toList }, last.files)

def scopeAt (s : Server σ) (files : FileTree) (d : Document) (p : Position) :
    Option ScopeInfo × Server σ :=
  let (info, tokenizer) := s.tokenizer.scopeAt files d p
  (info, { s with tokenizer })

end Server

end EventXref
