import EventXref.Grammar.Registry
import EventXref.Tokenizer.LineStates

namespace EventXref

structure Tokenizer (σ : Type) where
  registry : Registry σ
  documents : Std.ExtTreeMap Uri (LineStates σ)
  calls : Nat

namespace Tokenizer

variable {σ : Type}

def new (provider : Provider) (engine : Engine σ) : Tokenizer σ :=
  ⟨Registry.new provider engine, ∅, 0⟩

def watch (t : Tokenizer σ) : Tokenizer σ := { t with registry := t.registry.watch }

def isTracked (t : Tokenizer σ) (u : Uri) : Bool := t.documents.contains u

def generation? (t : Tokenizer σ) (u : Uri) : Option Nat :=
  t.documents[u]?.map LineStates.generation

def readCount? (t : Tokenizer σ) (u : Uri) : Option Nat :=
  t.documents[u]?.map LineStates.readCount

def entry (t : Tokenizer σ) (files : FileTree) (d : Document) :
    Except GrammarError (LineStates σ) × Tokenizer σ :=
  match t.documents[d.uri]? with
  | some s => (.ok s, t)
  | none =>
    let (answer, registry) := t.registry.request files d.language
    (answer.map fun g => LineStates.fresh g d, { t with registry })

def store (t : Tokenizer σ) (u : Uri) (s : LineStates σ) (visited : List Nat) : Tokenizer σ :=
  { t with documents := t.documents.insert u s, calls := t.calls + visited.length }

/-- Others may go first after every so many lines that are read in a row. -/
def linesPerTurn : Nat := 16

def pauses (s : LineStates σ) (line : Nat) : Nat :=
  (line - LineStates.backfill s.slots line) / linesPerTurn

def yieldAfter (t : Tokenizer σ) (lines : Nat) : Tokenizer σ :=
  if lines ≤ linesPerTurn then t else { t with registry := t.registry.wait }

def close (t : Tokenizer σ) (u : Uri) : Tokenizer σ :=
  { t with documents := t.documents.erase u }

variable [DecidableEq σ]

def openDocument (t : Tokenizer σ) (files : FileTree) (d : Document) :
    Except GrammarError Unit × Tokenizer σ :=
  match t.entry files d with
  | (.error e, t) => (.error e, t)
  | (.ok s, t) =>
    let r := (s.sync d).reparseAll d
    (.ok (), t.store d.uri r.states r.visited)

def ensure (t : Tokenizer σ) (files : FileTree) (d : Document) (first stop : Nat) :
    Except GrammarError Bool × Tokenizer σ :=
  match t.entry files d with
  | (.error e, t) => (.error e, t)
  | (.ok s, t) =>
    let r := (s.sync d).reparse d first stop
    (.ok r.changed, t.store d.uri r.states r.visited)

def refresh (t : Tokenizer σ) (files : FileTree) (d : Document) :
    Except GrammarError Unit × Tokenizer σ :=
  match t.entry files d with
  | (.error e, t) => (.error e, t)
  | (.ok s, t) =>
    let r := (s.reset d).reparseAll d
    (.ok (), t.store d.uri r.states r.visited)

def change (t : Tokenizer σ) (d : Document) (changes : List Change) : Tokenizer σ :=
  match t.documents[d.uri]? with
  | none => t
  | some s =>
    let (s, visited) := s.change d changes
    t.store d.uri s visited

/-- Follows changes in numbers of 64 bits; tells whether they all fit. -/
def changeIn (build : Build) (t : Tokenizer σ) (d : Document) (changes : List Change) :
    Bool × Tokenizer σ :=
  match t.documents[d.uri]? with
  | none => (true, t)
  | some s =>
    let (visited, s) := s.changeIn build d changes
    (visited.isSome, t.store d.uri s (visited.getD []))

def scopeAt (t : Tokenizer σ) (files : FileTree) (d : Document) (p : Position) :
    Option ScopeInfo × Tokenizer σ :=
  match t.entry files d with
  | (.error _, t) => (none, t)
  | (.ok s, t) =>
    let p := d.clamp p
    let (tokens, s, visited) := (s.sync d).tokensAt d p.line
    (LineStates.describe d p tokens,
      (t.store d.uri s visited).yieldAfter (visited.length - 1))

structure Work (σ : Type) where
  tokenizer : Tokenizer σ
  pausesLeft : Option Nat

/-- The token at a position, unless the work is given up before it is known. Then the lines read so
far stay, and the run of reading is not counted. -/
def Work.scopeAt (w : Work σ) (files : FileTree) (d : Document) (p : Position) :
    Option ScopeInfo × Work σ :=
  match w.pausesLeft, w.tokenizer.entry files d with
  | none, _ => (none, w)
  | some left, (.error _, t) => (none, ⟨t, some left⟩)
  | some left, (.ok s, t) =>
    let s := s.sync d
    let line := (d.clamp p).line
    if left < pauses s line then
      -- A pause comes behind a whole turn, so the turn that leads to it has been read.
      let start := LineStates.backfill s.slots line
      let r := s.reparse d start (start + (left + 1) * linesPerTurn)
      (none, ⟨t.store d.uri { r.states with generation := s.generation } r.visited, none⟩)
    else
      let (info, t) := w.tokenizer.scopeAt files d p
      (info, ⟨t, some (left - pauses s line)⟩)

end Tokenizer

end EventXref
