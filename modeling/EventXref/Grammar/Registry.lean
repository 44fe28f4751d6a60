import Std.Data.ExtTreeMap
import EventXref.Grammar.Provider

/-!
Compiled grammars by scope. A scope is compiled once; a request that fails leaves nothing behind, so
that the next one tries again.
-/
namespace EventXref

structure Registry (σ : Type) where
  provider : Provider
  engine : Engine σ
  loaded : Std.ExtTreeMap String (Grammar σ)
  compiles : Nat
  clock : Nat
  /-- What the clock showed when the work last had to wait or let others go first. -/
  lastWait : Option Nat

namespace Registry

variable {σ : Type}

def new (provider : Provider) (engine : Engine σ) : Registry σ :=
  ⟨provider, engine, ∅, 0, 0, none⟩

def loadedCount (r : Registry σ) : Nat := r.loaded.size

def wait (r : Registry σ) : Registry σ := { r with lastWait := some r.clock }

def watch (r : Registry σ) : Registry σ := { r with lastWait := none }

def fetch (r : Registry σ) (scope : String) : Registry σ :=
  let r := if r.provider.delay = 0 then r else
    { r.wait with clock := r.clock + r.provider.delay }
  -- A file is waited for, even if that takes no time on the clock.
  if r.provider.isFile scope then r.wait else r

def load (r : Registry σ) (files : FileTree) (scope : String) :
    Except GrammarError (Grammar σ) × Registry σ :=
  let r := r.fetch scope
  match r.provider.source files scope with
  | .error e => (.error e, r)
  | .ok source =>
    let r := { r with compiles := r.compiles + 1 }
    match r.engine.compile scope source with
    | .error e => (.error e, r)
    | .ok g => (.ok g, { r with loaded := r.loaded.insert scope g })

def request (r : Registry σ) (files : FileTree) (language : String) :
    Except GrammarError (Grammar σ) × Registry σ :=
  match r.provider.scopeOf? language with
  | none => (.error (.unknownLanguage language), r)
  | some scope =>
    match r.loaded[scope]? with
    | some g => (.ok g, r)
    | none => r.load files scope

/-- Requests one after the other. Requests made at once give the same answers: those for one scope
share a load that succeeds, and each that fails compiles by itself. -/
def requestAll (r : Registry σ) (files : FileTree) :
    List String → List (Except GrammarError (Grammar σ)) × Registry σ
  | [] => ([], r)
  | language :: rest =>
    let (answer, r) := r.request files language
    let (answers, r) := r.requestAll files rest
    (answer :: answers, r)

end Registry

end EventXref
