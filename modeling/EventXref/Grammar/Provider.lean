import EventXref.FileTree
import EventXref.Grammar.Basic
import EventXref.Text.Blank

namespace EventXref

inductive GrammarSource where
  | file (path : String)
  | inline (text : String)
  /-- A grammar that the engine knows by its scope; its source is empty. -/
  | builtin
deriving DecidableEq, Repr

structure Language where
  id : String
  extensions : List String
  scope : String
  source : GrammarSource
deriving DecidableEq, Repr

structure Provider where
  languages : List Language
  delay : Nat
deriving DecidableEq, Repr

namespace Provider

def normalExtension (extension : String) : List Char :=
  let t := (Text.trim Text.isBlank extension.toList).map Char.toLower
  if t.head? = some '.' then t else '.' :: t

def languageOf? (p : Provider) (extension : String) : Option String :=
  let claims := fun (l : Language) =>
    (l.extensions.map normalExtension).contains (normalExtension extension)
  (p.languages.reverse.find? claims).map Language.id

def scopeOf? (p : Provider) (language : String) : Option String :=
  (p.languages.reverse.find? (·.id = language)).map Language.scope

def origin? (p : Provider) (scope : String) : Option GrammarSource :=
  (p.languages.reverse.find? (·.scope = scope)).map Language.source

def isFile (p : Provider) (scope : String) : Bool :=
  match p.origin? scope with
  | some (.file _) => true
  | _ => false

def source (p : Provider) (files : FileTree) (scope : String) : Except GrammarError String :=
  match p.origin? scope with
  | none => .error (.notFound scope)
  | some origin =>
    match origin with
    | .inline text => .ok text
    | .builtin => .ok ""
    | .file path =>
      match files.readText? (.ofString path) with
      | some text => .ok text
      | none => .error .unreadable

end Provider

end EventXref
