import EventXref.Config.Basic
import EventXref.FileTree
import EventXref.Toml.Parse

/-!
Settings from TOML documents. The tables of events and the pattern of a call are required; all else
has a default. Keys that no setting has are refused on the top level and ignored below it.
-/
namespace EventXref

open Toml

def Toml.Value.optional? {α : Type} (v : Value) (key : String) (read : Value → Option α) :
    Option (Option α) :=
  match v.get? key with
  | none => some none
  | some entry => (read entry).map some

def texts? : Value → Option (List String) := Value.listOf? Value.text?

/-- Reads the functions of a language, from a table or from an array in the order of the fields. -/
def LanguageEvents.ofToml? : Value → Option LanguageEvents
  | .array [] => none
  | .array (language :: rest) => do
    let names := fun (v : Option Value) => v.elim (some []) texts?
    return ⟨← language.text?, ← names rest[0]?, ← names rest[1]?⟩
  | v => do
    let language ← (← v.get? "language_id").text?
    let triggers ← v.optional? "event_triggers" texts?
    let listeners ← v.optional? "event_listeners" texts?
    return ⟨language, triggers.getD [], listeners.getD []⟩

def Template.ofToml? : Value → Option Template
  | .array (regex :: function :: event :: _) => do
    return ⟨← regex.text?, ← function.count?, ← event.count?⟩
  | v => do
    return ⟨← (← v.get? "regex").text?, ← (← v.get? "function_name_index").count?,
      ← (← v.get? "event_name_index").count?⟩

namespace Config

def keys : List String :=
  ["events", "events_regex", "document_exclude_globs", "max_file_size", "parse_timeout_ms",
   "resources_dir", "manifest_files", "workspace_folders"]

structure Written where
  events : Option (List LanguageEvents)
  template : Option Template
  excludeGlobs : Option (List String)
  maxFileSize : Option Nat
  parseTimeout : Option Nat
  resourcesDir : Option String
  manifestFiles : Option (List String)
  workspaceFolders : Option (List String)

def Written.ofToml? (v : Value) : Option Written :=
  match v with
  | .table entries =>
    if entries.all fun (key, _) => keys.contains key then do
      return {
        events := ← v.optional? "events" (Value.listOf? LanguageEvents.ofToml?)
        template := ← v.optional? "events_regex" Template.ofToml?
        excludeGlobs := ← v.optional? "document_exclude_globs" texts?
        maxFileSize := ← v.optional? "max_file_size" Value.count?
        parseTimeout := ← v.optional? "parse_timeout_ms" Value.count?
        resourcesDir := ← v.optional? "resources_dir" Value.text?
        manifestFiles := ← v.optional? "manifest_files" texts?
        workspaceFolders := ← v.optional? "workspace_folders" texts? }
    else none
  | _ => none

def Written.complete (w : Written) : Except ConfigError Config :=
  match w.events, w.template with
  | none, _ => .error .missingEvents
  | _, none => .error .missingTemplate
  | some events, some template => .ok {
      events
      template
      excludeGlobs := w.excludeGlobs.getD default.excludeGlobs
      maxFileSize := w.maxFileSize.getD default.maxFileSize
      parseTimeout := w.parseTimeout.getD default.parseTimeout
      resourcesDir := w.resourcesDir.getD default.resourcesDir
      manifestFiles := w.manifestFiles.getD default.manifestFiles
      workspaceFolders := w.workspaceFolders.getD default.workspaceFolders }

def parse (source : String) : Except ConfigError Config :=
  match (Toml.parse? source.toList).bind Written.ofToml? with
  | none => .error .malformed
  | some w => w.complete

def load (files : FileTree) (path : String) : Except ConfigError Config :=
  match files.readText? (.ofString path) with
  | none => .error (.unreadable path)
  | some source => parse source

end Config

end EventXref
