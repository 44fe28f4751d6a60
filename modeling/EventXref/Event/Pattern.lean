import Std.Data.ExtTreeMap
import EventXref.Config.Basic
import EventXref.Event.Occurrence
import EventXref.Regex.Parse
import EventXref.Regex.Search
import EventXref.Regex.Size

namespace EventXref

structure Pattern where
  program : Program
  functionGroup : Nat
  eventGroup : Nat
  triggers : List String
  listeners : List String
deriving DecidableEq, Repr

namespace Pattern

/-- The side of a called function; a function on both sides is a listener. -/
def classify (p : Pattern) (function : String) : Option EventKind :=
  if p.listeners.contains function then some .listener
  else if p.triggers.contains function then some .trigger
  else none

def replaceAll (marker replacement : List Char) : Nat → List Char → List Char
  | _, [] => []
  | skip + 1, _ :: t => replaceAll marker replacement skip t
  | 0, c :: t =>
    if (Text.after? marker (c :: t)).isSome then
      replacement ++ replaceAll marker replacement (marker.length - 1) t
    else c :: replaceAll marker replacement 0 t

def alternation : List String → List Char
  | [] => []
  | [name] => Regex.escape name.toList
  | name :: names => Regex.escape name.toList ++ '|' :: alternation names

def source (template : Template) (names : List String) : List Char :=
  replaceAll Template.placeholder.toList (alternation names) 0 template.regex.toList

def flags : Regex.Flags := { Regex.Flags.plain with multiLine := true }

def checkGroup (role : GroupRole) (index available : Nat) : Except ConfigError Unit :=
  if index = 0 ∨ index > available then .error (.missingGroup role index available) else .ok ()

def compile (template : Template) (events : LanguageEvents) : Except ConfigError Pattern := do
  if events.triggers.isEmpty && events.listeners.isEmpty then
    throw (.emptyLanguage events.language)
  let pattern := source template (events.triggers ++ events.listeners)
  match (Regex.parse? false flags pattern).filter Regex.fits with
  | none => throw (.invalidRegex events.language)
  | some regex =>
    checkGroup .function template.functionGroup regex.groups
    checkGroup .event template.eventGroup regex.groups
    return ⟨Program.ofRegex regex, template.functionGroup, template.eventGroup, events.triggers,
      events.listeners⟩

end Pattern

structure PatternTable where
  patterns : Std.ExtTreeMap String Pattern

namespace PatternTable

def compileAll (template : Template) :
    PatternTable → List LanguageEvents → Except ConfigError PatternTable
  | table, [] => .ok table
  | table, e :: es => do
    let pattern ← Pattern.compile template e
    if table.patterns.contains e.language then throw (.duplicateLanguage e.language)
    compileAll template ⟨table.patterns.insert e.language pattern⟩ es

def compile (c : Config) : Except ConfigError PatternTable :=
  if Text.occursIn Template.placeholder.toList c.template.regex.toList then
    compileAll c.template ⟨∅⟩ c.events
  else .error .missingPlaceholder

def get? (t : PatternTable) (language : String) : Option Pattern := t.patterns[language]?

def contains (t : PatternTable) (language : String) : Bool := t.patterns.contains language

def languages (t : PatternTable) : List String := t.patterns.keys

end PatternTable

end EventXref
