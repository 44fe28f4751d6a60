import EventXref.Text.Quoted

namespace EventXref

structure LanguageEvents where
  language : String
  triggers : List String
  listeners : List String
deriving DecidableEq, Repr

/-- The pattern of a call, with a placeholder for the function names and the numbers of the groups
that hold the function and the event. -/
structure Template where
  regex : String
  functionGroup : Nat
  eventGroup : Nat
deriving DecidableEq, Repr

structure Config where
  events : List LanguageEvents
  template : Template
  excludeGlobs : List String
  maxFileSize : Nat
  parseTimeout : Nat
  resourcesDir : String
  manifestFiles : List String
  workspaceFolders : List String
deriving DecidableEq, Repr

namespace Template

def placeholder : String := "\x7bEVENTS\x7d"

def default : Template where
  regex := "\\b(\x7bEVENTS\x7d)\\s*\\(\\s*(\"[^\"\\r\\n]*\"|'[^'\\r\\n]*')"
  functionGroup := 1
  eventGroup := 2

end Template

namespace Config

def defaultEvents : List LanguageEvents :=
  [{ language := "lua"
     triggers := ["TriggerEvent", "TriggerServerEvent", "TriggerClientEvent",
       "TriggerLatentServerEvent", "TriggerLatentClientEvent"]
     listeners := ["AddEventHandler", "RegisterNetEvent", "RegisterServerEvent"] },
   { language := "javascript"
     triggers := ["emit", "emitNet", "TriggerEvent", "TriggerServerEvent", "TriggerClientEvent"]
     listeners := ["on", "onNet", "AddEventHandler", "RegisterNetEvent"] }]

def default : Config where
  events := defaultEvents
  template := Template.default
  excludeGlobs := ["**/node_modules/**", "**/.git/**"]
  maxFileSize := 512 * 1024
  parseTimeout := 3000
  resourcesDir := "resources"
  manifestFiles := ["fxmanifest.lua", "__resource.lua"]
  workspaceFolders := []

def languages (c : Config) : List String := c.events.map LanguageEvents.language

end Config

inductive GroupRole where
  | function
  | event
deriving DecidableEq, Repr

def GroupRole.name : GroupRole → String
  | .function => "function name"
  | .event => "event name"

inductive ConfigError where
  | missingEvents
  | missingTemplate
  | missingPlaceholder
  | emptyLanguage (language : String)
  | duplicateLanguage (language : String)
  | invalidRegex (language : String)
  | missingGroup (role : GroupRole) (index available : Nat)
  | invalidGlob (glob : String)
  | malformed
  | unreadable (path : String)
deriving DecidableEq, Repr

namespace ConfigError

def message : ConfigError → String
  | .missingEvents => "could not get the events from configuration"
  | .missingTemplate => "could not get the events regex from configuration"
  | .missingPlaceholder => "events regex template has no \x7bEVENTS\x7d placeholder"
  | .emptyLanguage language =>
    "language " ++ Text.quoted language ++ " defines no trigger or listener functions"
  | .duplicateLanguage language =>
    "language " ++ Text.quoted language ++ " is configured more than once"
  | .invalidRegex language => "invalid events regex for language " ++ Text.quoted language
  | .missingGroup role index available =>
    "capture group " ++ toString index ++ " (" ++ role.name ++ ") does not exist; the regex has " ++
      toString available ++ " groups"
  | .invalidGlob glob => "invalid document exclude glob " ++ Text.quoted glob
  | .malformed => "failed to parse configuration"
  | .unreadable path => "failed to read configuration " ++ path

end ConfigError

end EventXref
