import EventXref.Grammar.Provider

namespace EventXref.Shipped

def luaMarkers : String := "line_comment=--\nblock_comment=--[[ ]]\n"

def javascriptMarkers : String := "line_comment=//\nblock_comment=/* */\n"

def luaContexts : String := String.join <| List.map (· ++ "\n")
  ["%YAML 1.2",
   "---",
   "# Lua subset: comments, strings, calls and identifiers.",
   "name: Lua (events)",
   "file_extensions: [lua]",
   "scope: source.lua",
   "",
   "contexts:",
   "  main:",
   "    - match: '--\\[\\['",
   "      scope: punctuation.definition.comment.begin.lua",
   "      push: block_comment",
   "    - match: '--.*$'",
   "      scope: comment.line.double-dash.lua",
   "    - match: \"'\"",
   "      scope: punctuation.definition.string.begin.lua",
   "      push: single_string",
   "    - match: '\"'",
   "      scope: punctuation.definition.string.begin.lua",
   "      push: double_string",
   "    - match: '\\b[A-Za-z_][A-Za-z0-9_]*(?=\\s*\\()'",
   "      scope: variable.function.lua",
   "    - match: '\\b[A-Za-z_][A-Za-z0-9_]*\\b'",
   "      scope: variable.other.lua",
   "",
   "  block_comment:",
   "    - meta_scope: comment.block.lua",
   "    - match: '\\]\\]'",
   "      scope: punctuation.definition.comment.end.lua",
   "      pop: true",
   "",
   "  single_string:",
   "    - meta_scope: string.quoted.single.lua",
   "    - match: '\\\\.'",
   "      scope: constant.character.escape.lua",
   "    - match: \"'\"",
   "      scope: punctuation.definition.string.end.lua",
   "      pop: true",
   "",
   "  double_string:",
   "    - meta_scope: string.quoted.double.lua",
   "    - match: '\\\\.'",
   "      scope: constant.character.escape.lua",
   "    - match: '\"'",
   "      scope: punctuation.definition.string.end.lua",
   "      pop: true"]

def markerLanguages : List Language :=
  [⟨"lua", [".lua"], "source.lua", .inline luaMarkers⟩,
   ⟨"javascript", [".js"], "source.js", .inline javascriptMarkers⟩]

def contextLanguages : List Language := [⟨"lua", [".lua"], "source.lua", .inline luaContexts⟩]

end EventXref.Shipped
