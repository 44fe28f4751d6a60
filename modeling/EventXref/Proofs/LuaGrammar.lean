import EventXref.Grammar.Context
import EventXref.Grammar.Shipped
import EventXref.Proofs.CallPatterns
import EventXref.Proofs.LuaLexemes
import Mathlib.Data.List.Forall2

/-!
The context grammar for Lua has a context for each region and a rule for each lexeme.
-/
namespace EventXref

theorem ContextGrammar.compile_of_parse? {scope source : String} {g : ContextGrammar}
    (short : (Text.splitOn '.' scope.toList).length ≤ maxParts)
    (written : source.toList.all Text.isBlank = false) (parsed : parse? source.toList = some g)
    (same : g.scope = scope) : contextEngine.compile scope source = .ok g.parser.toGrammar := by
  simp [contextEngine, compile, Nat.not_lt.mpr short, written, parsed, same]

namespace Lua

namespace Region

def all : List Region := [.code, .comment, .quoted .single, .quoted .double]

def name : Region → String
  | .code => ContextGrammar.outermost
  | .comment => "block_comment"
  | .quoted .single => "single_string"
  | .quoted .double => "double_string"

end Region

namespace Lexeme

def pattern : Lexeme → String
  | .openComment => "--\\[\\["
  | .closeComment => "\\]\\]"
  | .lineComment => "--.*$"
  | .openQuote q | .closeQuote q => String.ofList [q.char]
  | .escape => "\\\\."
  | .call => "\\b[A-Za-z_][A-Za-z0-9_]*(?=\\s*\\()"
  | .name => "\\b[A-Za-z_][A-Za-z0-9_]*\\b"

def move : Lexeme → ContextMove
  | .openComment => .push Region.comment.name
  | .openQuote q => .push (Region.quoted q).name
  | .closeComment | .closeQuote _ => .pop
  | _ => .stay

end Lexeme

def unbroken : Regex := .set false ⟨[(0, 9), (11, 0x10FFFF)]⟩

/-- A name behind a word boundary, with a condition on the place behind it. -/
def named (ends : Regex) : Regex :=
  .row [.anchor (.wordBoundary false), .set false ⟨[(65, 90), (95, 95), (97, 122)]⟩,
    .rep (.set false ⟨[(48, 57), (65, 90), (95, 95), (97, 122)]⟩) 0 none true, ends]

namespace Lexeme

def regex : Lexeme → Regex
  | .openComment => .literal ['-', '-', '[', '[']
  | .closeComment => .literal [']', ']']
  | .lineComment => .row [.literal ['-', '-'], .rep unbroken 0 none true, .anchor .textEnd]
  | .openQuote q | .closeQuote q => .literal [q.char]
  | .escape => .row [.literal ['\\'], unbroken]
  | .call => named (.ahead true (.row [Regex.blanks, .literal ['(']]))
  | .name => named (.anchor (.wordBoundary false))

theorem parse?_pattern (l : Lexeme) :
    Regex.parse? true Regex.Flags.plain l.pattern.toList = some l.regex := by
  cases l with
  | openQuote q | closeQuote q => cases q <;> cbv
  | _ => cbv

def rule (l : Lexeme) : ContextRule := ⟨l.regex, .ofRegex l.regex, rfl, [l.scope], l.move⟩

end Lexeme

namespace Lexeme

def outline (l : Lexeme) : Outline :=
  .mapping ([("match", .scalar l.pattern.toList), ("scope", .scalar l.scope.toList)] ++ moves)
where
  moves : List (String × Outline) :=
    match l.move with
    | .stay => []
    | .push context => [("push", .scalar context.toList)]
    | .pop => [("pop", .scalar "true".toList)]

theorem readScopes_scope (l : Lexeme) : ContextGrammar.readScopes l.scope.toList = [l.scope] := by
  cases l <;> cbv

theorem readMove_outline (l : Lexeme) : ContextGrammar.readMove l.outline = some l.move := by
  cases moves : l.move <;>
    simp [ContextGrammar.readMove, ContextGrammar.scalar?, outline, outline.moves, moves,
      Outline.get?, Outline.text?, List.lookup_cons]

theorem readRule_outline (l : Lexeme) : ContextGrammar.readRule l.outline = some l.rule := by
  have pattern : l.outline.get? "match" = some (.scalar l.pattern.toList) := by
    simp [outline, Outline.get?]
  have scope : ContextGrammar.scalar? l.outline "scope" = some (some l.scope.toList) := by
    simp [ContextGrammar.scalar?, outline, Outline.get?, Outline.text?, List.lookup_cons]
  simp [ContextGrammar.readRule, pattern, scope, readMove_outline, Outline.text?, parse?_pattern,
    readScopes_scope, rule]

end Lexeme

namespace Region

def context (r : Region) : Context := ⟨r.scope?.toList, r.lexemes.map Lexeme.rule⟩

def outline (r : Region) : Outline :=
  .list ((r.scope?.map fun scope => .mapping [("meta_scope", .scalar scope.toList)]).toList ++
    r.lexemes.map Lexeme.outline)

theorem readContext_lexemes (ls : List Lexeme) :
    ContextGrammar.readContext (ls.map Lexeme.outline) = some ⟨[], ls.map Lexeme.rule⟩ := by
  induction ls with
  | nil => rfl
  | cons l ls ih =>
    have unnamed : ContextGrammar.scalar? l.outline "meta_scope" = some none := by
      cases moves : l.move <;>
        simp [ContextGrammar.scalar?, Lexeme.outline, Lexeme.outline.moves, moves, Outline.get?,
          List.lookup_cons]
    simp [ContextGrammar.readContext, ih, unnamed, Lexeme.readRule_outline]

end Region

theorem Region.readContext_outline (r : Region) : ∃ nodes, r.outline = .list nodes ∧
    ContextGrammar.readContext nodes = some r.context := by
  refine ⟨_, rfl, ?_⟩
  have lexemes := readContext_lexemes r.lexemes
  cases scope : r.scope? with
  | none => simpa [scope, context] using lexemes
  | some name =>
    have single : ContextGrammar.readScopes name.toList = [name] := by
      cases r with
      | code => cases scope
      | comment => cases scope; cbv
      | quoted q => cases q <;> cases scope <;> cbv
    simp [scope, context, ContextGrammar.readContext, lexemes, ContextGrammar.scalar?,
      Outline.get?, Outline.text?, single]

theorem readContexts_outlines (rs : List Region) :
    ContextGrammar.readContexts (rs.map fun r => (r.name, r.outline)) =
      some (rs.map fun r => (r.name, r.context)) := by
  induction rs with
  | nil => rfl
  | cons r rs ih =>
    obtain ⟨nodes, list, read⟩ := r.readContext_outline
    simp [list, ContextGrammar.readContexts, read, ih]

def grammar : ContextGrammar := ⟨"source.lua", Region.all.map fun r => (r.name, r.context)⟩

def outline : Outline := .mapping
  [("name", .scalar "Lua (events)".toList), ("file_extensions", .list [.scalar "lua".toList]),
    ("scope", .scalar "source.lua".toList),
    ("contexts", .mapping (Region.all.map fun r => (r.name, r.outline)))]

/-- The lines are given as lists of characters so that nothing has to decode them. -/
theorem toList_lines {lines : List String} {texts : List (List Char)}
    (spelled : List.Forall₂ (fun line text => line = String.ofList text) lines texts) :
    (String.join (lines.map (· ++ "\n"))).toList = (texts.map (· ++ ['\n'])).flatten := by
  induction spelled with
  | nil => rfl
  | cons line _ ih =>
    subst line
    simp [ih]

set_option maxRecDepth 100000 in
theorem read?_luaContexts : Outline.read? Shipped.luaContexts.toList = some outline := by
  apply (congrArg Outline.read? (toList_lines ?spelled)).trans ?read
  case spelled => repeat' constructor
  case read => rfl

theorem parse?_luaContexts : ContextGrammar.parse? Shipped.luaContexts.toList = some grammar := by
  have scope : outline.get? "scope" = some (.scalar "source.lua".toList) := by
    simp [outline, Outline.get?, List.lookup_cons]
  have contexts : outline.get? "contexts" =
      some (.mapping (Region.all.map fun r => (r.name, r.outline))) := by
    simp [outline, Outline.get?, List.lookup_cons]
  have main : (List.lookup ContextGrammar.outermost
      (Region.all.map fun r => (r.name, r.context))).isSome = true := rfl
  simp only [ContextGrammar.parse?, read?_luaContexts, scope, contexts, Outline.text?,
    readContexts_outlines, main, Option.bind_eq_bind, Option.bind_some, if_true, grammar,
    String.ofList_toList]

theorem luaContexts_not_blank : Shipped.luaContexts.toList.all Text.isBlank = false := by
  obtain ⟨rest, begins⟩ : ∃ rest, Shipped.luaContexts.toList = '%' :: rest := by
    apply Exists.intro
    apply (toList_lines ?spelled).trans ?first
    case spelled => repeat' constructor
    case first => rfl
  rw [begins]
  rfl

theorem compile_luaContexts :
    contextEngine.compile "source.lua" Shipped.luaContexts = .ok grammar.parser.toGrammar :=
  ContextGrammar.compile_of_parse? (by decide) luaContexts_not_blank parse?_luaContexts rfl

end Lua

end EventXref
