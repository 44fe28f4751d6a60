import EventXref.Proofs.LuaRules
import EventXref.Proofs.ScopeOperations
import EventXref.Proofs.Tiling

/-!
The tokens of Lua texts. Every parser that follows the rules of the context grammar gives every piece
of a line its token, in every region and over any number of lines; so a token that looks like a call
is a name in code with an opening parenthesis behind it, and nothing in a comment or a string looks
like one.
-/
namespace EventXref.Lua

open ContextGrammar (Finds Passes Silent)
open LineParser (cut stretch)

namespace Region

/-- The contexts that are open in a region, the innermost first. -/
def stack : Region → List String
  | .code => [name .code]
  | r => [r.name, name .code]

theorem current_stack (r : Region) : grammar.current r.stack = r.context := by
  cases r with
  | code => rfl
  | comment => rfl
  | quoted q => cases q <;> rfl

/-- A lexeme is passed with the scopes of the region that it is part of and its own, and leads into
the next region. -/
theorem passage_rule {r : Region} {l : Lexeme} (member : l ∈ r.lexemes) :
    ∃ base q, grammar.passage l.rule r.stack = some q ∧ r.scopes = base ++ q.before ∧
      (l.within r).scopes ++ [l.scope] = base ++ q.on ∧ (l.next r).scopes = base ++ q.behind ∧
      q.stack = (l.next r).stack := by
  cases r with
  | code =>
    refine ⟨["source.lua"], ?_⟩
    simp only [lexemes, List.mem_cons, List.not_mem_nil, or_false] at member
    rcases member with rfl | rfl | rfl | rfl | rfl | rfl <;> exact ⟨_, rfl, rfl, rfl, rfl, rfl⟩
  | comment =>
    cases List.mem_singleton.mp member
    exact ⟨["source.lua"], _, rfl, rfl, rfl, rfl, rfl⟩
  | quoted q =>
    simp only [lexemes, List.mem_cons, List.not_mem_nil, or_false] at member
    rcases member with rfl | rfl
    · have same := (List.append_nil (scopes (.quoted q))).symm
      exact ⟨scopes (.quoted q), _, rfl, same, rfl, same, rfl⟩
    · cases q <;> exact ⟨["source.lua"], _, rfl, rfl, rfl, rfl, rfl⟩

end Region

section Rules

variable {r : Region} {before skipped mid behind rest : List Char} {rule : ContextRule}

theorem findSome?_of_silent {ls : List Lexeme} (silent : Silent (ls.map Lexeme.rule) before rest) :
    ls.findSome? (fun l => (l.text? before.getLast? rest).map (l, ·)) = none := by
  rw [List.findSome?_eq_none_iff]
  intro l member
  rw [Option.map_eq_none_iff]
  refine Option.eq_none_iff_forall_ne_some.mpr fun text found => ?_
  obtain ⟨behind, rfl⟩ := (Lexeme.text?_begins found).1
  exact silent l.rule (List.mem_map_of_mem member) text behind rfl (Lexeme.takes_rule.mpr found)

/-- Where no rule of a region takes a text no lexeme begins. -/
theorem lexeme?_of_silent (silent : Silent r.context.rules before rest) :
    r.lexeme? before.getLast? rest = none := findSome?_of_silent silent

/-- The match that counts is the lexeme that begins there. -/
theorem lexeme?_of_finds (finds : Finds r.context.rules before skipped mid behind rule) :
    ∃ l, rule = l.rule ∧
      r.lexeme? (before ++ skipped).getLast? (mid ++ behind) = some (l, mid) := by
  obtain ⟨earlier, later, listed, silent⟩ := finds.foremost
  obtain ⟨front, back, split, rfl, rest⟩ := List.map_eq_append_iff.mp listed
  obtain ⟨l, back, rfl, rfl, rfl⟩ := List.map_eq_cons_iff.mp rest
  refine ⟨l, rfl, ?_⟩
  rw [Region.lexeme?, split, List.findSome?_append, findSome?_of_silent silent, Option.none_or,
    List.findSome?_cons, Lexeme.takes_rule.mp finds.takes]
  rfl

theorem grammar_sound : grammar.Sound := by
  have known : ∀ stack, ∀ rule ∈ (grammar.current stack).rules, ∃ l : Lexeme, rule = l.rule := by
    intro stack rule member
    rw [ContextGrammar.current] at member
    cases found : stack.head?.bind grammar.context? with
    | none => simp [found] at member
    | some c =>
      rw [found, Option.getD_some] at member
      obtain ⟨name, -, there⟩ := Option.bind_eq_some_iff.mp found
      obtain ⟨front, back, split, -⟩ := List.lookup_eq_some_iff.mp there
      have listed : (name, c) ∈ grammar.contexts := by simp [split]
      obtain ⟨r, -, ⟨⟩⟩ := List.mem_map.mp listed
      obtain ⟨l, -, rfl⟩ := List.mem_map.mp member
      exact ⟨l, rfl⟩
  constructor
  · intro stack rule member
    obtain ⟨l, rfl⟩ := known stack rule member
    exact l.solid_rule
  · intro stack rule member
    obtain ⟨l, rfl⟩ := known stack rule member
    cases l with
    | openQuote q => cases q <;> exact ⟨_, rfl⟩
    | _ => exact ⟨_, rfl⟩

end Rules

section Pieces

variable {r : Region} {before : Option Char} {text skipped rest behind : List Char} {l : Lexeme}
  {ps : List Piece} {start : Nat}

theorem pieces_lexeme (found : r.lexeme? before (text ++ behind) = some (l, text)) :
    pieces r before (text ++ behind) =
      (⟨l.within r, some l, text⟩ :: (pieces (l.next r) text.getLast? behind).1,
        (pieces (l.next r) text.getLast? behind).2) := by
  obtain ⟨-, c, t, rfl, -⟩ := Lexeme.text?_begins (Region.lexeme?_begins found).2
  rw [List.cons_append] at found ⊢
  rw [pieces, found]
  simp

theorem pieces_plain {c : Char} (none : r.lexeme? before (c :: rest) = none) :
    pieces r before (c :: rest) =
      (Piece.consPlain r c (pieces r (some c) rest).1, (pieces r (some c) rest).2) := by
  rw [pieces, none]

/-- Characters that begin no lexeme come in front of the first piece. -/
theorem pieces_skip (r : Region) (front skipped rest : List Char)
    (none : ∀ x y, skipped = x ++ y → y ≠ [] →
      r.lexeme? (front ++ x).getLast? (y ++ rest) = none) :
    pieces r front.getLast? (skipped ++ rest) =
      (skipped.foldr (Piece.consPlain r) (pieces r (front ++ skipped).getLast? rest).1,
        (pieces r (front ++ skipped).getLast? rest).2) := by
  induction skipped generalizing front with
  | nil => simp
  | cons c skipped ih =>
    have here := none [] (c :: skipped) rfl (List.cons_ne_nil _ _)
    rw [List.append_nil, List.cons_append] at here
    have later := ih (front ++ [c]) fun x y split filled => by
      have there := none (c :: x) y (by rw [split, List.cons_append]) filled
      rwa [List.append_cons] at there
    rw [List.getLast?_append_of_ne_nil _ (List.cons_ne_nil c []), List.getLast?_singleton,
      List.append_assoc, List.singleton_append] at later
    rw [List.cons_append, pieces_plain here, later, List.foldr_cons]

theorem foldr_consPlain (head : ∀ p ∈ ps.head?, p.lexeme ≠ none) (filled : skipped ≠ []) :
    skipped.foldr (Piece.consPlain r) ps = ⟨r, none, skipped⟩ :: ps := by
  induction skipped with
  | nil => exact absurd rfl filled
  | cons c skipped ih =>
    cases skipped with
    | nil =>
      rcases Piece.consPlain_cases r c ps with ⟨r', text, rest, rfl, -⟩ | ⟨-, eq⟩
      · exact absurd rfl (head _ rfl)
      · exact eq
    | cons d skipped =>
      rw [List.foldr_cons, ih (List.cons_ne_nil _ _)]
      rfl

/-- The tokens of a stretch without lexemes and of the pieces behind it. -/
theorem layout_skip (head : ∀ p ∈ ps.head?, p.lexeme ≠ none) :
    Piece.layout start (skipped.foldr (Piece.consPlain r) ps) =
      stretch start (start + Text.size skipped) r.scopes ++
        Piece.layout (start + Text.size skipped) ps := by
  by_cases filled : skipped = []
  · subst filled
    simp [stretch]
  · have size := Text.size_pos filled
    rw [foldr_consPlain head filled, stretch, if_pos (by omega), Piece.layout]
    simp [Piece.scopes]

end Pieces

/-- Where nothing is found any more, the rest of the line is one stretch. -/
theorem pieces_nothing {r : Region} {front line : List Char}
    (passes : ∀ stop, Passes r.context.rules front line stop) :
    pieces r front.getLast? line = (line.foldr (Piece.consPlain r) [], r) := by
  have skip := pieces_skip r front line [] fun x y split _ => by
    rw [List.append_nil]
    exact lexeme?_of_silent (passes (Text.size (front ++ x) + 1) x y split (Nat.lt_succ_self _))
  simpa [pieces] using skip

/-- What is found next in a line is its next lexeme. -/
theorem pieces_next {r : Region} {l : Lexeme} {front skipped mid behind : List Char}
    (first : r.lexeme? (front ++ skipped).getLast? (mid ++ behind) = some (l, mid))
    (passes : Passes r.context.rules front (skipped ++ (mid ++ behind))
      (Text.size (front ++ skipped))) :
    pieces r front.getLast? (skipped ++ (mid ++ behind)) =
      (skipped.foldr (Piece.consPlain r) (⟨l.within r, some l, mid⟩ ::
        (pieces (l.next r) mid.getLast? behind).1), (pieces (l.next r) mid.getLast? behind).2) := by
  rw [pieces_skip r front skipped (mid ++ behind), pieces_lexeme first]
  intro x y split filled
  refine lexeme?_of_silent (passes x (y ++ (mid ++ behind)) (by rw [split, List.append_assoc]) ?_)
  have size := Text.size_pos filled
  rw [split, ← List.append_assoc, Text.size_append (front ++ x)]
  omega

/-- The operations that the rules give for a line cut it into the tokens of its pieces. -/
theorem cut_pieces {stack last : List String} {front line : List Char} {ops : List (Nat × ScopeOp)}
    (obeys : grammar.Obeys stack front line ops last) {r : Region} (here : stack = r.stack)
    (cleared : List (List String)) :
    cut (Text.size (front ++ line)) ops (Text.size front) ⟨r.scopes, cleared⟩ =
        (Piece.layout (Text.size front) (pieces r front.getLast? line).1,
          ⟨(pieces r front.getLast? line).2.scopes, cleared⟩) ∧
      last = (pieces r front.getLast? line).2.stack := by
  induction obeys generalizing r with
  | rest passes =>
    rw [here, r.current_stack] at passes
    rw [pieces_nothing passes, layout_skip (by simp), Text.size_append]
    simp [cut, stretch, Piece.layout, here]
  | @found _ _ front skipped mid behind rule q opening closing ops finds passed opens closes _ ih =>
    rw [here, r.current_stack] at finds
    obtain ⟨l, rfl, first⟩ := lexeme?_of_finds finds
    obtain ⟨member, taken⟩ := Region.lexeme?_begins first
    obtain ⟨-, c, t, rfl, -⟩ := Lexeme.text?_begins taken
    obtain ⟨base, q', again, before, on, after, next⟩ := Region.passage_rule member
    rw [here, again] at passed
    cases passed
    obtain ⟨opened, closed⟩ := ContextGrammar.passage_ne again (List.cons_ne_nil l.scope [])
    obtain ⟨further, ends⟩ := ih next
    rw [List.getLast?_append_of_ne_nil _ (List.cons_ne_nil c t)] at further ends
    rw [pieces_next first finds.earliest, layout_skip (by simp), List.append_assoc]
    refine ⟨?_, ends⟩
    have ahead : Text.size front ≤ Text.size (front ++ skipped) := by
      rw [Text.size_append]
      exact Nat.le_add_right _ _
    have filled := Text.size_pos (List.cons_ne_nil c t)
    have longer : Text.size (front ++ skipped) < Text.size (front ++ skipped ++ c :: t) := by
      rw [Text.size_append (front ++ skipped)]
      exact Nat.lt_add_of_pos_right filled
    rw [LineParser.cut_block ahead (opens.ne_nil opened), before, opens,
      LineParser.cut_block (Nat.le_of_lt longer) (closes.ne_nil closed), closes, ← before, ← on,
      ← after]
    rw [show front ++ (skipped ++ (c :: t ++ behind)) = front ++ skipped ++ c :: t ++ behind by simp,
      further, ← Text.size_append, Piece.layout, ← Text.size_append]
    rw [LineParser.stretch_of_lt longer]
    rfl

section Parsers

variable {π σ : Type} {parser : LineParser π σ} {Stands : π → ContextState → Prop} {r : Region}
  {state : σ}

/-- The parser stands where a line begins in a region: behind another line that ended in it, or before
the first line. -/
def At (parser : LineParser π σ) (Stands : π → ContextState → Prop) (r : Region) (state : σ) : Prop :=
  ∃ s c, (parser.own? state).getD parser.start = s ∧ Stands s.parse c ∧ c.stack = r.stack ∧
    if c.started then s.scopes = ⟨r.scopes, []⟩ else r = .code ∧ s.scopes = .empty

theorem at_start (starts : Stands parser.initial ⟨false, [ContextGrammar.outermost]⟩)
    (first : state = parser.toGrammar.initial ∨ parser.own? state = none) :
    At parser Stands .code state := by
  refine ⟨parser.start, _, ?_, starts, rfl, by simp [LineParser.start]⟩
  rcases first with rfl | foreign
  · rw [LineParser.toGrammar, parser.own?_keep, Option.getD_some]
  · rw [foreign, Option.getD_none]

/-- A line is read as its pieces, and the parser stands in the region in which it ends. -/
theorem tokenizeLine_pieces (follows : ∀ p s line, Stands p s → ∃ ops p' s',
      parser.parseLine p line = some (ops, p') ∧ Stands p' s' ∧ grammar.Admits s line ops s')
    (begins : At parser Stands r state) (line : List Char) :
    (parser.tokenizeLine state line).tokens = Piece.layout 0 (pieces r none line).1 ∧
      At parser Stands (pieces r none line).2 (parser.tokenizeLine state line).endState := by
  obtain ⟨s, c, own, stands, stack, scopes⟩ := begins
  obtain ⟨ops, p, c', parsed, stands', first, later, rfl, opened, obeys, started⟩ :=
    follows s.parse c line stands
  obtain ⟨cuts, ends⟩ := cut_pieces obeys stack []
  have whole : cut (Text.size line) (first.map (0, ·) ++ later) 0 s.scopes =
      (Piece.layout 0 (pieces r none line).1, ⟨(pieces r none line).2.scopes, []⟩) := by
    rw [LineParser.cut_here]
    by_cases begun : c.started = true
    · rw [if_pos begun] at scopes opened
      rw [scopes, opened]
      exact cuts
    · rw [if_neg begun] at scopes opened
      obtain ⟨rfl, empty⟩ := scopes
      rw [empty, show ScopeStack.empty = ⟨[] ++ [], []⟩ from rfl, opened]
      exact cuts
  rw [LineParser.tokenizeLine, own]
  simp only [parsed, whole, true_and]
  refine ⟨_, c', by rw [parser.own?_keep, Option.getD_some], stands', ends, ?_⟩
  rw [if_pos started]

theorem tokensFrom_pieces (follows : ∀ p s line, Stands p s → ∃ ops p' s',
      parser.parseLine p line = some (ops, p') ∧ Stands p' s' ∧ grammar.Admits s line ops s')
    (begins : At parser Stands r state) (lines : List (List Char)) :
    parser.toGrammar.tokensFrom state lines = (linePieces r lines).map (Piece.layout 0) := by
  induction lines generalizing r state with
  | nil => rfl
  | cons line lines ih =>
    obtain ⟨tokens, ends⟩ := tokenizeLine_pieces follows begins line
    rw [Grammar.tokensFrom, linePieces, List.map_cons, ← ih ends, ← tokens]
    rfl

end Parsers

/-- Each line falls into its pieces, in the region in which the line before it ended. -/
theorem getElem?_linePieces {r : Region} {lines : List (List Char)} {i : Nat} {line : List Char}
    (here : lines[i]? = some line) : ∃ r' ps last, (linePieces r lines)[i]? = some ps ∧
      Reads r' none line ps last := by
  induction lines generalizing r i with
  | nil => cases here
  | cons first lines ih =>
    cases i with
    | zero =>
      cases here
      exact ⟨r, _, _, rfl, reads_pieces r none line⟩
    | succ i => exact ih here

/-- The region that a lexeme opens or closes. -/
def Lexeme.delimits? : Lexeme → Option Region
  | .openComment | .closeComment => some .comment
  | .openQuote q | .closeQuote q => some (.quoted q)
  | _ => none

/-- A token looks like a call if its innermost scope says that it is a function. -/
def looksLikeCall (t : Token) : Bool :=
  t.innermost?.any fun scope => Text.occursIn "function".toList scope.toList

namespace Piece

/-- What the token of a piece shows, where the piece stands between two texts. -/
structure Shown (p : Piece) (before behind : List Char) (t : Token) : Prop where
  start : t.start = Text.size before
  stop : t.stop = Text.size (before ++ p.text)
  first : t.scopes.head? = some "source.lua"
  second : ∀ scope ∈ p.region.scope?, t.scopes[1]? = some scope
  delimiter : ∀ l ∈ p.lexeme, ∀ r ∈ l.delimits?, p.region = r
  call : looksLikeCall t = true ↔ p.region = .code ∧ IsName p.text ∧ OpensCall behind

theorem getElem?_layout {start : Nat} (front back : List Piece) (p : Piece) :
    (layout start (front ++ p :: back))[front.length]? =
      some ⟨start + Text.size (texts front), start + Text.size (texts front) + Text.size p.text,
        p.scopes⟩ := by
  induction front generalizing start with
  | nil => simp [layout, texts]
  | cons q front ih =>
    simp only [List.cons_append, layout, List.length_cons, List.getElem?_cons_succ, ih, texts,
      List.map_cons, List.flatten_cons, Text.size_append, Nat.add_assoc]

theorem layout_spans (start : Nat) (ps : List Piece) :
    (layout start ps).map (fun t => (t.start, t.stop)) = Text.spans start (ps.map text) := by
  induction ps generalizing start with
  | nil => rfl
  | cons p ps ih => simp [layout, Text.spans, ih]

theorem looksLikeCall_iff (p : Piece) (start stop : Nat) :
    looksLikeCall ⟨start, stop, p.scopes⟩ = true ↔ p.lexeme = some .call := by
  obtain ⟨r, lexeme, text⟩ := p
  cases lexeme with
  | none =>
    simp only [looksLikeCall, Token.innermost?, scopes, Option.map_none, Option.toList_none,
      List.append_nil, reduceCtorEq, iff_false]
    cases r with
    | code => decide
    | comment => decide
    | quoted q => cases q <;> decide
  | some l =>
    simp only [looksLikeCall, Token.innermost?, scopes, Option.map_some, Option.toList_some,
      List.getLast?_append, List.getLast?_singleton, Option.some_or, Option.any_some,
      Option.some.injEq]
    cases l with
    | openQuote q | closeQuote q => cases q <;> decide
    | _ => decide

end Piece

namespace Reads

variable {r last : Region} {line : List Char} {ps front back : List Piece} {p : Piece}

theorem tiles (reads : Reads r none line ps last) : Tiles line (Piece.layout 0 ps) := by
  have tiles := tiles_of_layout (Piece.layout_spans 0 ps) fun text member => by
    obtain ⟨p, there, rfl⟩ := List.mem_map.mp member
    exact reads.text_ne_nil p there
  rwa [show (ps.map Piece.text).flatten = line from reads.texts_eq] at tiles

theorem delimiter {before : Option Char} (reads : Reads r before line ps last)
    (here : ps = front ++ p :: back) :
    ∀ l ∈ p.lexeme, ∀ r' ∈ l.delimits?, p.region = r' := by
  intro l lexeme r' delimits
  obtain ⟨inner, before', region, found⟩ := reads.exists_lexeme? here lexeme
  have member := (Region.lexeme?_begins found).1
  rw [region]
  cases l with
  | openComment | openQuote q =>
    cases delimits
    rfl
  | closeComment | closeQuote q =>
    -- only the region itself has what closes it
    cases delimits
    cases inner <;> simp [Region.lexemes] at member
    all_goals simp [Lexeme.within, member]
  | lineComment | escape | call | name => cases delimits

theorem shown (reads : Reads r none line ps last) (here : ps = front ++ p :: back) :
    ∃ t, (Piece.layout 0 ps)[front.length]? = some t ∧
      p.Shown (Piece.texts front) (Piece.texts back) t := by
  refine ⟨_, here ▸ Piece.getElem?_layout front back p, ?_⟩
  refine ⟨Nat.zero_add _, ?_, rfl, ?_, reads.delimiter here, ?_⟩
  · rw [Text.size_append, Nat.zero_add]
  · intro scope region
    simp [Piece.scopes, Region.scopes, Option.mem_def.mp region]
  · rw [Piece.looksLikeCall_iff, reads.call_iff here]

end Reads

/-- The shipped definition compiles to a grammar whose own parser follows its rules. Any parser that
follows them reads all lines of a text, from the beginning or from a state that is not its own, in
this way: every line falls into pieces that have one token each, and these tile the line; each token
shows the language first and then the region of its piece, also the tokens that open and close a
region; and those that look like calls are the names in code with blanks and an opening parenthesis
behind them. -/
theorem calls_show_in_code_only :
    ∃ g, ContextGrammar.parse? Shipped.luaContexts.toList = some g ∧
      contextEngine.compile "source.lua" Shipped.luaContexts = .ok g.parser.toGrammar ∧
      g.parser.Follows g ∧
      ∀ (π σ : Type) (parser : LineParser π σ), parser.Follows g → ∀ state,
        (state = parser.toGrammar.initial ∨ parser.own? state = none) → ∀ lines (i : Nat) line,
        lines[i]? = some line → ∃ ps tokens, (linePieces .code lines)[i]? = some ps ∧
          (parser.toGrammar.tokensFrom state lines)[i]? = some tokens ∧ Piece.texts ps = line ∧
          Tiles line tokens ∧ tokens.length = ps.length ∧
          ∀ front p back, ps = front ++ p :: back → ∃ t, tokens[front.length]? = some t ∧
            p.Shown (Piece.texts front) (Piece.texts back) t := by
  refine ⟨grammar, parse?_luaContexts, compile_luaContexts,
    ContextGrammar.parser_follows grammar_sound, ?_⟩
  rintro π σ parser ⟨Stands, starts, follows⟩ state first lines i line here
  have tokens := tokensFrom_pieces follows (at_start starts first) lines
  obtain ⟨r, ps, last, there, reads⟩ := getElem?_linePieces here
  have length := length_of_layout (Piece.layout_spans 0 ps)
  refine ⟨ps, Piece.layout 0 ps, there, ?_, reads.texts_eq, reads.tiles, ?_, ?_⟩
  · rw [tokens, List.getElem?_map, there, Option.map_some]
  · rwa [List.length_map] at length
  · exact fun front p back split => reads.shown split

/-- A call and the beginning of a comment, and a line of the comment that looks like the call. -/
def callAndComment : List (List Char) := [['f', '(', ')', '-', '-', '[', '['], ['f', '(', ')']]

theorem linePieces_callAndComment : linePieces .code callAndComment =
    [[⟨.code, some .call, ['f']⟩, ⟨.code, none, ['(', ')']⟩,
      ⟨.comment, some .openComment, ['-', '-', '[', '[']⟩],
      [⟨.comment, none, ['f', '(', ')']⟩]] := by
  have call : Region.lexeme? .code none ['f', '(', ')', '-', '-', '[', '['] =
      some (.call, ['f']) := by decide +kernel
  have opening : Region.lexeme? .code (some 'f') ['(', ')', '-', '-', '[', '['] = none := by
    decide +kernel
  have closing : Region.lexeme? .code (some '(') [')', '-', '-', '[', '['] = none := by
    decide +kernel
  have comment : Region.lexeme? .code (some ')') ['-', '-', '[', '['] =
      some (.openComment, ['-', '-', '[', '[']) := by decide +kernel
  have inside : ∀ before, Region.lexeme? .comment before ['f', '(', ')'] = none ∧
      Region.lexeme? .comment before ['(', ')'] = none ∧
      Region.lexeme? .comment before [')'] = none := fun _ => ⟨rfl, rfl, rfl⟩
  simp [callAndComment, linePieces, pieces, call, opening, closing, comment, inside, Lexeme.next,
    Lexeme.within, Piece.consPlain]

theorem calls_show_in_code_only_callAndComment :
    ∃ g, contextEngine.compile "source.lua" Shipped.luaContexts = .ok g ∧
      (∃ t, (g.tokensFrom (.markers true) callAndComment)[0]?.bind (·[0]?) = some t ∧
        t.stop = 1 ∧ looksLikeCall t = true) ∧
      ∃ t, (g.tokensFrom (.markers true) callAndComment)[1]?.bind (·[0]?) = some t ∧
        t.stop = 3 ∧ t.scopes[1]? = some "comment.block.lua" ∧ looksLikeCall t = false := by
  obtain ⟨g, -, compiled, follows, reads⟩ := calls_show_in_code_only
  have lines := reads _ _ g.parser follows (.markers true) (.inr rfl) callAndComment
  refine ⟨g.parser.toGrammar, compiled, ?_, ?_⟩
  · obtain ⟨ps, tokens, here, there, -, -, -, shown⟩ := lines 0 _ rfl
    rw [linePieces_callAndComment] at here
    cases here
    obtain ⟨t, first, shown⟩ := shown [] _ _ rfl
    have opens : OpensCall ['(', ')', '-', '-', '[', '['] := ⟨[], _, rfl, by simp⟩
    refine ⟨t, by rw [there]; exact first, shown.stop, shown.call.mpr ⟨rfl, ?_, opens⟩⟩
    exact ⟨'f', [], rfl, by decide, by simp⟩
  · obtain ⟨ps, tokens, here, there, -, -, -, shown⟩ := lines 1 _ rfl
    rw [linePieces_callAndComment] at here
    cases here
    obtain ⟨t, first, shown⟩ := shown [] _ _ rfl
    refine ⟨t, by rw [there]; exact first, shown.stop, shown.second _ rfl, ?_⟩
    refine Bool.eq_false_iff.mpr fun looks => ?_
    cases (shown.call.mp looks).1

end EventXref.Lua
