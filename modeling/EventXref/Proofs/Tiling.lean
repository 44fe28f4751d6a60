import EventXref.Proofs.ClosedFiles
import EventXref.Proofs.LateReaders
import EventXref.Proofs.Lexing
import EventXref.Proofs.Places

/-!
Tokens tile their line: none is empty, each begins where the one before it ends, and together they
are the whole line. So a question about a place is answered by the token there, and it has no answer
on an empty line only. All grammars that a tokenizer holds were compiled by its engine, whatever it
was asked before and whatever is stored for a document.
-/
namespace EventXref

/-- Tokens that are one behind the other from the beginning of a line to its end. -/
structure Tiles (line : List Char) (tokens : List Token) : Prop where
  nonempty : ∀ t ∈ tokens, t.start < t.stop
  boundary : ∀ t ∈ tokens, Text.isBoundary t.start line = true ∧ Text.isBoundary t.stop line = true
  first : ∀ t ∈ tokens.head?, t.start = 0
  next : ∀ i a b, tokens[i]? = some a → tokens[i + 1]? = some b → b.start = a.stop
  last : ∀ t ∈ tokens.getLast?, t.stop = Text.size line
  some_of_ne_nil : line ≠ [] → tokens ≠ []

/-- The offsets of texts that are one behind the other. -/
def Text.spans : Nat → List (List Char) → List (Nat × Nat)
  | _, [] => []
  | start, text :: texts => (start, start + size text) :: spans (start + size text) texts

namespace Text

variable {texts : List (List Char)} {start i : Nat}

theorem getElem?_spans : (spans start texts)[i]? = texts[i]?.map fun text =>
    (start + size (texts.take i).flatten, start + size (texts.take i).flatten + size text) := by
  induction texts generalizing start i with
  | nil => simp [spans]
  | cons text texts ih =>
    cases i with
    | zero => simp [spans]
    | succ i => simp [spans, ih, size_append, Nat.add_assoc]

end Text

section Layout

variable {texts : List (List Char)} {tokens : List Token} {column : Nat}

theorem exists_text {t : Token} (layout : tokens.map (fun t => (t.start, t.stop)) = Text.spans 0 texts)
    {i : Nat} (here : tokens[i]? = some t) : ∃ text, texts[i]? = some text ∧
      t.start = Text.size (texts.take i).flatten ∧
      t.stop = Text.size (texts.take i).flatten + Text.size text := by
  have span : (Text.spans 0 texts)[i]? = some (t.start, t.stop) := by
    rw [← layout, List.getElem?_map, here, Option.map_some]
  rw [Text.getElem?_spans, Option.map_eq_some_iff] at span
  obtain ⟨text, there, eq⟩ := span
  simp only [Nat.zero_add, Prod.mk.injEq] at eq
  exact ⟨text, there, eq.1.symm, eq.2.symm⟩

theorem length_of_layout (layout : tokens.map (fun t => (t.start, t.stop)) = Text.spans 0 texts) :
    tokens.length = texts.length := by
  have length : ∀ start, (Text.spans start texts).length = texts.length := by
    clear layout
    induction texts with
    | nil => intro start; rfl
    | cons text texts ih => intro start; simp [Text.spans, ih]
  rw [← length 0, ← layout, List.length_map]

theorem flatten_take_succ {i : Nat} {text : List Char} (here : texts[i]? = some text) :
    (texts.take (i + 1)).flatten = (texts.take i).flatten ++ text := by
  rw [List.take_add_one, here, Option.toList_some, List.flatten_append, List.flatten_singleton]

theorem isBoundary_take (texts : List (List Char)) (i : Nat) :
    Text.isBoundary (Text.size (texts.take i).flatten) texts.flatten = true := by
  have split : texts.flatten = (texts.take i).flatten ++ (texts.drop i).flatten := by
    rw [← List.flatten_append, List.take_append_drop]
  rw [split]
  simp [Text.isBoundary, Text.takeBytes_size]

theorem tiles_of_layout (layout : tokens.map (fun t => (t.start, t.stop)) = Text.spans 0 texts)
    (nonempty : ∀ text ∈ texts, text ≠ []) : Tiles texts.flatten tokens := by
  have length := length_of_layout layout
  -- a token begins behind the texts before its own and ends behind that one
  have offsets : ∀ i t, tokens[i]? = some t → t.start = Text.size (texts.take i).flatten ∧
      t.stop = Text.size (texts.take (i + 1)).flatten ∧ t.start < t.stop := by
    intro i t here
    obtain ⟨text, there, start, stop⟩ := exists_text layout here
    have := Text.size_pos (nonempty text (List.mem_of_getElem? there))
    rw [flatten_take_succ there, Text.size_append]
    omega
  constructor
  · intro t member
    obtain ⟨i, here⟩ := List.mem_iff_getElem?.mp member
    exact (offsets i t here).2.2
  · intro t member
    obtain ⟨i, here⟩ := List.mem_iff_getElem?.mp member
    obtain ⟨start, stop, -⟩ := offsets i t here
    exact ⟨start ▸ isBoundary_take texts i, stop ▸ isBoundary_take texts (i + 1)⟩
  · intro t head
    rw [List.head?_eq_getElem?] at head
    simpa using (offsets 0 t head).1
  · intro i a b here next
    exact (offsets (i + 1) b next).1.trans (offsets i a here).2.1.symm
  · intro t last
    rw [List.getLast?_eq_getElem?] at last
    obtain ⟨inside, -⟩ := List.getElem?_eq_some_iff.mp last
    obtain ⟨-, stop, -⟩ := offsets _ t last
    rw [stop, List.take_of_length_le (by omega)]
  · intro filled none
    apply filled
    rw [none, List.length_nil] at length
    rw [List.length_eq_zero_iff.mp length.symm, List.flatten_nil]

/-- Some token stands at every place of a line. -/
theorem Tiles.exists_contains {line : List Char} (tiles : Tiles line tokens)
    (inside : column < Text.size line) : ∃ t ∈ tokens, t.contains column = true := by
  have filled : line ≠ [] := by
    rintro rfl
    exact Nat.not_lt_zero _ inside
  -- the last of the tokens that begin up to the place
  have reach : ∀ n, n ≤ tokens.length → (∃ t ∈ tokens, t.contains column = true) ∨
      ∀ i t, i < n → tokens[i]? = some t → t.stop ≤ column := by
    intro n le
    induction n with
    | zero => exact .inr (by simp)
    | succ n ih =>
      rcases ih (by omega) with found | passed
      · exact .inl found
      · obtain ⟨t, here⟩ : ∃ t, tokens[n]? = some t := ⟨tokens[n], List.getElem?_eq_getElem (by omega)⟩
        have start : t.start ≤ column := by
          cases n with
          | zero =>
            rw [tiles.first t (by rw [List.head?_eq_getElem?]; exact here)]
            exact Nat.zero_le _
          | succ n =>
            obtain ⟨a, before⟩ : ∃ a, tokens[n]? = some a :=
              ⟨tokens[n], List.getElem?_eq_getElem (by omega)⟩
            rw [tiles.next n a t before here]
            exact passed n a (by omega) before
        by_cases stop : column < t.stop
        · exact .inl ⟨t, List.mem_of_getElem? here, by simp [Token.contains, start, stop]⟩
        · refine .inr fun i u lt there => ?_
          rcases Nat.lt_succ_iff_lt_or_eq.mp lt with lt | rfl
          · exact passed i u lt there
          · cases here.symm.trans there
            omega
  rcases reach tokens.length (Nat.le_refl _) with found | passed
  · exact found
  · have last := List.getLast?_eq_some_getLast (tiles.some_of_ne_nil filled)
    have stop := tiles.last _ last
    rw [List.getLast?_eq_getElem?] at last
    have := passed _ _ (by have := List.length_pos_of_ne_nil (tiles.some_of_ne_nil filled); omega) last
    omega

/-- The token that answers for a place stands there, or it ends there with the line. -/
theorem Tiles.pick {line : List Char} (tiles : Tiles line tokens) (le : column ≤ Text.size line) :
    (LineStates.pick tokens column = none ↔ line = []) ∧
      ∀ t, LineStates.pick tokens column = some t → t ∈ tokens ∧ t.start ≤ column ∧
        (column < t.stop ∨ column = t.stop ∧ t.stop = Text.size line) := by
  unfold LineStates.pick
  cases found : tokens.find? (·.contains column) with
  | some t =>
    have member := List.mem_of_find?_eq_some found
    have here := List.find?_some found
    simp only [Token.contains, Bool.and_eq_true, decide_eq_true_eq] at here
    refine ⟨⟨fun none => by simp at none, ?_⟩, ?_⟩
    · rintro rfl
      have stop := Text.le_size_of_isBoundary (tiles.boundary t member).2
      rw [Text.size_nil] at stop
      omega
    · rintro u ⟨⟩
      exact ⟨member, here.1, .inl here.2⟩
  | none =>
    have nowhere : ¬ column < Text.size line := by
      intro inside
      obtain ⟨t, member, here⟩ := tiles.exists_contains inside
      have := List.find?_eq_none.mp found t member
      exact this here
    have eq : column = Text.size line := by omega
    simp only [Option.none_or, List.getLast?_eq_none_iff]
    refine ⟨⟨?_, ?_⟩, ?_⟩
    · intro none
      by_contra filled
      exact tiles.some_of_ne_nil filled none
    · rintro rfl
      by_contra filled
      have last := List.getLast?_eq_some_getLast filled
      have stop := tiles.last _ last
      have := tiles.nonempty _ (List.mem_of_getLast? last)
      rw [Text.size_nil] at stop
      omega
    · intro t last
      have stop := tiles.last t last
      have member := List.mem_of_getLast? last
      have := tiles.nonempty t member
      exact ⟨member, by omega, .inr ⟨by omega, stop⟩⟩

end Layout

namespace MarkerGrammar

variable {scope : String} {g : MarkerGrammar} {start : Nat} {line : List Char} {tokens : List Token}

theorem Covers.layout (covers : Covers scope start line tokens) : ∃ texts : List (List Char),
    line = texts.flatten ∧ (∀ text ∈ texts, text ≠ []) ∧
      tokens.map (fun t => (t.start, t.stop)) = Text.spans start texts := by
  induction covers with
  | done start => exact ⟨[], rfl, by simp, rfl⟩
  | token start kind text rest tokens nonempty name covers ih =>
    obtain ⟨texts, rfl, all, layout⟩ := ih
    refine ⟨text :: texts, rfl, List.forall_mem_cons.mpr ⟨nonempty, all⟩, ?_⟩
    rw [List.map_cons, layout, Text.spans]

theorem tokenizeLine_tiles (closes : g.Closes) (state : GrammarState) (line : List Char) :
    Tiles line (g.tokenizeLine state line).tokens := by
  obtain ⟨texts, rfl, nonempty, layout⟩ :=
    (scan_covers closes 0 (decide (state = .markers true)) (Nat.le_refl line.length)).layout
  exact tiles_of_layout layout nonempty

/-- Every step takes a character, so a bound that a line does not exceed is never felt. -/
theorem scan_bound (closes : g.Closes) {bound bound' : Nat} (start : Nat) (inComment : Bool)
    {line : List Char} (enough : line.length ≤ bound) (enough' : line.length ≤ bound') :
    g.scan bound start inComment line = g.scan bound' start inComment line := by
  induction bound generalizing bound' start inComment line with
  | zero =>
    obtain rfl := List.length_eq_zero_iff.mp (Nat.le_zero.mp enough)
    cases bound' <;> rfl
  | succ bound ih =>
    cases line with
    | nil => cases bound' <;> rfl
    | cons c t =>
      obtain ⟨bound', rfl⟩ : ∃ n, bound' = n + 1 := ⟨bound' - 1, by simp at enough'; omega⟩
      obtain ⟨whole, nonempty, -⟩ := step_takes closes inComment c t
      have lengths := congrArg List.length whole
      have some := List.length_pos_of_ne_nil nonempty
      simp only [List.length_append, List.length_cons] at lengths enough enough'
      simp only [scan]
      rw [@ih bound' _ _ _ (by omega) (by omega)]

end MarkerGrammar

namespace Tokenizer

variable {σ : Type} {engine : Engine σ} {t : Tokenizer σ} {files : FileTree} {d : Document}

/-- All grammars that a tokenizer holds were compiled by its engine. -/
structure Compiled (engine : Engine σ) (t : Tokenizer σ) : Prop where
  engine_eq : t.registry.engine = engine
  loaded : ∀ scope g, t.registry.loaded[scope]? = some g →
    ∃ source, engine.compile scope source = .ok g
  stored : ∀ (u : Uri) (s : LineStates σ), t.documents[u]? = some s →
    ∃ scope source, engine.compile scope source = .ok s.grammar

theorem compiled_new (provider : Provider) (engine : Engine σ) :
    (Tokenizer.new provider engine).Compiled engine :=
  ⟨rfl, by simp [new, Registry.new], by simp [new]⟩

theorem Compiled.store {s : LineStates σ} (compiled : t.Compiled engine) (u : Uri)
    (visited : List Nat) (origin : ∃ scope source, engine.compile scope source = .ok s.grammar) :
    (t.store u s visited).Compiled engine := by
  refine ⟨compiled.engine_eq, compiled.loaded, fun u' s' stored => ?_⟩
  simp only [Tokenizer.store, Std.ExtTreeMap.getElem?_insert] at stored
  split at stored
  · cases stored
    exact origin
  · exact compiled.stored u' s' stored

theorem exists_source {provider : Provider} {scope : String} {g : Grammar σ}
    (made : provider.compiled engine files scope = .ok g) :
    ∃ source, engine.compile scope source = .ok g := by
  unfold Provider.compiled at made
  cases source : provider.source files scope with
  | error e => simp [source] at made
  | ok text => exact ⟨text, by simpa [source] using made⟩

theorem Compiled.request (compiled : t.Compiled engine) (files : FileTree) (language : String) :
    ({ t with registry := (t.registry.request files language).2 } : Tokenizer σ).Compiled engine ∧
      ∀ g, (t.registry.request files language).1 = .ok g →
        ∃ scope source, engine.compile scope source = .ok g := by
  unfold Registry.request
  split
  · exact ⟨compiled, by simp⟩
  next scope known =>
    split
    next g held =>
      refine ⟨compiled, ?_⟩
      rintro g' ⟨⟩
      obtain ⟨source, made⟩ := compiled.loaded scope g held
      exact ⟨scope, source, made⟩
    next =>
      obtain ⟨answer, -, same, loaded⟩ := Registry.load_cases t.registry files scope
      rw [compiled.engine_eq] at answer loaded same
      refine ⟨⟨same, fun scope' g held => ?_, compiled.stored⟩, fun g ok => ?_⟩
      · change (t.registry.load files scope).2.loaded[scope']? = some g at held
        rw [loaded] at held
        split at held
        next g' made =>
          rw [Std.ExtTreeMap.getElem?_insert] at held
          split at held
          next eq =>
            cases held
            rw [← Std.LawfulEqCmp.eq_of_compare eq]
            exact exists_source made
          next => exact compiled.loaded scope' g held
        next => exact compiled.loaded scope' g held
      · rw [answer] at ok
        obtain ⟨source, made⟩ := exists_source ok
        exact ⟨scope, source, made⟩

/-- An engine made the grammar of a document for which the tokenizer has states or gets them. -/
theorem Compiled.entry (compiled : t.Compiled engine) (files : FileTree) (d : Document) :
    (t.entry files d).2.Compiled engine ∧ ∀ s, (t.entry files d).1 = .ok s →
      ∃ scope source, engine.compile scope source = .ok s.grammar := by
  unfold Tokenizer.entry
  cases tracked : t.documents[d.uri]? with
  | some s =>
    refine ⟨compiled, ?_⟩
    rintro s' ⟨⟩
    exact compiled.stored d.uri s tracked
  | none =>
    obtain ⟨after, origin⟩ := compiled.request files d.language
    refine ⟨after, fun s ok => ?_⟩
    cases answer : (t.registry.request files d.language).1 with
    | error e => simp [answer, Except.map] at ok
    | ok g =>
      simp only [answer, Except.map, Except.ok.injEq] at ok
      subst ok
      exact origin g answer

/-- States of the grammar with which a document began may be stored for it. -/
theorem Compiled.storeEntry {s s' : LineStates σ} {t' : Tokenizer σ} (compiled : t.Compiled engine)
    (entry : t.entry files d = (.ok s, t')) (same : s'.grammar = s.grammar) (visited : List Nat) :
    (t'.store d.uri s' visited).Compiled engine := by
  obtain ⟨after, origin⟩ := compiled.entry files d
  rw [entry] at after origin
  exact after.store d.uri visited (same ▸ origin s rfl)

theorem Compiled.failEntry {e : GrammarError} {t' : Tokenizer σ} (compiled : t.Compiled engine)
    (entry : t.entry files d = (.error e, t')) : t'.Compiled engine := by
  have after := (compiled.entry files d).1
  rwa [entry] at after

theorem Compiled.yieldAfter (compiled : t.Compiled engine) (lines : Nat) :
    (t.yieldAfter lines).Compiled engine := by
  unfold Tokenizer.yieldAfter
  split
  · exact compiled
  · exact ⟨compiled.engine_eq, compiled.loaded, compiled.stored⟩

variable [DecidableEq σ]

/-- What can have happened to a tokenizer, in any order and with any documents. -/
inductive Arises (provider : Provider) (engine : Engine σ) : Tokenizer σ → Prop
  | new : Arises provider engine (Tokenizer.new provider engine)
  | openDocument {t : Tokenizer σ} (files : FileTree) (d : Document) : Arises provider engine t →
      Arises provider engine (t.openDocument files d).2
  | refresh {t : Tokenizer σ} (files : FileTree) (d : Document) : Arises provider engine t →
      Arises provider engine (t.refresh files d).2
  | ensure {t : Tokenizer σ} (files : FileTree) (d : Document) (first stop : Nat) :
      Arises provider engine t → Arises provider engine (t.ensure files d first stop).2
  | change {t : Tokenizer σ} (d : Document) (changes : List Change) : Arises provider engine t →
      Arises provider engine (t.change d changes)
  | scopeAt {t : Tokenizer σ} (files : FileTree) (d : Document) (p : Position) :
      Arises provider engine t → Arises provider engine (t.scopeAt files d p).2
  | giveUp {w : Work σ} (files : FileTree) (d : Document) (p : Position) :
      Arises provider engine w.tokenizer → Arises provider engine (w.scopeAt files d p).2.tokenizer
  | close {t : Tokenizer σ} (u : Uri) : Arises provider engine t → Arises provider engine (t.close u)
  | watch {t : Tokenizer σ} : Arises provider engine t → Arises provider engine t.watch

theorem Compiled.scopeAt (compiled : t.Compiled engine) (files : FileTree) (d : Document)
    (p : Position) : (t.scopeAt files d p).2.Compiled engine := by
  unfold Tokenizer.scopeAt
  split
  next failed => exact compiled.failEntry failed
  next s t' begun =>
    exact (compiled.storeEntry begun (s.tokensAt_sync_grammar d _) _).yieldAfter _

theorem Arises.compiled {provider : Provider} (arises : Arises provider engine t) :
    t.Compiled engine := by
  induction arises with
  | new => exact compiled_new provider engine
  | openDocument files d _ ih =>
    unfold Tokenizer.openDocument
    split
    next failed => exact ih.failEntry failed
    next s t' begun =>
      refine ih.storeEntry begun ?_ _
      exact s.sync_grammar d
  | refresh files d _ ih =>
    unfold Tokenizer.refresh
    split
    next failed => exact ih.failEntry failed
    next begun =>
      refine ih.storeEntry begun ?_ _
      rfl
  | ensure files d first stop _ ih =>
    unfold Tokenizer.ensure
    split
    next failed => exact ih.failEntry failed
    next s t' begun =>
      refine ih.storeEntry begun ?_ _
      exact s.sync_grammar d
  | change d changes _ ih =>
    unfold Tokenizer.change
    split
    next => exact ih
    next s tracked =>
      have origin := ih.stored d.uri s tracked
      rw [← s.change_grammar d changes] at origin
      exact ih.store d.uri _ origin
  | scopeAt files d p _ ih => exact ih.scopeAt files d p
  | giveUp files d p _ ih =>
    unfold Work.scopeAt
    split
    next => exact ih
    next failed => exact ih.failEntry failed
    next s t' left begun =>
      -- Given up or not, what is stored comes from the entry that was begun.
      dsimp only
      split
      · refine ih.storeEntry begun ?_ _
        exact s.sync_grammar d
      · exact ih.scopeAt files d p
  | close u _ ih =>
    refine ⟨ih.engine_eq, ih.loaded, fun u' s stored => ih.stored u' s ?_⟩
    simp only [Tokenizer.close, Std.ExtTreeMap.getElem?_erase] at stored
    split at stored
    · cases stored
    · exact stored
  | watch _ ih => exact ⟨ih.engine_eq, ih.loaded, ih.stored⟩

omit [DecidableEq σ] in
theorem Compiled.begins {s : LineStates σ} (compiled : t.Compiled engine)
    (begins : t.Begins files d s) : ∃ scope source, engine.compile scope source = .ok s.grammar := by
  rcases begins with stored | ⟨-, g, ok, rfl⟩
  · exact compiled.stored d.uri s stored
  · exact (compiled.request files d.language).2 g ok

/-- The tokens that a tokenizer looks at are those of the line, read in some state. -/
theorem scopeAt_reads_line {s : LineStates σ} (begins : t.Begins files d s) (p : Position) :
    ∃ state, (t.scopeAt files d p).1 = LineStates.describe d (d.clamp p)
      (s.grammar.tokenizeLine state (d.line (d.clamp p).line)).tokens := by
  rw [scopeAt_answer begins, ← s.sync_grammar d]
  exact ⟨_, rfl⟩

end Tokenizer

/-- The answer to a question about a place of a document: some text of its line, at the range that
is given, which has the place inside or ends there with the line. -/
structure ScopeInfo.Shows (info : ScopeInfo) (d : Document) (p : Position) : Prop where
  nonempty : info.text ≠ []
  range : ∃ start stop, info.span = Span.onLine p.line start stop ∧
    Text.slice? start stop (d.line p.line) = some info.text ∧ start ≤ p.column ∧
    (p.column < stop ∨ p.column = stop ∧ stop = Text.size (d.line p.line))

theorem Tiles.slice {line : List Char} {tokens : List Token} {t : Token} (tiles : Tiles line tokens)
    (member : t ∈ tokens) : ∃ text, text ≠ [] ∧ Text.slice? t.start t.stop line = some text := by
  obtain ⟨first, last⟩ := tiles.boundary t member
  have lt := tiles.nonempty t member
  refine ⟨Text.takeBytes (t.stop - t.start) (Text.dropBytes t.start line), ?_, ?_⟩
  · intro none
    have whole := Text.takeBytes_size_add (Text.takeBytes t.start line) (t.stop - t.start)
      (Text.dropBytes t.start line)
    rw [none, List.append_nil, Text.takeBytes_append_dropBytes,
      Text.size_takeBytes_of_isBoundary first, Nat.add_sub_of_le (Nat.le_of_lt lt)] at whole
    have sizes := congrArg Text.size whole
    rw [Text.size_takeBytes_of_isBoundary last, Text.size_takeBytes_of_isBoundary first] at sizes
    omega
  · exact if_pos ⟨Nat.le_of_lt lt, first, last⟩

theorem Tiles.describe {d : Document} {p : Position} {tokens : List Token}
    (tiles : Tiles (d.line p.line) tokens) (le : p.column ≤ Text.size (d.line p.line)) :
    (LineStates.describe d p tokens = none ↔ d.line p.line = []) ∧
      ∀ info ∈ LineStates.describe d p tokens, info.Shows d p := by
  obtain ⟨none, some⟩ := tiles.pick le
  unfold LineStates.describe
  refine ⟨by rw [Option.map_eq_none_iff, none], fun info member => ?_⟩
  obtain ⟨t, picked, rfl⟩ := Option.map_eq_some_iff.mp member
  obtain ⟨inside, start, stop⟩ := some t picked
  obtain ⟨text, nonempty, slice⟩ := tiles.slice inside
  refine ⟨?_, t.start, t.stop, rfl, ?_, start, stop⟩
  · simpa only [slice, Option.getD_some] using nonempty
  · rw [slice, Option.getD_some]

theorem closes_of_compile {scope source : String} {g : Grammar GrammarState}
    (made : markerEngine.compile scope source = .ok g) :
    ∃ m : MarkerGrammar, m.Closes ∧ g = m.toGrammar := by
  simp only [markerEngine] at made
  cases parsed : MarkerGrammar.parse scope source with
  | error e => simp [parsed, Except.map] at made
  | ok m =>
    simp only [parsed, Except.map, Except.ok.injEq] at made
    exact ⟨m, MarkerGrammar.closes_of_parse parsed, made.symm⟩

/-- The tokens of a line tile it, in whatever state the line is read and whatever the markers are;
so a place has no token only on an empty line, whatever happened to the tokenizer before. -/
theorem marker_tokens_tile_their_lines :
    (∀ scope source g, MarkerGrammar.parse scope source = .ok g → ∀ state line,
      Tiles line (g.tokenizeLine state line).tokens ∧ ∀ bound, line.length ≤ bound →
        (g.scan bound 0 (decide (state = .markers true)) line).1 =
          (g.tokenizeLine state line).tokens) ∧
    ∀ provider t, Tokenizer.Arises provider markerEngine t → ∀ files d,
      (∃ s, t.Begins files d s) → ∀ p,
        ((t.scopeAt files d p).1 = none ↔ d.line (d.clamp p).line = []) ∧
        ∀ info ∈ (t.scopeAt files d p).1, info.Shows d (d.clamp p) := by
  constructor
  · intro scope source g parsed state line
    have closes := MarkerGrammar.closes_of_parse parsed
    refine ⟨g.tokenizeLine_tiles closes state line, fun bound enough => ?_⟩
    exact congrArg Prod.fst (MarkerGrammar.scan_bound closes 0 _ enough (Nat.le_refl _))
  · rintro provider t arises files d ⟨s, begins⟩ p
    obtain ⟨scope, source, made⟩ := arises.compiled.begins begins
    obtain ⟨m, closes, grammar⟩ := closes_of_compile made
    obtain ⟨state, answer⟩ := Tokenizer.scopeAt_reads_line begins p
    have tiles := m.tokenizeLine_tiles closes state (d.line (d.clamp p).line)
    rw [answer, grammar]
    exact tiles.describe (Nat.min_le_right _ _)

/-- A call behind a letter of two bytes and before a comment that goes on, and an empty line. -/
def accentedCall : Document := ⟨⟨"file:///a.lua"⟩, "lua", 1, "é('x')--[[y\n\n]]".toList⟩

theorem marker_tokens_tile_their_lines_accented :
    (∃ g, MarkerGrammar.parse "source.lua" "line_comment=--\nblock_comment=--[[ ]]\n" = .ok g ∧
      Tiles "é('x')--[[y".toList (g.tokenizeLine (.markers true) "é('x')--[[y".toList).tokens) ∧
    let t := ((Tokenizer.new Server.luaInline markerEngine).scopeAt (.folder []) accentedCall ⟨2, 0⟩).2
    (∃ s, t.Begins (.folder []) accentedCall s) ∧
      (t.scopeAt (.folder []) accentedCall ⟨1, 5⟩).1 = none ∧
      ∃ info ∈ (t.scopeAt (.folder []) accentedCall ⟨0, 99⟩).1, info.text = "--[[y".toList ∧
        info.Shows accentedCall ⟨0, 12⟩ := by
  constructor
  · have accepted : (MarkerGrammar.parse "source.lua"
        "line_comment=--\nblock_comment=--[[ ]]\n").toOption.isSome = true := by decide +kernel
    cases parsed : MarkerGrammar.parse "source.lua" "line_comment=--\nblock_comment=--[[ ]]\n" with
    | error e => simp [parsed, Except.toOption] at accepted
    | ok g => exact ⟨g, rfl, (marker_tokens_tile_their_lines.1 _ _ g parsed _ _).1⟩
  · intro t
    have arises : Tokenizer.Arises Server.luaInline markerEngine t := .scopeAt _ _ _ .new
    have tracked : t.documents[accentedCall.uri]?.isSome = true := by decide +kernel
    have shown : (t.scopeAt (.folder []) accentedCall ⟨0, 99⟩).1.map ScopeInfo.text =
        some "--[[y".toList := by decide +kernel
    obtain ⟨s, stored⟩ := Option.isSome_iff_exists.mp tracked
    have begins : ∃ s, t.Begins (.folder []) accentedCall s := ⟨s, .inl stored⟩
    have answers := marker_tokens_tile_their_lines.2 _ t arises (.folder []) accentedCall begins
    obtain ⟨info, answer, text⟩ := Option.map_eq_some_iff.mp shown
    exact ⟨begins, (answers ⟨1, 5⟩).1.mpr (by decide +kernel), info, answer, text,
      (answers ⟨0, 99⟩).2 info answer⟩

end EventXref
