import EventXref.Proofs.LateReaders
import EventXref.Proofs.Lexing
import EventXref.Proofs.Matches
import EventXref.Proofs.Places
import EventXref.Proofs.Session

/-!
Call sites are found exactly. An extraction only compares a name with the text of the token at its
first byte, or with the last token of the line if none is there. With a marker grammar this is
enough: a name cannot begin inside of itself, and no call begins where a content has ended, so the
name and the token are the same bytes of the document.
-/
namespace EventXref

namespace Text

theorem le_of_slice_ne_nil {start stop : Nat} {t : List Char} (nonempty : slice start stop t ≠ []) :
    start ≤ stop := by
  by_contra inverted
  apply nonempty
  have short := size_takeBytes_le stop t
  have all : size (takeBytes stop t) + (start - size (takeBytes stop t)) = start := by omega
  rw [slice, ← all]
  simpa [dropBytes] using dropBytes_size_add (takeBytes stop t) (start - size (takeBytes stop t)) []

end Text

theorem LineStates.mem_of_pick {tokens : List Token} {token : Token} {column : Nat}
    (picked : pick tokens column = some token) : token ∈ tokens := by
  rcases Option.or_eq_some_iff.mp picked with found | ⟨-, last⟩
  · exact List.mem_of_find?_eq_some found
  · exact List.mem_of_getLast? last

namespace MarkerGrammar

/-- Some token stands over a column of the line, so the last one is not asked. -/
theorem Covers.contains_of_pick {scope : String} {line : List Char} {tokens : List Token}
    {token : Token} {column : Nat} (covers : Covers scope 0 line tokens)
    (inside : column < Text.size line) (picked : LineStates.pick tokens column = some token) :
    token.contains column = true := by
  obtain ⟨found, among, covered⟩ := covers.exists_contains (Nat.zero_le column) (by omega)
  rw [LineStates.pick, covers.find?_eq among covered, Option.some_or] at picked
  cases Option.some.inj picked
  exact covered

theorem not_continues_of_isBreak {c : Char} (ends : Text.isBreak c = true) :
    continuesIdentifier c = false := by
  simp only [Text.isBreak, Bool.or_eq_true, Bool.and_eq_true, decide_eq_true_eq,
    beq_iff_eq] at ends
  rcases ends with ((⟨low, high⟩ | rfl) | rfl) | rfl
  · have tenth : 10 ≤ c.toNat := low
    have last : c.toNat ≤ 13 := high
    have back := Char.ofNat_toNat c
    obtain n | n | n | n : c.toNat = 10 ∨ c.toNat = 11 ∨ c.toNat = 12 ∨ c.toNat = 13 := by omega
    all_goals
      rw [n] at back
      rw [← back]
      decide +kernel
  all_goals decide +kernel

/-- The bytes of a document from `range.1` to `range.2` are those of a call, which begins at
`place`, when the document is read from its first line on. -/
def IsCall (g : MarkerGrammar) (d : Document) (place : Position) (range : Nat × Nat) : Prop :=
  ∃ token ∈ (g.toGrammar.tokens d.lines).getD place.line [],
    token.innermost? = some "entity.name.function.call" ∧ token.start = place.column ∧
      d.byteOf? place = some range.1 ∧ d.byteOf? ⟨place.line, token.stop⟩ = some range.2

variable {g : MarkerGrammar} {d : Document} {line column : Nat} {pre post : List (List Char)}
  {before text rest ending : List Char} {token : Token} {kind : Kind} {place : Position}
  {range : Nat × Nat}

theorem lt_lineCount_of_mem (member : token ∈ (g.toGrammar.tokens d.lines).getD line []) :
    line < d.lineCount := by
  by_contra outside
  have none : d.lines[line]? = none := by
    rw [List.getElem?_eq_none_iff, LineStates.length_lines]
    omega
  rw [Grammar.tokens, List.getD_eq_getElem?_getD, Grammar.getElem?_tokensFrom, none] at member
  cases member

theorem tokens_cover (closes : g.Closes) (inside : line < d.lineCount) :
    Covers g.scope 0 (d.line line) ((g.toGrammar.tokens d.lines).getD line []) := by
  rw [LineStates.tokens_getD _ _ inside]
  exact scan_covers closes 0 _ (Nat.le_refl _)

theorem Stands.innermost?_eq (stands : Stands g.scope 0 (d.line line) token kind before text rest) :
    token.innermost? = some kind.scope := by
  rw [stands.token_eq]
  rfl

theorem Stands.innermostContains_iff
    (stands : Stands g.scope 0 (d.line line) token kind before text rest) (span : Span)
    (shown : List Char) : ScopeInfo.innermostContains ⟨span, shown, token.scopes⟩
      Extraction.callMarker = true ↔ kind = .call := by
  have innermost : token.scopes.getLast? = some kind.scope := stands.innermost?_eq
  simp only [ScopeInfo.innermostContains, ScopeInfo.innermost?, innermost, Option.any_some]
  exact (Kind.scope_eq_call kind).2

theorem Stands.start_eq (stands : Stands g.scope 0 (d.line line) token kind before text rest) :
    token.start = Text.size before := by
  simp [stands.token_eq]

theorem Stands.stop_eq (stands : Stands g.scope 0 (d.line line) token kind before text rest) :
    token.stop = Text.size before + Text.size text := by
  simp [stands.token_eq]

theorem Stands.text_eq (stands : Stands g.scope 0 (d.line line) token kind before text rest)
    (splits : d.Splits line pre ending post) :
    d.text = (pre.flatten ++ before) ++ (text ++ (rest ++ (ending ++ post.flatten))) := by
  rw [splits.text_eq, stands.line_eq]
  simp

theorem Stands.byteOf?_start (stands : Stands g.scope 0 (d.line line) token kind before text rest)
    (splits : d.Splits line pre ending post) :
    d.byteOf? ⟨line, token.start⟩ = some (Text.size (pre.flatten ++ before)) := by
  rw [splits.byteOf?_iff, stands.line_eq, stands.start_eq]
  simp only [Text.size_append, and_true]
  omega

theorem Stands.byteOf?_stop (stands : Stands g.scope 0 (d.line line) token kind before text rest)
    (splits : d.Splits line pre ending post) :
    d.byteOf? ⟨line, token.stop⟩ = some (Text.size (pre.flatten ++ before) + Text.size text) := by
  rw [splits.byteOf?_iff, stands.line_eq, stands.stop_eq]
  simp only [Text.size_append]
  omega

theorem Stands.shown_text (stands : Stands g.scope 0 (d.line line) token kind before text rest) :
    Text.slice? token.start token.stop (d.line line) = some text := by
  have first : Text.isBoundary (Text.size before) (before ++ (text ++ rest)) = true := by
    simp [Text.isBoundary, Text.takeBytes_size]
  have last : Text.isBoundary (Text.size before + Text.size text) (before ++ (text ++ rest)) =
      true := by
    simp [Text.isBoundary, Text.takeBytes_size_add, Text.takeBytes_size]
  rw [stands.start_eq, stands.stop_eq, stands.line_eq, Text.slice?,
    if_pos ⟨Nat.le_add_right _ _, first, last⟩, Text.dropBytes_size, Nat.add_sub_cancel_left,
    Text.takeBytes_size]

theorem Stands.isName (stands : Stands g.scope 0 (d.line line) token .call before text rest)
    (splits : d.Splits line pre ending post) :
    IsName text (rest ++ (ending ++ post.flatten)) :=
  (stands.name rfl).append fun c here => not_continues_of_isBreak (splits.isBreak_head c here)

/-- A call with the text that it is made of and the text around it. -/
theorem IsCall.stands (closes : g.Closes) (call : g.IsCall d place range) :
    ∃ token pre ending post before text rest,
      token ∈ (g.toGrammar.tokens d.lines).getD place.line [] ∧
      d.Splits place.line pre ending post ∧
      Stands g.scope 0 (d.line place.line) token .call before text rest ∧
      place.column = Text.size before ∧ range.1 = Text.size (pre.flatten ++ before) ∧
      range.2 = Text.size (pre.flatten ++ before) + Text.size text := by
  obtain ⟨token, member, scope, start, first, last⟩ := call
  have inside := lt_lineCount_of_mem member
  obtain ⟨pre, ending, post, splits⟩ := Document.exists_splits_of_lt inside
  obtain ⟨kind, before, text, rest, stands⟩ := (tokens_cover closes inside).stands member
  have isCall : kind = .call :=
    (Kind.scope_eq_call kind).1.mp (Option.some.inj (stands.innermost?_eq.symm.trans scope))
  subst isCall
  have here := stands.byteOf?_start splits
  rw [start] at here
  exact ⟨token, pre, ending, post, before, text, rest, member, splits, stands,
    start.symm.trans stands.start_eq, Option.some.inj (first.symm.trans here),
    Option.some.inj (last.symm.trans (stands.byteOf?_stop splits))⟩

theorem IsCall.lt (closes : g.Closes) (call : g.IsCall d place range) : range.1 < range.2 := by
  obtain ⟨token, pre, ending, post, before, text, rest, -, -, stands, -, first, last⟩ :=
    call.stands closes
  have some := Text.size_pos stands.nonempty
  omega

theorem IsCall.positionOf_eq (closes : g.Closes) (call : g.IsCall d place range) :
    d.positionOf range.1 = place := by
  obtain ⟨token, pre, ending, post, before, text, rest, -, splits, stands, column, first, -⟩ :=
    call.stands closes
  have inside : Text.size before ≤ Text.size (d.line place.line) := by
    rw [stands.line_eq, Text.size_append]
    omega
  rw [first, Text.size_append, splits.positionOf_eq inside, ← column]

/-- What an extraction asks of the place where a name begins. -/
def ShowsCall (g : MarkerGrammar) (d : Document) (range : Nat × Nat) : Prop :=
  ∃ info, g.toGrammar.scopeAt d (d.positionOf range.1) = some info ∧
    info.text = Text.slice range.1 range.2 d.text ∧
    info.innermostContains Extraction.callMarker = true

theorem IsCall.showsCall (closes : g.Closes) (call : g.IsCall d place range) :
    g.ShowsCall d range := by
  obtain ⟨token, pre, ending, post, before, text, rest, member, splits, stands, column, first,
    last⟩ := call.stands closes
  have covers := tokens_cover closes splits.lt_lineCount
  have clamped : d.clamp place = place := by
    have inside : place.column ≤ Text.size (d.line place.line) := by
      rw [column, stands.line_eq, Text.size_append]
      omega
    have row := splits.clamp_eq place.column
    rwa [Nat.min_eq_left inside] at row
  have covered : token.contains place.column = true := by
    have some := Text.size_pos stands.nonempty
    simp only [Token.contains, stands.start_eq, stands.stop_eq, column, Bool.and_eq_true,
      decide_eq_true_eq]
    omega
  have picked := covers.find?_eq member covered
  have shown : g.toGrammar.scopeAt d (d.positionOf range.1) = some
      ⟨Span.onLine place.line token.start token.stop, text, token.scopes⟩ := by
    rw [call.positionOf_eq closes, Grammar.scopeAt, clamped, LineStates.describe, LineStates.pick,
      picked, Option.some_or, Option.map_some, stands.shown_text, Option.getD_some]
  refine ⟨_, shown, ?_, ?_⟩
  · rw [first, last, stands.text_eq splits, Text.slice_size]
  · exact (stands.innermostContains_iff _ _).mpr rfl

/-- The name of a call, found from a byte of the call on, is found where the call begins. -/
theorem Stands.aligned {a b : Nat}
    (stands : Stands g.scope 0 (d.line line) token .call before text rest)
    (splits : d.Splits line pre ending post) (same : text = Text.slice a b d.text) (le : a ≤ b)
    (first : Text.isBoundary a d.text = true) (low : Text.size (pre.flatten ++ before) ≤ a)
    (high : a < Text.size (pre.flatten ++ before) + Text.size text) :
    Text.size (pre.flatten ++ before) = a := by
  have whole : (pre.flatten ++ before) ++ (text ++ (rest ++ (ending ++ post.flatten))) =
      Text.takeBytes a d.text ++ (text ++ Text.dropBytes b d.text) := by
    rw [← stands.text_eq splits, same, Text.slice_append_dropBytes le,
      Text.takeBytes_append_dropBytes]
  have size := Text.size_takeBytes_of_isBoundary first
  obtain ⟨skipped, taken, again⟩ := Text.exists_append_of_size_le whole (by omega)
  rw [taken, Text.size_append _ skipped] at size
  have short : Text.size skipped < Text.size text := by omega
  rw [(stands.isName splits).aligned again short, Text.size_nil] at size
  exact size

theorem Stands.not_isBreak (stands : Stands g.scope 0 (d.line line) token .call before text rest)
    {below : List Char} : ¬ ∀ c ∈ (text ++ below).head?, Text.isBreak c = true := by
  intro ends
  obtain ⟨c, name, rfl⟩ := List.exists_cons_of_ne_nil stands.nonempty
  have stops := not_continues_of_isBreak (ends c rfl)
  rw [(stands.name rfl).inside c List.mem_cons_self] at stops
  cases stops

theorem ShowsCall.exists_isCall (closes : g.Closes) (shows : g.ShowsCall d range)
    (first : Text.isBoundary range.1 d.text = true) (last : Text.isBoundary range.2 d.text = true) :
    ∃ place, g.IsCall d place range := by
  obtain ⟨info, shown, same, marked⟩ := shows
  have within : range.1 ≤ Text.size d.text := Text.le_size_of_isBoundary first
  obtain ⟨line, pre, ending, post, column, splits, start, position, place⟩ := d.exists_place within
  have covers := tokens_cover closes splits.lt_lineCount
  rw [position, Grammar.scopeAt, splits.clamp_eq] at shown
  obtain ⟨token, picked, rfl⟩ := Option.map_eq_some_iff.mp shown
  have member := LineStates.mem_of_pick picked
  obtain ⟨kind, before, text, rest, stands⟩ := covers.stands member
  obtain rfl : kind = .call := (stands.innermostContains_iff _ _).mp marked
  simp only [stands.shown_text, Option.getD_some] at same
  have le : range.1 ≤ range.2 := Text.le_of_slice_ne_nil (same ▸ stands.nonempty)
  have behind : Text.dropBytes range.1 d.text = text ++ Text.dropBytes range.2 d.text := by
    rw [same, Text.slice_append_dropBytes le]
  rcases place with inside | ⟨-, ends⟩
  · rw [Nat.min_eq_left (Nat.le_of_lt inside)] at picked
    have covered := covers.contains_of_pick inside picked
    simp only [Token.contains, stands.start_eq, stands.stop_eq, Bool.and_eq_true,
      decide_eq_true_eq] at covered
    have begins : Text.size (pre.flatten ++ before) = range.1 := by
      apply stands.aligned splits same le first
      all_goals
        rw [Text.size_append]
        omega
    have size := Text.size_takeBytes_of_isBoundary last
    rw [← Text.takeBytes_append_slice le, Text.size_append, ← same,
      Text.size_takeBytes_of_isBoundary first] at size
    refine ⟨⟨line, token.start⟩, token, member, stands.innermost?_eq, rfl, ?_, ?_⟩
    · rw [stands.byteOf?_start splits, begins]
    · rw [stands.byteOf?_stop splits, begins, size]
  · -- The last token of the line was asked, but no call begins behind a content.
    rw [behind] at ends
    exact absurd ends stands.not_isBreak

end MarkerGrammar

namespace Tokenizer

variable {σ : Type} [DecidableEq σ] {t : Tokenizer σ} {files : FileTree} {d : Document}
  {g : Grammar σ}

/-- The document would be read by `g`, from states that are right. -/
def ReadsRight (t : Tokenizer σ) (files : FileTree) (d : Document) (g : Grammar σ) : Prop :=
  ∃ s, t.Begins files d s ∧ s.Sound d ∧ s.grammar = g

theorem ReadsRight.scopeAt (reads : t.ReadsRight files d g) (place : Position) :
    (t.scopeAt files d place).1 = g.scopeAt d place ∧
      (t.scopeAt files d place).2.ReadsRight files d g := by
  obtain ⟨s, begins, sound, rfl⟩ := reads
  have right : ((s.sync d).tokensAt d (d.clamp place).line).2.1.Sound d := by
    rw [sound.sync_eq]
    exact (sound.tokensAt (d.clamp_line_lt place)).2.1
  obtain ⟨s', stored, grammar, sound', -⟩ := (scopeAt_updates t files d place).holds
    (P := fun _ => True) begins (s.tokensAt_sync_grammar d _) right trivial
  exact ⟨scopeAt_of_sound begins sound place, s', .inl stored, sound', grammar⟩

theorem Reads.extract_eq (reads : t.Reads files d g)
    (sound : ∀ s, t.documents[d.uri]? = some s → s.Sound d) (patterns : PatternTable)
    (maxFileSize : Nat) :
    (Extraction.extract patterns maxFileSize (fun t place => t.scopeAt files d place) d none t).1 =
      Extraction.reference patterns maxFileSize (g.scopeAt d) d none := by
  have start : t.ReadsRight files d g := by
    obtain ⟨s, begins, grammar⟩ := reads
    refine ⟨s, begins, ?_, grammar⟩
    rcases begins with stored | ⟨-, g', -, rfl⟩
    · exact sound s stored
    · exact LineStates.fresh_sound g' d
  exact (Extraction.extract_eq (I := fun t => t.ReadsRight files d g)
    (fun _ place here => here.scopeAt place) patterns maxFileSize d none start).1

end Tokenizer

/-- A called function counts as a listener if it is among the listeners, else as a trigger if it is
among the triggers. -/
def Pattern.Counts (p : Pattern) (function : String) : EventKind → Prop
  | .listener => function ∈ p.listeners
  | .trigger => function ∈ p.triggers ∧ function ∉ p.listeners

theorem Pattern.classify_eq_some {p : Pattern} {function : String} {kind : EventKind} :
    p.classify function = some kind ↔ p.Counts function kind := by
  unfold classify
  by_cases listens : function ∈ p.listeners
  · cases kind <;> simp [Counts, listens]
  · by_cases triggers : function ∈ p.triggers
    · cases kind <;> simp [Counts, listens, triggers]
    · cases kind <;> simp [Counts, listens, triggers]

theorem Position.compare_eq_lt {p q : Position} (not_le : ¬ q ≤ p) : compare p q = .lt := by
  rw [le_iff] at not_le
  simp only [compare, order]
  grind

namespace Extraction

/-- The name that a text gives an event: what stands between a pair of equal quotes, or all of it if
there is no such pair around it. -/
def Unquoted (t name : List Char) : Prop :=
  (∃ quote ∈ quotes, t = quote :: (name ++ [quote])) ∨
    name = t ∧ ∀ quote ∈ quotes, ∀ inner, t ≠ quote :: (inner ++ [quote])

theorem unquoted_iff {t name : List Char} : Unquoted t name ↔ name = stripQuotes t := by
  cases t with
  | nil => simp [Unquoted, stripQuotes]
  | cons c t =>
    by_cases quoted : t.getLast? = some c ∧ quotes.contains c = true
    · rw [stripQuotes, if_pos quoted]
      obtain ⟨ends, isQuote⟩ := quoted
      have member : c ∈ quotes := by simpa using isQuote
      obtain ⟨inner, rfl⟩ := List.getLast?_eq_some_iff.mp ends
      rw [List.dropLast_concat]
      constructor
      · rintro (⟨quote, -, same⟩ | ⟨-, never⟩)
        · obtain ⟨rfl, same⟩ := List.cons.inj same
          exact (List.append_cancel_right same).symm
        · exact absurd rfl (never c member inner)
      · rintro rfl
        exact .inl ⟨c, member, rfl⟩
    · rw [stripQuotes, if_neg quoted]
      have never : ∀ quote ∈ quotes, ∀ inner, c :: t ≠ quote :: (inner ++ [quote]) := by
        intro quote member inner same
        obtain ⟨rfl, rfl⟩ := List.cons.inj same
        exact quoted ⟨by simp, by simpa using member⟩
      constructor
      · rintro (⟨quote, member, same⟩ | ⟨same, -⟩)
        · exact absurd same (never quote member name)
        · exact same
      · exact fun same => .inr ⟨same, never⟩

/-- A call site of a document, for a match with these ranges of its two groups. -/
structure IsSite (g : MarkerGrammar) (p : Pattern) (d : Document) (m : Match)
    (function event : Nat × Nat) (o : Occurrence) : Prop where
  function_eq : m.group? p.functionGroup = some function
  event_eq : m.group? p.eventGroup = some event
  call : g.IsCall d o.location.position function
  uri : o.location.uri = d.uri
  kind : p.Counts (String.ofList (Text.slice function.1 function.2 d.text)) o.kind
  name : Unquoted (Text.slice event.1 event.2 d.text) o.name.toList

def site (answer : Position → Option ScopeInfo) (p : Pattern) (d : Document) (m : Match) :
    Option Occurrence := do
  let function ← m.group? p.functionGroup
  let event ← m.group? p.eventGroup
  confirm p d ⟨function, event⟩ (answer (d.positionOf function.1))

variable {answer : Position → Option ScopeInfo} {patterns : PatternTable} {p : Pattern}
  {maxFileSize : Nat} {d : Document} {m : Match} {o : Occurrence} {g : MarkerGrammar}

theorem examine_occurrences (answer : Position → Option ScopeInfo) (p : Pattern) (d : Document)
    (cs : List Candidate) :
    (examine (fun (_ : Unit) place => (answer place, ())) p d () none cs).1.occurrences =
      cs.filterMap fun c => confirm p d c (answer (d.positionOf c.function.1)) := by
  induction cs with
  | nil => rfl
  | cons c cs ih =>
    simp only [examine, Option.any_none, Option.map_none, ih, List.filterMap_cons]
    cases confirm p d c (answer (d.positionOf c.function.1)) <;> rfl

theorem reference_occurrences (known : patterns.get? d.language = some p)
    (small : Text.size d.text ≤ maxFileSize) :
    (reference patterns maxFileSize answer d none).occurrences =
      (p.program.findAll d.text).filterMap (site answer p d) := by
  have fits : ¬ (true && decide (Text.size d.text > maxFileSize)) = true := by
    simpa using small
  simp only [reference, extract, known, Option.isNone_none, if_neg fits, examine_occurrences,
    candidates, List.filterMap_filterMap]
  congr 1
  funext m
  cases function : m.group? p.functionGroup with
  | none => simp [site, function]
  | some range => cases event : m.group? p.eventGroup <;> simp [site, function, event]

theorem site_iff (closes : g.Closes) {low : Nat} (lies : m.Lies d.text low) :
    site (g.toGrammar.scopeAt d) p d m = some o ↔
      ∃ function event, IsSite g p d m function event o := by
  simp only [site, Option.bind_eq_bind, Option.bind_eq_some_iff, confirm_eq_some]
  constructor
  · rintro ⟨function, function_eq, event, event_eq, info, shown, same, marked, kind, counts, rfl⟩
    obtain ⟨first, last⟩ := lies.group? function_eq
    have shows : g.ShowsCall d function := ⟨info, shown, same, marked⟩
    obtain ⟨place, call⟩ := shows.exists_isCall closes first.boundary last.boundary
    rw [← call.positionOf_eq closes] at call
    exact ⟨function, event, function_eq, event_eq, call, rfl, Pattern.classify_eq_some.mp counts,
      unquoted_iff.mpr (by simp)⟩
  · rintro ⟨function, event, site⟩
    obtain ⟨info, shown, same, marked⟩ := site.call.showsCall closes
    refine ⟨function, site.function_eq, event, site.event_eq, info, shown, same, marked, o.kind,
      Pattern.classify_eq_some.mpr site.kind, ?_⟩
    have name := unquoted_iff.mp site.name
    have place := site.call.positionOf_eq closes
    have uri := site.uri
    obtain ⟨kind, text, ⟨u, position⟩⟩ := o
    simp only at name place uri
    rw [← name, place, uri, String.ofList_toList]

/-- Sites of matches that follow one another do so as well. -/
theorem IsSite.lt {m' : Match} {o' : Occurrence} {function event function' event' : Nat × Nat}
    {low low' : Nat} (closes : g.Closes) (site : IsSite g p d m function event o)
    (site' : IsSite g p d m' function' event' o') (lies : m.Lies d.text low)
    (lies' : m'.Lies d.text low') (apart : m.stop ≤ m'.start) :
    compare o.location.position o'.location.position = .lt := by
  obtain ⟨-, last⟩ := lies.group? site.function_eq
  obtain ⟨first, -⟩ := lies'.group? site'.function_eq
  have nonempty := site.call.lt closes
  have low := last.le_stop
  have high := first.start_le
  obtain ⟨token, -, -, -, place, -⟩ := site.call
  obtain ⟨token', -, -, -, place', -⟩ := site'.call
  apply Position.compare_eq_lt
  intro back
  have order := Document.byteOf_mono back place' place
  omega

variable {files : FileTree} {t : Tokenizer GrammarState}

/-- An extraction with a tokenizer that has nothing wrong about the document finds one call site for
each match that covers exactly a call of a listed function, and nothing else. -/
theorem extraction_is_exact {scope source : String}
    (accepted : MarkerGrammar.parse scope source = .ok g)
    (known : patterns.get? d.language = some p) (small : Text.size d.text ≤ maxFileSize)
    (sound : ∀ s, t.documents[d.uri]? = some s → s.Sound d)
    (reads : t.Reads files d g.toGrammar) :
    let found :=
      (extract patterns maxFileSize (fun t place => t.scopeAt files d place) d none t).1
    found.isComplete = true ∧
      (∃ site : Match → Option Occurrence,
        found.occurrences = (p.program.findAll d.text).filterMap site ∧
        ∀ m ∈ p.program.findAll d.text, ∀ o,
          site m = some o ↔ ∃ function event, IsSite g p d m function event o) ∧
      found.occurrences.Pairwise fun a b =>
        compare a.location.position b.location.position = .lt := by
  intro found
  have closes := MarkerGrammar.closes_of_parse accepted
  have ordered := p.program.findAll_ordered d.text
  have sites : ∀ m ∈ p.program.findAll d.text, ∀ o, site (g.toGrammar.scopeAt d) p d m = some o ↔
      ∃ function event, IsSite g p d m function event o :=
    fun m member o => site_iff closes (ordered.lies m member)
  have result : found.occurrences =
      (p.program.findAll d.text).filterMap (site (g.toGrammar.scopeAt d) p d) := by
    rw [← reference_occurrences known small]
    exact congrArg occurrences (reads.extract_eq sound patterns maxFileSize)
  refine ⟨extract_complete _ _ d t, ⟨_, result, sites⟩, ?_⟩
  rw [result, List.pairwise_filterMap]
  apply ordered.pairwise.imp_of_mem
  intro m m' member member' apart o made o' made'
  obtain ⟨function, event, site⟩ := (sites m member o).mp made
  obtain ⟨function', event', site'⟩ := (sites m' member' o').mp made'
  exact site.lt closes site' (ordered.lies m member) (ordered.lies m' member') apart

def handlersOfX : Config :=
  { Config.default with
    events := [⟨"lua", [], ["f"]⟩]
    template := ⟨"(\x7bEVENTS\x7d)\\(('x')", 1, 2⟩ }

def luaMarkers : MarkerGrammar :=
  ⟨"source.lua", some "--".toList, some ("--[[".toList, "]]".toList)⟩

/-- A call behind a letter of two bytes, one in a comment that goes on on the next line, a longer
name that ends in the listed one, and a call behind it. -/
def mixedCalls : Document :=
  ⟨⟨"file:///a.lua"⟩, "lua", 1, "é f('x')--[[f('x')\r\n]]ef('x')f('x')".toList⟩

theorem extraction_is_exact_mixed_calls : ∃ (patterns : PatternTable) (p : Pattern),
    MarkerGrammar.parse "source.lua" "line_comment=--\nblock_comment=--[[ ]]\n" = .ok luaMarkers ∧
    PatternTable.compile handlersOfX = .ok patterns ∧ patterns.get? "lua" = some p ∧
    let found := (extract patterns 100 (fun t place => t.scopeAt (.folder []) mixedCalls place)
      mixedCalls none (Tokenizer.knowing luaMarkers.toGrammar)).1
    found.occurrences = [⟨.listener, "x", ⟨mixedCalls.uri, ⟨0, 3⟩⟩⟩,
      ⟨.listener, "x", ⟨mixedCalls.uri, ⟨1, 9⟩⟩⟩] ∧
    found.isComplete = true ∧
      (∃ site : Match → Option Occurrence,
        found.occurrences = (p.program.findAll mixedCalls.text).filterMap site ∧
        ∀ m ∈ p.program.findAll mixedCalls.text, ∀ o, site m = some o ↔
          ∃ function event, IsSite luaMarkers p mixedCalls m function event o) ∧
      found.occurrences.Pairwise fun a b =>
        compare a.location.position b.location.position = .lt := by
  have run : (PatternTable.compile handlersOfX).toOption.any (fun patterns =>
      (patterns.get? "lua").isSome &&
      (extract patterns 100 (fun t place => t.scopeAt (.folder []) mixedCalls place) mixedCalls none
        (Tokenizer.knowing luaMarkers.toGrammar)).1.occurrences =
          [⟨.listener, "x", ⟨mixedCalls.uri, ⟨0, 3⟩⟩⟩,
            ⟨.listener, "x", ⟨mixedCalls.uri, ⟨1, 9⟩⟩⟩]) = true := by decide +kernel
  have accepted : MarkerGrammar.parse "source.lua" "line_comment=--\nblock_comment=--[[ ]]\n" =
      .ok luaMarkers := by decide +kernel
  cases compiled : PatternTable.compile handlersOfX with
  | error e => simp [compiled, Except.toOption] at run
  | ok patterns =>
    simp only [compiled, Except.toOption, Option.any_some, Bool.and_eq_true,
      decide_eq_true_eq] at run
    obtain ⟨listed, found⟩ := run
    obtain ⟨p, known⟩ := Option.isSome_iff_exists.mp listed
    refine ⟨patterns, p, accepted, rfl, known, found, extraction_is_exact accepted known (by decide)
      ?_ (Tokenizer.knowing_reads _ _ rfl)⟩
    intro s tracked
    simp [Tokenizer.knowing, Tokenizer.new] at tracked

end Extraction

end EventXref
