import EventXref.Proofs.AllMatches
import EventXref.Proofs.Exactness
import EventXref.Proofs.NameOrder

/-!
Calls that an extraction misses. The pattern of a language knows nothing of comments and strings:
what looks like a call there can take a quoted text that reaches over a call behind it, and matches
never overlap. A call is found if and only if no match covers its beginning, provided that its name
begins with a word character.
-/
namespace EventXref

namespace Text

theorem append_eq_of_size_eq {a b c d : List Char} (same : a ++ b = c ++ d)
    (sizes : size a = size c) : a = c ∧ b = d := by
  obtain ⟨more, rfl, rfl⟩ := exists_append_of_size_le same (Nat.le_of_eq sizes)
  have none : more = [] := by
    by_contra some
    have := size_pos some
    rw [size_append] at sizes
    omega
  simp [none]

end Text

theorem Program.lies_of_mem {p : Program} {text : List Char} {m : Match}
    (found : m ∈ p.findAll text) : m.Lies text 0 := (p.findAll_ordered text).lies m found

theorem Program.apart_of_mem {p : Program} {text : List Char} {m m' : Match}
    (found : m ∈ p.findAll text) (found' : m' ∈ p.findAll text) :
    m.start ≤ m.stop ∧ (m = m' ∨ m.stop ≤ m'.start ∨ m'.stop ≤ m.start) := by
  refine ⟨(lies_of_mem found).start_le, ?_⟩
  have pairwise := (p.findAll_ordered text).pairwise
  generalize p.findAll text = ms at *
  induction pairwise with
  | nil => cases found
  | cons first _ ih =>
    rcases List.mem_cons.mp found with rfl | later <;>
      rcases List.mem_cons.mp found' with rfl | later'
    · exact .inl rfl
    · exact .inr (.inl (first m' later'))
    · exact .inr (.inr (first m later))
    · exact ih later later'

/-- A name as marker grammars read identifiers. -/
def IsIdentifier (name : String) : Prop :=
  ∃ c rest, name.toList = c :: rest ∧ MarkerGrammar.startsIdentifier c = true ∧
    ∀ d ∈ rest, MarkerGrammar.continuesIdentifier d = true

theorem isPlain_of_identifier {name : String} (identifier : IsIdentifier name) :
    Regex.IsPlain name.toList := by
  obtain ⟨first, rest, spelled, starts, continues⟩ := identifier
  have letters : ∀ n, CharSet.Lies n Text.alphabeticRanges → ¬ CharSet.Lies n CharSet.stops :=
    fun n => CharSet.not_lies_of_isApart (by decide +kernel)
  have numbers : ∀ n, CharSet.Lies n Text.numericRanges → ¬ CharSet.Lies n CharSet.stops :=
    fun n => CharSet.not_lies_of_isApart (by decide +kernel)
  have underscore : ¬ CharSet.Lies ('_').toNat CharSet.stops := by
    unfold CharSet.Lies
    decide
  refine Regex.isPlain_of_clear (by simp [spelled]) ?_
  rw [spelled]
  have start : ∀ c, Text.isAlphabetic c = true ∨ c = '_' → ¬ CharSet.Lies c.toNat CharSet.stops := by
    rintro c (letter | rfl)
    · exact letters _ (CharSet.lies_of_hasCode (s := ⟨Text.alphabeticRanges⟩) letter)
    · exact underscore
  simp only [MarkerGrammar.startsIdentifier, MarkerGrammar.continuesIdentifier, Text.isAlphanumeric,
    Bool.or_eq_true, beq_iff_eq] at starts continues
  intro c member
  rcases List.mem_cons.mp member with rfl | later
  · exact start c starts
  rcases continues c later with (letter | number) | underscore
  · exact start c (.inl letter)
  · exact numbers _ (CharSet.lies_of_hasCode (s := ⟨Text.numericRanges⟩) number)
  · exact start c (.inr underscore)

namespace Call

variable {c c' call : Call} {names : List String} {before behind text : List Char} {m : Match}

theorem group?_function (marks : m.marks = c.marks m.start) :
    m.group? 1 = some (m.start, m.start + Text.size c.name) := by
  rw [Match.group?, marks]
  rfl

theorem group?_event (marks : m.marks = c.marks m.start) :
    m.group? 2 = some (m.start + c.eventStart, m.start + Text.size c.text) := by
  rw [Match.group?, marks]
  rfl

/-- A match is the call that is written behind a text. -/
structure IsMatch (c : Call) (names : List String) (before : List Char) (m : Match) : Prop where
  call : c.IsOf names before
  start : m.start = Text.size before
  stop : m.stop = Text.size (before ++ c.text)
  marks : m.marks = c.marks m.start

theorem exists_isMatch (listed : names ≠ []) (plain : ∀ n ∈ names, Regex.IsPlain n.toList)
    (found : m ∈ (Program.ofRegex (.callRegex names)).findAll text) :
    ∃ (before : List Char) (c : Call) (behind : List Char),
      text = before ++ (c.text ++ behind) ∧ c.IsMatch names before m := by
  obtain ⟨all, -⟩ := Program.findAll_reads (Regex.callRegex_definite listed plain) text
  obtain ⟨before, mid, behind, rfl, start, stop, on⟩ := all m found
  obtain ⟨c, call, rfl, marks⟩ :=
    (Regex.on_callRegex listed fun n member => (plain n member).1).mp on
  exact ⟨before, c, behind, rfl, call, start, stop, start ▸ marks⟩

/-- No match begins inside of a text in which no name begins. -/
theorem size_le_start (listed : names ≠ []) (plain : ∀ n ∈ names, Regex.IsPlain n.toList)
    {rest : List Char} (split : text = before ++ rest)
    (free : ∀ b ∈ before, ∀ n ∈ names, n.toList.head? ≠ some b)
    (found : m ∈ (Program.ofRegex (.callRegex names)).findAll text) : Text.size before ≤ m.start := by
  obtain ⟨before', c, behind, split', match'⟩ := exists_isMatch listed plain found
  by_contra earlier
  rw [match'.start, Nat.not_le] at earlier
  obtain ⟨more, rfl, same⟩ :=
    Text.exists_append_of_size_le (split'.symm.trans split) (Nat.le_of_lt earlier)
  obtain ⟨n, member, name⟩ := match'.call.listed
  cases more with
  | nil => simp at earlier
  | cons b more =>
    refine free b (by simp) n member ?_
    have heads := congrArg List.head? same
    simp only [Call.text, List.append_assoc] at heads
    rwa [List.head?_append_of_ne_nil _ (match'.call.name_ne_nil plain), ← name] at heads

/-- The first text that looks like a call is a match. -/
theorem IsOf.exists_isMatch (listed : names ≠ []) (plain : ∀ n ∈ names, Regex.IsPlain n.toList)
    (split : text = before ++ (c.text ++ behind)) (call : c.IsOf names before)
    (free : ∀ b ∈ before, ∀ n ∈ names, n.toList.head? ≠ some b) :
    ∃ m ∈ (Program.ofRegex (.callRegex names)).findAll text, c.IsMatch names before m := by
  obtain ⟨-, meets⟩ := Program.findAll_reads (Regex.callRegex_definite listed plain) text
  have on : (Regex.callRegex names).reading.On before c.text behind (c.marks (Text.size before)) :=
    (Regex.on_callRegex listed fun n member => (plain n member).1).mpr ⟨c, call, rfl, rfl⟩
  obtain ⟨m, found, le, -⟩ := meets before c.text behind _ split on
  have ge := size_le_start listed plain split free found
  obtain ⟨before', c', behind', split', match'⟩ := Call.exists_isMatch listed plain found
  obtain ⟨rfl, same⟩ := Text.append_eq_of_size_eq (split'.symm.trans split)
    (match'.start.symm.trans (Nat.le_antisymm le ge))
  obtain ⟨rfl, -⟩ := match'.call.unique call plain plain same
  exact ⟨m, found, match'⟩

/-- All that makes a call of it but the word boundary, behind something that is no word. -/
structure IsWritten (c : Call) (names : List String) (before : List Char) : Prop where
  listed : ∃ n ∈ names, n.toList = c.name
  apart : before.getLast?.any isWord = false
  gap : ∀ b ∈ c.gap, Text.isBlank b = true
  inner : ∀ b ∈ c.inner, Text.isBlank b = true
  quote : c.quote = '"' ∨ c.quote = '\''
  event : ∀ e ∈ c.event, e ≠ c.quote ∧ e ≠ '\r' ∧ e ≠ '\n'

theorem IsWritten.isOf_iff (written : c.IsWritten names before) :
    c.IsOf names before ↔ c.name.head?.any isWord = true := by
  constructor
  · intro call
    have boundary := call.boundary
    rw [written.apart] at boundary
    exact Bool.of_not_eq_false fun none => boundary none.symm
  · intro word
    refine ⟨written.listed, ?_, written.gap, written.inner, written.quote, written.event⟩
    rw [written.apart, word]
    simp

variable (listed : names ≠ []) (plain : ∀ n ∈ names, Regex.IsPlain n.toList)
  (split : text = before ++ (call.text ++ behind)) (written : call.IsWritten names before)

include listed plain split written

/-- A match that starts where a call is written is this call. -/
theorem IsWritten.isMatch (found : m ∈ (Program.ofRegex (.callRegex names)).findAll text)
    (start : m.start = Text.size before) : call.IsMatch names before m := by
  obtain ⟨before', c, behind', split', match'⟩ := exists_isMatch listed plain found
  obtain ⟨rfl, same⟩ := Text.append_eq_of_size_eq (split'.symm.trans split)
    (match'.start.symm.trans start)
  have name : call.name ≠ [] := by
    obtain ⟨n, member, eq⟩ := written.listed
    exact eq ▸ (plain n member).1
  -- both names begin with the next character
  have heads : c.name.head? = call.name.head? := by
    have first := congrArg List.head? same
    simp only [Call.text, List.append_assoc] at first
    rwa [List.head?_append_of_ne_nil _ (match'.call.name_ne_nil plain),
      List.head?_append_of_ne_nil _ name] at first
  have word : call.name.head?.any isWord = true := by
    have boundary := match'.call.boundary
    rw [written.apart, heads] at boundary
    exact Bool.of_not_eq_false fun none => boundary none.symm
  obtain ⟨rfl, -⟩ := match'.call.unique (written.isOf_iff.mpr word) plain plain same
  exact match'

/-- A written call is a match unless another match covers its beginning. -/
theorem IsWritten.exists_isMatch_iff :
    (∃ m ∈ (Program.ofRegex (.callRegex names)).findAll text, call.IsMatch names before m) ↔
      call.name.head?.any isWord = true ∧
        ¬ ∃ m ∈ (Program.ofRegex (.callRegex names)).findAll text,
          m.start < Text.size before ∧ Text.size before < m.stop := by
  constructor
  · rintro ⟨m, found, match'⟩
    refine ⟨written.isOf_iff.mp match'.call, ?_⟩
    rintro ⟨m', found', earlier, beyond⟩
    have start := match'.start
    obtain ⟨ends, rfl | behind' | before'⟩ := Program.apart_of_mem found found' <;> omega
  · rintro ⟨word, free⟩
    obtain ⟨-, meets⟩ := Program.findAll_reads (Regex.callRegex_definite listed plain) text
    have on : (Regex.callRegex names).reading.On before call.text behind
        (call.marks (Text.size before)) :=
      (Regex.on_callRegex listed fun n member => (plain n member).1).mpr
        ⟨call, written.isOf_iff.mpr word, rfl, rfl⟩
    obtain ⟨m, found, le, here | inside⟩ := meets before call.text behind _ split on
    · exact ⟨m, found, written.isMatch listed plain split found here⟩
    · refine ⟨m, found, written.isMatch listed plain split found ?_⟩
      by_contra moved
      exact free ⟨m, found, by omega, inside⟩

omit listed plain split written

/-- The call stands at a place of a document: there a token is called that is its name and listed
and does not stand behind a word, and the rest of the call follows. The blanks in it may go on to
other lines, its quoted text ends on the line where it begins. -/
structure StandsAt (call : Call) (g : MarkerGrammar) (d : Document) (names : List String)
    (place : Position) : Prop where
  token : ∃ token ∈ (g.toGrammar.tokens d.lines).getD place.line [],
    token.innermost? = some "entity.name.function.call" ∧ token.start = place.column ∧
      token.stop = place.column + Text.size call.name
  listed : String.ofList call.name ∈ names
  text : ∃ before behind, d.text = before ++ (call.text ++ behind) ∧
    d.byteOf? place = some (Text.size before) ∧
    ∀ c ∈ before.getLast?, Text.wordChars.contains c = false
  gap : ∀ b ∈ call.gap, Text.isBlank b = true
  inner : ∀ b ∈ call.inner, Text.isBlank b = true
  quote : call.quote = '"' ∨ call.quote = '\''
  event : ∀ e ∈ call.event, e ≠ call.quote ∧ Text.isBreak e = false

variable {g : MarkerGrammar} {d : Document} {place : Position}

theorem isWord_eq (b : Char) : isWord b = Text.wordChars.contains b := by
  rw [isWord, Regex.isWordChar_eq]

/-- A call that stands in a document is written in its text. -/
theorem StandsAt.exists_isWritten (stands : call.StandsAt g d names place) (closes : g.Closes) :
    ∃ before behind, d.text = before ++ (call.text ++ behind) ∧
      d.byteOf? place = some (Text.size before) ∧
      d.byteOf? ⟨place.line, place.column + Text.size call.name⟩ =
        some (Text.size before + Text.size call.name) ∧
      call.IsWritten names before := by
  obtain ⟨token, member, -, start, stop⟩ := stands.token
  obtain ⟨before, behind, text, first, apart⟩ := stands.text
  have last : d.byteOf? ⟨place.line, place.column + Text.size call.name⟩ =
      some (Text.size before + Text.size call.name) := by
    have inside := MarkerGrammar.lt_lineCount_of_mem member
    obtain ⟨pre, ending, post, splits⟩ := Document.exists_splits_of_lt inside
    obtain ⟨kind, front, name, rest, token'⟩ :=
      (MarkerGrammar.tokens_cover closes inside).stands member
    have size : Text.size name = Text.size call.name := by
      have := token'.start_eq
      have := token'.stop_eq
      omega
    have here := token'.byteOf?_start splits
    rw [start, first] at here
    rw [← stop, token'.byteOf?_stop splits, size, ← Option.some.inj here]
  refine ⟨before, behind, text, first, last, ⟨_, stands.listed, String.toList_ofList⟩, ?_,
    stands.gap, stands.inner, stands.quote, fun e member => ⟨(stands.event e member).1, ?_, ?_⟩⟩
  · refine (Option.any_eq_false _ _).mpr fun b here => ?_
    exact (isWord_eq b).trans (apart b here)
  · rintro rfl
    exact absurd (stands.event _ member).2 (by decide)
  · rintro rfl
    exact absurd (stands.event _ member).2 (by decide)

theorem StandsAt.isCall (stands : call.StandsAt g d names place) {first last : Nat}
    (start : d.byteOf? place = some first)
    (stop : d.byteOf? ⟨place.line, place.column + Text.size call.name⟩ = some last) :
    g.IsCall d place (first, last) := by
  obtain ⟨token, member, scope, begins, ends⟩ := stands.token
  exact ⟨token, member, scope, begins, start, ends ▸ stop⟩

end Call

theorem Pattern.exists_counts {e : LanguageEvents} {function : String}
    (listed : function ∈ e.names) : ∃ kind, (ofNames e).Counts function kind := by
  by_cases listens : function ∈ e.listeners
  · exact ⟨.listener, listens⟩
  · exact ⟨.trigger, (List.mem_append.mp listed).resolve_right listens, listens⟩

namespace Extraction

variable {g : MarkerGrammar} {d : Document} {e : LanguageEvents} {place : Position} {call : Call}
  {before behind : List Char} {m : Match} {o : Occurrence}

theorem isSite_of_isMatch (stands : call.StandsAt g d e.names place)
    (split : d.text = before ++ (call.text ++ behind))
    (start : d.byteOf? place = some (Text.size before))
    (stop : d.byteOf? ⟨place.line, place.column + Text.size call.name⟩ =
      some (Text.size before + Text.size call.name))
    (match' : call.IsMatch e.names before m) {kind : EventKind}
    (counts : (Pattern.ofNames e).Counts (String.ofList call.name) kind) :
    ∃ function event, IsSite g (Pattern.ofNames e) d m function event
      ⟨kind, String.ofList call.event, ⟨d.uri, place⟩⟩ := by
  have function := Call.group?_function match'.marks
  have event := Call.group?_event match'.marks
  refine ⟨_, _, function, event, ?_, rfl, ?_, ?_⟩
  · rw [match'.start]
    exact stands.isCall start stop
  · have name : Text.slice m.start (m.start + Text.size call.name) d.text = call.name := by
      rw [match'.start, split, Call.text, List.append_assoc]
      exact Text.slice_size _ _ _
    rwa [name]
  · let opening := before ++ (call.name ++ (call.gap ++ '(' :: call.inner))
    let quoted := call.quote :: (call.event ++ [call.quote])
    have whole : d.text = opening ++ (quoted ++ behind) := by
      simp [split, Call.text, opening, quoted]
    have first : m.start + call.eventStart = Text.size opening := by
      have paren : '('.utf8Size = 1 := rfl
      simp only [opening, match'.start, Call.eventStart, Text.size_append, Text.size_cons, paren]
      omega
    have last : m.start + Text.size call.text = Text.size opening + Text.size quoted := by
      simp only [opening, quoted, match'.start, Call.text, Text.size_append, Text.size_cons]
      omega
    dsimp only
    rw [first, last, whole, Text.slice_size, String.toList_ofList]
    refine .inl ⟨call.quote, ?_, rfl⟩
    rcases stands.quote with eq | eq <;> rw [eq] <;> decide

/-- An occurrence at a written call comes from the match of the call. -/
theorem isMatch_of_isSite (plain : e.IsPlain) (listed : e.names ≠ [])
    (split : d.text = before ++ (call.text ++ behind)) (written : call.IsWritten e.names before)
    (start : d.byteOf? place = some (Text.size before)) (at_ : o.location.position = place)
    (found : m ∈ (Pattern.ofNames e).program.findAll d.text) {function event : Nat × Nat}
    (site : IsSite g (Pattern.ofNames e) d m function event o) : call.IsMatch e.names before m := by
  obtain ⟨before', c, behind', -, match'⟩ := Call.exists_isMatch listed plain found
  have group := Call.group?_function match'.marks
  have same : function = (m.start, m.start + Text.size c.name) :=
    Option.some.inj (site.function_eq.symm.trans group)
  obtain ⟨token, -, -, -, first, -⟩ := site.call
  rw [at_, start, same] at first
  exact written.isMatch listed plain split found (Option.some.inj first).symm

variable {patterns : PatternTable} {maxFileSize : Nat} {files : FileTree}
  {t : Tokenizer GrammarState} {c : Config}

theorem extract_occurrences {p : Pattern} (known : patterns.get? d.language = some p)
    (small : Text.size d.text ≤ maxFileSize)
    (sound : ∀ s, t.documents[d.uri]? = some s → s.Sound d)
    (reads : t.Reads files d g.toGrammar) :
    (extract patterns maxFileSize (fun t place => t.scopeAt files d place) d none t).1.occurrences =
      (p.program.findAll d.text).filterMap (site (g.toGrammar.scopeAt d) p d) := by
  rw [← reference_occurrences known small]
  exact congrArg occurrences (reads.extract_eq sound patterns maxFileSize)

/-- A call is found, with its name and kind, if and only if its name begins with a word character and
no match of the pattern reaches over its beginning. Every match reads like a call, so nothing but a
look-alike in front of a call can hide it. -/
theorem call_is_found_unless_covered {scope source : String}
    (accepted : MarkerGrammar.parse scope source = .ok g) (usual : c.template = Template.default)
    (identifiers : ∀ e ∈ c.events, ∀ n ∈ e.names, IsIdentifier n)
    (compiled : PatternTable.compile c = .ok patterns) (entry : e ∈ c.events)
    (language : e.language = d.language) (small : Text.size d.text ≤ maxFileSize)
    (sound : ∀ s, t.documents[d.uri]? = some s → s.Sound d)
    (reads : t.Reads files d g.toGrammar) (stands : call.StandsAt g d e.names place) {offset : Nat}
    (start : d.byteOf? place = some offset) :
    let found := (extract patterns maxFileSize (fun t place => t.scopeAt files d place) d none t).1
    let matches' := (Pattern.ofNames e).program.findAll d.text
    patterns.get? d.language = some (Pattern.ofNames e) ∧
    (∀ m ∈ matches', ∃ (before : List Char) (c : Call) (behind : List Char),
      d.text = before ++ (c.text ++ behind) ∧ c.IsMatch e.names before m) ∧
    ((∃ o ∈ found.occurrences, o.location = ⟨d.uri, place⟩ ∧ o.name.toList = call.event ∧
        (Pattern.ofNames e).Counts (String.ofList call.name) o.kind) ↔
      call.name.head?.any Text.wordChars.contains = true ∧
        ¬ ∃ m ∈ matches', m.start < offset ∧ offset < m.stop) := by
  intro found matches'
  have closes := MarkerGrammar.closes_of_parse accepted
  have plain : ∀ e ∈ c.events, e.IsPlain :=
    fun e member n named => isPlain_of_identifier (identifiers e member n named)
  rw [PatternTable.compile_eq usual] at compiled
  obtain ⟨compiles, known⟩ := PatternTable.compileAll_get? plain compiled entry
  rw [language] at known
  have result := extract_occurrences known small sound reads
  obtain ⟨before, behind, split, first, last, written⟩ := stands.exists_isWritten closes
  obtain rfl : offset = Text.size before := Option.some.inj (start.symm.trans first)
  refine ⟨known, fun m member => Call.exists_isMatch compiles.listed (plain e entry) member, ?_⟩
  have matched := written.exists_isMatch_iff compiles.listed (plain e entry) split
  rw [funext Call.isWord_eq] at matched
  refine Iff.trans ?_ matched
  constructor
  · rintro ⟨o, member, location, -, -⟩
    rw [result] at member
    obtain ⟨m, found, made⟩ := List.mem_filterMap.mp member
    obtain ⟨function, event, site⟩ := (site_iff closes (Program.lies_of_mem found)).mp made
    exact ⟨m, found, isMatch_of_isSite (plain e entry) compiles.listed split written first
      (by rw [location]) found site⟩
  · rintro ⟨m, found, match'⟩
    obtain ⟨kind, counts⟩ := Pattern.exists_counts stands.listed
    have site := isSite_of_isMatch stands split first last match' counts
    refine ⟨⟨kind, String.ofList call.event, ⟨d.uri, place⟩⟩, ?_, rfl, String.toList_ofList, counts⟩
    rw [result]
    exact List.mem_filterMap.mpr ⟨m, found, (site_iff closes (Program.lies_of_mem found)).mpr site⟩

def underscoreOnly : LanguageEvents := ⟨"lua", [underscores 1], []⟩

theorem underscoreOnly_words : ∀ n ∈ underscoreOnly.names, IsWord n := by
  simp [underscoreOnly, LanguageEvents.names, isWord_underscores 0]

theorem underscoreOnly_isPlain : underscoreOnly.IsPlain :=
  LanguageEvents.isPlain_of_words underscoreOnly_words

theorem underscoreOnly_apart {before : List Char} (free : '_' ∉ before) :
    ∀ b ∈ before, ∀ n ∈ underscoreOnly.names, n.toList.head? ≠ some b := by
  intro b member n listed head
  obtain rfl : n = underscores 1 := by simpa [underscoreOnly, LanguageEvents.names] using listed
  rw [underscores, String.toList_ofList] at head
  cases head
  exact free member

theorem exists_compile_underscore :
    ∃ patterns, PatternTable.compile (withEvents [underscoreOnly]) = .ok patterns ∧
      patterns.get? "lua" = some (Pattern.ofNames underscoreOnly) := by
  have plain : ∀ e ∈ [underscoreOnly], e.IsPlain :=
    List.forall_mem_singleton.mpr underscoreOnly_isPlain
  have compiles : (withEvents [underscoreOnly]).Compiles :=
    ⟨by decide, List.forall_mem_singleton.mpr
      (LanguageEvents.compiles_of_size_le underscoreOnly_words (by decide) (by decide))⟩
  obtain ⟨patterns, compiled⟩ := (PatternTable.compile_ok_iff rfl plain).mpr compiles
  refine ⟨patterns, compiled, ?_⟩
  rw [PatternTable.compile_eq rfl] at compiled
  exact (PatternTable.compileAll_get? plain compiled (List.mem_singleton_self _)).2

theorem luaMarkers_accepted :
    MarkerGrammar.parse "source.lua" "line_comment=--\nblock_comment=--[[ ]]\n" = .ok luaMarkers := by
  decide +kernel

def callOfA (inner : List Char) : Call := ⟨['_'], [], inner, '\'', ['a']⟩

/-- A call behind a letter of two bytes and a blank, with its event on the next line. -/
def accentedText : Document := ⟨⟨"file:///a.lua"⟩, "lua", 1, "é _(\n'a')".toList⟩

theorem callOfA_standsAt_accentedText :
    (callOfA ['\n']).StandsAt luaMarkers accentedText underscoreOnly.names ⟨0, 3⟩ := by
  refine ⟨by decide +kernel, by decide,
    ⟨['é', ' '], [')'], by decide +kernel, by decide +kernel, ?_⟩, by simp [callOfA],
    List.forall_mem_singleton.mpr (by decide), .inr rfl, List.forall_mem_singleton.mpr (by decide)⟩
  rintro c ⟨⟩
  exact Text.not_wordChar_of_stop ⟨(0x20, 0x20), by decide⟩

theorem call_is_found_unless_covered_accented :
    ∃ patterns, PatternTable.compile (withEvents [underscoreOnly]) = .ok patterns ∧
      ∃ o ∈ (extract patterns 100 (fun t place => t.scopeAt (.folder []) accentedText place)
        accentedText none (Tokenizer.knowing luaMarkers.toGrammar)).1.occurrences,
        o.location = ⟨accentedText.uri, ⟨0, 3⟩⟩ ∧ o.name.toList = ['a'] ∧ o.kind = .trigger := by
  obtain ⟨patterns, compiled, -⟩ := exists_compile_underscore
  have identifiers : ∀ e ∈ [underscoreOnly], ∀ n ∈ e.names, IsIdentifier n := by
    simp only [List.forall_mem_singleton, underscoreOnly, LanguageEvents.names, List.append_nil]
    exact ⟨'_', [], String.toList_ofList, by decide, by simp⟩
  have untracked : ∀ s, (Tokenizer.knowing luaMarkers.toGrammar).documents[accentedText.uri]? =
      some s → s.Sound accentedText := by
    intro s tracked
    simp [Tokenizer.knowing, Tokenizer.new] at tracked
  obtain ⟨-, -, found⟩ := call_is_found_unless_covered luaMarkers_accepted rfl identifiers compiled
    (List.mem_singleton_self _) rfl (show Text.size accentedText.text ≤ 100 by decide) untracked
    (Tokenizer.knowing_reads _ _ rfl) callOfA_standsAt_accentedText
    (show accentedText.byteOf? ⟨0, 3⟩ = some 3 by decide +kernel)
  have uncovered : ¬ ∃ m ∈ (Pattern.ofNames underscoreOnly).program.findAll accentedText.text,
      m.start < 3 ∧ 3 < m.stop := by
    rintro ⟨m, member, earlier, -⟩
    have split : accentedText.text = ['é', ' '] ++ "_(\n'a')".toList := by decide +kernel
    have late := Call.size_le_start (by decide) underscoreOnly_isPlain split
      (underscoreOnly_apart (by decide)) member
    exact absurd earlier (Nat.not_lt.mpr late)
  have word : (callOfA ['\n']).name.head?.any Text.wordChars.contains = true := by
    rw [show (callOfA ['\n']).name.head? = some '_' from rfl, Option.any_some]
    exact Text.wordChars_underscore
  obtain ⟨o, member, location, name, kind⟩ := found.mpr ⟨word, uncovered⟩
  refine ⟨patterns, compiled, o, member, location, name, ?_⟩
  cases o with
  | mk kind' _ _ =>
    cases kind' with
    | trigger => rfl
    | listener => cases kind

/-- In a comment there is what looks like a call, and its quoted text ends behind the call that
follows the comment. -/
def coveredText : Document := ⟨⟨"file:///a.lua"⟩, "lua", 1, "--[[_(\"]]_('a')\"".toList⟩

theorem callOfA_standsAt_coveredText :
    (callOfA []).StandsAt luaMarkers coveredText underscoreOnly.names ⟨0, 9⟩ := by
  refine ⟨by decide +kernel, by decide, ⟨['-', '-', '[', '[', '_', '(', '"', ']', ']'], [')', '"'],
    by decide +kernel, by decide +kernel, ?_⟩, by simp [callOfA], by simp [callOfA], .inr rfl,
    List.forall_mem_singleton.mpr (by decide)⟩
  rintro c ⟨⟩
  exact Text.not_wordChar_of_stop ⟨(0x5B, 0x5E), by decide⟩

theorem covered_call_is_missed :
    ∃ patterns, PatternTable.compile (withEvents [underscoreOnly]) = .ok patterns ∧
      (callOfA []).StandsAt luaMarkers coveredText underscoreOnly.names ⟨0, 9⟩ ∧
      (∃ token ∈ (luaMarkers.toGrammar.tokens coveredText.lines).getD 0 [],
        token = ⟨11, 14, ["source.lua", "string.quoted"]⟩) ∧
      ¬ ∃ o ∈ (extract patterns 100 (fun t place => t.scopeAt (.folder []) coveredText place)
        coveredText none (Tokenizer.knowing luaMarkers.toGrammar)).1.occurrences,
        o.location = ⟨coveredText.uri, ⟨0, 9⟩⟩ := by
  obtain ⟨patterns, compiled, known⟩ := exists_compile_underscore
  have stands := callOfA_standsAt_coveredText
  refine ⟨patterns, compiled, stands, by decide +kernel, ?_⟩
  rintro ⟨o, member, location⟩
  have untracked : ∀ s, (Tokenizer.knowing luaMarkers.toGrammar).documents[coveredText.uri]? =
      some s → s.Sound coveredText := by
    intro s tracked
    simp [Tokenizer.knowing, Tokenizer.new] at tracked
  have listed : underscoreOnly.names ≠ [] := by decide
  -- an occurrence would come from a match of the call, so that no other match covers it
  rw [extract_occurrences known (by decide) untracked (Tokenizer.knowing_reads _ _ rfl)] at member
  obtain ⟨m, found, made⟩ := List.mem_filterMap.mp member
  have closes := MarkerGrammar.closes_of_parse luaMarkers_accepted
  obtain ⟨function, event, site⟩ := (site_iff closes (Program.lies_of_mem found)).mp made
  obtain ⟨before, behind, split, first, -, written⟩ := stands.exists_isWritten closes
  have match' := isMatch_of_isSite underscoreOnly_isPlain listed split written first
    (by rw [location]) found site
  have uncovered := ((written.exists_isMatch_iff listed underscoreOnly_isPlain split).mp
    ⟨m, found, match'⟩).2
  -- yet the look-alike in the comment is a match that covers it
  let before' : List Char := ['-', '-', '[', '[']
  let lookAlike : Call := ⟨['_'], [], [], '"', [']', ']', '_', '(', '\'', 'a', '\'', ')']⟩
  have call : lookAlike.IsOf underscoreOnly.names before' := by
    refine ⟨⟨underscores 1, by decide, String.toList_ofList⟩, ?_, by simp [lookAlike],
      by simp [lookAlike], .inl rfl, by simp [lookAlike]⟩
    rw [show before'.getLast? = some '[' from rfl, show lookAlike.name.head? = some '_' from rfl,
      Option.any_some, Option.any_some, Call.isWord_eq, Call.isWord_eq, Text.wordChars_underscore,
      Text.not_wordChar_of_stop ⟨(0x5B, 0x5E), by decide⟩]
    exact Bool.false_ne_true
  obtain ⟨cover, coverFound, coverMatch⟩ := call.exists_isMatch listed underscoreOnly_isPlain
    (show coveredText.text = before' ++ (lookAlike.text ++ []) by decide +kernel)
    (underscoreOnly_apart (by decide))
  have offset : Text.size before = 9 := by
    have place : coveredText.byteOf? ⟨0, 9⟩ = some 9 := by decide +kernel
    exact Option.some.inj (first.symm.trans place)
  refine uncovered ⟨cover, coverFound, ?_, ?_⟩
  · rw [coverMatch.start, offset]
    decide
  · rw [coverMatch.stop, offset]
    decide

end Extraction

end EventXref
