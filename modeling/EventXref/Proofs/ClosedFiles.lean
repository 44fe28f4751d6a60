import EventXref.Proofs.FileTree
import EventXref.Proofs.Session

namespace EventXref

namespace Provider

variable {σ : Type} {p : Provider} {engine : Engine σ} {files files' : FileTree} {scope : String}
  {g : Grammar σ}

theorem source_shrinks (shrinks : files.Shrinks files') {text : String}
    (source : p.source files' scope = .ok text) : p.source files scope = .ok text := by
  unfold Provider.source at source ⊢
  cases origin : p.origin? scope with
  | none => simp [origin] at source
  | some kind =>
    cases kind with
    | inline text => simpa [origin] using source
    | builtin => simpa [origin] using source
    | file path =>
      cases read : files'.readText? (.ofString path) with
      | none => simp [origin, read] at source
      | some text =>
        have before := shrinks.readText? read
        simpa [origin, read, before] using source

theorem compiled_shrinks (shrinks : files.Shrinks files')
    (made : p.compiled engine files' scope = .ok g) : p.compiled engine files scope = .ok g := by
  unfold compiled at made ⊢
  cases source : p.source files' scope with
  | error e => simp [source] at made
  | ok text => simpa [source, source_shrinks shrinks source] using made

end Provider

namespace Registry

variable {σ : Type} {r r' r'' : Registry σ} {files files' files'' : FileTree} {language : String}

def answer? (r : Registry σ) (files : FileTree) (language : String) : Option (Grammar σ) :=
  (r.request files language).1.toOption

/-- What a position of a document shows when its grammar is asked for now. -/
def scopeAt (r : Registry σ) (files : FileTree) (d : Document) (p : Position) : Option ScopeInfo :=
  (r.answer? files d.language).bind fun g => g.scopeAt d p

/-- A later state, over files of which some may be gone since. What was loaded stays, and what has
been loaded was compiled from the files. -/
structure Later (files : FileTree) (r : Registry σ) (files' : FileTree) (r' : Registry σ) :
    Prop where
  shrinks : files.Shrinks files'
  provider : r'.provider = r.provider
  engine : r'.engine = r.engine
  kept : ∀ (scope : String) g, r.loaded[scope]? = some g → r'.loaded[scope]? = some g
  gained : ∀ (scope : String) g, r'.loaded[scope]? = some g →
    r.loaded[scope]? = some g ∨ r.provider.compiled r.engine files scope = .ok g

theorem later_of_loaded (shrinks : files.Shrinks files') (provider : r'.provider = r.provider)
    (engine : r'.engine = r.engine) (loaded : r'.loaded = r.loaded) : Later files r files' r' := by
  refine ⟨shrinks, provider, engine, ?_, ?_⟩
  · intro scope g stored
    rwa [loaded]
  · intro scope g stored
    rw [loaded] at stored
    exact .inl stored

theorem Later.refl (files : FileTree) (r : Registry σ) : Later files r files r :=
  later_of_loaded (.refl files) rfl rfl rfl

theorem Later.trans (first : Later files r files' r') (second : Later files' r' files'' r'') :
    Later files r files'' r'' := by
  refine ⟨first.shrinks.trans second.shrinks, second.provider.trans first.provider,
    second.engine.trans first.engine, ?_, ?_⟩
  · exact fun scope g stored => second.kept scope g (first.kept scope g stored)
  · intro scope g stored
    rcases second.gained scope g stored with before | made
    · exact first.gained scope g before
    · rw [first.provider, first.engine] at made
      exact .inr (Provider.compiled_shrinks first.shrinks made)

theorem fetch_fields (r : Registry σ) (scope : String) :
    (r.fetch scope).provider = r.provider ∧ (r.fetch scope).engine = r.engine ∧
      (r.fetch scope).loaded = r.loaded := by
  unfold fetch
  dsimp only
  split <;> split <;> exact ⟨rfl, rfl, rfl⟩

theorem load_cases (r : Registry σ) (files : FileTree) (scope : String) :
    (r.load files scope).1 = r.provider.compiled r.engine files scope ∧
      (r.load files scope).2.provider = r.provider ∧ (r.load files scope).2.engine = r.engine ∧
      (r.load files scope).2.loaded =
        match r.provider.compiled r.engine files scope with
        | .ok g => r.loaded.insert scope g
        | .error _ => r.loaded := by
  obtain ⟨provider, engine, loaded⟩ := fetch_fields r scope
  unfold load Provider.compiled
  simp only [provider]
  cases source : r.provider.source files scope with
  | error e => exact ⟨rfl, provider, engine, loaded⟩
  | ok text =>
    simp only [engine]
    cases made : r.engine.compile scope text with
    | error e => exact ⟨rfl, rfl, rfl, loaded⟩
    | ok g => exact ⟨rfl, rfl, rfl, by simp [loaded]⟩

theorem answer?_eq (r : Registry σ) (files : FileTree) (language : String) :
    r.answer? files language = (r.provider.scopeOf? language).bind fun scope =>
      r.loaded[scope]?.or (r.provider.compiled r.engine files scope).toOption := by
  unfold answer? request
  cases r.provider.scopeOf? language with
  | none => rfl
  | some scope =>
    cases stored : r.loaded[scope]? with
    | some g => simp [stored, Except.toOption]
    | none => simp [stored, (load_cases r files scope).1]

theorem answer?_congr
    (sources : ∀ scope, r.provider.source files' scope = r.provider.source files scope)
    (language : String) : r.answer? files' language = r.answer? files language := by
  simp only [answer?_eq, Provider.compiled, sources]

theorem request_later (r : Registry σ) (files : FileTree) (language : String) :
    Later files r files (r.request files language).2 := by
  unfold request
  cases r.provider.scopeOf? language with
  | none => exact .refl files r
  | some scope =>
    cases stored : r.loaded[scope]? with
    | some g =>
      simp only [stored]
      exact .refl files r
    | none =>
      simp only [stored]
      obtain ⟨-, provider, engine, loaded⟩ := load_cases r files scope
      cases made : r.provider.compiled r.engine files scope with
      | error e =>
        simp only [made] at loaded
        exact later_of_loaded (.refl files) provider engine loaded
      | ok g =>
        simp only [made] at loaded
        refine ⟨.refl files, provider, engine, ?_, ?_⟩
        · intro scope' g' there
          rw [loaded, Std.ExtTreeMap.getElem?_insert]
          split
          · rename_i same
            have here : scope = scope' := Std.LawfulEqCmp.eq_of_compare same
            rw [← here, stored] at there
            cases there
          · exact there
        · intro scope' g' there
          rw [loaded, Std.ExtTreeMap.getElem?_insert] at there
          split at there
          · rename_i same
            have here : scope = scope' := Std.LawfulEqCmp.eq_of_compare same
            subst here
            cases Option.some.inj there
            exact .inr made
          · exact .inl there

theorem Later.answer?_eq (later : Later files r files r') (language : String) :
    r'.answer? files language = r.answer? files language := by
  rw [Registry.answer?_eq, Registry.answer?_eq, later.provider, later.engine]
  cases r.provider.scopeOf? language with
  | none => rfl
  | some scope =>
    simp only [Option.bind_some]
    cases before : r.loaded[scope]? with
    | some g => rw [later.kept scope g before]
    | none =>
      cases after : r'.loaded[scope]? with
      | none => rfl
      | some g =>
        rcases later.gained scope g after with stored | made
        · rw [before] at stored
          cases stored
        · simp [made, Except.toOption]

theorem Later.answer?_none (later : Later files r files' r')
    (refused : r.answer? files language = none) : r'.answer? files' language = none := by
  rw [Registry.answer?_eq] at refused ⊢
  rw [later.provider, later.engine]
  cases known : r.provider.scopeOf? language with
  | none => rfl
  | some scope =>
    simp only [known, Option.bind_some, Option.or_eq_none_iff] at refused ⊢
    constructor
    · cases after : r'.loaded[scope]? with
      | none => rfl
      | some g =>
        rcases later.gained scope g after with stored | made
        · simp [stored] at refused
        · simp [made, Except.toOption] at refused
    · cases made : r.provider.compiled r.engine files' scope with
      | error e => rfl
      | ok g =>
        have before := Provider.compiled_shrinks later.shrinks made
        simp [before, Except.toOption] at refused

theorem request_loads {g : Grammar σ} (answer : r.answer? files language = some g) :
    ∃ scope, r.provider.scopeOf? language = some scope ∧
      (r.request files language).2.loaded[scope]? = some g := by
  rw [answer?_eq] at answer
  obtain ⟨scope, known, answer⟩ := Option.bind_eq_some_iff.mp answer
  refine ⟨scope, known, ?_⟩
  cases stored : r.loaded[scope]? with
  | some g' =>
    simp only [stored, Option.some_or] at answer
    simp [request, known, stored, answer]
  | none =>
    obtain ⟨-, -, -, loaded⟩ := load_cases r files scope
    cases made : r.provider.compiled r.engine files scope with
    | error e => simp [stored, made, Except.toOption] at answer
    | ok g' =>
      simp only [stored, made, Except.toOption, Option.none_or, Option.some.injEq] at answer
      simp [request, known, stored, loaded, made, answer]

theorem Later.answer?_requested (later : Later files (r.request files language).2 files' r') :
    r'.answer? files' language = r.answer? files language := by
  have first := request_later r files language
  cases answer : r.answer? files language with
  | none => exact later.answer?_none ((first.answer?_eq language).trans answer)
  | some g =>
    obtain ⟨scope, known, loaded⟩ := request_loads answer
    rw [Registry.answer?_eq, later.provider, first.provider, known, Option.bind_some,
      later.kept scope g loaded, Option.some_or]

theorem wait_later (r : Registry σ) (files : FileTree) : Later files r files r.wait :=
  later_of_loaded (.refl files) rfl rfl rfl

theorem watch_later (r : Registry σ) (files : FileTree) : Later files r files r.watch :=
  later_of_loaded (.refl files) rfl rfl rfl

end Registry

namespace Tokenizer

variable {σ : Type} {t₀ t t' : Tokenizer σ} {files : FileTree} {d : Document} {s : LineStates σ}

/-- A document is being read from `t₀` on: its states are right and of the grammar that was to be
had then, and the states of the others are as they were. -/
structure Reading (t₀ : Tokenizer σ) (files : FileTree) (d : Document) (t : Tokenizer σ) :
    Prop where
  later : t₀.registry.Later files files t.registry
  others : ∀ u, u ≠ d.uri → t.documents[u]? = t₀.documents[u]?
  own : ∀ s, t.documents[d.uri]? = some s →
    s.Sound d ∧ t₀.registry.answer? files d.language = some s.grammar

theorem reading_start (untracked : t.documents[d.uri]? = none) (files : FileTree) :
    Reading t files d t := by
  refine ⟨.refl files _, fun _ _ => rfl, ?_⟩
  intro s stored
  rw [untracked] at stored
  cases stored

theorem Reading.rebase (reading : Reading t₀ files d t) : Reading t files d t := by
  refine ⟨.refl files _, fun _ _ => rfl, ?_⟩
  intro s stored
  rw [reading.later.answer?_eq]
  exact reading.own s stored

theorem Reading.begins (reading : Reading t₀ files d t) (begins : t.Begins files d s) :
    s.Sound d ∧ t₀.registry.answer? files d.language = some s.grammar := by
  rcases begins with stored | ⟨-, g, answer, rfl⟩
  · exact reading.own s stored
  · refine ⟨LineStates.fresh_sound g d, ?_⟩
    rw [← reading.later.answer?_eq, Registry.answer?, answer]
    rfl

theorem Reading.answer?_none (reading : Reading t₀ files d t)
    (never : ∀ s, ¬ t.Begins files d s) : t₀.registry.answer? files d.language = none := by
  rw [← reading.later.answer?_eq, Registry.answer?]
  have untracked : t.documents[d.uri]? = none := by
    cases stored : t.documents[d.uri]? with
    | none => rfl
    | some s => exact absurd (.inl stored) (never s)
  cases answer : (t.registry.request files d.language).1 with
  | error e => rfl
  | ok g => exact absurd (.inr ⟨untracked, g, answer, rfl⟩) (never (LineStates.fresh g d))

theorem Reading.updates {f : LineStates σ → LineStates σ} (reading : Reading t₀ files d t)
    (updates : t.Updates files d f t') (later : t.registry.Later files files t'.registry)
    (grammar : ∀ s, (f s).grammar = s.grammar) (sound : ∀ s, s.Sound d → (f s).Sound d) :
    Reading t₀ files d t' := by
  refine ⟨reading.later.trans later, ?_, ?_⟩
  · intro u other
    rw [updates.others other, reading.others u other]
  · intro s' stored
    obtain ⟨s, begins, rfl⟩ := updates.origin stored
    obtain ⟨right, answer⟩ := reading.begins begins
    rw [grammar]
    exact ⟨sound s right, answer⟩

theorem entry_later (t : Tokenizer σ) (files : FileTree) (d : Document) :
    t.registry.Later files files (t.entry files d).2.registry := by
  unfold entry
  split
  · exact .refl files _
  · exact Registry.request_later _ files _

theorem yieldAfter_later (t : Tokenizer σ) (files : FileTree) (lines : Nat) :
    t.registry.Later files files (t.yieldAfter lines).registry := by
  unfold yieldAfter
  split
  · exact .refl files _
  · exact Registry.wait_later _ files

/-- A document that was read and is tracked no more has left no states behind. -/
theorem Reading.close (reading : Reading t₀ files d t) (untracked : t₀.documents[d.uri]? = none) :
    (t.close d.uri).documents = t₀.documents := by
  apply Std.ExtTreeMap.ext_getElem?
  intro u
  simp only [Tokenizer.close, Std.ExtTreeMap.getElem?_erase, Std.LawfulEqCmp.compare_eq_iff_eq]
  split
  · rename_i here
    rw [← here, untracked]
  · rename_i other
    exact reading.others u (Ne.symm other)

theorem Reading.watch (reading : Reading t₀ files d t) : Reading t₀ files d t.watch :=
  ⟨reading.later.trans (Registry.watch_later _ files), reading.others, reading.own⟩

variable [DecidableEq σ]

theorem scopeAt_later (t : Tokenizer σ) (files : FileTree) (d : Document) (p : Position) :
    t.registry.Later files files (t.scopeAt files d p).2.registry := by
  have entry := entry_later t files d
  unfold scopeAt
  split
  · rename_i here
    rwa [here] at entry
  · rename_i s t₁ here
    rw [here] at entry
    exact entry.trans (yieldAfter_later (t₁.store d.uri _ _) files _)

theorem Reading.scopeAt (reading : Reading t₀ files d t) (p : Position) :
    (t.scopeAt files d p).1 = t₀.registry.scopeAt files d p ∧
      Reading t₀ files d (t.scopeAt files d p).2 := by
  constructor
  · unfold Registry.scopeAt
    by_cases begun : ∃ s, t.Begins files d s
    · obtain ⟨s, begins⟩ := begun
      obtain ⟨sound, answer⟩ := reading.begins begins
      rw [scopeAt_of_sound begins sound, answer, Option.bind_some]
    · rw [scopeAt_of_none (not_exists.mp begun), reading.answer?_none (not_exists.mp begun),
        Option.bind_none]
  · refine reading.updates (scopeAt_updates t files d p) (scopeAt_later t files d p) ?_ ?_
    · exact fun s => s.tokensAt_sync_grammar d _
    · intro s sound
      rw [sound.sync_eq]
      exact (sound.tokensAt (d.clamp_line_lt p)).2.1

theorem openDocument_later (t : Tokenizer σ) (files : FileTree) (d : Document) :
    t.registry.Later files files (t.openDocument files d).2.registry := by
  have entry := entry_later t files d
  unfold openDocument
  split <;> simp_all [store]

theorem Reading.openDocument (reading : Reading t₀ files d t) :
    Reading t₀ files d (t.openDocument files d).2 :=
  reading.updates (openDocument_updates t files d) (openDocument_later t files d)
    (fun s => LineStates.sync_grammar s d) (fun s _ => (LineStates.reparseAll_sync s d).1)

/-- What is stored of a document when the work on it is given up at a pause. -/
def standing (d : Document) (line left : Nat) (s : LineStates σ) : LineStates σ :=
  { ((s.sync d).reparse d (LineStates.backfill (s.sync d).slots line)
      (LineStates.backfill (s.sync d).slots line + (left + 1) * linesPerTurn)).states with
    generation := (s.sync d).generation }

theorem standing_sound (line left : Nat) (sound : s.Sound d) :
    (standing d line left s).Sound d := by
  unfold standing
  rw [sound.sync_eq]
  obtain ⟨version, length, states⟩ := sound.reparse (LineStates.backfill s.slots line)
    (LineStates.backfill s.slots line + (left + 1) * linesPerTurn)
  exact ⟨version, length, states⟩

theorem Work.scopeAt_reading {w : Work σ} (reading : Reading t₀ files d w.tokenizer)
    (p : Position) : Reading t₀ files d (w.scopeAt files d p).2.tokenizer := by
  have entry := entry_later w.tokenizer files d
  unfold Work.scopeAt
  split
  · exact reading
  · rename_i failed
    have kept : w.tokenizer.Updates files d id (w.tokenizer.entry files d).2 := by
      apply updates_of_entry
      · intro s ok
        rw [failed] at ok
        cases ok
      · exact fun _ _ => rfl
    rw [failed] at entry kept
    exact reading.updates kept entry (fun _ => rfl) (fun _ sound => sound)
  · rename_i left s t₁ _ begun
    dsimp only
    split
    · have stands : w.tokenizer.Updates files d (standing d (d.clamp p).line left)
          (t₁.store d.uri (standing d (d.clamp p).line left s)
            ((s.sync d).reparse d (LineStates.backfill (s.sync d).slots (d.clamp p).line)
              (LineStates.backfill (s.sync d).slots (d.clamp p).line +
                (left + 1) * linesPerTurn)).visited) := by
        apply updates_of_entry
        · intro s' ok
          rw [begun] at ok ⊢
          cases ok
          rfl
        · intro e failed
          rw [begun] at failed
          cases failed
      rw [begun] at entry
      exact reading.updates stands entry (fun s => LineStates.sync_grammar s d)
        (fun s => standing_sound _ _)
    · exact (reading.scopeAt p).2

theorem scopeAt_requests (untracked : t.documents[d.uri]? = none) (files : FileTree)
    (p : Position) :
    (t.registry.request files d.language).2.Later files files (t.scopeAt files d p).2.registry := by
  have asked : (t.entry files d).2.registry = (t.registry.request files d.language).2 := by
    simp [entry, untracked]
  unfold scopeAt
  split
  · rename_i here
    rw [here] at asked
    rw [← asked]
    exact .refl files _
  · rename_i s t₁ here
    rw [here] at asked
    rw [← asked]
    exact yieldAfter_later (t₁.store d.uri _ _) files _

theorem scopeAt_settles (untracked : t.documents[d.uri]? = none) {p : Position}
    {files' : FileTree} {r' : Registry σ}
    (later : (t.scopeAt files d p).2.registry.Later files files' r') :
    r'.scopeAt files' d = t.registry.scopeAt files d := by
  have answer := ((scopeAt_requests untracked files p).trans later).answer?_requested
  funext p
  simp only [Registry.scopeAt, answer]

end Tokenizer

namespace Extraction

variable {σ : Type} [DecidableEq σ] {t : Tokenizer σ} {files files' : FileTree} {d : Document}

/-- What an extraction finds in a document that is not tracked, it would find later too. -/
theorem extract_settles (untracked : t.documents[d.uri]? = none) (patterns : PatternTable)
    (maxFileSize : Nat) {r' : Registry σ}
    (later : (extract patterns maxFileSize (fun t p => Tokenizer.scopeAt t files d p) d none
      t).2.registry.Later files files' r') :
    reference patterns maxFileSize (r'.scopeAt files' d) d none =
      reference patterns maxFileSize (t.registry.scopeAt files d) d none := by
  cases known : patterns.get? d.language with
  | none => simp [reference, extract, known]
  | some pattern =>
    by_cases large : Text.size d.text > maxFileSize
    · simp [reference, extract, known, large]
    cases found : candidates pattern d.text with
    | nil => simp [reference, extract, known, large, found, examine]
    | cons c cs =>
      -- The first candidate has its token asked for, and the rest goes on from there.
      have first := (Tokenizer.reading_start untracked files).scopeAt (d.positionOf c.function.1)
      have answers : ∀ now p, Tokenizer.Reading
          (t.scopeAt files d (d.positionOf c.function.1)).2 files d now → _ :=
        fun now p reading => reading.scopeAt p
      have rest := (examine_eq answers pattern d cs none first.2.rebase).2.later
      have later : (examine (fun t p => Tokenizer.scopeAt t files d p) pattern d
          (t.scopeAt files d (d.positionOf c.function.1)).2 none cs).2.registry.Later
            files files' r' := by
        simpa [extract, known, large, found, examine] using later
      rw [Tokenizer.scopeAt_settles untracked (rest.trans later)]

theorem examine_keeps {τ : Type} {scopeAt : τ → Position → Option ScopeInfo × τ} {I : τ → Prop}
    (keeps : ∀ t p, I t → I (scopeAt t p).2) (p : Pattern) (d : Document) (cs : List Candidate)
    (cancel : Option Cancellation) {t : τ} (here : I t) :
    I (examine scopeAt p d t cancel cs).2 := by
  induction cs generalizing t cancel with
  | nil => exact here
  | cons c cs ih =>
    simp only [examine]
    split
    · exact here
    · exact ih _ (keeps t _ here)

theorem extract_keeps {τ : Type} {scopeAt : τ → Position → Option ScopeInfo × τ} {I : τ → Prop}
    (keeps : ∀ t p, I t → I (scopeAt t p).2) (patterns : PatternTable) (maxFileSize : Nat)
    (d : Document) (cancel : Option Cancellation) {t : τ} (here : I t) :
    I (extract patterns maxFileSize scopeAt d cancel t).2 := by
  unfold extract
  split
  · exact here
  split
  · exact here
  · exact examine_keeps keeps _ d _ cancel here

theorem extract_reading {t₀ : Tokenizer σ} (reading : t₀.Reading files d t)
    (patterns : PatternTable) (maxFileSize : Nat) (cancel : Option Cancellation) :
    (extract patterns maxFileSize (fun t p => Tokenizer.scopeAt t files d p) d cancel t).1 =
        reference patterns maxFileSize (t₀.registry.scopeAt files d) d cancel ∧
      t₀.Reading files d
        (extract patterns maxFileSize (fun t p => Tokenizer.scopeAt t files d p) d cancel t).2 := by
  have answers : ∀ now p, t₀.Reading files d now →
      (now.scopeAt files d p).1 = t₀.registry.scopeAt files d p ∧
        t₀.Reading files d (now.scopeAt files d p).2 := fun _ p reading => reading.scopeAt p
  exact extract_eq answers patterns maxFileSize d cancel reading

theorem examine_version {τ : Type} (scopeAt : τ → Position → Option ScopeInfo × τ) (p : Pattern)
    (d : Document) (version : Int) (t : τ) (cancel : Option Cancellation) (cs : List Candidate) :
    examine scopeAt p { d with version } t cancel cs = examine scopeAt p d t cancel cs := by
  induction cs generalizing t cancel with
  | nil => rfl
  | cons c cs ih =>
    have place : ({ d with version } : Document).positionOf c.function.1 =
        d.positionOf c.function.1 := rfl
    simp only [examine, ih, place]
    rfl

theorem reference_version (patterns : PatternTable) (maxFileSize : Nat)
    (answer : Position → Option ScopeInfo) (d : Document) (version : Int)
    (cancel : Option Cancellation) :
    reference patterns maxFileSize answer { d with version } cancel =
      reference patterns maxFileSize answer d cancel := by
  simp only [reference, extract, examine_version]

end Extraction

namespace Server

variable {σ : Type} {s : Server σ} {files : FileTree} {path : Path} {d : Document}

/-- What is found in a document that is read with the grammars to be had now. -/
def shown (s : Server σ) (files : FileTree) (d : Document) : List Occurrence :=
  (Extraction.reference s.patterns s.config.maxFileSize (s.tokenizer.registry.scopeAt files d) d
    none).occurrences

theorem untracked_of_isTracked {u : Uri} (free : s.tokenizer.isTracked u = false) :
    s.tokenizer.documents[u]? = none := by
  have absent : s.tokenizer.documents.contains u = false := free
  rwa [Std.ExtTreeMap.contains_eq_isSome_getElem?, Option.isSome_eq_false_iff,
    Option.isNone_iff_eq_none] at absent

theorem not_skipped {language : String} (known : s.languageOf? path = some language)
    (listed : s.patterns.contains language = true) (kept : s.excludes.contains path = false) :
    s.shouldSkip path none = false ∧ s.shouldSkip path (some language) = false := by
  simp [shouldSkip, known, listed, kept]

/-- What is shown does not depend on the number of a version, nor on files that are no sources. -/
theorem shown_eq {opened : FileTree} (d : Document) (version : Int)
    (sources : ∀ scope, s.tokenizer.registry.provider.source opened scope =
      s.tokenizer.registry.provider.source files scope) :
    s.shown opened { d with version } = s.shown files d := by
  have answer : s.tokenizer.registry.scopeAt opened { d with version } =
      s.tokenizer.registry.scopeAt files d := by
    funext p
    simp only [Registry.scopeAt, Registry.answer?_congr sources]
    rfl
  rw [shown, shown, answer, Extraction.reference_version]

variable [DecidableEq σ]

/-- A file that is read as a closed document is found to hold what the grammars show, now and
later. -/
theorem extractFile_eq (read : s.fileToRead? files path = some d) :
    ∃ t, s.tokenizer.Reading files d t ∧
      s.extractFile files path =
        (some (d.uri, s.shown files d), s.keepClosed d.uri (s.shown files d) t) ∧
      ∀ files' r', t.registry.Later files files' r' →
        (Extraction.reference s.patterns s.config.maxFileSize (r'.scopeAt files' d) d
          none).occurrences = s.shown files d := by
  obtain ⟨-, -, -, free, -⟩ := fileToRead?_eq_some.mp read
  have untracked := untracked_of_isTracked free
  obtain ⟨found, reading⟩ := Extraction.extract_reading
    (Tokenizer.reading_start untracked files) s.patterns s.config.maxFileSize none
  refine ⟨_, reading, ?_, fun files' r' later => congrArg Extraction.occurrences
    (Extraction.extract_settles untracked s.patterns s.config.maxFileSize later)⟩
  simp only [extractFile, read, extract, found, shown]

theorem parse_cold (s : Server σ) (files : FileTree)
    (considered : s.shouldSkip d.path (some d.language) = false)
    (closed : s.cache.live? d.uri = none) (numbered : 0 ≤ d.version) :
    (s.parse files d none).1 = (s.extract files d none s.tokenizer.watch).1.occurrences ∧
      (s.parse files d none).2.index =
        s.index.replace d.uri (s.extract files d none s.tokenizer.watch).1.occurrences := by
  have complete : (s.extract files d none s.tokenizer.watch).1.isComplete = true :=
    Extraction.extract_complete _ _ d _
  unfold Server.parse
  rw [if_neg (by simp [considered])]
  rcases s.cache.getOrExtract_cases d.uri d.version (s.extract files d none) s.tokenizer.watch
    with ⟨known, -, hit⟩ | ⟨-, ⟨-, same⟩ | ⟨cut, -⟩⟩
  · rw [Cache.live?_of_hit hit numbered] at closed
    cases closed
  · rw [same]
    exact ⟨rfl, rfl⟩
  · rw [complete] at cut
    cases cut

theorem didOpen_cold (s : Server σ) (files : FileTree)
    (considered : s.shouldSkip d.path (some d.language) = false)
    (untracked : s.tokenizer.documents[d.uri]? = none) (closed : s.cache.live? d.uri = none)
    (numbered : 0 ≤ d.version) :
    (s.didOpen files d).1 = s.shown files d ∧
      (s.didOpen files d).2.index = s.index.replace d.uri (s.shown files d) := by
  have reading := (Tokenizer.reading_start untracked files).openDocument.watch
  have shown := congrArg Extraction.occurrences
    (Extraction.extract_reading reading s.patterns s.config.maxFileSize none).1
  obtain ⟨answer, index⟩ := parse_cold
    { s with tokenizer := (s.tokenizer.openDocument files d).2 } files considered closed numbered
  unfold Server.didOpen
  rw [if_neg (by simp [considered])]
  exact ⟨answer.trans shown, index.trans (congrArg (s.index.replace d.uri) shown)⟩

theorem didCreate_cold {u : Uri} (back : u.filePath? = some path)
    (read : s.fileToRead? files path = some d) :
    (s.didCreate files u).1 = s.shown files d ∧
      (s.didCreate files u).2.index = s.index.replace d.uri (s.shown files d) := by
  obtain ⟨t, -, result, -⟩ := extractFile_eq read
  simp only [Server.didCreate, back, result]
  exact ⟨trivial, rfl⟩

/-- A file that appears and a document with the file's text that is opened are the same to the
index, if its URI leads back to the file and nothing is known of it: both ways the same occurrences
are found and indexed. The files may differ in all but the sources of grammars. -/
theorem disk_and_buffer_agree {u : Uri} {language text : String} {version : Int}
    {opened : FileTree} (named : Uri.ofFilePath? path = some u) (back : u.filePath? = some path)
    (known : s.languageOf? path = some language) (listed : s.patterns.contains language = true)
    (kept : s.excludes.contains path = false) (free : s.tokenizer.isTracked u = false)
    (closed : s.cache.live? u = none) (there : files.readText? path = some text)
    (numbered : 0 ≤ version)
    (sources : ∀ scope, s.tokenizer.registry.provider.source opened scope =
      s.tokenizer.registry.provider.source files scope) :
    (s.didCreate files u).1 = (s.didOpen opened ⟨u, language, version, text.toList⟩).1 ∧
      (s.didCreate files u).2.index =
        (s.didOpen opened ⟨u, language, version, text.toList⟩).2.index := by
  obtain ⟨considered, considered'⟩ := not_skipped known listed kept
  have read : s.fileToRead? files path =
      some ⟨u, language, Cache.closedVersion, text.toList⟩ :=
    fileToRead?_eq_some.mpr ⟨considered, named, closed, free, known, rfl, text, there, rfl⟩
  have place : Document.path ⟨u, language, version, text.toList⟩ = path := by
    simp [Document.path, Uri.path, back]
  obtain ⟨created, index⟩ := didCreate_cold back read
  obtain ⟨found, index'⟩ := s.didOpen_cold opened (place.symm ▸ considered')
    (untracked_of_isTracked free) closed numbered
  have same : s.shown opened ⟨u, language, version, text.toList⟩ = s.shown files _ :=
    shown_eq ⟨u, language, Cache.closedVersion, text.toList⟩ version sources
  rw [created, index, found, index', same]
  exact ⟨rfl, rfl⟩

def callOnDisk : FileTree := .folder [("a.lua", .file "-- f()\nf()")]

theorem disk_and_buffer_agree_one_call : ∃ s : Server GrammarState, s.Reachable ∧
    Uri.ofFilePath? (.ofString "/a.lua") = some ⟨"file:///a.lua"⟩ ∧
    Uri.filePath? ⟨"file:///a.lua"⟩ = some (.ofString "/a.lua") ∧
    (s.didCreate callOnDisk ⟨"file:///a.lua"⟩).1 =
      [⟨.trigger, ")", ⟨⟨"file:///a.lua"⟩, ⟨1, 0⟩⟩⟩] ∧
    (s.didCreate callOnDisk ⟨"file:///a.lua"⟩).1 =
      (s.didOpen (.folder []) ⟨⟨"file:///a.lua"⟩, "lua", 7, "-- f()\nf()".toList⟩).1 ∧
    (s.didCreate callOnDisk ⟨"file:///a.lua"⟩).2.index =
      (s.didOpen (.folder []) ⟨⟨"file:///a.lua"⟩, "lua", 7, "-- f()\nf()".toList⟩).2.index := by
  have fits : (Server.new callsOfF luaInline markerEngine).toOption.any (fun s =>
      s.languageOf? (.ofString "/a.lua") = some "lua" && s.patterns.contains "lua" &&
      !s.excludes.contains (.ofString "/a.lua") &&
      (s.didCreate callOnDisk ⟨"file:///a.lua"⟩).1 =
        [⟨.trigger, ")", ⟨⟨"file:///a.lua"⟩, ⟨1, 0⟩⟩⟩]) = true := by decide +kernel
  cases built : Server.new callsOfF luaInline markerEngine with
  | error e => simp [built, Except.toOption] at fits
  | ok s =>
    simp only [built, Except.toOption, Option.any_some, Bool.and_eq_true, decide_eq_true_eq,
      Bool.not_eq_true'] at fits
    obtain ⟨⟨⟨known, listed⟩, kept⟩, found⟩ := fits
    have named : Uri.ofFilePath? (.ofString "/a.lua") = some ⟨"file:///a.lua"⟩ := by decide +kernel
    have back : Uri.filePath? ⟨"file:///a.lua"⟩ = some (.ofString "/a.lua") := by decide +kernel
    have there : callOnDisk.readText? (.ofString "/a.lua") = some "-- f()\nf()" := by decide +kernel
    have new : s.tokenizer = Tokenizer.new luaInline markerEngine ∧ s.cache = Cache.empty := by
      obtain ⟨patterns, excludes, -, rfl⟩ := new_eq_ok built
      exact ⟨rfl, rfl⟩
    have sources : ∀ scope, s.tokenizer.registry.provider.source (.folder []) scope =
        s.tokenizer.registry.provider.source callOnDisk scope := by
      rw [new.1]
      exact luaInline_inMemory.source_eq _ _
    have free : s.tokenizer.isTracked ⟨"file:///a.lua"⟩ = false := by
      simp [new.1, Tokenizer.new, Tokenizer.isTracked]
    have closed : s.cache.live? ⟨"file:///a.lua"⟩ = none := by
      simp [new.2, Cache.live?, Cache.get?, Cache.empty]
    exact ⟨s, .new _ _ _ s built, named, back, found,
      disk_and_buffer_agree named back known listed kept free closed there (by decide) sources⟩

end Server

end EventXref
