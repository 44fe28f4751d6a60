import Mathlib.Data.List.ReduceOption
import EventXref.Proofs.LateResults

/-!
Extractions that are stopped on request. The request is looked for in front of each candidate and
nowhere else, so an extraction that is stopped has found what becomes of the candidates before that
look, and one that is asked to stop behind its last look is whole. Nothing of an extraction that was
stopped goes into the cache or the index.
-/
namespace EventXref

namespace Extraction

variable {τ : Type} {scopeAt : τ → Position → Option ScopeInfo × τ} {patterns : PatternTable}
  {maxFileSize : Nat} {d : Document} {t : τ}

/-- What becomes of each candidate when nothing stops the work. -/
def outcomes (scopeAt : τ → Position → Option ScopeInfo × τ) (p : Pattern) (d : Document) :
    τ → List Candidate → List (Option Occurrence)
  | _, [] => []
  | t, c :: cs =>
    let (info, t) := scopeAt t (d.positionOf c.function.1)
    confirm p d c info :: outcomes scopeAt p d t cs

def candidatesOf (patterns : PatternTable) (d : Document) : List Candidate :=
  match patterns.get? d.language with
  | none => []
  | some p => candidates p d.text

def outcomesOf (scopeAt : τ → Position → Option ScopeInfo × τ) (patterns : PatternTable)
    (d : Document) (t : τ) : List (Option Occurrence) :=
  match patterns.get? d.language with
  | none => []
  | some p => outcomes scopeAt p d t (candidates p d.text)

theorem length_outcomes (p : Pattern) (d : Document) (t : τ) (cs : List Candidate) :
    (outcomes scopeAt p d t cs).length = cs.length := by
  induction cs generalizing t with
  | nil => rfl
  | cons c cs ih => simp [outcomes, ih]

theorem length_outcomesOf (patterns : PatternTable) (d : Document) (t : τ) :
    (outcomesOf scopeAt patterns d t).length = (candidatesOf patterns d).length := by
  unfold outcomesOf candidatesOf
  cases patterns.get? d.language with
  | none => rfl
  | some p => exact length_outcomes p d t _

def whole (each : List (Option Occurrence)) : Extraction := ⟨each.reduceOption, true, each.length⟩

/-- The work on candidates when the look in front of the one with the number `n` finds a request. -/
def stopped (n : Nat) (each : List (Option Occurrence)) : Extraction :=
  ⟨(each.take n).reduceOption, decide (each.length ≤ n), min n each.length⟩

theorem reduceOption_cons (o : Option Occurrence) (each : List (Option Occurrence)) :
    (o :: each).reduceOption = o.toList ++ each.reduceOption := by
  cases o with
  | none => exact List.reduceOption_cons_of_none each
  | some o => exact List.reduceOption_cons_of_some o each

theorem examine_whole {cancel : Option Cancellation} (quiet : cancel = none ∨ cancel = some .never)
    (p : Pattern) (d : Document) (t : τ) (cs : List Candidate) :
    (examine scopeAt p d t cancel cs).1 = whole (outcomes scopeAt p d t cs) := by
  induction cs generalizing t with
  | nil => rfl
  | cons c cs ih =>
    have never : cancel.any Cancellation.isRequested = false := by
      rcases quiet with rfl | rfl <;> rfl
    have next : cancel.map Cancellation.next = cancel := by
      rcases quiet with rfl | rfl <;> rfl
    simp only [examine, never, Bool.false_eq_true, if_false, next, ih, outcomes, whole,
      reduceOption_cons, List.length_cons]

theorem examine_stopped (n : Nat) (p : Pattern) (d : Document) (t : τ) (cs : List Candidate) :
    (examine scopeAt p d t (some ⟨some n⟩) cs).1 = stopped n (outcomes scopeAt p d t cs) := by
  induction cs generalizing t n with
  | nil => simp [examine, outcomes, nothing, stopped]
  | cons c cs ih =>
    cases n with
    | zero => simp [examine, outcomes, stopped, Cancellation.isRequested]
    | succ n =>
      have later : (some (⟨some (n + 1)⟩ : Cancellation)).any Cancellation.isRequested = false :=
        rfl
      have next : (some (⟨some (n + 1)⟩ : Cancellation)).map Cancellation.next =
          some ⟨some n⟩ := rfl
      simp only [examine, later, Bool.false_eq_true, if_false, next, ih, outcomes, stopped,
        List.take_succ_cons, reduceOption_cons, List.length_cons, Nat.add_le_add_iff_right,
        Nat.add_min_add_right]

theorem extract_never : (extract patterns maxFileSize scopeAt d (some .never) t).1 =
    whole (outcomesOf scopeAt patterns d t) := by
  simp only [extract, outcomesOf, Option.isNone_some, Bool.false_and, Bool.false_eq_true, if_false]
  cases patterns.get? d.language with
  | none => rfl
  | some p => exact examine_whole (.inr rfl) p d t _

theorem extract_none (small : Text.size d.text ≤ maxFileSize) :
    (extract patterns maxFileSize scopeAt d none t).1 =
      whole (outcomesOf scopeAt patterns d t) := by
  simp only [extract, outcomesOf, Option.isNone_none, Bool.true_and, decide_eq_true_eq,
    if_neg (Nat.not_lt.mpr small)]
  cases patterns.get? d.language with
  | none => rfl
  | some p => exact examine_whole (.inl rfl) p d t _

theorem extract_stopped (n : Nat) : (extract patterns maxFileSize scopeAt d (some ⟨some n⟩) t).1 =
    stopped n (outcomesOf scopeAt patterns d t) := by
  simp only [extract, outcomesOf, Option.isNone_some, Bool.false_and, Bool.false_eq_true, if_false]
  cases patterns.get? d.language with
  | none => simp [nothing, stopped]
  | some p => exact examine_stopped n p d t _

theorem stopped_prefix (n : Nat) (each : List (Option Occurrence)) :
    (stopped n each).occurrences <+: (whole each).occurrences := by
  refine ⟨(each.drop n).reduceOption, ?_⟩
  rw [stopped, whole, ← List.reduceOption_append, List.take_append_drop]

/-- Only a request that a look finds cuts an extraction short. -/
theorem exists_stopped {cancel : Option Cancellation}
    (cut : (extract patterns maxFileSize scopeAt d cancel t).1.isComplete = false) :
    ∃ n, cancel = some ⟨some n⟩ ∧ n < (candidatesOf patterns d).length := by
  match cancel with
  | none => simp [extract_complete] at cut
  | some ⟨none⟩ =>
    have all : (extract patterns maxFileSize scopeAt d (some ⟨none⟩) t).1.isComplete = true :=
      congrArg isComplete extract_never
    rw [cut] at all
    cases all
  | some ⟨some n⟩ =>
    refine ⟨n, rfl, ?_⟩
    rw [extract_stopped, stopped, length_outcomesOf] at cut
    simpa using cut

end Extraction

namespace Server

variable {σ : Type} [DecidableEq σ]

/-- What becomes of each candidate of a document that a server extracts. -/
def outcomes (s : Server σ) (files : FileTree) (d : Document) : List (Option Occurrence) :=
  Extraction.outcomesOf (fun t p => t.scopeAt files d p) s.patterns d s.tokenizer.watch

theorem parse_of_miss {s : Server σ} {d : Document}
    (considered : s.shouldSkip d.path (some d.language) = false)
    (missed : s.cache.hit? d.uri d.version = none) (files : FileTree)
    (cancel : Option Cancellation) :
    (s.parse files d cancel).1 = (s.extract files d cancel s.tokenizer.watch).1.occurrences := by
  rw [(s.parse_fields files d cancel considered).1]
  rcases s.cache.getOrExtract_cases d.uri d.version (s.extract files d cancel)
    s.tokenizer.watch with ⟨found, -, hit⟩ | ⟨-, ⟨-, result⟩ | ⟨-, result⟩⟩
  · rw [missed] at hit
    cases hit
  · rw [result]
  · rw [result]

/-- Whatever a classifier answers and however it changes, an extraction that finds a request in
front of the candidate with the number `n` gives what becomes of the candidates before it, in a
whole run, and is whole if there is no such candidate. A parse whose extraction is cut short gives
what was found so far, and leaves cache and index. -/
theorem interruption_keeps_a_prefix_and_commits_nothing :
    (∀ {τ : Type} (scopeAt : τ → Position → Option ScopeInfo × τ) (patterns : PatternTable)
        (maxFileSize : Nat) (d : Document) (t : τ) (n : Nat),
      let candidates := Extraction.candidatesOf patterns d
      let each := Extraction.outcomesOf scopeAt patterns d t
      let uncancelled := (Extraction.extract patterns maxFileSize scopeAt d (some .never) t).1
      let cancelled := (Extraction.extract patterns maxFileSize scopeAt d (some ⟨some n⟩) t).1
      each.length = candidates.length ∧
      uncancelled.occurrences = each.reduceOption ∧ uncancelled.isComplete = true ∧
      (Text.size d.text ≤ maxFileSize →
        (Extraction.extract patterns maxFileSize scopeAt d none t).1 = uncancelled) ∧
      cancelled.occurrences = (each.take (min n candidates.length)).reduceOption ∧
      cancelled.occurrences <+: uncancelled.occurrences ∧
      (cancelled.isComplete = true ↔ candidates.length ≤ n) ∧
      cancelled.queries = min n candidates.length) ∧
    ∀ (s : Server σ) (files : FileTree) (d : Document) (cancel : Option Cancellation),
      s.shouldSkip d.path (some d.language) = false → s.cache.hit? d.uri d.version = none →
      (s.extract files d cancel s.tokenizer.watch).1.isComplete = false →
      (∃ n, cancel = some ⟨some n⟩ ∧ n < (Extraction.candidatesOf s.patterns d).length ∧
        (s.parse files d cancel).1 = ((s.outcomes files d).take n).reduceOption) ∧
      (s.parse files d cancel).1 <+: (s.parse files d (some .never)).1 ∧
      (s.parse files d cancel).2.cache = s.cache ∧
      (s.parse files d cancel).2.index = s.index := by
  constructor
  · intro τ scopeAt patterns maxFileSize d t n candidates each uncancelled cancelled
    have length : each.length = candidates.length := Extraction.length_outcomesOf patterns d t
    have all : uncancelled = Extraction.whole each := Extraction.extract_never
    have part : cancelled = Extraction.stopped n each := Extraction.extract_stopped n
    refine ⟨length, by rw [all]; rfl, by rw [all]; rfl, ?_, ?_, ?_, ?_, ?_⟩
    · intro small
      rw [all, Extraction.extract_none small]
    · rw [part, ← length, ← List.take_eq_take_min]
      rfl
    · rw [all, part]
      exact Extraction.stopped_prefix n each
    · rw [part, ← length]
      exact decide_eq_true_iff
    · rw [part, ← length]
      rfl
  · intro s files d cancel considered missed cut
    obtain ⟨n, rfl, before⟩ := Extraction.exists_stopped cut
    have part := parse_of_miss considered missed files (some ⟨some n⟩)
    have all := parse_of_miss considered missed files (some .never)
    rw [extract, Extraction.extract_stopped] at part
    rw [extract, Extraction.extract_never] at all
    have silent : ¬ s.Reports ⟨files, d, some ⟨some n⟩⟩ := by
      rintro ⟨-, changed⟩
      have complete := (Cache.changed_iff.mp changed).2
      rw [cut] at complete
      cases complete
    obtain ⟨cache, index⟩ := serve_of_not_reports silent
    refine ⟨⟨n, rfl, before, part⟩, ?_, cache, index⟩
    rw [part, all]
    exact Extraction.stopped_prefix n _

/-- Four candidates, the second of them in a comment. -/
def fourCandidates : Document :=
  ⟨⟨"file:///a.lua"⟩, "lua", 1, "f() -- f()\nf() f()".toList⟩

def callAt (line column : Nat) : Occurrence :=
  ⟨.trigger, ")", ⟨fourCandidates.uri, ⟨line, column⟩⟩⟩

theorem interruption_keeps_a_prefix_and_commits_nothing_last_candidate :
    ∃ s : Server GrammarState,
      let part := s.parse (.folder []) fourCandidates (some ⟨some 3⟩)
      s.shouldSkip fourCandidates.path (some fourCandidates.language) = false ∧
      s.cache.hit? fourCandidates.uri fourCandidates.version = none ∧
      (s.extract (.folder []) fourCandidates (some ⟨some 3⟩) s.tokenizer.watch).1.isComplete =
        false ∧
      s.outcomes (.folder []) fourCandidates =
        [some (callAt 0 0), none, some (callAt 1 0), some (callAt 1 4)] ∧
      part.1 = [callAt 0 0, callAt 1 0] ∧
      part.1 <+: (s.parse (.folder []) fourCandidates (some .never)).1 ∧
      part.2.cache = s.cache ∧ part.2.index = s.index := by
  have run : (Server.new callsOfF luaInline markerEngine).toOption.any (fun s =>
      s.shouldSkip fourCandidates.path (some fourCandidates.language) = false &&
      s.cache.hit? fourCandidates.uri fourCandidates.version = none &&
      (s.extract (.folder []) fourCandidates (some ⟨some 3⟩) s.tokenizer.watch).1.isComplete =
        false &&
      s.outcomes (.folder []) fourCandidates =
        [some (callAt 0 0), none, some (callAt 1 0), some (callAt 1 4)]) = true := by
    decide +kernel
  cases built : Server.new callsOfF luaInline markerEngine with
  | error e => simp [built, Except.toOption] at run
  | ok s =>
    simp only [built, Except.toOption, Option.any_some, Bool.and_eq_true, decide_eq_true_eq] at run
    obtain ⟨⟨⟨considered, missed⟩, cut⟩, each⟩ := run
    obtain ⟨⟨n, three, -, found⟩, before, cache, index⟩ :=
      interruption_keeps_a_prefix_and_commits_nothing.2 s (.folder []) fourCandidates
        (some ⟨some 3⟩) considered missed cut
    cases three
    rw [each] at found
    exact ⟨s, considered, missed, cut, each, found, before, cache, index⟩

end Server

end EventXref
