import EventXref.Proofs.CacheHistory

/-!
Results that come too late. A lookup reports every whole extraction as a change, also one that the
cache turns away because it holds a newer version. The index follows the reports, so what it shows
of a document is the result reported last; this is what the cache holds unless that result came too
late, and then no lookup of the cached version puts the index right.
-/
namespace EventXref

namespace Cache

variable {τ : Type} {c : Cache} {u v : Uri} {version : Int} {extract : τ → Extraction × τ} {t : τ}

/-- A newer version of the document is cached. -/
def Outdated (c : Cache) (u : Uri) (version : Int) : Prop :=
  ∃ e, c.get? u = some e ∧ version < e.version

theorem get?_store_self {e : CacheEntry} (latest : ¬ c.Outdated u e.version) :
    (c.store u e).get? u = some e := by
  have notNewer : ((c.get? u).any fun before => decide (before.version > e.version)) = false := by
    cases stored : c.get? u with
    | none => rfl
    | some before => simpa using fun newer => latest ⟨before, stored, newer⟩
  rw [store, if_neg (by simp [notNewer])]
  exact Std.ExtTreeMap.getElem?_insert_self

theorem store_of_outdated {found : List Occurrence} (late : c.Outdated u version) :
    c.store u ⟨version, found⟩ = c := by
  obtain ⟨e, stored, newer⟩ := late
  exact store_of_newer stored newer

/-- Of two results that are extracted at the same time the newer version stays, whichever comes
last. -/
theorem get?_overlapping {first second : CacheEntry} (missed : c.hit? u first.version = none)
    (missed' : c.hit? u second.version = none) (latest : ¬ c.Outdated u second.version) :
    (c.overlapping u first second).2.2.get? u =
      some (if first.version < second.version then second else first) := by
  have stored : (c.store u second).get? u = some second := get?_store_self latest
  simp only [overlapping, missed, missed', finish, if_true]
  split
  next newer => rw [store_of_newer stored newer, stored]
  next notNewer =>
    apply get?_store_self
    rintro ⟨e, there, newer⟩
    rw [stored] at there
    cases there
    exact notNewer newer

theorem changed_iff : (c.getOrExtract u version extract t).1.changed = true ↔
    c.hit? u version = none ∧ (extract t).1.isComplete = true := by
  rcases c.getOrExtract_cases u version extract t with ⟨found, result, hit⟩ |
    ⟨missed, ⟨complete, result⟩ | ⟨cut, result⟩⟩
  · simp [result, hit, Answer.hit]
  · simp [result, missed, complete]
  · simp [result, cut]

theorem getOrExtract_of_changed
    (changed : (c.getOrExtract u version extract t).1.changed = true) :
    c.getOrExtract u version extract t = (⟨(extract t).1.occurrences, true, true⟩,
      c.store u ⟨version, (extract t).1.occurrences⟩, (extract t).2) := by
  rcases c.getOrExtract_cases u version extract t with ⟨found, result, -⟩ |
    ⟨-, ⟨-, result⟩ | ⟨-, result⟩⟩
  · simp [result, Answer.hit] at changed
  · exact result
  · simp [result] at changed

theorem getOrExtract_unchanged
    (unchanged : (c.getOrExtract u version extract t).1.changed = false) :
    (c.getOrExtract u version extract t).2.1 = c := by
  rcases c.getOrExtract_cases u version extract t with ⟨found, result, -⟩ |
    ⟨-, ⟨-, result⟩ | ⟨-, result⟩⟩
  · rw [result]
  · simp [result] at unchanged
  · rw [result]

end Cache

namespace Server

variable {σ : Type} [DecidableEq σ] {s : Server σ} {u : Uri}

structure Request where
  files : FileTree
  document : Document
  cancel : Option Cancellation

def lookup (s : Server σ) (r : Request) : Cache.Answer × Cache × Tokenizer σ :=
  s.cache.getOrExtract r.document.uri r.document.version (s.extract r.files r.document r.cancel)
    s.tokenizer.watch

def found (s : Server σ) (r : Request) : List Occurrence :=
  (s.parse r.files r.document r.cancel).1

def serve (s : Server σ) (r : Request) : Server σ := (s.parse r.files r.document r.cancel).2

def serveAll (s : Server σ) (rs : List Request) : Server σ := rs.foldl serve s

/-- The document is not skipped, and its lookup reports a change. -/
def Reports (s : Server σ) (r : Request) : Prop :=
  s.shouldSkip r.document.path (some r.document.language) = false ∧ (s.lookup r).1.changed = true

instance (s : Server σ) (r : Request) : Decidable (s.Reports r) :=
  inferInstanceAs (Decidable (_ ∧ _))

variable {r : Request} {rs : List Request}

theorem serve_of_reports (reports : s.Reports r) :
    (∀ o ∈ s.found r, o.uri = r.document.uri) ∧
      (s.serve r).cache = s.cache.store r.document.uri ⟨r.document.version, s.found r⟩ ∧
      (s.serve r).index = s.index.replace r.document.uri (s.found r) := by
  obtain ⟨considered, changed⟩ := reports
  have result := Cache.getOrExtract_of_changed changed
  have own := s.extract_own r.files r.document r.cancel s.tokenizer.watch
  simp only [found, serve, parse, considered, Bool.false_eq_true, if_false, result, if_true]
  exact ⟨own, trivial, trivial⟩

theorem serve_of_not_reports (silent : ¬ s.Reports r) :
    (s.serve r).cache = s.cache ∧ (s.serve r).index = s.index := by
  simp only [serve, parse]
  cases considered : s.shouldSkip r.document.path (some r.document.language) with
  | true => simp
  | false =>
    have unchanged : (s.lookup r).1.changed = false := by
      simpa [Reports, considered] using silent
    have same := Cache.getOrExtract_unchanged unchanged
    rw [lookup] at unchanged
    simp [unchanged, same]

/-- None of the requests has a result of this document reported. -/
def Quiet (u : Uri) (s : Server σ) : List Request → Prop
  | [] => True
  | r :: rs => (r.document.uri = u → ¬ s.Reports r) ∧ Quiet u (s.serve r) rs

/-- No request brings a version older than what is cached of its document. -/
def InOrder (s : Server σ) : List Request → Prop
  | [] => True
  | r :: rs => s.NoOlder r.document ∧ InOrder (s.serve r) rs

/-- The index shows exactly this of a document. -/
def Displays (s : Server σ) (u : Uri) (found : List Occurrence) : Prop :=
  ∀ kind name l, l ∈ s.index.locations kind name ∧ l.uri = u ↔
    (⟨kind, name, l⟩ : Occurrence) ∈ found

theorem serve_arises (arises : s.Arises) (r : Request) : (s.serve r).Arises :=
  .parsed s r.files r.document r.cancel arises

theorem shows_of_reports (arises : s.Arises) (reports : s.Reports r) :
    (s.serve r).Displays r.document.uri (s.found r) := by
  obtain ⟨own, -, index⟩ := serve_of_reports reports
  intro kind name l
  rw [index, Index.Represents.mem_replace arises.wellFiled own]
  constructor
  · rintro ⟨member, here⟩
    rwa [if_pos here.symm] at member
  · intro member
    have here : l.uri = r.document.uri := own _ member
    exact ⟨by simpa [here] using member, here⟩

/-- Neither the entry of a document nor what the index shows of it changes without a report. -/
theorem Quiet.same (quiet : Quiet u s rs) (arises : s.Arises) :
    (s.serveAll rs).cache.get? u = s.cache.get? u ∧
      ∀ found, s.Displays u found → (s.serveAll rs).Displays u found := by
  induction rs generalizing s with
  | nil => exact ⟨rfl, fun _ shows => shows⟩
  | cons r rs ih =>
    obtain ⟨silent, quiet⟩ := quiet
    obtain ⟨entry, shows⟩ := ih quiet (serve_arises arises r)
    by_cases here : r.document.uri = u
    · obtain ⟨cache, index⟩ := serve_of_not_reports (silent here)
      refine ⟨entry.trans (by rw [cache]), ?_⟩
      intro found before
      refine shows found ?_
      unfold Displays
      rwa [index]
    · have touches := s.parse_touches r.files r.document r.cancel
      have same := touches.same arises.wellFiled (Ne.symm here)
      refine ⟨entry.trans same.entry, ?_⟩
      intro found before
      refine shows found ?_
      intro kind name l
      rw [← before kind name l]
      exact and_congr_left fun own => same.places kind name l own

theorem InOrder.agrees (inOrder : s.InOrder rs) (agrees : s.Agrees) : (s.serveAll rs).Agrees := by
  induction rs generalizing s with
  | nil => exact agrees
  | cons r rs ih => exact ih inOrder.2 (agrees.parse inOrder.1 r.files r.cancel)

/-- The flag of a lookup says that a whole extraction was run for it, and the cache changes only
then; it holds the result afterwards unless it held a newer version. After the report of a result,
and any requests that report nothing more of the document, the index shows that result; the cache
holds it as well, or still the newer entry that turned it away. Requests that bring no version older
than a cached one never let the index fall behind. -/
theorem flag_reports_every_whole_extraction :
    (∀ {τ : Type} (c : Cache) (u : Uri) (version : Int) (extract : τ → Extraction × τ) (t : τ),
      let result := c.getOrExtract u version extract t
      (result.1.changed = true ↔
        c.hit? u version = none ∧ (extract t).1.isComplete = true) ∧
      (result.1.changed = false → result.2.1 = c) ∧
      (result.1.changed = true → result.1.occurrences = (extract t).1.occurrences ∧
        (c.Outdated u version → result.2.1 = c) ∧
        (¬ c.Outdated u version →
          result.2.1.get? u = some ⟨version, result.1.occurrences⟩ ∧
          ∀ v, v ≠ u → result.2.1.get? v = c.get? v))) ∧
    (∀ s : Server σ, s.Arises → ∀ r, s.Reports r → ∀ later,
      Quiet r.document.uri (s.serve r) later →
      let last := (s.serve r).serveAll later
      last.Displays r.document.uri (s.found r) ∧
        (¬ s.cache.Outdated r.document.uri r.document.version →
          last.cache.get? r.document.uri = some ⟨r.document.version, s.found r⟩) ∧
        ∀ e, s.cache.get? r.document.uri = some e → r.document.version < e.version →
          last.cache.get? r.document.uri = some e) ∧
    ∀ s : Server σ, s.Reachable → ∀ rs, s.InOrder rs →
      ∀ u e, (s.serveAll rs).cache.live? u = some e → (s.serveAll rs).Displays u e.occurrences := by
  refine ⟨?_, ?_, ?_⟩
  · intro τ c u version extract t result
    refine ⟨Cache.changed_iff, Cache.getOrExtract_unchanged, ?_⟩
    intro changed
    have stored : result = _ := Cache.getOrExtract_of_changed changed
    rw [stored]
    refine ⟨rfl, Cache.store_of_outdated, ?_⟩
    intro latest
    exact ⟨Cache.get?_store_self latest, fun v other => c.get?_store_of_ne _ other⟩
  · intro s arises r reports later quiet last
    obtain ⟨-, cache, -⟩ := serve_of_reports reports
    obtain ⟨entry, shows⟩ := quiet.same (serve_arises arises r)
    refine ⟨shows _ (shows_of_reports arises reports), ?_, ?_⟩
    · intro latest
      exact entry.trans (by rw [cache, Cache.get?_store_self latest])
    · intro e stored newer
      rw [entry, cache, Cache.store_of_newer stored newer]
      exact stored
  · intro s reachable rs inOrder u e live kind name l
    rw [(inOrder.agrees reachable.agrees).locations live kind name l]
    constructor
    · rintro ⟨o, member, rfl, rfl, rfl⟩
      exact member
    · intro member
      exact ⟨_, member, rfl, rfl, rfl⟩

def newer : Request := ⟨.folder [], { oneCall with version := 2 }, none⟩

def older : Request := ⟨.folder [], { oneCall with text := [] }, none⟩

def callOfNewer : List Occurrence := [⟨.trigger, ")", ⟨oneCall.uri, ⟨1, 0⟩⟩⟩]

/-- The result of the older version comes last, and the newer one is only looked up again. -/
theorem flag_reports_every_whole_extraction_late : ∃ s : Server GrammarState,
    s.Arises ∧ s.Reports older ∧ Quiet oneCall.uri (s.serve older) [newer] ∧
    s.cache.get? oneCall.uri = some ⟨2, callOfNewer⟩ ∧
    let last := (s.serve older).serveAll [newer]
    last.Displays oneCall.uri [] ∧ last.cache.get? oneCall.uri = some ⟨2, callOfNewer⟩ := by
  have run : (Server.new callsOfF luaInline markerEngine).toOption.any (fun s =>
      let s := s.serve newer
      s.Reports older && !decide ((s.serve older).Reports newer) && s.found older = [] &&
        s.cache.get? oneCall.uri = some ⟨2, callOfNewer⟩) = true := by decide +kernel
  cases built : Server.new callsOfF luaInline markerEngine with
  | error e => simp [built, Except.toOption] at run
  | ok s =>
    simp only [built, Except.toOption, Option.any_some, Bool.and_eq_true, Bool.not_eq_true',
      decide_eq_true_eq, decide_eq_false_iff_not] at run
    obtain ⟨⟨⟨reports, silent⟩, nothing⟩, stored⟩ := run
    have arises := serve_arises (.new _ _ _ s built) newer
    have quiet : Quiet oneCall.uri ((s.serve newer).serve older) [newer] :=
      ⟨fun _ => silent, trivial⟩
    obtain ⟨-, followed, -⟩ := flag_reports_every_whole_extraction (σ := GrammarState)
    obtain ⟨shows, -, kept⟩ := followed _ arises older reports [newer] quiet
    rw [nothing] at shows
    exact ⟨_, arises, reports, quiet, stored, shows, kept _ stored (by decide)⟩

/-- A lookup reports a change and the cache does not hold what it answered; a server whose cache
holds a version with a call, and whose index shows nothing. -/
theorem late_result_hides_a_call :
    (∃ (c : Cache) (u : Uri) (version : Int) (x : Extraction),
      let result := c.getOrExtract u version (fun t : Unit => (x, t)) ()
      result.1.changed = true ∧ result.2.1.get? u ≠ some ⟨version, result.1.occurrences⟩) ∧
    ∃ s : Server GrammarState, s.Arises ∧
      let last := s.serveAll [newer, older, newer]
      last.cache.get? oneCall.uri = some ⟨2, callOfNewer⟩ ∧
        last.index.locations .trigger ")" = [] := by
  constructor
  · exact ⟨Cache.empty.store oneCall.uri ⟨2, callOfNewer⟩, oneCall.uri, 1, ⟨[], true, 0⟩,
      by decide +kernel⟩
  · have run : (Server.new callsOfF luaInline markerEngine).toOption.any (fun s =>
        let last := s.serveAll [newer, older, newer]
        last.cache.get? oneCall.uri = some ⟨2, callOfNewer⟩ &&
          last.index.locations .trigger ")" = []) = true := by decide +kernel
    cases built : Server.new callsOfF luaInline markerEngine with
    | error e => simp [built, Except.toOption] at run
    | ok s =>
      simp only [built, Except.toOption, Option.any_some, Bool.and_eq_true,
        decide_eq_true_eq] at run
      exact ⟨s, .new _ _ _ s built, run⟩

end Server

end EventXref
