import EventXref.Proofs.Independence

/-!
Answers from the cache, told from what was done with it before. Versions count anew each time a
document is opened, and a closed entry stays under a version that no document has, so that a lookup
cannot tell by itself whether an entry is still good. Over every run it is: an answer without an
extraction repeats one that was run since the document was last closed or removed, and as long as
versions do not go back no extraction is run twice.
-/
namespace EventXref.Cache

variable {τ : Type}

/-- What is done with a cache. A lookup brings its extraction along, which works on a state of its
own. -/
inductive Action (τ : Type) where
  | lookup (u : Uri) (version : Int) (extract : τ → Extraction × τ)
  | close (u : Uri)
  | remove (u : Uri)
  | insertClosed (u : Uri) (found : List Occurrence)
  | clearClosed

/-- What is seen of an action: an answer with the extraction that was run for it, if one was, or
that a document is no longer open. -/
inductive Event where
  | answer (u : Uri) (version : Int) (found : List Occurrence) (ran : Option Extraction)
  | ended (u : Uri)
  | cleared
deriving DecidableEq, Repr

namespace Action

def perform (c : Cache) (t : τ) : Action τ → Event × Cache × τ
  | lookup u version extract =>
    let (answer, c', t') := c.getOrExtract u version extract t
    (.answer u version answer.occurrences
      (if answer.extracted then some (extract t).1 else none), c', t')
  | close u => (.ended u, c.close u, t)
  | remove u => (.ended u, c.remove u, t)
  | insertClosed u found => (.ended u, c.insertClosed u found, t)
  | clearClosed => (.cleared, c.clearClosed, t)

/-- Documents that are looked up have versions of their own, none that marks closed ones. -/
def Numbered : Action τ → Prop
  | lookup _ version _ => 0 ≤ version
  | _ => True

end Action

def log (c : Cache) (t : τ) : List (Action τ) → List Event
  | [] => []
  | a :: actions =>
    let (event, c, t) := a.perform c t
    event :: log c t actions

namespace Event

def version? (u : Uri) : Event → Option Int
  | answer v version _ _ => if v = u then some version else none
  | _ => none

/-- A whole extraction was run for this version of the document. -/
def isResult (u : Uri) (version : Int) : Event → Bool
  | answer v w _ (some x) => v = u && w = version && x.isComplete
  | _ => false

end Event

/-- A whole extraction for this version of the document found this, and the document has been open
ever since. -/
def Found (past : List Event) (u : Uri) (version : Int) (found : List Occurrence) : Prop :=
  ∃ earlier x between, past = earlier ++ .answer u version found (some x) :: between ∧
    x.isComplete = true ∧ x.occurrences = found ∧ .ended u ∉ between

variable {c : Cache} {t : τ} {u : Uri} {version : Int} {past : List Event} {a : Action τ}
  {actions : List (Action τ)}

theorem Found.snoc {found : List Occurrence} {event : Event} (known : Found past u version found)
    (goesOn : event ≠ .ended u) : Found (past ++ [event]) u version found := by
  obtain ⟨earlier, x, between, rfl, complete, same, none⟩ := known
  refine ⟨earlier, x, between ++ [event], by simp, complete, same, ?_⟩
  intro member
  rcases List.mem_append.mp member with before | last
  · exact none before
  · exact goesOn (List.mem_singleton.mp last).symm

theorem store_of_newer {e newer : CacheEntry} (there : c.get? u = some newer)
    (later : e.version < newer.version) : c.store u e = c := by
  simp [store, there, later]

theorem live?_store_of_ne (c : Cache) {v : Uri} (e : CacheEntry) (other : u ≠ v) :
    (c.store v e).live? u = c.live? u := by
  simp [live?, c.get?_store_of_ne e other]

/-- All that an action can do to the live entry of a document: the entry stays, unless the document
ends or a whole extraction is stored. A result is only turned away for an entry that is newer. -/
inductive Does (u : Uri) (before : Option CacheEntry) : Event → Option CacheEntry → Prop
  | ends : Does u before (.ended u) none
  | other (event : Event) : event.version? u = none → event ≠ .ended u → Does u before event before
  | hit (version : Int) (found : List Occurrence) : before = some ⟨version, found⟩ →
      Does u before (.answer u version found none) before
  | cut (version : Int) (x : Extraction) : x.isComplete = false →
      Does u before (.answer u version x.occurrences (some x)) before
  | stored (version : Int) (x : Extraction) : x.isComplete = true →
      (∀ found, before ≠ some ⟨version, found⟩) →
      Does u before (.answer u version x.occurrences (some x)) (some ⟨version, x.occurrences⟩)
  | refused (version : Int) (x : Extraction) (e : CacheEntry) : x.isComplete = true →
      before = some e → version < e.version →
      Does u before (.answer u version x.occurrences (some x)) before

/-- Events that follow one another, told by the live entry of one document. -/
inductive Course (u : Uri) : Option CacheEntry → List Event → Option CacheEntry → Prop
  | nil (entry : Option CacheEntry) : Course u entry [] entry
  | cons {before between after : Option CacheEntry} {event : Event} {events : List Event} :
      Does u before event between → Course u between events after →
      Course u before (event :: events) after

theorem does_lookup (c : Cache) (t : τ) (u : Uri) (extract : τ → Extraction × τ)
    (numbered : 0 ≤ version) :
    Does u (c.live? u) (Action.perform c t (.lookup u version extract)).1
      ((Action.perform c t (.lookup u version extract)).2.1.live? u) := by
  rcases c.getOrExtract_cases u version extract t with ⟨found, result, hit⟩ |
    ⟨missed, ⟨complete, result⟩ | ⟨cut, result⟩⟩
  · simp only [Action.perform, result]
    exact .hit version found (live?_of_hit hit numbered)
  · simp only [Action.perform, result, if_true]
    by_cases late : ∃ e, c.live? u = some e ∧ version < e.version
    · obtain ⟨e, live, newer⟩ := late
      rw [store_of_newer ((c.live?_eq_some_iff u).mp live).1 newer]
      exact .refused version _ e complete live newer
    · have noOlder : ∀ e, c.live? u = some e → e.version ≤ version :=
        fun e live => Int.not_lt.mp fun newer => late ⟨e, live, newer⟩
      rw [live?_store_self (e := ⟨version, (extract t).1.occurrences⟩) numbered noOlder]
      refine .stored version _ complete ?_
      intro found live
      have there := ((c.live?_eq_some_iff u).mp live).1
      simp [hit?, there] at missed
  · simp only [Action.perform, result, if_true]
    exact .cut version _ cut

theorem does_end {after : Option CacheEntry} (v : Uri)
    (gone : after = if v = u then none else c.live? u) : Does u (c.live? u) (.ended v) after := by
  by_cases here : v = u
  · subst here
    rw [gone, if_pos rfl]
    exact .ends
  · rw [gone, if_neg here]
    exact .other _ rfl (by simpa using here)

theorem perform_does (c : Cache) (t : τ) (u : Uri) (numbered : a.Numbered) :
    Does u (c.live? u) (a.perform c t).1 ((a.perform c t).2.1.live? u) := by
  cases a with
  | lookup v version extract =>
    by_cases here : v = u
    · subst here
      exact does_lookup c t v extract numbered
    · have same : (Action.perform c t (.lookup v version extract)).2.1.live? u = c.live? u := by
        rcases c.getOrExtract_cases v version extract t with ⟨found, result, -⟩ |
          ⟨-, ⟨-, result⟩ | ⟨-, result⟩⟩
        · simp only [Action.perform, result]
        · simp only [Action.perform, result]
          exact c.live?_store_of_ne _ (Ne.symm here)
        · simp only [Action.perform, result]
      rw [same]
      exact .other _ (by simp [Action.perform, Event.version?, here]) (by simp [Action.perform])
  | close v => exact does_end v (c.live?_close v u)
  | remove v => exact does_end v (c.live?_remove v u)
  | insertClosed v found => exact does_end v (c.live?_insertClosed v u found)
  | clearClosed =>
    simp only [Action.perform, live?_clearClosed]
    exact .other .cleared rfl (by simp)

theorem log_course (c : Cache) (t : τ) (u : Uri) (numbered : ∀ a ∈ actions, a.Numbered) :
    ∃ last, Course u (c.live? u) (log c t actions) last := by
  induction actions generalizing c t with
  | nil => exact ⟨_, .nil _⟩
  | cons a actions ih =>
    obtain ⟨here, rest⟩ := List.forall_mem_cons.mp numbered
    obtain ⟨last, course⟩ := ih (a.perform c t).2.1 (a.perform c t).2.2 rest
    exact ⟨last, .cons (perform_does c t u here) course⟩

variable {before after entry : Option CacheEntry} {event : Event} {events more : List Event}

theorem Course.append (course : Course u before (events ++ more) after) :
    ∃ between, Course u before events between ∧ Course u between more after := by
  induction events generalizing before with
  | nil => exact ⟨before, .nil before, course⟩
  | cons event events ih =>
    cases course with
    | cons does rest =>
      obtain ⟨between, first, second⟩ := ih rest
      exact ⟨between, .cons does first, second⟩

/-- No entry is live where the run begins, nor right behind the end of a document. -/
theorem Course.ended (course : Course u none events after)
    (start : events = [] ∨ events.getLast? = some (.ended u)) : after = none := by
  rcases start with rfl | last
  · cases course
    rfl
  · obtain ⟨first, rfl⟩ := List.getLast?_eq_some_iff.mp last
    obtain ⟨between, -, last⟩ := course.append
    cases last with
    | cons does rest =>
      cases rest
      cases does with
      | ends => rfl
      | other _ _ goesOn => exact absurd rfl goesOn

/-- A live entry holds what was found for its version since the document was last opened. -/
def Recalled (past : List Event) (u : Uri) (entry : Option CacheEntry) : Prop :=
  ∀ e, entry = some e → Found past u e.version e.occurrences

theorem Does.recalled (does : Does u before event after) (known : Recalled past u before) :
    Recalled (past ++ [event]) u after := by
  intro e live
  cases does with
  | ends => cases live
  | other _ _ goesOn => exact (known e live).snoc goesOn
  | hit version found _ => exact (known e live).snoc (by simp)
  | cut version x _ => exact (known e live).snoc (by simp)
  | stored version x complete _ =>
    cases live
    exact ⟨past, x, [], rfl, complete, rfl, by simp⟩
  | refused version x _ _ _ _ => exact (known e live).snoc (by simp)

theorem Course.found {found : List Occurrence} (known : Recalled past u before)
    (course : Course u before (events ++ .answer u version found none :: more) after) :
    Found (past ++ events) u version found := by
  induction events generalizing past before with
  | nil =>
    cases course with
    | cons does _ =>
      cases does with
      | other _ notLookedUp _ => simp [Event.version?] at notLookedUp
      | hit _ _ live => simpa using known _ live
  | cons event events ih =>
    cases course with
    | cons does rest =>
      have known := ih (does.recalled known) rest
      rwa [List.append_assoc] at known

def versions (u : Uri) (events : List Event) : List Int := events.filterMap (Event.version? u)

@[simp] theorem versions_answer (found : List Occurrence) (ran : Option Extraction) :
    versions u (.answer u version found ran :: events) = version :: versions u events := by
  simp [versions, Event.version?]

theorem versions_other (notLookedUp : event.version? u = none) :
    versions u (event :: events) = versions u events := by
  simp [versions, notLookedUp]

theorem isResult_other (notLookedUp : event.version? u = none) :
    event.isResult u version = false := by
  cases event with
  | answer v w found ran =>
    have other : v ≠ u := by simpa [Event.version?] using notLookedUp
    cases ran <;> simp [Event.isResult, other]
  | ended v => rfl
  | cleared => rfl

/-- Versions do not go back, neither among the lookups to come nor behind the entry. -/
structure Rises (u : Uri) (entry : Option CacheEntry) (events : List Event) : Prop where
  sorted : (versions u events).Pairwise (· ≤ ·)
  entry : ∀ e, entry = some e → ∀ w ∈ versions u events, e.version ≤ w

theorem Rises.behind {found : List Occurrence} {ran : Option Extraction}
    (rises : Rises u entry (.answer u version found ran :: events)) : Rises u entry events := by
  obtain ⟨sorted, noNewer⟩ := rises
  rw [versions_answer] at sorted noNewer
  exact ⟨(List.pairwise_cons.mp sorted).2, fun e live w later => noNewer e live w (.tail _ later)⟩

theorem Does.rises (does : Does u before event after) (rises : Rises u before (event :: events)) :
    Rises u after events := by
  cases does with
  | ends =>
    have sorted := rises.sorted
    rw [versions_other rfl] at sorted
    exact ⟨sorted, by simp⟩
  | other _ notLookedUp _ =>
    obtain ⟨sorted, noNewer⟩ := rises
    rw [versions_other notLookedUp] at sorted noNewer
    exact ⟨sorted, noNewer⟩
  | hit version found _ => exact rises.behind
  | cut version x _ => exact rises.behind
  | stored version x _ _ =>
    have sorted := rises.sorted
    rw [versions_answer] at sorted
    obtain ⟨first, rest⟩ := List.pairwise_cons.mp sorted
    refine ⟨rest, ?_⟩
    rintro e ⟨⟩
    exact first
  | refused version x e _ live newer =>
    have noNewer := rises.entry e live version (by simp)
    omega

/-- The version is cached, or all lookups to come have left it behind. -/
def Settled (u : Uri) (version : Int) (entry : Option CacheEntry) (events : List Event) : Prop :=
  (∃ found, entry = some ⟨version, found⟩) ∨ ∀ w ∈ versions u events, version < w

theorem Settled.tail (settled : Settled u version entry (event :: events)) :
    Settled u version entry events := by
  refine settled.imp_right ?_
  intro ahead w later
  refine ahead w ?_
  simp only [versions, List.filterMap_cons]
  split
  · exact later
  · exact .tail _ later

theorem Does.keeps_settled (does : Does u before event after) (goesOn : event ≠ .ended u)
    (rises : Rises u before (event :: events))
    (settled : Settled u version before (event :: events)) :
    event.isResult u version = false ∧ Settled u version after events := by
  cases does with
  | ends => exact absurd rfl goesOn
  | other _ notLookedUp _ => exact ⟨isResult_other notLookedUp, settled.tail⟩
  | hit w found _ => exact ⟨rfl, settled.tail⟩
  | cut w x incomplete => exact ⟨by simp [Event.isResult, incomplete], settled.tail⟩
  | stored w x _ fresh =>
    have passed : version < w := by
      rcases settled with ⟨found, live⟩ | ahead
      · have noOlder : version ≤ w := rises.entry _ live w (by simp)
        have other : version ≠ w := by
          rintro rfl
          exact fresh found live
        omega
      · exact ahead w (by simp)
    have other : w ≠ version := by omega
    refine ⟨by simp [Event.isResult, other], .inr ?_⟩
    have sorted := rises.sorted
    rw [versions_answer] at sorted
    intro w' later
    exact Int.lt_of_lt_of_le passed ((List.pairwise_cons.mp sorted).1 w' later)
  | refused w x e _ live newer =>
    have noOlder := rises.entry e live w (by simp)
    omega

theorem Does.settles (does : Does u before event after) (rises : Rises u before (event :: events))
    (result : event.isResult u version = true) : Settled u version after events := by
  cases does with
  | ends => cases result
  | other _ notLookedUp _ => simp [isResult_other notLookedUp] at result
  | hit w found _ => cases result
  | cut w x incomplete => simp [Event.isResult, incomplete] at result
  | stored w x _ _ =>
    have same : w = version := by
      simp only [Event.isResult, Bool.and_eq_true, decide_eq_true_eq] at result
      exact result.1.2
    exact .inl ⟨x.occurrences, by rw [same]⟩
  | refused w x e _ live newer =>
    have noOlder := rises.entry e live w (by simp)
    omega

theorem Course.no_result (course : Course u before events after) (goesOn : .ended u ∉ events)
    (rises : Rises u before events) (settled : Settled u version before events) :
    events.countP (Event.isResult u version) = 0 := by
  induction course with
  | nil => rfl
  | cons does _ ih =>
    obtain ⟨first, rest⟩ := not_or.mp (List.mem_cons.not.mp goesOn)
    obtain ⟨none, settled⟩ := does.keeps_settled (Ne.symm first) rises settled
    rw [List.countP_cons_of_neg (by simp [none])]
    exact ih rest (does.rises rises) settled

theorem Course.one_result (course : Course u before events after) (goesOn : .ended u ∉ events)
    (rises : Rises u before events) : events.countP (Event.isResult u version) ≤ 1 := by
  induction course with
  | nil => exact Nat.zero_le 1
  | @cons _ _ _ event events does course ih =>
    obtain ⟨-, rest⟩ := not_or.mp (List.mem_cons.not.mp goesOn)
    cases result : event.isResult u version with
    | false =>
      rw [List.countP_cons_of_neg (by simp [result])]
      exact ih rest (does.rises rises)
    | true =>
      have none := course.no_result rest (does.rises rises) (does.settles rises result)
      have one := List.countP_cons_of_pos (l := events) result
      omega

/-- Over every run of actions on an empty cache, an answer without an extraction is what a whole
extraction found for the same version of the document, run since the document last ended; and
between two ends of a document, or before the first, at most one whole extraction is run for a
version as long as the versions that the document is looked up with do not decrease. -/
theorem hits_repeat_results_since_the_end (actions : List (Action τ)) (t : τ)
    (numbered : ∀ a ∈ actions, a.Numbered) :
    (∀ before u version found after,
      log empty t actions = before ++ .answer u version found none :: after →
        Found before u version found) ∧
    ∀ before span after u,
      log empty t actions = before ++ (span ++ after) →
      before = [] ∨ before.getLast? = some (.ended u) → .ended u ∉ span →
      (versions u span).Pairwise (· ≤ ·) →
        ∀ version, span.countP (Event.isResult u version) ≤ 1 := by
  have start : ∀ u, empty.live? u = none := by
    intro u
    simp [live?, get?, empty]
  have course := fun u => log_course empty t u numbered
  simp only [start] at course
  constructor
  · intro before u version found after logged
    obtain ⟨last, course⟩ := course u
    rw [logged] at course
    have nothing : Recalled [] u none := by simp [Recalled]
    exact course.found nothing
  · intro before span after u logged begins goesOn sorted version
    obtain ⟨last, course⟩ := course u
    rw [logged] at course
    obtain ⟨entry, first, course⟩ := course.append
    obtain ⟨_, course, -⟩ := course.append
    obtain rfl := first.ended begins
    exact course.one_result goesOn ⟨sorted, by simp⟩

def lua : Uri := ⟨"file:///a.lua"⟩

def seen (name : String) : List Occurrence := [⟨.trigger, name, ⟨lua, ⟨0, 0⟩⟩⟩]

def finding (name : String) (isComplete : Bool) (runs : Nat) : Extraction × Nat :=
  (⟨seen name, isComplete, 1⟩, runs + 1)

/-- A document is closed and opened again with the same version. The first lookup then is cut short,
the second one is not, and the third one is answered from the cache. -/
def reopened : List (Action Nat) :=
  [.lookup lua 1 (finding "old" true), .lookup lua 1 (finding "none" true), .close lua,
    .lookup lua 1 (finding "part" false), .clearClosed, .lookup lua 1 (finding "new" true),
    .lookup lua 1 (finding "none" true)]

def reopenedLog : List Event :=
  [.answer lua 1 (seen "old") (some ⟨seen "old", true, 1⟩), .answer lua 1 (seen "old") none,
    .ended lua, .answer lua 1 (seen "part") (some ⟨seen "part", false, 1⟩), .cleared,
    .answer lua 1 (seen "new") (some ⟨seen "new", true, 1⟩), .answer lua 1 (seen "new") none]

theorem hits_repeat_results_since_the_end_reopened :
    (∀ a ∈ reopened, a.Numbered) ∧ log empty 0 reopened = reopenedLog ∧
    (reopenedLog.take 3).getLast? = some (.ended lua) ∧ .ended lua ∉ reopenedLog.drop 3 ∧
    versions lua (reopenedLog.drop 3) = [1, 1, 1] ∧
    Found (reopenedLog.take 6) lua 1 (seen "new") ∧
    (reopenedLog.drop 3).countP (Event.isResult lua 1) ≤ 1 := by
  have numbered : ∀ a ∈ reopened, a.Numbered := by simp [reopened, Action.Numbered]
  have logged : log empty 0 reopened = reopenedLog := by decide +kernel
  obtain ⟨hits, results⟩ := hits_repeat_results_since_the_end reopened 0 numbered
  have found := hits (reopenedLog.take 6) lua 1 (seen "new") [] (by rw [logged]; rfl)
  have one := results (reopenedLog.take 3) (reopenedLog.drop 3) [] lua (by rw [logged]; rfl)
    (.inr (by decide)) (by decide) (by decide) 1
  exact ⟨numbered, logged, by decide, by decide, by decide, found, one⟩

end EventXref.Cache
