import EventXref.Proofs.Tokenizer

/-!
Readers that are late. An editor leads a document from snapshot to snapshot, and readers ask about
any snapshot there has been. A question about an older one makes the stored states those of the
older one; the answers stay right as long as every batch meets states of the snapshot it starts
from, or notices by the line count that it does not.
-/
namespace EventXref

namespace Grammar

variable {σ : Type} {g : Grammar σ} {d : Document} {p : Position}

theorem Shows.eq_scopeAt {answer : Option ScopeInfo} (shows : g.Shows d p answer) :
    answer = g.scopeAt d p := by
  unfold scopeAt LineStates.describe LineStates.pick
  cases answer with
  | none =>
    have empty : (g.tokens d.lines).getD (d.clamp p).line [] = [] := shows
    rw [empty]
    rfl
  | some info =>
    obtain ⟨token, place, span, text, scopes⟩ := shows
    have picked : (((g.tokens d.lines).getD (d.clamp p).line []).find?
        (·.contains (d.clamp p).column)).or
          ((g.tokens d.lines).getD (d.clamp p).line []).getLast? = some token := by
      rcases place with here | ⟨misses, last⟩
      · rw [here, Option.some_or]
      · rw [List.find?_eq_none.mpr (by simpa using misses), Option.none_or, last]
    rw [picked, Option.map_some, ← span, ← text, ← scopes]

end Grammar

namespace LineStates

variable {σ : Type} [DecidableEq σ]

theorem reparseRanges_grammar (s : LineStates σ) (d : Document) (ranges : List (Nat × Nat)) :
    (s.reparseRanges d ranges).1.grammar = s.grammar := by
  induction ranges generalizing s with
  | nil => rfl
  | cons range ranges ih => exact ih _

theorem change_grammar (s : LineStates σ) (d : Document) (changes : List Change) :
    (s.change d changes).1.grammar = s.grammar := by
  simp only [change]
  split
  · rfl
  split
  · rfl
  · exact reparseRanges_grammar _ d _

theorem change_of_misfit {s : LineStates σ} {d : Document} {changes : List Change}
    (newer : s.version < d.version)
    (misfit : ((Change.lastFirst changes).foldl splice s.slots).length ≠ d.lineCount) :
    (s.change d changes).1 = s.reset d := by
  simp [change, reset, misfit, Int.not_le.mpr newer]

end LineStates

namespace Tokenizer

variable {σ : Type} {t t' : Tokenizer σ} {files : FileTree} {d d' : Document} {s : LineStates σ}
  {g : Grammar σ} {history : List Document}

theorem Begins.unique {s' : LineStates σ} (begins : t.Begins files d s)
    (begins' : t.Begins files d s') : s = s' := by
  obtain ⟨-, ⟨s₀, -, unique⟩ | ⟨e, -, never⟩⟩ := entry_cases t files d
  · rw [(unique s).mp begins, (unique s').mp begins']
  · exact absurd begins (never s)

def Reads (t : Tokenizer σ) (files : FileTree) (d : Document) (g : Grammar σ) : Prop :=
  ∃ s, t.Begins files d s ∧ s.grammar = g

theorem Reads.grammar (reads : t.Reads files d g) (begins : t.Begins files d s) :
    s.grammar = g := by
  obtain ⟨s', begins', same⟩ := reads
  rw [begins.unique begins', same]

def Tracks (t : Tokenizer σ) (u : Uri) (g : Grammar σ) : Prop :=
  ∃ s, t.documents[u]? = some s ∧ s.grammar = g

theorem Tracks.reads (tracks : t.Tracks d.uri g) (files : FileTree) : t.Reads files d g := by
  obtain ⟨s, stored, grammar⟩ := tracks
  exact ⟨s, .inl stored, grammar⟩

theorem Reads.tracks {f : LineStates σ → LineStates σ} (reads : t.Reads files d g)
    (updates : t.Updates files d f t') (grammar : ∀ s, (f s).grammar = s.grammar) :
    t'.Tracks d.uri g := by
  obtain ⟨s, begins, same⟩ := reads
  refine ⟨f s, ?_, (grammar s).trans same⟩
  rw [updates.stored s begins, Std.ExtTreeMap.getElem?_insert_self]

/-- A batch meets the states of the snapshot it starts from, or it notices that it does not: the
line count of what it makes of them is not that of the next snapshot. -/
def Meets (t : Tokenizer σ) (d d' : Document) (changes : List Change) : Prop :=
  ∀ s, t.documents[d.uri]? = some s → s.version = d.version ∨
    ((Change.lastFirst changes).foldl LineStates.splice s.slots).length ≠ d'.lineCount

theorem meets_of_version {changes : List Change}
    (stored : t.documents[d.uri]?.map LineStates.version = some d.version) :
    t.Meets d d' changes := by
  intro s here
  rw [here] at stored
  exact .inl (Option.some.inj stored)

/-- The snapshots are of one document, each newer than those behind it, and what is stored of the
document are right states of one of them. -/
structure Keeps (g : Grammar σ) (t : Tokenizer σ) (history : List Document) : Prop where
  uri : ∀ d ∈ history, ∀ d' ∈ history, d.uri = d'.uri
  newer : history.Pairwise fun d d' => d'.version < d.version
  stored : ∀ d ∈ history, ∀ s, t.documents[d.uri]? = some s →
    s.grammar = g ∧ ∃ a ∈ history, s.Sound a ∧ LineStates.Gapless s.slots

theorem Keeps.eq_of_version (keeps : Keeps g t history) (here : d ∈ history) (there : d' ∈ history)
    (same : d.version = d'.version) : d = d' := by
  have newer := List.pairwise_iff_getElem.mp keeps.newer
  obtain ⟨i, inside, rfl⟩ := List.getElem_of_mem here
  obtain ⟨j, inside', rfl⟩ := List.getElem_of_mem there
  rcases Nat.lt_trichotomy i j with before | rfl | after
  · have := newer i j inside inside' before
    omega
  · rfl
  · have := newer j i inside' inside after
    omega

/-- Whatever snapshot a question is about, it is answered from right states of it. -/
theorem Keeps.begins (keeps : Keeps g t history) (here : d ∈ history)
    (begins : t.Begins files d s) : (s.sync d).Sound d ∧ LineStates.Gapless (s.sync d).slots := by
  rcases begins with stored | ⟨-, g, -, rfl⟩
  · obtain ⟨-, a, there, sound, gapless⟩ := keeps.stored d here s stored
    unfold LineStates.sync
    split
    · rename_i fits
      have same : a = d := keeps.eq_of_version there here (sound.version.symm.trans fits.1)
      exact ⟨same ▸ sound, gapless⟩
    · exact ⟨LineStates.reset_sound s d, LineStates.gapless_unread _⟩
  · have sound := LineStates.fresh_sound g d
    rw [sound.sync_eq]
    exact ⟨sound, LineStates.gapless_unread _⟩

theorem Keeps.updates {f : LineStates σ → LineStates σ} (keeps : Keeps g t history)
    (here : d ∈ history) (reads : t.Reads files d g) (updates : t.Updates files d f t')
    (grammar : ∀ s, (f s).grammar = s.grammar)
    (right : ∀ s, (s.sync d).Sound d → LineStates.Gapless (s.sync d).slots →
      (f s).Sound d ∧ LineStates.Gapless (f s).slots) : Keeps g t' history := by
  refine ⟨keeps.uri, keeps.newer, ?_⟩
  intro a there s' stored
  rw [keeps.uri a there d here] at stored
  obtain ⟨s, begins, rfl⟩ := updates.origin stored
  obtain ⟨sound, gapless⟩ := keeps.begins here begins
  exact ⟨(grammar s).trans (reads.grammar begins), d, here, right s sound gapless⟩

def knowing (g : Grammar σ) : Tokenizer σ :=
  new ⟨[⟨"lua", [], "source.lua", .builtin⟩], 0⟩ ⟨fun _ _ => .ok g⟩

theorem knowing_reads (g : Grammar σ) (files : FileTree) (lua : d.language = "lua") :
    (knowing g).Reads files d g := by
  refine ⟨LineStates.fresh g d, .inr ⟨by simp [knowing, new], g, ?_, rfl⟩, rfl⟩
  simp [lua, knowing, new, Registry.request, Registry.new, Provider.scopeOf?, Registry.load,
    Registry.fetch, Provider.source, Provider.origin?, Provider.isFile]

variable [DecidableEq σ]

theorem Tracks.change (tracks : t.Tracks d.uri g) (changes : List Change) :
    (t.change d changes).Tracks d.uri g := by
  obtain ⟨s, stored, grammar⟩ := tracks
  refine ⟨(s.change d changes).1, ?_, (LineStates.change_grammar s d changes).trans grammar⟩
  rw [change_documents t d changes stored, Std.ExtTreeMap.getElem?_insert_self]

/-- An editor and readers have worked on a document with one grammar, in any order. The history has
all snapshots, the last one first; a batch is carried out where `allowed` lets it. -/
inductive Shared (g : Grammar σ)
    (allowed : Tokenizer σ → Document → Document → List Change → Prop) :
    Tokenizer σ → List Document → Prop
  | started (t : Tokenizer σ) (d : Document) : t.documents[d.uri]? = none → Shared g allowed t [d]
  | elsewhere (t t' : Tokenizer σ) (d : Document) (older : List Document) :
      Shared g allowed t (d :: older) → t'.documents[d.uri]? = t.documents[d.uri]? →
      Shared g allowed t' (d :: older)
  | opened (t : Tokenizer σ) (files : FileTree) (d : Document) : Shared g allowed t [d] →
      t.Reads files d g → Shared g allowed (t.openDocument files d).2 [d]
  | ensured (t : Tokenizer σ) (files : FileTree) (d : Document) (first stop : Nat)
      (history : List Document) : Shared g allowed t history → d ∈ history → t.Reads files d g →
      Shared g allowed (t.ensure files d first stop).2 history
  | asked (t : Tokenizer σ) (files : FileTree) (d : Document) (p : Position)
      (history : List Document) : Shared g allowed t history → d ∈ history → t.Reads files d g →
      Shared g allowed (t.scopeAt files d p).2 history
  | edited (t : Tokenizer σ) (d d' : Document) (older : List Document) (changes : List Change) :
      Shared g allowed t (d :: older) → d.Admits changes → d.edit changes = .ok d' →
      allowed t d d' changes → Shared g allowed (t.change d' changes) (d' :: d :: older)

theorem Keeps.change {older : List Document} {changes : List Change}
    (keeps : Keeps g t (d :: older)) (admits : d.Admits changes)
    (edited : d.edit changes = .ok d') (meets : t.Meets d d' changes) :
    Keeps g (t.change d' changes) (d' :: d :: older) := by
  obtain ⟨uri, -, version⟩ := Document.edit_keeps edited
  have first : d ∈ d :: older := .head _
  have all : ∀ a ∈ d' :: d :: older, a.uri = d'.uri := by
    intro a there
    rcases List.mem_cons.mp there with rfl | behind
    · rfl
    · exact (keeps.uri a behind d first).trans uri.symm
  have newest : ∀ a ∈ d :: older, a.version < d'.version := by
    intro a there
    rcases List.mem_cons.mp there with rfl | behind
    · omega
    · have := (List.pairwise_cons.mp keeps.newer).1 a behind
      omega
  refine ⟨?_, List.pairwise_cons.mpr ⟨newest, keeps.newer⟩, ?_⟩
  · intro a there b there'
    rw [all a there, all b there']
  · intro a there s' stored
    rw [all a there] at stored
    cases tracked : t.documents[d'.uri]? with
    | none => simp [Tokenizer.change, tracked] at stored
    | some s =>
      rw [change_documents t d' changes tracked, Std.ExtTreeMap.getElem?_insert_self] at stored
      cases Option.some.inj stored
      obtain ⟨grammar, b, known, sound, gapless⟩ := keeps.stored d first s (uri ▸ tracked)
      -- The states may be those of any snapshot before; only what `Meets` says makes them fit.
      rcases meets s (uri ▸ tracked) with inTime | misfit
      · have here : b = d := keeps.eq_of_version known first (sound.version.symm.trans inTime)
        subst here
        obtain ⟨sound', gapless', grammar'⟩ := sound.change gapless admits edited
        exact ⟨grammar'.trans grammar, d', .head _, sound', gapless'⟩
      · have newer : s.version < d'.version := sound.version ▸ newest b known
        rw [LineStates.change_of_misfit newer misfit]
        exact ⟨grammar, d', .head _, LineStates.reset_sound s d', LineStates.gapless_unread _⟩

theorem Shared.keeps (shared : Shared g Meets t history) : Keeps g t history := by
  induction shared with
  | started t d untracked =>
    refine ⟨by simp, by simp, ?_⟩
    intro a here s stored
    rw [List.mem_singleton.mp here, untracked] at stored
    cases stored
  | elsewhere t t' d older _ same keeps =>
    refine ⟨keeps.uri, keeps.newer, ?_⟩
    intro a here s stored
    rw [keeps.uri a here d (.head _), same] at stored
    exact keeps.stored d (.head _) s stored
  | opened t files d _ reads keeps =>
    refine keeps.updates (.head _) reads (openDocument_updates t files d)
      (fun s => LineStates.sync_grammar s d) ?_
    intro s _ _
    obtain ⟨sound, complete⟩ := LineStates.reparseAll_sync s d
    exact ⟨sound, complete.gapless⟩
  | ensured t files d first stop history _ here reads keeps =>
    refine keeps.updates here reads (ensure_updates t files d first stop)
      (fun s => LineStates.sync_grammar s d) ?_
    intro s sound gapless
    exact ⟨sound.reparse first stop, sound.reparse_gapless gapless first stop⟩
  | asked t files d p history _ here reads keeps =>
    refine keeps.updates here reads (scopeAt_updates t files d p)
      (fun s => s.tokensAt_sync_grammar d _) ?_
    intro s sound gapless
    obtain ⟨-, sound', gapless'⟩ := sound.tokensAt (d.clamp_line_lt p)
    exact ⟨sound', gapless' gapless⟩
  | edited t d d' older changes _ admits edited meets keeps =>
    exact keeps.change admits edited meets

/-- However an editor and readers of old and new snapshots take turns, every question about any of
the snapshots is answered as if that snapshot was read from scratch, as long as every batch meets
states of the snapshot it starts from or notices that it does not. -/
theorem late_readers_are_answered_right (shared : Shared g Meets t history) (here : d ∈ history)
    (reads : t.Reads files d g) (p : Position) : g.Shows d p (t.scopeAt files d p).1 := by
  obtain ⟨s, begins, grammar⟩ := reads
  obtain ⟨sound, -⟩ := shared.keeps.begins here begins
  rw [scopeAt_answer begins, (sound.tokensAt (d.clamp_line_lt p)).1, LineStates.sync_grammar,
    grammar]
  exact g.shows_scopeAt d p

/-- A comment has been opened, and then somebody asked about the text before. -/
def lateRead : Tokenizer GrammarState :=
  ((((knowing dashes).openDocument (.folder []) plain).2.change opened comment).scopeAt
    (.folder []) plain ⟨2, 0⟩).2

theorem lateRead_tracks : lateRead.Tracks opened.uri dashes := by
  have start := (knowing_reads dashes (.folder []) (d := plain) rfl).tracks
    (openDocument_updates _ _ _) (fun s => LineStates.sync_grammar s plain)
  have commented : Tracks _ opened.uri dashes := start.change (d := opened) comment
  exact (commented.reads (d := plain) (.folder [])).tracks (scopeAt_updates _ _ _ _)
    fun s => s.tokensAt_sync_grammar plain _

/-- The last line becomes a call, inside of the comment. -/
def called : Document := snapshot 3 "x--[[\ny\nf()"

def call : List Change := [⟨⟨⟨2, 0⟩, ⟨2, 1⟩⟩, ['f', '(', ')']⟩]

theorem lateRead_shared
    {allowed : Tokenizer GrammarState → Document → Document → List Change → Prop}
    (may : allowed ((knowing dashes).openDocument (.folder []) plain).2 plain opened comment) :
    Shared dashes allowed lateRead [opened, plain] := by
  have reads := knowing_reads dashes (.folder []) (d := plain) rfl
  have start : Shared dashes allowed (knowing dashes) [plain] :=
    .started _ _ (by simp [knowing, new])
  have typed : Shared dashes allowed _ [opened, plain] :=
    .edited _ _ _ _ comment (.opened _ (.folder []) _ start reads)
      ⟨by decide, by decide, by decide⟩ (by rfl) may
  have tracks := (reads.tracks (openDocument_updates _ _ _)
    (fun s => LineStates.sync_grammar s plain)).change (d := opened) comment
  exact .asked _ (.folder []) plain ⟨2, 0⟩ _ typed (by simp) (tracks.reads (d := plain) _)

/-- Somebody asks about the text with the comment before the next batch comes, so that it meets the
states it has to. -/
theorem late_readers_are_answered_right_in_time :
    ∃ t, Shared dashes Meets t [called, opened, plain] ∧
      t.Reads (.folder []) called dashes ∧ t.Reads (.folder []) plain dashes ∧
      dashes.Shows called ⟨2, 0⟩ (t.scopeAt (.folder []) called ⟨2, 0⟩).1 ∧
      dashes.Shows plain ⟨2, 0⟩ (t.scopeAt (.folder []) plain ⟨2, 0⟩).1 := by
  have late : Shared dashes Meets lateRead [opened, plain] :=
    lateRead_shared (meets_of_version (by decide +kernel))
  have reads := lateRead_tracks.reads (d := opened) (.folder [])
  have back := Shared.asked _ (.folder []) opened ⟨2, 0⟩ _ late (by simp) reads
  have shared : Shared dashes Meets _ [called, opened, plain] :=
    .edited _ _ _ _ call back ⟨by decide, by decide, by decide⟩ (by rfl)
      (meets_of_version (by decide +kernel))
  have tracks := (reads.tracks (scopeAt_updates _ _ _ ⟨2, 0⟩)
    (fun s => s.tokensAt_sync_grammar opened _)).change (d := called) call
  have current := tracks.reads (d := called) (.folder [])
  have older := tracks.reads (d := plain) (.folder [])
  exact ⟨_, shared, current, older,
    late_readers_are_answered_right shared (by simp) current ⟨2, 0⟩,
    late_readers_are_answered_right shared (by simp) older ⟨2, 0⟩⟩

/-- Otherwise the batch meets states of the text before the comment. The line count fits, and the
call inside of the comment is taken for one. -/
theorem late_reader_hides_a_comment :
    ∃ t, Shared dashes (fun _ _ _ _ => True) t [called, opened, plain] ∧
      t.Reads (.folder []) called dashes ∧
      ¬ dashes.Shows called ⟨2, 0⟩ (t.scopeAt (.folder []) called ⟨2, 0⟩).1 := by
  have shared : Shared dashes (fun _ _ _ _ => True) _ [called, opened, plain] :=
    .edited _ _ _ _ call (lateRead_shared trivial) ⟨by decide, by decide, by decide⟩ (by rfl)
      trivial
  have tracks := lateRead_tracks.change (d := called) call
  refine ⟨_, shared, tracks.reads (.folder []), ?_⟩
  intro shows
  have answer : ((lateRead.change called call).scopeAt (.folder []) called ⟨2, 0⟩).1 ≠
      dashes.scopeAt called ⟨2, 0⟩ := by decide +kernel
  exact answer shows.eq_scopeAt

end Tokenizer

end EventXref
