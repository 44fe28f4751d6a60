import EventXref.Grammar.Marker
import EventXref.Proofs.Incremental
import EventXref.Tokenizer

/-!
A tokenizer answers as if it read every document from scratch. Its operations on a document and on
the documents that admitted batches make of it lead from sound line states to sound line states, and
an answer about a position depends on the document and its grammar alone.
-/
namespace EventXref

namespace Grammar

variable {σ : Type}

/-- What a position shows when the document is read from scratch: the first token of its line that
reaches over it, else the last token of the line, else nothing. -/
def Shows (g : Grammar σ) (d : Document) (p : Position) : Option ScopeInfo → Prop
  | none => (g.tokens d.lines).getD (d.clamp p).line [] = []
  | some info => ∃ token,
      (((g.tokens d.lines).getD (d.clamp p).line []).find? (·.contains (d.clamp p).column) =
          some token ∨
        (∀ other ∈ (g.tokens d.lines).getD (d.clamp p).line [],
          other.contains (d.clamp p).column = false) ∧
        ((g.tokens d.lines).getD (d.clamp p).line []).getLast? = some token) ∧
      info.span = Span.onLine (d.clamp p).line token.start token.stop ∧
      info.text = (Text.slice? token.start token.stop (d.line (d.clamp p).line)).getD [] ∧
      info.scopes = token.scopes

def scopeAt (g : Grammar σ) (d : Document) (p : Position) : Option ScopeInfo :=
  LineStates.describe d (d.clamp p) ((g.tokens d.lines).getD (d.clamp p).line [])

theorem shows_scopeAt (g : Grammar σ) (d : Document) (p : Position) :
    g.Shows d p (g.scopeAt d p) := by
  unfold scopeAt LineStates.describe LineStates.pick
  cases found : ((g.tokens d.lines).getD (d.clamp p).line []).find?
      (·.contains (d.clamp p).column) with
  | some token => exact ⟨token, .inl found, rfl, rfl, rfl⟩
  | none =>
    have misses := List.find?_eq_none.mp found
    cases last : ((g.tokens d.lines).getD (d.clamp p).line []).getLast? with
    | none => exact List.getLast?_eq_none_iff.mp last
    | some token =>
      refine ⟨token, .inr ⟨?_, last⟩, rfl, rfl, rfl⟩
      intro other member
      simpa using misses other member

end Grammar

theorem Document.clamp_line_lt (d : Document) (p : Position) : (d.clamp p).line < d.lineCount := by
  simp only [clamp, lineCount]
  omega

namespace Tokenizer

variable {σ : Type} {t t' : Tokenizer σ} {files : FileTree} {d d' : Document} {s : LineStates σ}

/-- The states from which a tokenizer answers for a document: those it stores, else new ones of the
grammar of the document's language. -/
def Begins (t : Tokenizer σ) (files : FileTree) (d : Document) (s : LineStates σ) : Prop :=
  t.documents[d.uri]? = some s ∨
    t.documents[d.uri]? = none ∧
      ∃ g, (t.registry.request files d.language).1 = .ok g ∧ s = LineStates.fresh g d

/-- All that an operation on a document does to the stored states: it stores what `f` makes of the
states that the document begins with. -/
structure Updates (t : Tokenizer σ) (files : FileTree) (d : Document)
    (f : LineStates σ → LineStates σ) (t' : Tokenizer σ) : Prop where
  stored : ∀ s, t.Begins files d s → t'.documents = t.documents.insert d.uri (f s)
  kept : (∀ s, ¬ t.Begins files d s) → t'.documents = t.documents

theorem entry_cases (t : Tokenizer σ) (files : FileTree) (d : Document) :
    (t.entry files d).2.documents = t.documents ∧
      ((∃ s, (t.entry files d).1 = .ok s ∧ ∀ s', t.Begins files d s' ↔ s' = s) ∨
        ∃ e, (t.entry files d).1 = .error e ∧ ∀ s, ¬ t.Begins files d s) := by
  unfold Tokenizer.entry Begins
  cases tracked : t.documents[d.uri]? with
  | some s => simp [eq_comm]
  | none =>
    refine ⟨rfl, ?_⟩
    cases answer : (t.registry.request files d.language).1 with
    | error e => simp [answer, Except.map]
    | ok g => simp [answer, Except.map]

theorem updates_of_entry {f : LineStates σ → LineStates σ}
    (done : ∀ s, (t.entry files d).1 = .ok s →
      t'.documents = (t.entry files d).2.documents.insert d.uri (f s))
    (failed : ∀ e, (t.entry files d).1 = .error e → t'.documents = (t.entry files d).2.documents) :
    t.Updates files d f t' := by
  obtain ⟨same, ⟨s, answer, unique⟩ | ⟨e, answer, never⟩⟩ := entry_cases t files d
  · constructor
    · intro s' begins
      rw [(unique s').mp begins, done s answer, same]
    · intro never
      exact absurd ((unique s).mpr rfl) (never s)
  · constructor
    · intro s begins
      exact absurd begins (never s)
    · intro _
      rw [failed e answer, same]

theorem yieldAfter_documents (t : Tokenizer σ) (n : Nat) :
    (t.yieldAfter n).documents = t.documents := by
  unfold yieldAfter
  split <;> rfl

/-- All that is stored of the document is right, and no line before a read one is unread. -/
def Settled (t : Tokenizer σ) (d : Document) : Prop :=
  ∀ s, t.documents[d.uri]? = some s → s.Sound d ∧ LineStates.Gapless s.slots

theorem Settled.begins (settled : t.Settled d) (begins : t.Begins files d s) :
    s.Sound d ∧ LineStates.Gapless s.slots := by
  rcases begins with stored | ⟨-, g, -, rfl⟩
  · exact settled s stored
  · exact ⟨LineStates.fresh_sound g d, LineStates.gapless_unread _⟩

theorem Updates.origin {f : LineStates σ → LineStates σ} (updates : t.Updates files d f t')
    {s' : LineStates σ} (stored : t'.documents[d.uri]? = some s') :
    ∃ s, t.Begins files d s ∧ s' = f s := by
  by_cases begun : ∃ s, t.Begins files d s
  · obtain ⟨s, begins⟩ := begun
    rw [updates.stored s begins, Std.ExtTreeMap.getElem?_insert_self] at stored
    exact ⟨s, begins, (Option.some.inj stored).symm⟩
  · have never := not_exists.mp begun
    rw [updates.kept never] at stored
    exact absurd (.inl stored) (never s')

theorem Updates.others {f : LineStates σ → LineStates σ} (updates : t.Updates files d f t')
    {u : Uri} (other : u ≠ d.uri) : t'.documents[u]? = t.documents[u]? := by
  by_cases begun : ∃ s, t.Begins files d s
  · obtain ⟨s, begins⟩ := begun
    rw [updates.stored s begins, Std.ExtTreeMap.getElem?_insert, if_neg (by simpa using other.symm)]
  · rw [updates.kept (not_exists.mp begun)]

theorem Settled.updates {f : LineStates σ → LineStates σ} (settled : t.Settled d)
    (updates : t.Updates files d f t')
    (keeps : ∀ s, s.Sound d → LineStates.Gapless s.slots →
      (f s).Sound d ∧ LineStates.Gapless (f s).slots) : t'.Settled d := by
  intro s' stored
  obtain ⟨s, begins, rfl⟩ := updates.origin stored
  obtain ⟨sound, gapless⟩ := settled.begins begins
  exact keeps s sound gapless

theorem settled_of_untracked (untracked : t.documents[d.uri]? = none) : t.Settled d := by
  intro s stored
  rw [untracked] at stored
  cases stored

/-- The tokenizer holds right states of the document, read by `g`, whose slots satisfy `P`. -/
def Holds (t : Tokenizer σ) (d : Document) (g : Grammar σ) (P : List (Option σ) → Prop) : Prop :=
  ∃ s, t.documents[d.uri]? = some s ∧ s.grammar = g ∧ s.Sound d ∧ P s.slots

theorem Updates.holds {f : LineStates σ → LineStates σ} {P : List (Option σ) → Prop}
    (updates : t.Updates files d f t') (begins : t.Begins files d s)
    (grammar : (f s).grammar = s.grammar) (sound : (f s).Sound d) (slots : P (f s).slots) :
    t'.Holds d s.grammar P := by
  refine ⟨f s, ?_, grammar, sound, slots⟩
  rw [updates.stored s begins, Std.ExtTreeMap.getElem?_insert_self]

/-- A tokenizer that has these states of a document, and no grammar to read another one with. -/
def keeping (s : LineStates σ) (d : Document) : Tokenizer σ :=
  (new ⟨[], 0⟩ ⟨fun scope _ => .error (.notFound scope)⟩).store d.uri s []

theorem keeping_tracks (s : LineStates σ) (d : Document) :
    (keeping s d).documents[d.uri]? = some s := Std.ExtTreeMap.getElem?_insert_self

variable [DecidableEq σ]

theorem openDocument_updates (t : Tokenizer σ) (files : FileTree) (d : Document) :
    t.Updates files d (fun s => ((s.sync d).reparseAll d).states) (t.openDocument files d).2 := by
  apply updates_of_entry
  · intro s answer
    unfold openDocument
    split <;> simp_all [store]
  · intro e answer
    unfold openDocument
    split <;> simp_all

theorem refresh_updates (t : Tokenizer σ) (files : FileTree) (d : Document) :
    t.Updates files d (fun s => ((s.reset d).reparseAll d).states) (t.refresh files d).2 := by
  apply updates_of_entry
  · intro s answer
    unfold refresh
    split <;> simp_all [store]
  · intro e answer
    unfold refresh
    split <;> simp_all

theorem ensure_updates (t : Tokenizer σ) (files : FileTree) (d : Document) (first stop : Nat) :
    t.Updates files d (fun s => ((s.sync d).reparse d first stop).states)
      (t.ensure files d first stop).2 := by
  apply updates_of_entry
  · intro s answer
    unfold ensure
    split <;> simp_all [store]
  · intro e answer
    unfold ensure
    split <;> simp_all

theorem scopeAt_updates (t : Tokenizer σ) (files : FileTree) (d : Document) (p : Position) :
    t.Updates files d (fun s => ((s.sync d).tokensAt d (d.clamp p).line).2.1)
      (t.scopeAt files d p).2 := by
  apply updates_of_entry
  · intro s answer
    unfold scopeAt
    split <;> simp_all [store, yieldAfter_documents]
  · intro e answer
    unfold scopeAt
    split <;> simp_all

theorem openDocument_ok (begins : t.Begins files d s) : (t.openDocument files d).1 = .ok () := by
  obtain ⟨-, ⟨s', answer, -⟩ | ⟨e, -, never⟩⟩ := entry_cases t files d
  · unfold openDocument
    split <;> simp_all
  · exact absurd begins (never s)

theorem refresh_ok (begins : t.Begins files d s) : (t.refresh files d).1 = .ok () := by
  obtain ⟨-, ⟨s', answer, -⟩ | ⟨e, -, never⟩⟩ := entry_cases t files d
  · unfold refresh
    split <;> simp_all
  · exact absurd begins (never s)

theorem ensure_ok (begins : t.Begins files d s) (first stop : Nat) :
    (t.ensure files d first stop).1 = .ok ((s.sync d).reparse d first stop).changed := by
  obtain ⟨-, ⟨s', answer, unique⟩ | ⟨e, -, never⟩⟩ := entry_cases t files d
  · have same := (unique s).mp begins
    unfold ensure
    split <;> simp_all
  · exact absurd begins (never s)

theorem scopeAt_answer (begins : t.Begins files d s) (p : Position) :
    (t.scopeAt files d p).1 =
      LineStates.describe d (d.clamp p) ((s.sync d).tokensAt d (d.clamp p).line).1 := by
  obtain ⟨-, ⟨s', answer, unique⟩ | ⟨e, -, never⟩⟩ := entry_cases t files d
  · have same := (unique s).mp begins
    unfold scopeAt
    split <;> simp_all
  · exact absurd begins (never s)

theorem scopeAt_of_none (never : ∀ s, ¬ t.Begins files d s) (p : Position) :
    (t.scopeAt files d p).1 = none := by
  obtain ⟨-, ⟨s, -, unique⟩ | ⟨e, answer, -⟩⟩ := entry_cases t files d
  · exact absurd ((unique s).mpr rfl) (never s)
  · unfold scopeAt
    split <;> simp_all

theorem scopeAt_of_sound (begins : t.Begins files d s) (sound : s.Sound d) (p : Position) :
    (t.scopeAt files d p).1 = s.grammar.scopeAt d p := by
  rw [scopeAt_answer begins, sound.sync_eq, (sound.tokensAt (d.clamp_line_lt p)).1]
  rfl

theorem change_documents (t : Tokenizer σ) (d : Document) (changes : List Change)
    (tracked : t.documents[d.uri]? = some s) :
    (t.change d changes).documents = t.documents.insert d.uri (s.change d changes).1 := by
  simp [change, tracked, store]

theorem settled_openDocument (t : Tokenizer σ) (files : FileTree) (d : Document) :
    (t.openDocument files d).2.Settled d := by
  intro s' stored
  obtain ⟨s, -, rfl⟩ := (openDocument_updates t files d).origin stored
  obtain ⟨sound, complete⟩ := LineStates.reparseAll_sync s d
  exact ⟨sound, complete.gapless⟩

theorem settled_refresh (t : Tokenizer σ) (files : FileTree) (d : Document) :
    (t.refresh files d).2.Settled d := by
  intro s' stored
  obtain ⟨s, -, rfl⟩ := (refresh_updates t files d).origin stored
  obtain ⟨sound, complete⟩ := LineStates.reparseAll_reset s d
  exact ⟨sound, complete.gapless⟩

theorem Settled.ensure (settled : t.Settled d) (files : FileTree) (first stop : Nat) :
    (t.ensure files d first stop).2.Settled d := by
  apply settled.updates (ensure_updates t files d first stop)
  intro s sound gapless
  rw [sound.sync_eq]
  exact ⟨sound.reparse first stop, sound.reparse_gapless gapless first stop⟩

theorem Settled.scopeAt (settled : t.Settled d) (files : FileTree) (p : Position) :
    (t.scopeAt files d p).2.Settled d := by
  apply settled.updates (scopeAt_updates t files d p)
  intro s sound gapless
  obtain ⟨-, sound', keeps⟩ := sound.tokensAt (d.clamp_line_lt p)
  rw [sound.sync_eq]
  exact ⟨sound', keeps gapless⟩

theorem Settled.change {changes : List Change} (settled : t.Settled d) (admits : d.Admits changes)
    (edited : d.edit changes = .ok d') : (t.change d' changes).Settled d' := by
  have same : d'.uri = d.uri := (Document.edit_keeps edited).1
  intro s' stored
  cases tracked : t.documents[d'.uri]? with
  | none => simp [Tokenizer.change, tracked] at stored
  | some s =>
    rw [change_documents t d' changes tracked, Std.ExtTreeMap.getElem?_insert_self] at stored
    cases Option.some.inj stored
    obtain ⟨sound, gapless⟩ := settled s (same ▸ tracked)
    obtain ⟨sound', gapless', -⟩ := sound.change gapless admits edited
    exact ⟨sound', gapless'⟩

/-- The tokenizer has been with the document up to this snapshot: it began without states of it, and
since then took part in every batch, answered questions about the snapshot of the time, or did what
leaves the states of the document alone. -/
inductive Follows : Tokenizer σ → Document → Prop
  | untracked (t : Tokenizer σ) (d : Document) : t.documents[d.uri]? = none → Follows t d
  | elsewhere (t t' : Tokenizer σ) (d : Document) : Follows t d →
      t'.documents[d.uri]? = t.documents[d.uri]? → Follows t' d
  | opened (t : Tokenizer σ) (d : Document) (files : FileTree) : Follows t d →
      Follows (t.openDocument files d).2 d
  | refreshed (t : Tokenizer σ) (d : Document) (files : FileTree) : Follows t d →
      Follows (t.refresh files d).2 d
  | ensured (t : Tokenizer σ) (d : Document) (files : FileTree) (first stop : Nat) : Follows t d →
      Follows (t.ensure files d first stop).2 d
  | asked (t : Tokenizer σ) (d : Document) (files : FileTree) (p : Position) : Follows t d →
      Follows (t.scopeAt files d p).2 d
  | changed (t : Tokenizer σ) (d d' : Document) (changes : List Change) : Follows t d →
      d.Admits changes → d.edit changes = .ok d' → Follows (t.change d' changes) d'

theorem Follows.settled (follows : t.Follows d) : t.Settled d := by
  induction follows with
  | untracked t d none => exact settled_of_untracked none
  | elsewhere t t' d _ same settled =>
    intro s stored
    exact settled s (same ▸ stored)
  | opened t d files => exact settled_openDocument t files d
  | refreshed t d files => exact settled_refresh t files d
  | ensured t d files first stop _ settled => exact settled.ensure files first stop
  | asked t d files p _ settled => exact settled.scopeAt files p
  | changed t d d' changes _ admits edited settled => exact settled.change admits edited

/-- Opening and refreshing leave right states for all lines, whatever was stored; reading a range
and asking for a position keep right states right, and the answer is that of reading from scratch;
and so does following an admitted batch, as states are when the tokenizer was with the document all
along. -/
theorem operations_keep_states_right (t : Tokenizer σ) (files : FileTree) (d : Document) :
    (∀ s, t.Begins files d s →
      (t.openDocument files d).1 = .ok () ∧
        (t.openDocument files d).2.Holds d s.grammar LineStates.Complete ∧
      (t.refresh files d).1 = .ok () ∧
        (t.refresh files d).2.Holds d s.grammar LineStates.Complete) ∧
    (∀ s, t.Begins files d s → s.Sound d →
      (∀ first stop, (∃ changed, (t.ensure files d first stop).1 = .ok changed) ∧
        (t.ensure files d first stop).2.Holds d s.grammar fun slots =>
          LineStates.Gapless s.slots → LineStates.Gapless slots) ∧
      ∀ p, s.grammar.Shows d p (t.scopeAt files d p).1 ∧
        (t.scopeAt files d p).2.Holds d s.grammar fun slots =>
          LineStates.Gapless s.slots → LineStates.Gapless slots) ∧
    (∀ s changes d', t.documents[d.uri]? = some s → s.Sound d → LineStates.Gapless s.slots →
      d.Admits changes → d.edit changes = .ok d' →
      (t.change d' changes).Holds d' s.grammar LineStates.Gapless) ∧
    (t.Follows d → ∀ s, t.documents[d.uri]? = some s → s.Sound d ∧ LineStates.Gapless s.slots) := by
  refine ⟨?_, ?_, ?_, fun follows => follows.settled⟩
  · intro s begins
    obtain ⟨sound, complete⟩ := LineStates.reparseAll_sync s d
    obtain ⟨sound', complete'⟩ := LineStates.reparseAll_reset s d
    exact ⟨openDocument_ok begins,
      (openDocument_updates t files d).holds begins (LineStates.sync_grammar s d) sound complete,
      refresh_ok begins, (refresh_updates t files d).holds begins rfl sound' complete'⟩
  · intro s begins sound
    constructor
    · intro first stop
      refine ⟨⟨_, ensure_ok begins first stop⟩, ?_⟩
      apply (ensure_updates t files d first stop).holds begins
      · exact LineStates.sync_grammar s d
      · rw [sound.sync_eq]
        exact sound.reparse first stop
      · intro gapless
        rw [sound.sync_eq]
        exact sound.reparse_gapless gapless first stop
    · intro p
      obtain ⟨-, sound', gapless⟩ := sound.tokensAt (d.clamp_line_lt p)
      rw [scopeAt_of_sound begins sound]
      refine ⟨s.grammar.shows_scopeAt d p, (scopeAt_updates t files d p).holds begins ?_ ?_ ?_⟩
      all_goals rw [sound.sync_eq]
      · exact LineStates.tokensAt_grammar s d _
      · exact sound'
      · exact gapless
  · intro s changes d' tracked sound gapless admits edited
    obtain ⟨sound', gapless', grammar⟩ := sound.change gapless admits edited
    have same : d'.uri = d.uri := (Document.edit_keeps edited).1
    refine ⟨(s.change d' changes).1, ?_, grammar, sound', gapless'⟩
    rw [change_documents t d' changes (same ▸ tracked), Std.ExtTreeMap.getElem?_insert_self]

def readOnce (g : Grammar σ) (d : Document) : LineStates σ :=
  ((LineStates.fresh g d).reparseAll d).states

theorem readOnce_sound (g : Grammar σ) (d : Document) :
    (readOnce g d).Sound d ∧ LineStates.Gapless (readOnce g d).slots := by
  obtain ⟨sound, complete⟩ :=
    LineStates.reparseAll_sound (LineStates.fresh_sound g d).version
      (LineStates.fresh_sound g d).length
  exact ⟨sound, complete.gapless⟩

/-- Two dashes start a comment; with brackets behind them it can reach over lines. -/
def dashes : Grammar GrammarState :=
  MarkerGrammar.toGrammar ⟨"source.lua", some "--".toList, some ("--[[".toList, "]]".toList)⟩

def snapshot (version : Int) (text : String) : Document :=
  ⟨⟨"file:///a.lua"⟩, "lua", version, text.toList⟩

def commented : Document := snapshot 1 "x --[[\nf() ]]\ny"

def uncommented : Document := snapshot 2 "x \nf() ]]\ng\nh"

/-- The comment is no longer opened, and the last line grows into two. -/
def uncomment : List Change :=
  [⟨⟨⟨0, 2⟩, ⟨0, 6⟩⟩, []⟩, ⟨⟨⟨2, 0⟩, ⟨2, 1⟩⟩, ['g', '\n', 'h']⟩]

theorem admits_uncomment :
    commented.Admits uncomment ∧ commented.edit uncomment = .ok uncommented :=
  ⟨⟨by decide, by decide, by decide⟩, by rfl⟩

theorem operations_keep_states_right_uncomment :
    commented.Admits uncomment ∧ commented.edit uncomment = .ok uncommented ∧
      ((keeping (readOnce dashes commented) commented).change uncommented uncomment).Holds
        uncommented dashes LineStates.Gapless := by
  obtain ⟨admits, edited⟩ := admits_uncomment
  have tracked := keeping_tracks (readOnce dashes commented) commented
  obtain ⟨sound, gapless⟩ := readOnce_sound dashes commented
  obtain ⟨-, -, follows, -⟩ :=
    operations_keep_states_right (keeping (readOnce dashes commented) commented) (.folder [])
      commented
  exact ⟨admits, edited, follows _ uncomment uncommented tracked sound gapless admits edited⟩

/-- A character of four bytes, and a comment that is opened before a carriage return. -/
def smiling : Document := snapshot 1 "😀\nf() --[[\ra"

def torn : Document := snapshot 2 "\rx\n😀\nf() --[[\r\na"

/-- Two insertions inside the first character, and one behind the carriage return. -/
def tear : List Change :=
  [⟨⟨⟨0, 1⟩, ⟨0, 1⟩⟩, ['x']⟩, ⟨⟨⟨0, 2⟩, ⟨0, 2⟩⟩, ['\r', '\n']⟩, ⟨⟨⟨2, 0⟩, ⟨2, 0⟩⟩, ['\n']⟩]

/-- The batch would be admitted if changes were not taken with the characters they start in. -/
structure TearsCharacter (d : Document) (changes : List Change) (d' : Document) : Prop where
  within : ∀ c ∈ changes, d.InContent c.span.start ∧ d.InContent c.span.stop
  distinct : changes.Pairwise fun a b => a.span.start ≠ b.span.start
  apart : changes.Pairwise Change.Apart
  edited : d.edit changes = .ok d'

theorem smiling_tears : TearsCharacter smiling tear torn :=
  ⟨by decide, by decide, by decide, by rfl⟩

/-- Following the batch leads from right states to wrong ones. -/
def Misleads (s : LineStates σ) (d : Document) (changes : List Change) (d' : Document) : Prop :=
  s.Sound d ∧ ∃ now,
    ((keeping s d).change d' changes).documents[d'.uri]? = some now ∧ ¬ now.Sound d'

theorem misleads_of_slot {s : LineStates σ} {changes : List Change} {i : Nat} {st right : σ}
    (sound : s.Sound d) (same : d'.uri = d.uri)
    (stored : (s.change d' changes).1.slots[i]? = some (some st))
    (read : ((s.change d' changes).1.grammar.states d'.lines)[i]? = some right)
    (differs : st ≠ right) : Misleads s d changes d' := by
  refine ⟨sound, (s.change d' changes).1, ?_, ?_⟩
  · have tracked : (keeping s d).documents[d'.uri]? = some s := same ▸ keeping_tracks s d
    rw [change_documents _ d' changes tracked, Std.ExtTreeMap.getElem?_insert_self]
  · intro now
    have known := now.states i st stored
    rw [read] at known
    exact differs (Option.some.inj known).symm

def plain : Document := snapshot 1 "x\ny\nz"

def opened : Document := snapshot 2 "x--[[\ny\nz"

/-- A comment is opened on the first line. -/
def comment : List Change := [⟨⟨⟨0, 1⟩, ⟨0, 1⟩⟩, ['-', '-', '[', '[']⟩]

/-- Only the last line has been read. -/
def gapped : LineStates GrammarState := ⟨dashes, 1, [none, none, some (.markers false)], 0⟩

theorem gapped_sound : gapped.Sound plain := by
  refine ⟨rfl, by decide, ?_⟩
  intro i st stored
  match i with
  | 0 => cases stored
  | 1 => cases stored
  | 2 =>
    cases stored
    decide +kernel
  | i + 3 => cases stored

/-- Changes inside one character need not overlap, yet one can fall into the text of the other. Here
that puts one line break more into the text, and a line feed that joins a carriage return takes one
away; the line count fits, and states move to lines they do not belong to. And where lines in
between have not been read, a state behind them stays although the text before it has changed. -/
theorem states_go_wrong_inside_a_character_or_behind_a_gap :
    (TearsCharacter smiling tear torn ∧ LineStates.Gapless (readOnce dashes smiling).slots ∧
      Misleads (readOnce dashes smiling) smiling tear torn) ∧
    plain.Admits comment ∧ plain.edit comment = .ok opened ∧
      Misleads gapped plain comment opened := by
  obtain ⟨sound, gapless⟩ := readOnce_sound dashes smiling
  refine ⟨⟨smiling_tears, gapless, ?_⟩, ⟨by decide, by decide, by decide⟩, by rfl, ?_⟩
  · have moved : ((readOnce dashes smiling).change torn tear).1.slots[2]? =
        some (some (.markers true)) := by decide +kernel
    have read : (((readOnce dashes smiling).change torn tear).1.grammar.states torn.lines)[2]? =
        some (.markers false) := by decide +kernel
    exact misleads_of_slot sound rfl moved read (by decide)
  · have kept : (gapped.change opened comment).1.slots[2]? = some (some (.markers false)) := by
      decide +kernel
    have read : ((gapped.change opened comment).1.grammar.states opened.lines)[2]? =
        some (.markers true) := by decide +kernel
    exact misleads_of_slot gapped_sound rfl kept read (by decide)

end Tokenizer

end EventXref
