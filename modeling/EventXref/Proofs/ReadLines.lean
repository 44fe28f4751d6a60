import EventXref.Proofs.Convergence
import EventXref.Proofs.LateReaders

/-!
Which lines have been read. Reading a range first makes up for what is missing before it and goes on
behind it only over lines that had been read, so that the lines that have been read stay the first
ones. A batch may put unread lines between them; these are new lines of its changes, and all new
lines are read.
-/
namespace EventXref

namespace LineStates

variable {σ : Type}

/-- Exactly the first `k` lines have been read. -/
def ReadUpTo (slots : List (Option σ)) (k : Nat) : Prop := ∀ i, IsRead slots i ↔ i < k

section Slots

variable {slots : List (Option σ)} {i k line : Nat}

theorem IsRead.lt (read : IsRead slots i) : i < slots.length := by
  obtain ⟨st, stored⟩ := read
  exact (List.getElem?_eq_some_iff.mp stored).1

theorem isRead_iff : IsRead slots i ↔ (slots.getD i none).isSome = true := by
  rw [IsRead, List.getD_eq_getElem?_getD]
  rcases slots[i]? with _ | _ | st <;> simp

theorem Gapless.isRead_of_le (gapless : Gapless slots) (read : IsRead slots k) (le : i ≤ k) :
    IsRead slots i := by
  induction k with
  | zero => rwa [Nat.le_zero.mp le]
  | succ k ih =>
    rcases Nat.le_or_eq_of_le_succ le with le | rfl
    · obtain ⟨st, stored⟩ := read
      exact ih (gapless k st stored) le
    · exact read

theorem Gapless.exists_readUpTo (gapless : Gapless slots) : ∃ k, ReadUpTo slots k := by
  have ends : ∀ n, (∀ i, IsRead slots i → i < n) → ∃ k, ReadUpTo slots k := by
    intro n
    induction n with
    | zero =>
      intro none
      exact ⟨0, fun i => ⟨none i, fun low => absurd low (Nat.not_lt_zero i)⟩⟩
    | succ n ih =>
      intro bound
      by_cases last : IsRead slots n
      · refine ⟨n + 1, fun i => ⟨bound i, ?_⟩⟩
        intro low
        exact gapless.isRead_of_le last (Nat.le_of_lt_succ low)
      · apply ih
        intro i read
        have other : i ≠ n := fun same => last (same ▸ read)
        have := bound i read
        omega
  exact ends slots.length fun i read => read.lt

end Slots

variable [DecidableEq σ] {s : LineStates σ} {d d' : Document} {first stop i k line : Nat}

omit [DecidableEq σ] in
/-- A range is read from its first line on, or from the first unread line if that comes before. -/
theorem ReadUpTo.backfill_eq (upTo : ReadUpTo s.slots k) (line : Nat) :
    backfill s.slots line = min line k := by
  have bound := backfill_le s.slots line
  have behind : backfill s.slots line < line → k ≤ backfill s.slots line := by
    intro early
    have unread := unread_behind_backfill (Nat.le_refl (backfill s.slots line)) early
    rw [upTo] at unread
    exact Nat.le_of_not_lt unread
  cases start : backfill s.slots line with
  | zero => omega
  | succ i =>
    have read := (upTo i).mp (isRead_before_backfill start)
    omega

/-- Reading a range reads it from where it has to begin, and leaves no line unread that had been
read. -/
theorem isRead_reparse (length : s.slots.length = d.lineCount) :
    IsRead (s.reparse d first stop).states.slots i ↔
      IsRead s.slots i ∨ backfill s.slots first ≤ i ∧ i < min stop s.slots.length := by
  have bound := backfill_le s.slots first
  obtain ⟨low, high⟩ := swept_count first stop length
  obtain ⟨goes, -⟩ := swept_exact stop rfl length
  have slots : (s.swept d first stop).slots = _ := sweep_slots _ _ _ _ _ _
  rw [reparse_slots, slots]
  change IsRead (_ ++ (List.map some (List.take (s.swept d first stop).count _) ++
    List.drop (s.swept d first stop).count _)) i ↔ _
  have size : (s.grammar.statesFrom (s.stateBefore (backfill s.slots first))
      (d.lines.drop (backfill s.slots first))).length =
        s.slots.length - backfill s.slots first := by
    rw [Grammar.length_statesFrom, List.length_drop, length_lines, length]
  generalize s.grammar.statesFrom _ _ = states at size ⊢
  generalize backfill s.slots first = start at *
  generalize (s.swept d first stop).count = n at *
  have place : (s.slots.take start).length = start := by
    rw [List.length_take]
    omega
  by_cases front : i < start
  · have kept : ¬ start ≤ i := by omega
    simp [IsRead, List.getElem?_append_left (place ▸ front), List.getElem?_take_of_lt front, kept]
  obtain ⟨j, rfl⟩ : ∃ j, i = start + j := ⟨i - start, by omega⟩
  rw [IsRead, List.getElem?_append_right (by omega), place, Nat.add_sub_cancel_left]
  have taken : ((states.take n).map some).length = n := by
    rw [List.length_map, List.length_take]
    omega
  by_cases new : j < n
  · have inside : j < states.length := by omega
    refine iff_of_true ⟨states[j], ?_⟩ ?_
    · rw [List.getElem?_append_left (by rwa [taken]), List.getElem?_map,
        List.getElem?_take_of_lt new, List.getElem?_eq_getElem inside]
      rfl
    · -- Behind the range reading only goes on over lines that had been read.
      rcases goes j new with due | ⟨-, st, stored⟩
      · exact .inr (by omega)
      · rw [List.getElem?_drop] at stored
        exact .inl ⟨st, stored⟩
  · have behind : ¬ (start ≤ start + j ∧ start + j < min stop s.slots.length) := by omega
    rw [List.getElem?_append_right (by omega), taken, List.getElem?_drop, List.getElem?_drop,
      Nat.add_sub_cancel' (Nat.le_of_not_lt new), or_iff_left behind, IsRead]

/-- Whatever is stored, a range that has been read leaves no gap before one of its lines, and there
is none before another line unless there was one. -/
theorem isRead_before_reparse (length : s.slots.length = d.lineCount)
    (known : first ≤ i + 1 ∧ i + 1 < stop ∨ (IsRead s.slots (i + 1) → IsRead s.slots i))
    (read : IsRead (s.reparse d first stop).states.slots (i + 1)) :
    IsRead (s.reparse d first stop).states.slots i := by
  have bound := backfill_le s.slots first
  have inside := read.lt
  rw [length_reparse length] at inside
  rw [isRead_reparse length] at read ⊢
  by_cases range : backfill s.slots first ≤ i + 1 ∧ i + 1 < min stop s.slots.length
  · by_cases start : backfill s.slots first = i + 1
    · exact .inl (isRead_before_backfill start)
    · exact .inr (by omega)
  · left
    apply known.resolve_left
    · omega
    · exact read.resolve_right range

theorem ReadUpTo.reparse (upTo : ReadUpTo s.slots k) (length : s.slots.length = d.lineCount)
    (first stop : Nat) :
    ReadUpTo (s.reparse d first stop).states.slots (max k (min stop d.lineCount)) := by
  intro i
  rw [isRead_reparse length, upTo, upTo.backfill_eq, length]
  omega

/-- The lines of a range that begins with the unread ones are read once, and no others. -/
theorem ReadUpTo.swept_count (upTo : ReadUpTo s.slots k) (length : s.slots.length = d.lineCount)
    (first : k ≤ line) (inside : line < d.lineCount) :
    (s.swept d line (line + 1)).count = line + 1 - k := by
  have start := upTo.backfill_eq line
  obtain ⟨low, high⟩ := LineStates.swept_count line (line + 1) length
  obtain ⟨goes, -⟩ := swept_exact (line + 1) start length
  rw [start, Nat.min_eq_right first] at *
  by_contra more
  rcases goes (line + 1 - k) (by omega) with due | ⟨-, st, stored⟩
  · omega
  · rw [List.getElem?_drop] at stored
    have := (upTo _).mp ⟨st, stored⟩
    omega

theorem ReadUpTo.tokensAt (upTo : ReadUpTo s.slots k) (length : s.slots.length = d.lineCount)
    (inside : line < d.lineCount) :
    ReadUpTo (s.tokensAt d line).2.1.slots (max k (line + 1)) ∧
      (s.tokensAt d line).2.2.length = (line + 1 - k) + 1 := by
  have ready : ((s.slots.getD line none).isSome &&
      (line == 0 || (s.slots.getD (line - 1) none).isSome)) = decide (line < k) := by
    rw [Bool.eq_iff_iff]
    simp only [Bool.and_eq_true, Bool.or_eq_true, beq_iff_eq, decide_eq_true_eq, ← isRead_iff,
      upTo _]
    omega
  simp only [LineStates.tokensAt, ready, decide_eq_true_eq]
  by_cases known : line < k
  · rw [if_pos known, Nat.max_eq_left known, Nat.sub_eq_zero_of_le known]
    exact ⟨upTo, rfl⟩
  · rw [if_neg known]
    constructor
    · have grown := upTo.reparse length line (line + 1)
      rwa [Nat.min_eq_left inside] at grown
    · have count := upTo.swept_count length (Nat.le_of_not_lt known) inside
      rw [List.length_append, List.length_singleton]
      show (List.range' _ (s.swept d line (line + 1)).count).length + 1 = _
      rw [List.length_range', count]

section Carried

omit [DecidableEq σ]

variable {slots : List (Option σ)} {cs : List Change}

/-- When changes move slots, an unread line can come to stand before a read one only where a change
brings new lines. -/
theorem isRead_before_carried (gapless : Gapless slots) {line base : Nat} {shift : Int}
    (ascend : LinesAscend slots.length line cs) (moved : (base : Int) = line + shift) (j : Nat) :
    InNewLines shift cs (base + j + 1) ∨
      (IsRead (carried slots line cs) (j + 1) → IsRead (carried slots line cs) j) := by
  induction cs generalizing line base shift j with
  | nil =>
    right
    rintro ⟨st, stored⟩
    rw [carried, List.getElem?_drop] at stored
    rw [carried, IsRead, List.getElem?_drop]
    exact gapless (line + j) st stored
  | cons c cs ih =>
    have le := ascend.1
    have order := ascend.2.1
    obtain ⟨n, seam⟩ : ∃ n, line + n = c.span.start.line := ⟨c.span.start.line - line, by omega⟩
    by_cases front : j + 1 < n
    · right
      rintro ⟨st, stored⟩
      rw [getElem?_carried_before ascend (by omega), List.getElem?_drop] at stored
      rw [IsRead, getElem?_carried_before ascend (by omega), List.getElem?_drop]
      exact gapless (line + j) st stored
    by_cases new : j + 1 ≤ n + c.insertedBreaks
    · left
      refine ⟨_, List.mem_cons_self, ?_, ?_⟩
      · simp only [Change.firstLine]
        omega
      · simp only [Change.firstLine]
        omega
    · obtain ⟨k, rfl⟩ : ∃ k, j = n + (c.insertedBreaks + k) := ⟨j - n - c.insertedBreaks, by omega⟩
      have delta : ((base + n + c.insertedBreaks : Nat) : Int) =
          c.span.stop.line + (shift + c.lineDelta) := by
        simp only [Change.lineDelta, Span.lines]
        omega
      have here := getElem?_carried_behind (k := k) ascend seam
      have next := getElem?_carried_behind (k := k + 1) ascend seam
      rcases ih ascend.2.2 delta k with ⟨range, member, low, high⟩ | kept
      · exact .inl ⟨range, List.mem_cons_of_mem _ member, by omega, by omega⟩
      · right
        rw [IsRead, IsRead, here, Nat.add_assoc, Nat.add_assoc, next]
        exact kept

end Carried

theorem reparseRanges_gapless {ranges : List (Nat × Nat)} (length : s.slots.length = d.lineCount)
    (known : ∀ i, (∃ r ∈ ranges, r.1 ≤ i + 1 ∧ i + 1 < r.2) ∨
      (IsRead s.slots (i + 1) → IsRead s.slots i)) :
    (s.reparseRanges d ranges).1.slots.length = d.lineCount ∧
      Gapless (s.reparseRanges d ranges).1.slots := by
  induction ranges generalizing s with
  | nil =>
    refine ⟨length, ?_⟩
    intro i st stored
    rcases known i with ⟨r, member, -⟩ | kept
    · cases member
    · exact kept ⟨st, stored⟩
  | cons range ranges ih =>
    obtain ⟨first, stop⟩ := range
    apply ih (s := (s.reparse d first stop).states) ((length_reparse length).trans length)
    intro i
    rcases known i with ⟨r, member, inside⟩ | kept
    · rcases List.mem_cons.mp member with rfl | member
      · exact .inr (isRead_before_reparse length (.inl inside))
      · exact .inl ⟨r, member, inside⟩
    · exact .inr (isRead_before_reparse length (.inr kept))

end LineStates

namespace Document

/-- Positions in contents, no two changes that start at one place, and none that overlap. -/
structure InOrder (d : Document) (changes : List Change) : Prop where
  within : ∀ c ∈ changes, d.InContent c.span.start ∧ d.InContent c.span.stop
  distinct : changes.Pairwise fun a b => a.span.start ≠ b.span.start
  apart : changes.Pairwise Change.Apart

variable {d d' : Document} {changes : List Change}

theorem linesAscend_of_pairwise {count line : Nat} {cs : List Change} (inside : line < count)
    (begins : ∀ c ∈ cs, line ≤ c.span.start.line)
    (spans : ∀ c ∈ cs, c.span.start.line ≤ c.span.stop.line ∧ c.span.stop.line < count)
    (ordered : cs.Pairwise fun a b => a.span.stop.line ≤ b.span.start.line) :
    LineStates.LinesAscend count line cs := by
  induction cs generalizing line with
  | nil => exact inside
  | cons c cs ih =>
    obtain ⟨next, rest⟩ := List.pairwise_cons.mp ordered
    obtain ⟨span, spans⟩ := List.forall_mem_cons.mp spans
    exact ⟨begins c List.mem_cons_self, span.1, ih span.2 next spans rest⟩

section Resolved

variable {a b : Change} {r r' : Replacement}

/-- Of two changes that do not overlap, the one that starts first ends first. -/
theorem stop_le_of_apart (first : d.resolve a = .ok r) (second : d.resolve b = .ok r')
    (within : d.InContent a.span.start ∧ d.InContent b.span.start)
    (le : a.span.start ≤ b.span.start) (distinct : a.span.start ≠ b.span.start)
    (apart : a.Apart b) : a.span.stop ≤ b.span.start := by
  refine apart.resolve_right fun inverted => distinct ?_
  obtain ⟨start, -, -, -⟩ := resolve_eq_ok.mp first
  obtain ⟨start', stop', order', -⟩ := resolve_eq_ok.mp second
  have low := byteOf_mono inverted stop' start
  have high := byteOf_mono le start start'
  have same : r.start = r'.start := by omega
  exact byteOf_inj start within.1 (same ▸ start') within.2

end Resolved

theorem exists_resolve (edited : d.edit changes = .ok d') {c : Change} (member : c ∈ changes) :
    ∃ r, d.resolve c = .ok r := by
  obtain ⟨rs, -, resolved, -, -⟩ := edit_eq_ok edited
  rw [← (Change.lastFirst_perm changes).mem_iff] at member
  generalize Change.lastFirst changes = cs at resolved member
  induction resolved with
  | nil => cases member
  | @cons c' r cs rs here rest ih =>
    rcases List.mem_cons.mp member with rfl | member
    · exact ⟨r, here⟩
    · exact ih member

theorem linesAscend_of_inOrder (inOrder : d.InOrder changes) (edited : d.edit changes = .ok d') :
    LineStates.LinesAscend d.lineCount 0 (Change.lastFirst changes).reverse := by
  have perm := (List.reverse_perm _).trans (Change.lastFirst_perm changes)
  have sorted := List.pairwise_reverse.mpr (Change.lastFirst_sorted changes)
  have distinct := (perm.pairwise_iff fun h => Ne.symm h).mpr inOrder.distinct
  have apart := (perm.pairwise_iff fun h => Change.Apart.symm h).mpr inOrder.apart
  apply linesAscend_of_pairwise (Nat.succ_pos _) fun _ _ => Nat.zero_le _
  · intro c member
    have here := perm.mem_iff.mp member
    obtain ⟨r, resolved⟩ := exists_resolve edited here
    obtain ⟨first, last, order, -⟩ := resolve_eq_ok.mp resolved
    obtain ⟨within, within'⟩ := inOrder.within c here
    have lines := (cutAt_of_byteOf first within).breaks_slice (cutAt_of_byteOf last within') order
    exact ⟨by omega, line_lt_of_byteOf last⟩
  · apply (sorted.and (distinct.and apart)).imp_of_mem
    rintro a b member member' ⟨le, distinct, apart⟩
    have here := perm.mem_iff.mp member
    have there := perm.mem_iff.mp member'
    obtain ⟨r, first⟩ := exists_resolve edited here
    obtain ⟨r', second⟩ := exists_resolve edited there
    have stop := stop_le_of_apart first second
      ⟨(inOrder.within a here).1, (inOrder.within b there).1⟩ le distinct apart
    rw [Position.le_iff] at stop
    omega

end Document

namespace LineStates

/-- The states belong to this version of the document, and the lines that have been read are its
first ones. -/
structure Tidy {σ : Type} (s : LineStates σ) (d : Document) : Prop where
  version : s.version = d.version
  length : s.slots.length = d.lineCount
  gapless : Gapless s.slots

variable {σ : Type} {s : LineStates σ} {d d' : Document} {changes : List Change}

theorem Sound.tidy (sound : s.Sound d) (gapless : Gapless s.slots) : s.Tidy d :=
  ⟨sound.version, sound.length, gapless⟩

theorem Tidy.sync_eq (tidy : s.Tidy d) : s.sync d = s := if_pos ⟨tidy.version, tidy.length⟩

variable [DecidableEq σ]

theorem Tidy.reparse (tidy : s.Tidy d) (first stop : Nat) :
    (s.reparse d first stop).states.Tidy d := by
  refine ⟨tidy.version, (length_reparse tidy.length).trans tidy.length, ?_⟩
  intro i st stored
  exact isRead_before_reparse tidy.length (.inr fun ⟨st, read⟩ => tidy.gapless i st read)
    ⟨st, stored⟩

theorem Tidy.tokensAt (tidy : s.Tidy d) (line : Nat) : (s.tokensAt d line).2.1.Tidy d := by
  simp only [LineStates.tokensAt]
  split
  · exact tidy
  · exact tidy.reparse line (line + 1)

theorem Tidy.change (tidy : s.Tidy d) (inOrder : d.InOrder changes)
    (edited : d.edit changes = .ok d') : (s.change d' changes).1.Tidy d' := by
  have newer : ¬ d'.version ≤ s.version := by
    rw [(Document.edit_keeps edited).2.2, tidy.version]
    omega
  have ascend := Document.linesAscend_of_inOrder inOrder edited
  rw [← tidy.length] at ascend
  have moved : (Change.lastFirst changes).foldl splice s.slots =
      carried s.slots 0 (Change.lastFirst changes).reverse := by
    have folded := foldr_splice ascend
    rwa [List.foldr_reverse, List.take_zero, List.nil_append] at folded
  simp only [LineStates.change, if_neg newer, moved]
  split
  · exact (reset_sound _ _).tidy (gapless_unread _)
  · rename_i fits
    have known : ∀ i, (∃ r ∈ (newLines 0 (Change.lastFirst changes).reverse).reverse,
        r.1 ≤ i + 1 ∧ i + 1 < r.2) ∨
        (IsRead (carried s.slots 0 (Change.lastFirst changes).reverse) (i + 1) →
          IsRead (carried s.slots 0 (Change.lastFirst changes).reverse) i) := by
      intro i
      have start : ((0 : Nat) : Int) = (0 : Nat) + 0 := rfl
      rcases isRead_before_carried tidy.gapless ascend start i with ⟨r, member, low, high⟩ | kept
      · exact .inl ⟨r, List.mem_reverse.mpr member, by omega, by omega⟩
      · exact .inr kept
    obtain ⟨length, gapless⟩ := reparseRanges_gapless
      (s := { s with slots := carried s.slots 0 (Change.lastFirst changes).reverse }) (d := d')
      (Decidable.not_not.mp fits) known
    exact ⟨rfl, length, gapless⟩

end LineStates

namespace Tokenizer

variable {σ : Type} {t t' : Tokenizer σ} {s : LineStates σ} {d d' : Document} {files : FileTree}
  {changes : List Change}

def Tidy (t : Tokenizer σ) (d : Document) : Prop :=
  ∀ s, t.documents[d.uri]? = some s → s.Tidy d

theorem Settled.tidy (settled : t.Settled d) : t.Tidy d := by
  intro s stored
  obtain ⟨sound, gapless⟩ := settled s stored
  exact sound.tidy gapless

theorem Tidy.updates {f : LineStates σ → LineStates σ} (tidy : t.Tidy d)
    (updates : t.Updates files d f t') (keeps : ∀ s, s.Tidy d → (f s).Tidy d) : t'.Tidy d := by
  intro s' stored
  obtain ⟨s, begins, rfl⟩ := updates.origin stored
  apply keeps
  rcases begins with tracked | ⟨-, g, -, rfl⟩
  · exact tidy s tracked
  · exact (LineStates.fresh_sound g d).tidy (LineStates.gapless_unread _)

variable [DecidableEq σ]

theorem Tidy.ensure (tidy : t.Tidy d) (files : FileTree) (first stop : Nat) :
    (t.ensure files d first stop).2.Tidy d := by
  apply tidy.updates (ensure_updates t files d first stop)
  intro s tidy
  rw [tidy.sync_eq]
  exact tidy.reparse first stop

theorem Tidy.scopeAt (tidy : t.Tidy d) (files : FileTree) (p : Position) :
    (t.scopeAt files d p).2.Tidy d := by
  apply tidy.updates (scopeAt_updates t files d p)
  intro s tidy
  rw [tidy.sync_eq]
  exact tidy.tokensAt (d.clamp p).line

theorem Tidy.change (tidy : t.Tidy d) (inOrder : d.InOrder changes)
    (edited : d.edit changes = .ok d') : (t.change d' changes).Tidy d' := by
  have same : d'.uri = d.uri := (Document.edit_keeps edited).1
  intro s' stored
  cases tracked : t.documents[d'.uri]? with
  | none => simp [Tokenizer.change, tracked] at stored
  | some s =>
    rw [change_documents t d' changes tracked, Std.ExtTreeMap.getElem?_insert_self] at stored
    cases Option.some.inj stored
    exact (tidy s (same ▸ tracked)).change inOrder edited

/-- The tokenizer has been with the document up to this snapshot, through batches of changes that
are in order. -/
inductive Attends : Tokenizer σ → Document → Prop
  | untracked (t : Tokenizer σ) (d : Document) : t.documents[d.uri]? = none → Attends t d
  | elsewhere (t t' : Tokenizer σ) (d : Document) : Attends t d →
      t'.documents[d.uri]? = t.documents[d.uri]? → Attends t' d
  | opened (t : Tokenizer σ) (d : Document) (files : FileTree) : Attends t d →
      Attends (t.openDocument files d).2 d
  | refreshed (t : Tokenizer σ) (d : Document) (files : FileTree) : Attends t d →
      Attends (t.refresh files d).2 d
  | ensured (t : Tokenizer σ) (d : Document) (files : FileTree) (first stop : Nat) : Attends t d →
      Attends (t.ensure files d first stop).2 d
  | asked (t : Tokenizer σ) (d : Document) (files : FileTree) (p : Position) : Attends t d →
      Attends (t.scopeAt files d p).2 d
  | changed (t : Tokenizer σ) (d d' : Document) (changes : List Change) : Attends t d →
      d.InOrder changes → d.edit changes = .ok d' → Attends (t.change d' changes) d'

theorem Attends.tidy (attends : t.Attends d) : t.Tidy d := by
  induction attends with
  | untracked t d none => exact (settled_of_untracked none).tidy
  | elsewhere t t' d _ same tidy =>
    intro s stored
    exact tidy s (same ▸ stored)
  | opened t d files => exact (settled_openDocument t files d).tidy
  | refreshed t d files => exact (settled_refresh t files d).tidy
  | ensured t d files first stop _ tidy => exact tidy.ensure files first stop
  | asked t d files p _ tidy => exact tidy.scopeAt files p
  | changed t d d' changes _ inOrder edited tidy => exact tidy.change inOrder edited

theorem scopeAt_calls (tracked : t.documents[d.uri]? = some s) (p : Position) :
    (t.scopeAt files d p).2.calls =
      t.calls + ((s.sync d).tokensAt d (d.clamp p).line).2.2.length := by
  simp only [Tokenizer.scopeAt, Tokenizer.entry, tracked, yieldAfter]
  split <;> rfl

/-- As long as the tokenizer is with a document, the lines that have been read are its first ones.
Asked for a range, it reads on up to the end of the range; asked for a position, up to the line of
the position, and that line once more for the answer. -/
theorem read_lines_are_the_first_ones (attends : t.Attends d)
    (tracked : t.documents[d.uri]? = some s) : ∃ k, LineStates.ReadUpTo s.slots k ∧
      (∀ files first stop, (∃ changed, (t.ensure files d first stop).1 = .ok changed) ∧
        ∃ now, (t.ensure files d first stop).2.documents[d.uri]? = some now ∧
          LineStates.ReadUpTo now.slots (max k (min stop d.lineCount))) ∧
      ∀ files p,
        (∃ now, (t.scopeAt files d p).2.documents[d.uri]? = some now ∧
          LineStates.ReadUpTo now.slots (max k ((d.clamp p).line + 1))) ∧
        (t.scopeAt files d p).2.calls = t.calls + (((d.clamp p).line + 1 - k) + 1) := by
  have tidy := attends.tidy s tracked
  obtain ⟨k, upTo⟩ := tidy.gapless.exists_readUpTo
  refine ⟨k, upTo, ?_, ?_⟩
  · intro files first stop
    have stored := (ensure_updates t files d first stop).stored s (.inl tracked)
    refine ⟨⟨_, ensure_ok (.inl tracked) first stop⟩, _, ?_, upTo.reparse tidy.length first stop⟩
    rw [stored, Std.ExtTreeMap.getElem?_insert_self, tidy.sync_eq]
  · intro files p
    have stored := (scopeAt_updates t files d p).stored s (.inl tracked)
    obtain ⟨grown, count⟩ := upTo.tokensAt tidy.length (d.clamp_line_lt p)
    refine ⟨⟨_, ?_, grown⟩, ?_⟩
    · rw [stored, Std.ExtTreeMap.getElem?_insert_self, tidy.sync_eq]
    · rw [scopeAt_calls tracked, tidy.sync_eq, count]

/-- Reads the first line of three. -/
def answered : Tokenizer GrammarState := ((knowing dashes).scopeAt (.folder []) plain ⟨0, 0⟩).2

def longer : Document := snapshot 2 "x\na\ny\nz"

/-- A new line behind the first one. -/
def lengthen : List Change := [⟨.point ⟨0, 1⟩, ['\n', 'a']⟩]

theorem read_lines_are_the_first_ones_lengthen :
    plain.InOrder lengthen ∧ plain.edit lengthen = .ok longer ∧
    ∃ s, (answered.change longer lengthen).documents[longer.uri]? = some s ∧
      LineStates.ReadUpTo s.slots 2 ∧
      ((answered.change longer lengthen).scopeAt (.folder []) longer ⟨2, 0⟩).2.calls =
        (answered.change longer lengthen).calls + 2 := by
  have inOrder : plain.InOrder lengthen := ⟨by decide, by decide, by decide⟩
  have edited : plain.edit lengthen = .ok longer := by rfl
  have run : ((answered.change longer lengthen).documents[longer.uri]?).any (fun s =>
      (s.slots.getD 1 none).isSome && !(s.slots.getD 2 none).isSome) = true := by decide +kernel
  obtain ⟨s, tracked, shape⟩ := (Option.any_eq_true _ _).mp run
  have attends : (answered.change longer lengthen).Attends longer := by
    refine .changed _ plain _ _ (.asked _ _ _ _ (.untracked _ _ ?_)) inOrder edited
    simp [knowing, new]
  obtain ⟨k, upTo, -, asks⟩ := read_lines_are_the_first_ones attends tracked
  have two : k = 2 := by
    simp only [Bool.and_eq_true, Bool.not_eq_true', ← Bool.not_eq_true, ← LineStates.isRead_iff,
      upTo _] at shape
    omega
  subst two
  exact ⟨inOrder, edited, s, tracked, upTo, (asks _ _).2⟩

end Tokenizer

end EventXref
