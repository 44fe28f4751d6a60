import EventXref.Tokenizer.LineStates

/-!
Stored line states against the states that reading a document from its first line on gives. A run of
reading keeps every stored state right if it was right before. What it does for states that are not
right is local: each line it reads follows from the line before, and no other line loses that.
-/
namespace EventXref

namespace Grammar

variable {σ : Type} (g : Grammar σ)

def after (s : σ) (lines : List (List Char)) : σ :=
  lines.foldl (fun s line => (g.tokenizeLine s line).endState) s

theorem getElem?_statesFrom (s : σ) (lines : List (List Char)) (i : Nat) :
    (g.statesFrom s lines)[i]? =
      lines[i]?.map fun line => (g.tokenizeLine (g.after s (lines.take i)) line).endState := by
  induction lines generalizing s i with
  | nil => simp [statesFrom]
  | cons line lines ih =>
    cases i with
    | zero => simp [statesFrom, after]
    | succ i => simp [statesFrom, after, ih]

theorem getElem?_tokensFrom (s : σ) (lines : List (List Char)) (i : Nat) :
    (g.tokensFrom s lines)[i]? =
      lines[i]?.map fun line => (g.tokenizeLine (g.after s (lines.take i)) line).tokens := by
  induction lines generalizing s i with
  | nil => simp [tokensFrom]
  | cons line lines ih =>
    cases i with
    | zero => simp [tokensFrom, after]
    | succ i => simp [tokensFrom, after, ih]

theorem length_statesFrom (s : σ) (lines : List (List Char)) :
    (g.statesFrom s lines).length = lines.length := by
  induction lines generalizing s with
  | nil => rfl
  | cons line lines ih => simp [statesFrom, ih]

theorem after_take_succ {s p : σ} {lines : List (List Char)} {i : Nat}
    (state : (g.statesFrom s lines)[i]? = some p) : g.after s (lines.take (i + 1)) = p := by
  rw [getElem?_statesFrom] at state
  obtain ⟨line, hline, rfl⟩ := Option.map_eq_some_iff.mp state
  rw [List.take_add_one, hline]
  simp [after, List.foldl_append]

theorem statesFrom_drop (s : σ) (lines : List (List Char)) (i : Nat) :
    g.statesFrom (g.after s (lines.take i)) (lines.drop i) = (g.statesFrom s lines).drop i := by
  induction i generalizing s lines with
  | zero => rfl
  | succ i ih =>
    cases lines with
    | nil => rfl
    | cons line lines =>
      have rest := ih (g.tokenizeLine s line).endState lines
      simpa [after, statesFrom] using rest

end Grammar

namespace LineStates

variable {σ : Type}

/-- The states belong to this document: its version, one slot a line, and every stored state is the
one that reading the document from its first line on gives. -/
structure Sound (s : LineStates σ) (d : Document) : Prop where
  version : s.version = d.version
  length : s.slots.length = d.lineCount
  states : ∀ (i : Nat) (st : σ), s.slots[i]? = some (some st) →
    (s.grammar.states d.lines)[i]? = some st

/-- The lines that have been read stand before all others. -/
def Gapless (slots : List (Option σ)) : Prop :=
  ∀ (i : Nat) (st : σ), slots[i + 1]? = some (some st) → ∃ p, slots[i]? = some (some p)

def Complete (slots : List (Option σ)) : Prop := ∀ slot ∈ slots, slot.isSome = true

theorem Complete.gapless {slots : List (Option σ)} (complete : Complete slots) : Gapless slots := by
  intro i st stored
  have inside : i + 1 < slots.length := (List.getElem?_eq_some_iff.mp stored).1
  have read := complete slots[i] (List.getElem_mem (by omega))
  obtain ⟨p, hp⟩ := Option.isSome_iff_exists.mp read
  exact ⟨p, by rw [List.getElem?_eq_getElem (by omega), hp]⟩

theorem length_lines (d : Document) : d.lines.length = d.lineCount := by
  rw [Document.lines, List.length_map, Document.length_fullLines]

theorem sound_of_unread {s : LineStates σ} {d : Document} (version : s.version = d.version)
    (unread : s.slots = List.replicate d.lineCount none) : s.Sound d := by
  refine ⟨version, by simp [unread], ?_⟩
  intro i st stored
  simp [unread, List.getElem?_replicate] at stored

theorem gapless_unread (n : Nat) : Gapless (List.replicate n (none : Option σ)) := by
  intro i st stored
  simp [List.getElem?_replicate] at stored

theorem fresh_sound (g : Grammar σ) (d : Document) : (fresh g d).Sound d := sound_of_unread rfl rfl

theorem reset_sound (s : LineStates σ) (d : Document) : (s.reset d).Sound d :=
  sound_of_unread rfl rfl

theorem Sound.sync_eq {s : LineStates σ} {d : Document} (sound : s.Sound d) : s.sync d = s :=
  if_pos ⟨sound.version, sound.length⟩

theorem sync_grammar (s : LineStates σ) (d : Document) : (s.sync d).grammar = s.grammar := by
  unfold sync
  split <;> rfl

/-- The stored state before a line; `prev` stands before the first one. -/
def before (prev : Option σ) (slots : List (Option σ)) : Nat → Option σ
  | 0 => prev
  | i + 1 => slots[i]?.join

/-- If a state is stored for the line, one is stored before it and leads to it. -/
def Linked (g : Grammar σ) (prev : Option σ) (lines : List (List Char)) (slots : List (Option σ))
    (i : Nat) : Prop :=
  ∀ st, slots[i]? = some (some st) →
    ∃ p, before prev slots i = some p ∧ st = (g.tokenizeLine p (lines.getD i [])).endState

section Linked

variable {g : Grammar σ} {prev prev' : Option σ} {lines lines' : List (List Char)}
  {slots slots' : List (Option σ)} {i i' : Nat}

/-- A link is a matter of two slots and one line. -/
theorem Linked.transport (linked : Linked g prev lines slots i) (slot : slots'[i']? = slots[i]?)
    (known : before prev' slots' i' = before prev slots i)
    (line : lines'.getD i' [] = lines.getD i []) : Linked g prev' lines' slots' i' := by
  intro st stored
  rw [slot] at stored
  obtain ⟨p, hp, hst⟩ := linked st stored
  exact ⟨p, by rw [known, hp], by rw [line, hst]⟩

theorem linked_succ {line : List Char} {slot : Option σ} :
    Linked g prev (line :: lines) (slot :: slots) (i + 1) ↔ Linked g slot lines slots i := by
  cases i with
  | zero => simp [Linked, before]
  | succ i => simp [Linked, before]

theorem linked_outside (outside : slots.length ≤ i) : Linked g prev lines slots i := by
  intro st stored
  rw [List.getElem?_eq_none outside] at stored
  cases stored

/-- Links everywhere mean that every stored state is right and no line was left out. -/
theorem states_of_linked {s : σ} (length : slots.length = lines.length)
    (linked : ∀ i, Linked g (some s) lines slots i) (i : Nat) (st : σ)
    (stored : slots[i]? = some (some st)) : (g.statesFrom s lines)[i]? = some st := by
  induction i generalizing st with
  | zero =>
    obtain ⟨p, hp, rfl⟩ := linked 0 st stored
    cases Option.some.inj hp
    obtain ⟨inside, -⟩ := List.getElem?_eq_some_iff.mp stored
    rw [g.getElem?_statesFrom, List.getD_eq_getElem?_getD,
      List.getElem?_eq_getElem (by omega : 0 < lines.length)]
    rfl
  | succ i ih =>
    obtain ⟨p, hp, rfl⟩ := linked (i + 1) st stored
    have before_stored : slots[i]? = some (some p) := Option.join_eq_some_iff.mp hp
    have reached := g.after_take_succ (ih p before_stored)
    obtain ⟨inside, -⟩ := List.getElem?_eq_some_iff.mp stored
    rw [g.getElem?_statesFrom, reached, List.getD_eq_getElem?_getD,
      List.getElem?_eq_getElem (by omega : i + 1 < lines.length)]
    rfl

theorem gapless_of_linked (linked : ∀ i, Linked g prev lines slots i) : Gapless slots := by
  intro i st stored
  obtain ⟨p, hp, -⟩ := linked (i + 1) st stored
  exact ⟨p, Option.join_eq_some_iff.mp hp⟩

theorem linked_of_states {s : σ} (gapless : Gapless slots)
    (right : ∀ (i : Nat) (st : σ), slots[i]? = some (some st) →
      (g.statesFrom s lines)[i]? = some st) (i : Nat) : Linked g (some s) lines slots i := by
  intro st stored
  have state := right i st stored
  rw [g.getElem?_statesFrom] at state
  obtain ⟨line, hline, rfl⟩ := Option.map_eq_some_iff.mp state
  have same : lines.getD i [] = line := by rw [List.getD_eq_getElem?_getD, hline, Option.getD_some]
  rw [same]
  cases i with
  | zero => exact ⟨s, rfl, rfl⟩
  | succ i =>
    obtain ⟨p, hp⟩ := gapless i _ stored
    refine ⟨p, by simp [before, hp], ?_⟩
    rw [g.after_take_succ (right i p hp)]

end Linked

section Sweep

variable [DecidableEq σ] (g : Grammar σ)

theorem sweep_slots (s : σ) (due : Nat) (unsettled : Bool) (lines : List (List Char))
    (slots : List (Option σ)) :
    (sweep g s due unsettled lines slots).slots =
      ((g.statesFrom s lines).take (sweep g s due unsettled lines slots).count).map some ++
        slots.drop (sweep g s due unsettled lines slots).count := by
  induction lines generalizing s due unsettled slots with
  | nil => simp [sweep]
  | cons line lines ih =>
    cases slots with
    | nil => simp [sweep]
    | cons slot slots =>
      simp only [sweep]
      split
      · simp only [Grammar.statesFrom, List.take_succ_cons, List.map_cons, List.drop_succ_cons,
          List.cons_append]
        rw [← ih]
      · simp

theorem sweep_count_le (s : σ) (due : Nat) (unsettled : Bool) (lines : List (List Char))
    (slots : List (Option σ)) :
    (sweep g s due unsettled lines slots).count ≤ min lines.length slots.length := by
  induction lines generalizing s due unsettled slots with
  | nil => simp [sweep]
  | cons line lines ih =>
    cases slots with
    | nil => simp [sweep]
    | cons slot slots =>
      simp only [sweep]
      split
      · have rest := ih (g.tokenizeLine s line).endState (due - 1)
          (decide (slot ≠ some (g.tokenizeLine s line).endState)) slots
        simp only [List.length_cons]
        omega
      · simp

theorem le_sweep_count (s : σ) (due : Nat) (unsettled : Bool) (lines : List (List Char))
    (slots : List (Option σ)) :
    min due (min lines.length slots.length) ≤ (sweep g s due unsettled lines slots).count := by
  induction lines generalizing s due unsettled slots with
  | nil => simp [sweep]
  | cons line lines ih =>
    cases slots with
    | nil => simp [sweep]
    | cons slot slots =>
      simp only [sweep]
      split
      · have rest := ih (g.tokenizeLine s line).endState (due - 1)
          (decide (slot ≠ some (g.tokenizeLine s line).endState)) slots
        simp only [List.length_cons]
        omega
      · rename_i settled
        have none : due = 0 := by omega
        simp [none]

/-- The lines that are due become linked, and no link is lost: the run only stops where the slot
before has not changed, or in front of a line without a state. -/
theorem sweep_linked {prev : Option σ} {s : σ} {due : Nat} {unsettled : Bool}
    {lines : List (List Char)} {slots : List (Option σ)} (i : Nat)
    (length : slots.length = lines.length) (settled : unsettled = false → prev = some s)
    (known : i < due ∨ Linked g prev lines slots i) :
    Linked g (some s) lines (sweep g s due unsettled lines slots).slots i := by
  induction lines generalizing prev s due unsettled slots i with
  | nil =>
    cases slots with
    | nil => exact linked_outside (by simp [sweep])
    | cons slot slots => cases length
  | cons line lines ih =>
    cases slots with
    | nil => exact linked_outside (by simp [sweep])
    | cons slot slots =>
      simp only [sweep]
      split
      · -- The line is read; what comes behind it is the induction hypothesis.
        cases i with
        | zero =>
          intro st stored
          have same : (g.tokenizeLine s line).endState = st := by simpa using stored
          exact ⟨s, rfl, by simp [same]⟩
        | succ i =>
          apply linked_succ.mpr
          apply ih i (Nat.succ.inj length)
          · intro unchanged
            simpa using unchanged
          · rcases known with due_line | linked
            · exact .inl (by omega)
            · exact .inr (linked_succ.mp linked)
      · -- The run stops: the state before is the stored one, or no state is stored here.
        rename_i stop
        have linked : Linked g prev (line :: lines) (slot :: slots) i := by
          rcases known with due_line | linked
          · omega
          · exact linked
        cases i with
        | zero =>
          intro st stored
          have none_or : unsettled = false := by
            cases unsettled with
            | false => rfl
            | true =>
              have : slot = some st := by simpa using stored
              simp [this] at stop
          rw [settled none_or] at linked
          exact linked st stored
        | succ i => exact linked_succ.mpr (linked_succ.mp linked)

end Sweep

theorem backfill_le (slots : List (Option σ)) (line : Nat) :
    backfill slots line ≤ min line slots.length := by
  have shorter := (List.dropWhile_suffix Option.isNone (l := (slots.take line).reverse)).length_le
  rwa [List.length_reverse, List.length_take] at shorter

theorem before_backfill (s : LineStates σ) (line : Nat) :
    before (some s.grammar.initial) s.slots (backfill s.slots line) =
      some (s.stateBefore (backfill s.slots line)) := by
  cases start : backfill s.slots line with
  | zero => rfl
  | succ n =>
    -- The slots up to the start are a beginning of all slots, and the last of them is filled.
    obtain ⟨slot, rest, kept⟩ : ∃ slot rest,
        (s.slots.take line).reverse.dropWhile Option.isNone = slot :: rest := by
      cases kept : (s.slots.take line).reverse.dropWhile Option.isNone with
      | nil => simp [backfill, kept] at start
      | cons slot rest => exact ⟨slot, rest, rfl⟩
    have filled : slot.isNone = false := by
      have := List.head?_dropWhile_not Option.isNone (s.slots.take line).reverse
      simpa [kept] using this
    have size : rest.length = n := by simpa [backfill, kept] using start
    have beginning : rest.reverse ++ [slot] <+: s.slots := by
      have suffix := List.dropWhile_suffix Option.isNone (l := (s.slots.take line).reverse)
      rw [kept, ← List.reverse_prefix, List.reverse_reverse, List.reverse_cons] at suffix
      exact suffix.trans ( List.take_prefix line s.slots)
    have place : s.slots[n]? = some slot := by
      obtain ⟨tail, whole⟩ := beginning
      rw [← whole, List.append_assoc, List.getElem?_append_right (by simp [size])]
      simp [size]
    obtain ⟨p, rfl⟩ := Option.isSome_iff_exists.mp (by simpa using filled)
    simp [before, stateBefore, List.getD_eq_getElem?_getD, place]

theorem linked_append {g : Grammar σ} {prev : Option σ} {lines : List (List Char)}
    {kept rest : List (Option σ)} {n k : Nat} (size : kept.length = n) :
    Linked g prev lines (kept ++ rest) (n + k) ↔
      Linked g (before prev kept n) (lines.drop n) rest k := by
  have slot : (kept ++ rest)[n + k]? = rest[k]? := by
    rw [List.getElem?_append_right (by omega), size, Nat.add_sub_cancel_left]
  have line : (lines.drop n).getD k [] = lines.getD (n + k) [] := by
    rw [List.getD_eq_getElem?_getD, List.getD_eq_getElem?_getD, List.getElem?_drop]
  have known : before prev (kept ++ rest) (n + k) = before (before prev kept n) rest k := by
    cases k with
    | zero =>
      cases n with
      | zero => rfl
      | succ n =>
        simp only [before]
        rw [List.getElem?_append_left (by omega)]
    | succ k =>
      show (kept ++ rest)[n + k]?.join = rest[k]?.join
      rw [List.getElem?_append_right (by omega), size, Nat.add_sub_cancel_left]
  constructor
  · intro linked
    exact linked.transport slot.symm known.symm line
  · intro linked
    exact linked.transport slot known line.symm

theorem before_take {prev : Option σ} {slots : List (Option σ)} {n : Nat} :
    before prev (slots.take n) n = before prev slots n := by
  cases n with
  | zero => rfl
  | succ n => simp [before]

theorem tokens_getD (g : Grammar σ) (d : Document) {line : Nat} (inside : line < d.lineCount) :
    (g.tokens d.lines).getD line [] =
      (g.tokenizeLine (g.after g.initial (d.lines.take line)) (d.line line)).tokens := by
  have lines : line < d.lines.length := by rwa [length_lines]
  rw [Grammar.tokens, List.getD_eq_getElem?_getD, Grammar.getElem?_tokensFrom,
    Document.line_eq_getD, List.getD_eq_getElem?_getD, List.getElem?_eq_getElem lines]
  rfl

section Sound

variable {s : LineStates σ} {d : Document}

/-- Sound states without gaps are those that are linked everywhere. -/
theorem sound_gapless_iff (version : s.version = d.version)
    (length : s.slots.length = d.lineCount) :
    s.Sound d ∧ Gapless s.slots ↔
      ∀ i, Linked s.grammar (some s.grammar.initial) d.lines s.slots i := by
  constructor
  · rintro ⟨sound, gapless⟩
    exact linked_of_states gapless sound.states
  · intro linked
    have lines : s.slots.length = d.lines.length := by rw [length, length_lines]
    exact ⟨⟨version, length, states_of_linked lines linked⟩, gapless_of_linked linked⟩

theorem Sound.stateBefore_eq (sound : s.Sound d) {n : Nat}
    (known : before (some s.grammar.initial) s.slots n = some (s.stateBefore n)) :
    s.stateBefore n = s.grammar.after s.grammar.initial (d.lines.take n) := by
  cases n with
  | zero => rfl
  | succ n =>
    have stored : s.slots[n]? = some (some (s.stateBefore (n + 1))) :=
      Option.join_eq_some_iff.mp known
    exact (Grammar.after_take_succ _ (sound.states n _ stored)).symm

theorem Sound.backfill_state (sound : s.Sound d) (first : Nat) :
    s.stateBefore (backfill s.slots first) =
      s.grammar.after s.grammar.initial (d.lines.take (backfill s.slots first)) :=
  sound.stateBefore_eq (before_backfill s first)

end Sound

section Reparse

variable [DecidableEq σ] {s : LineStates σ} {d : Document} {first stop : Nat}

def swept (s : LineStates σ) (d : Document) (first stop : Nat) : Sweep σ :=
  sweep s.grammar (s.stateBefore (backfill s.slots first))
    (min stop s.slots.length - backfill s.slots first) false
    (d.lines.drop (backfill s.slots first)) (s.slots.drop (backfill s.slots first))

theorem reparse_slots (s : LineStates σ) (d : Document) (first stop : Nat) :
    (s.reparse d first stop).states.slots =
      s.slots.take (backfill s.slots first) ++ (s.swept d first stop).slots := rfl

theorem swept_count (first stop : Nat) (length : s.slots.length = d.lineCount) :
    min stop s.slots.length ≤ backfill s.slots first + (s.swept d first stop).count ∧
      backfill s.slots first + (s.swept d first stop).count ≤ s.slots.length := by
  have bound := backfill_le s.slots first
  have few : (s.swept d first stop).count ≤ _ := sweep_count_le _ _ _ _ _ _
  have many : _ ≤ (s.swept d first stop).count := le_sweep_count _ _ _ _ _ _
  rw [List.length_drop, List.length_drop, length_lines] at few many
  omega

theorem length_reparse (length : s.slots.length = d.lineCount) :
    (s.reparse d first stop).states.slots.length = s.slots.length := by
  have bound := backfill_le s.slots first
  have inside := (swept_count first stop length).2
  have slots : (s.swept d first stop).slots = _ := sweep_slots _ _ _ _ _ _
  rw [reparse_slots, slots]
  simp only [List.length_append, List.length_take, List.length_map, List.length_drop,
    Grammar.length_statesFrom, length_lines]
  change _ + (min (s.swept d first stop).count _ + (_ - (s.swept d first stop).count)) = _
  omega

/-- Reading a range links its lines and keeps the links of all others. -/
theorem reparse_linked (length : s.slots.length = d.lineCount) (i : Nat)
    (known : first ≤ i ∧ i < stop ∨ Linked s.grammar (some s.grammar.initial) d.lines s.slots i) :
    Linked s.grammar (some s.grammar.initial) d.lines (s.reparse d first stop).states.slots i := by
  by_cases outside : s.slots.length ≤ i
  · exact linked_outside (by rw [length_reparse length]; exact outside)
  have bound := backfill_le s.slots first
  have place := before_backfill s first
  simp only [reparse]
  generalize backfill s.slots first = start at bound place ⊢
  have kept : (s.slots.take start).length = start := by
    rw [List.length_take]
    omega
  by_cases front : i < start
  · -- Reading starts behind this line, and never behind the first line of the range.
    have linked : Linked s.grammar (some s.grammar.initial) d.lines s.slots i := by
      rcases known with range | linked
      · omega
      · exact linked
    apply linked.transport _ _ rfl
    · rw [List.getElem?_append_left (by omega), List.getElem?_take_of_lt front]
    · cases i with
      | zero => rfl
      | succ i =>
        simp only [before]
        rw [List.getElem?_append_left (by omega), List.getElem?_take_of_lt (by omega)]
  · obtain ⟨k, rfl⟩ : ∃ k, i = start + k := ⟨i - start, by omega⟩
    apply (linked_append kept).mpr
    rw [before_take, place]
    apply sweep_linked
    · rw [List.length_drop, List.length_drop, length, length_lines]
    · intro _
      rfl
    · rcases known with range | linked
      · exact .inl (by omega)
      · right
        rw [← List.take_append_drop start s.slots] at linked
        have behind := (linked_append kept).mp linked
        rwa [before_take, place] at behind

theorem reparse_slots_eq
    (right : s.stateBefore (backfill s.slots first) =
      s.grammar.after s.grammar.initial (d.lines.take (backfill s.slots first))) :
    (s.reparse d first stop).states.slots = s.slots.take (backfill s.slots first) ++
      ((((s.grammar.states d.lines).drop (backfill s.slots first)).take
          (s.swept d first stop).count).map some ++
        s.slots.drop (backfill s.slots first + (s.swept d first stop).count)) := by
  have slots : (s.swept d first stop).slots = _ := sweep_slots _ _ _ _ _ _
  rw [reparse_slots, slots, List.drop_drop, right, Grammar.statesFrom_drop, ← right]
  rfl

theorem getElem?_reparse
    (right : s.stateBefore (backfill s.slots first) =
      s.grammar.after s.grammar.initial (d.lines.take (backfill s.slots first)))
    (length : s.slots.length = d.lineCount) (i : Nat) :
    (s.reparse d first stop).states.slots[i]? =
      if backfill s.slots first ≤ i ∧ i < backfill s.slots first + (s.swept d first stop).count then
        (s.grammar.states d.lines)[i]?.map some
      else s.slots[i]? := by
  have bound := backfill_le s.slots first
  have inside := (swept_count first stop length).2
  have states : (s.grammar.states d.lines).length = s.slots.length := by
    rw [Grammar.states, Grammar.length_statesFrom, length_lines, length]
  rw [reparse_slots_eq right]
  generalize backfill s.slots first = start at bound inside ⊢
  generalize (s.swept d first stop).count = n at inside ⊢
  split
  · rename_i read
    rw [List.getElem?_append_right (by rw [List.length_take]; omega),
      List.getElem?_append_left (by simp; omega), List.getElem?_map,
      List.getElem?_take_of_lt (by rw [List.length_take]; omega), List.getElem?_drop]
    congr 2
    rw [List.length_take]
    omega
  · rename_i unread
    by_cases front : i < start
    · rw [List.getElem?_append_left (by rw [List.length_take]; omega),
        List.getElem?_take_of_lt front]
    · rw [List.getElem?_append_right (by rw [List.length_take]; omega),
        List.getElem?_append_right (by simp; omega), List.getElem?_drop]
      congr 1
      simp only [List.length_take, List.length_map, List.length_drop]
      omega

theorem Sound.reparse (sound : s.Sound d) (first stop : Nat) :
    (s.reparse d first stop).states.Sound d := by
  refine ⟨sound.version, (length_reparse sound.length).trans sound.length, ?_⟩
  intro i st stored
  rw [getElem?_reparse (sound.backfill_state first) sound.length] at stored
  split at stored
  · obtain ⟨st', state, same⟩ := Option.map_eq_some_iff.mp stored
    cases Option.some.inj same
    exact state
  · exact sound.states i st stored

theorem Sound.reparse_gapless (sound : s.Sound d) (gapless : Gapless s.slots) (first stop : Nat) :
    Gapless (s.reparse d first stop).states.slots := by
  have linked := (sound_gapless_iff sound.version sound.length).mp ⟨sound, gapless⟩
  exact gapless_of_linked fun i => reparse_linked sound.length i (.inr (linked i))

/-- Reading the whole document stores the right state for every line, whatever was stored. -/
theorem reparseAll_sound (version : s.version = d.version) (length : s.slots.length = d.lineCount) :
    (s.reparseAll d).states.Sound d ∧ Complete (s.reparseAll d).states.slots := by
  have start : backfill s.slots 0 = 0 := Nat.le_zero.mp (Nat.le_trans (backfill_le _ _) (by simp))
  have all := (swept_count 0 s.slots.length length).1
  have slots : ∀ i, i < s.slots.length →
      (s.reparseAll d).states.slots[i]? = (s.grammar.states d.lines)[i]?.map some := by
    intro i inside
    rw [reparseAll, getElem?_reparse (by rw [start]; rfl) length, if_pos (by omega)]
  have size : (s.reparseAll d).states.slots.length = s.slots.length := length_reparse length
  refine ⟨⟨version, size.trans length, ?_⟩, ?_⟩
  · intro i st stored
    have inside := (List.getElem?_eq_some_iff.mp stored).1
    rw [slots i (by omega)] at stored
    obtain ⟨st', state, same⟩ := Option.map_eq_some_iff.mp stored
    cases Option.some.inj same
    exact state
  · intro slot member
    obtain ⟨i, hi⟩ := List.mem_iff_getElem?.mp member
    have inside := (List.getElem?_eq_some_iff.mp hi).1
    rw [slots i (by omega)] at hi
    obtain ⟨st, -, rfl⟩ := Option.map_eq_some_iff.mp hi
    rfl

theorem reparseAll_reset (s : LineStates σ) (d : Document) :
    ((s.reset d).reparseAll d).states.Sound d ∧ Complete ((s.reset d).reparseAll d).states.slots :=
  reparseAll_sound (reset_sound s d).version (reset_sound s d).length

theorem reparseAll_sync (s : LineStates σ) (d : Document) :
    ((s.sync d).reparseAll d).states.Sound d ∧ Complete ((s.sync d).reparseAll d).states.slots := by
  unfold sync
  split
  · rename_i fits
    exact reparseAll_sound fits.1 fits.2
  · exact reparseAll_reset s d

theorem before_reparse (sound : s.Sound d) {line : Nat} (inside : line < d.lineCount) :
    before (some s.grammar.initial) (s.reparse d line (line + 1)).states.slots line =
      some ((s.reparse d line (line + 1)).states.stateBefore line) := by
  cases line with
  | zero => rfl
  | succ line =>
    have bound := backfill_le s.slots (line + 1)
    have reaches := (swept_count (line + 1) (line + 1 + 1) sound.length).1
    have length := sound.length
    have place := before_backfill s (line + 1)
    obtain ⟨p, stored⟩ : ∃ p,
        (s.reparse d (line + 1) (line + 1 + 1)).states.slots[line]? = some (some p) := by
      rw [getElem?_reparse (sound.backfill_state _) sound.length]
      -- The line before is either where reading starts from or among the lines that were read.
      by_cases last : backfill s.slots (line + 1) = line + 1
      · rw [last] at place
        rw [if_neg (by omega)]
        exact ⟨_, Option.join_eq_some_iff.mp place⟩
      · have known : line < (s.grammar.states d.lines).length := by
          rw [Grammar.states, Grammar.length_statesFrom, length_lines]
          omega
        rw [if_pos (by omega), List.getElem?_eq_getElem known]
        exact ⟨_, rfl⟩
    simp [before, stateBefore, List.getD_eq_getElem?_getD, stored]

theorem tokensAt_grammar (s : LineStates σ) (d : Document) (line : Nat) :
    (s.tokensAt d line).2.1.grammar = s.grammar := by
  simp only [LineStates.tokensAt]
  split <;> rfl

theorem tokensAt_sync_grammar (s : LineStates σ) (d : Document) (line : Nat) :
    ((s.sync d).tokensAt d line).2.1.grammar = s.grammar := by
  rw [tokensAt_grammar, sync_grammar]

theorem Sound.tokensAt (sound : s.Sound d) {line : Nat} (inside : line < d.lineCount) :
    (s.tokensAt d line).1 = (s.grammar.tokens d.lines).getD line [] ∧
      (s.tokensAt d line).2.1.Sound d ∧
      (Gapless s.slots → Gapless (s.tokensAt d line).2.1.slots) := by
  simp only [LineStates.tokensAt]
  split
  · rename_i ready
    have known : before (some s.grammar.initial) s.slots line = some (s.stateBefore line) := by
      cases line with
      | zero => rfl
      | succ line =>
        simp only [Bool.and_eq_true, Bool.or_eq_true, Nat.add_one_sub_one] at ready
        obtain ⟨p, hp⟩ : ∃ p, s.slots.getD line none = some p := by
          rcases ready.2 with zero | stored
          · simp at zero
          · exact Option.isSome_iff_exists.mp stored
        rw [List.getD_eq_getElem?_getD] at hp
        cases slot : s.slots[line]? with
        | none => simp [slot] at hp
        | some x => simp_all [before, stateBefore, List.getD_eq_getElem?_getD]
    refine ⟨?_, sound, id⟩
    rw [tokens_getD _ _ inside, sound.stateBefore_eq known]
  · refine ⟨?_, sound.reparse _ _, fun gapless => sound.reparse_gapless gapless _ _⟩
    have known := before_reparse sound inside
    have state := (sound.reparse line (line + 1)).stateBefore_eq known
    rw [tokens_getD _ _ inside, state]
    rfl

end Reparse

end LineStates

end EventXref
