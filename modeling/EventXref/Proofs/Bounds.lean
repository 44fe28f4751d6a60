import EventXref.Proofs.Machine
import EventXref.Proofs.Rereading

/-!
Every slot that is looked up is there. The operations on line states are written a second time with
each slot taken by its number, failing where there is no such slot; the two agree whatever the
snapshots, ranges and changes are, so no look-up fails. Behind every operation that is carried out
there is one slot for each line of the snapshot it was given. What can fail is the arithmetic on the
line numbers of a change, in a checked build.
-/
namespace EventXref

namespace LineStates

variable {σ : Type}

def stateBefore? (s : LineStates σ) : Nat → Option σ
  | 0 => some s.grammar.initial
  | n + 1 => s.slots[n]?.map fun slot => slot.getD s.grammar.initial

def backfill? (slots : List (Option σ)) : Nat → Option Nat
  | 0 => some 0
  | n + 1 => slots[n]?.bind fun slot => if slot.isNone then backfill? slots n else some (n + 1)

/-- Whether a run of reading takes a line: it is due, or the line before has another state now and
this one has a state. -/
def goesOn? (slots : List (Option σ)) (stop line : Nat) (unsettled : Bool) : Option Bool :=
  if line < stop then some true
  else if unsettled = true ∧ line < slots.length then slots[line]?.map Option.isSome
  else some false

/-- Replaces the slots of the lines that a change covers. There must be a slot, the first of these
lines must not lie behind the last slot, and all of them must be there. -/
def splice? (slots : List (Option σ)) (c : Change) : Option (List (Option σ)) :=
  if slots.length = 0 then none
  else
    let last := slots.length - 1
    let start := min c.span.start.line last
    if last < start then none
    else
      let stop := max start (min c.span.stop.line last)
      slots[stop]?.bind fun slot =>
        if stop + 1 < start ∨ slots.length < stop + 1 then none
        else some (slots.take start ++ (List.replicate c.insertedBreaks none ++ [slot]) ++
          slots.drop (stop + 1))

variable [DecidableEq σ]

def readLine? (s : LineStates σ) (d : Document) (line : Nat) : Option (Bool × LineStates σ) :=
  (s.stateBefore? line).bind fun prev =>
    s.slots[line]?.map fun slot =>
      let st := (s.grammar.tokenizeLine prev (d.line line)).endState
      (decide (slot ≠ some st), { s with slots := s.slots.set line (some st) })

theorem readLine?_bounds {s s' : LineStates σ} {d : Document} {line : Nat} {differs : Bool}
    (read : s.readLine? d line = some (differs, s')) :
    line < s.slots.length ∧ s'.slots.length = s.slots.length := by
  obtain ⟨prev, -, rest⟩ := Option.bind_eq_some_iff.mp read
  obtain ⟨slot, there, ⟨⟩⟩ := Option.map_eq_some_iff.mp rest
  exact ⟨(List.getElem?_eq_some_iff.mp there).1, List.length_set⟩

/-- Reads lines from one on, as long as a run of reading takes them; gives whether a state has
changed, and the line at which the run stops. -/
def readOn? (d : Document) (stop : Nat) (s : LineStates σ) (line : Nat) (unsettled changed : Bool) :
    Option (Bool × Nat × LineStates σ) :=
  match goesOn? s.slots stop line unsettled with
  | none => none
  | some false => some (changed, line, s)
  | some true =>
    match read : s.readLine? d line with
    | none => none
    | some (differs, s') => readOn? d stop s' (line + 1) differs (changed || differs)
termination_by s.slots.length - line
decreasing_by
  have bounds := readLine?_bounds read
  omega

def reparse? (s : LineStates σ) (d : Document) (first stop : Nat) : Option (Reparse σ) :=
  (backfill? s.slots (min first s.slots.length)).bind fun start =>
    (readOn? d (min stop s.slots.length) s start false false).map fun (changed, last, s') =>
      { states := { s' with generation := s.generation + 1 }
        changed
        visited := List.range' start (last - start) }

def reparseRanges? (s : LineStates σ) (d : Document) :
    List (Nat × Nat) → Option (LineStates σ × List Nat)
  | [] => some (s, [])
  | (first, stop) :: ranges =>
    (s.reparse? d first stop).bind fun r =>
      (r.states.reparseRanges? d ranges).map fun (s, visited) => (s, r.visited ++ visited)

def changeIn? (build : Build) (s : LineStates σ) (d : Document) (changes : List Change) :
    Option (Option (List Nat) × LineStates σ) :=
  if d.version ≤ s.version then some (some [], s)
  else
    let sorted := Change.lastFirst changes
    (sorted.foldlM splice? s.slots).bind fun slots =>
      if slots.length ≠ d.lineCount then some (some [], { s with slots }.reset d)
      else match newLines? build 0 sorted.reverse with
        | none => some (none, { s with slots })
        | some ranges =>
          (reparseRanges? { s with slots } d ranges.reverse).map fun r =>
            (some r.2, { r.1 with version := d.version })

def tokensAt? (s : LineStates σ) (d : Document) (line : Nat) :
    Option (List Token × LineStates σ × List Nat) :=
  let before := if line = 0 then some true else s.slots[line - 1]?.map Option.isSome
  before.bind fun before =>
    s.slots[line]?.bind fun slot =>
      let r := if slot.isSome && before then some ⟨s, false, []⟩ else s.reparse? d line (line + 1)
      r.bind fun r =>
        (r.states.stateBefore? line).map fun prev =>
          ((s.grammar.tokenizeLine prev (d.line line)).tokens, r.states, r.visited ++ [line])

section Agreement

omit [DecidableEq σ]

theorem stateBefore?_eq {s : LineStates σ} {line : Nat} (inside : line ≤ s.slots.length) :
    s.stateBefore? line = some (s.stateBefore line) := by
  cases line with
  | zero => rfl
  | succ n =>
    simp [stateBefore?, stateBefore, List.getElem?_eq_getElem (by omega : n < s.slots.length)]

theorem backfill?_eq {slots : List (Option σ)} {line : Nat} (inside : line ≤ slots.length) :
    backfill? slots line = some (backfill slots line) := by
  induction line with
  | zero => rfl
  | succ n ih =>
    have there := List.getElem?_eq_getElem (by omega : n < slots.length)
    have before := ih (by omega)
    simp only [backfill] at before ⊢
    rw [backfill?, there, Option.bind_some, before, List.take_add_one, there, Option.toList_some,
      List.reverse_append, List.reverse_singleton, List.singleton_append, List.dropWhile_cons]
    split
    · rfl
    · simp
      omega

theorem backfill_min (slots : List (Option σ)) (line : Nat) :
    backfill slots (min line slots.length) = backfill slots line := by
  rw [backfill, backfill, ← List.take_eq_take_min]

theorem splice_ne_nil {slots : List (Option σ)} (nonempty : slots ≠ []) (c : Change) :
    splice slots c ≠ [] := by
  cases slots with
  | nil => contradiction
  | cons slot slots => simp [splice]

theorem splice?_eq {slots : List (Option σ)} (nonempty : slots ≠ []) (c : Change) :
    splice? slots c = some (splice slots c) := by
  have size := List.length_pos_of_ne_nil nonempty
  have order := Nat.le_max_left (min c.span.start.line (slots.length - 1))
    (min c.span.stop.line (slots.length - 1))
  have stop : max (min c.span.start.line (slots.length - 1))
      (min c.span.stop.line (slots.length - 1)) < slots.length := by omega
  have there := List.getElem?_eq_getElem stop
  cases slots with
  | nil => contradiction
  | cons slot slots =>
    rw [splice?, if_neg (Nat.ne_of_gt size)]
    simp only [splice]
    rw [if_neg (by omega), there, Option.bind_some, if_neg (by omega), List.getD_eq_getElem?_getD,
      there, Option.getD_some, List.append_assoc _ _ [_]]

/-- The slots are never all taken away, not even in the middle of a batch. -/
theorem foldlM_splice? {slots : List (Option σ)} (nonempty : slots ≠ []) (changes : List Change) :
    changes.foldlM splice? slots = some (changes.foldl splice slots) := by
  induction changes generalizing slots with
  | nil => rfl
  | cons c changes ih =>
    rw [List.foldlM_cons, splice?_eq nonempty, List.foldl_cons]
    exact ih (splice_ne_nil nonempty c)

theorem goesOn?_here (kept rest : List (Option σ)) (slot : Option σ) (stop : Nat)
    (unsettled : Bool) : goesOn? (kept ++ slot :: rest) stop kept.length unsettled =
      some (decide (stop - kept.length > 0 ∨ (unsettled = true ∧ slot.isSome = true))) := by
  by_cases due : kept.length < stop
  · have more : stop - kept.length > 0 := by omega
    simp [goesOn?, due, more]
  · have none : stop - kept.length = 0 := by omega
    cases unsettled <;> simp [goesOn?, due, none]

end Agreement

theorem readLine?_here {s : LineStates σ} {d : Document} {kept rest : List (Option σ)}
    {slot : Option σ} (slots : s.slots = kept ++ slot :: rest) :
    let st := (s.grammar.tokenizeLine (s.stateBefore kept.length) (d.line kept.length)).endState
    s.readLine? d kept.length =
      some (decide (slot ≠ some st), { s with slots := kept ++ some st :: rest }) := by
  have inside : kept.length < s.slots.length := by simp [slots]
  simp [readLine?, stateBefore?_eq (Nat.le_of_lt inside), slots]

theorem readOn?_stop {s : LineStates σ} {d : Document} {stop line : Nat} {unsettled : Bool}
    (stops : goesOn? s.slots stop line unsettled = some false) (changed : Bool) :
    readOn? d stop s line unsettled changed = some (changed, line, s) := by
  rw [readOn?, stops]

theorem readOn?_step {s s' : LineStates σ} {d : Document} {stop line : Nat}
    {unsettled differs : Bool} (goes : goesOn? s.slots stop line unsettled = some true)
    (read : s.readLine? d line = some (differs, s')) (changed : Bool) :
    readOn? d stop s line unsettled changed =
      readOn? d stop s' (line + 1) differs (changed || differs) := by
  rw [readOn?, goes]
  simp only
  split
  next none => cases read.symm.trans none
  next again => cases read.symm.trans again; rfl

/-- Going from slot to slot gives what the sweep over the rest of the slots gives. -/
theorem readOn?_eq {s : LineStates σ} {d : Document} {stop : Nat} (unsettled changed : Bool)
    {kept rest : List (Option σ)} (slots : s.slots = kept ++ rest)
    (length : s.slots.length = d.lineCount) (within : stop ≤ s.slots.length) :
    let swept := sweep s.grammar (s.stateBefore kept.length) (stop - kept.length) unsettled
      (d.lines.drop kept.length) rest
    readOn? d stop s kept.length unsettled changed =
      some (changed || swept.changed, kept.length + swept.count,
        { s with slots := kept ++ swept.slots }) := by
  induction rest generalizing s kept unsettled changed with
  | nil =>
    have last : s.slots.length = kept.length := by simp [slots]
    have stops : goesOn? s.slots stop kept.length unsettled = some false := by
      simp [goesOn?, last, Nat.not_lt.mpr (last ▸ within)]
    rw [readOn?_stop stops]
    simp [sweep, ← slots]
  | cons slot rest ih =>
    have inside : kept.length < d.lines.length := by
      rw [length_lines, ← length, slots]
      simp
    have line : d.lines[kept.length] = d.line kept.length := by
      rw [Document.line_eq_getD, List.getD_eq_getElem?_getD, List.getElem?_eq_getElem inside]
      rfl
    have takes := goesOn?_here kept rest slot stop unsettled
    rw [← slots] at takes
    rw [List.drop_eq_getElem_cons inside, line]
    by_cases goes : stop - kept.length > 0 ∨ (unsettled = true ∧ slot.isSome = true)
    · rw [decide_eq_true goes] at takes
      rw [readOn?_step takes (readLine?_here slots)]
      simp only [sweep, if_pos goes]
      generalize (s.grammar.tokenizeLine (s.stateBefore kept.length)
        (d.line kept.length)).endState = st
      -- the state that was just stored is the one before the next line
      have next := @ih { s with slots := kept ++ some st :: rest } (decide (slot ≠ some st))
        (changed || decide (slot ≠ some st)) (kept ++ [some st]) (by simp)
        (by rw [← length, slots]; simp) (by rw [slots] at within; simpa using within)
      simp only [List.length_append, List.length_singleton, stateBefore] at next
      rw [next]
      simp [Nat.sub_sub, Nat.add_assoc, Nat.add_comm 1, Bool.or_assoc]
    · rw [decide_eq_false goes] at takes
      rw [readOn?_stop takes]
      simp only [sweep, if_neg goes]
      simp [← slots]

theorem reparse?_eq {s : LineStates σ} {d : Document} (first stop : Nat)
    (length : s.slots.length = d.lineCount) :
    s.reparse? d first stop = some (s.reparse d first stop) := by
  have start : backfill? s.slots (min first s.slots.length) = some (backfill s.slots first) := by
    rw [backfill?_eq (Nat.min_le_right _ _), backfill_min]
  have run := readOn?_eq false false
    (List.take_append_drop (backfill s.slots first) s.slots).symm length
    (Nat.min_le_right stop s.slots.length)
  simp only [length_take_backfill] at run
  rw [reparse?, start, Option.bind_some, run]
  simp [reparse]

theorem reparseRanges?_eq {s : LineStates σ} {d : Document} (ranges : List (Nat × Nat))
    (length : s.slots.length = d.lineCount) :
    s.reparseRanges? d ranges = some (s.reparseRanges d ranges) := by
  induction ranges generalizing s with
  | nil => rfl
  | cons range ranges ih =>
    have kept : (s.reparse d range.1 range.2).states.slots.length = d.lineCount :=
      (length_reparse length).trans length
    rw [reparseRanges?, reparse?_eq _ _ length, Option.bind_some, ih kept]
    rfl

theorem changeIn?_eq {s : LineStates σ} (nonempty : s.slots ≠ []) (build : Build) (d : Document)
    (changes : List Change) : s.changeIn? build d changes = some (s.changeIn build d changes) := by
  rw [changeIn?, changeIn]
  split
  · rfl
  · simp only [foldlM_splice? nonempty, Option.bind_some]
    split
    · rfl
    next fits =>
      cases newLines? build 0 (Change.lastFirst changes).reverse with
      | none => rfl
      | some ranges =>
        dsimp only
        rw [reparseRanges?_eq _ (Decidable.not_not.mp fits)]
        rfl

theorem tokensAt?_eq {s : LineStates σ} {d : Document} {line : Nat}
    (length : s.slots.length = d.lineCount) (inside : line < d.lineCount) :
    s.tokensAt? d line = some (s.tokensAt d line) := by
  have here : s.slots[line]? = some (s.slots.getD line none) := by
    simp [List.getElem?_eq_getElem (by omega : line < s.slots.length)]
  have before : (if line = 0 then some true else s.slots[line - 1]?.map Option.isSome) =
      some (line == 0 || (s.slots.getD (line - 1) none).isSome) := by
    cases line with
    | zero => rfl
    | succ n => simp [List.getElem?_eq_getElem (by omega : n < s.slots.length)]
  simp only [tokensAt?, tokensAt, before, here, Option.bind_some]
  split
  · have below : line ≤ s.slots.length := by omega
    rw [Option.bind_some, stateBefore?_eq below]
    rfl
  · have kept : (s.reparse d line (line + 1)).states.slots.length = s.slots.length :=
      length_reparse length
    rw [reparse?_eq _ _ length, Option.bind_some, stateBefore?_eq (by omega)]
    rfl

section Widths

omit [DecidableEq σ]

-- An insertion at the last line number that there is.
example :
    let last : Position := ⟨18446744073709551615, 0⟩
    newLines? .checked 0 [⟨⟨last, last⟩, ['a']⟩] = none ∧
    newLines? .wrapping 0 [⟨⟨last, last⟩, ['a']⟩] = some [(last.line, last.line)] := by
  decide

end Widths

/-- There is a slot for each line of the document, and they belong to its version. -/
structure Matches (s : LineStates σ) (d : Document) : Prop where
  length : s.slots.length = d.lineCount
  version : s.version = d.version

section Matches

variable {s : LineStates σ} {d : Document}

omit [DecidableEq σ] in
theorem matches_reset (s : LineStates σ) (d : Document) : (s.reset d).Matches d :=
  ⟨List.length_replicate, rfl⟩

omit [DecidableEq σ] in
theorem matches_sync (s : LineStates σ) (d : Document) : (s.sync d).Matches d := by
  unfold sync
  split
  next fits => exact ⟨fits.2, fits.1⟩
  next => exact matches_reset s d

theorem Matches.reparse (fits : s.Matches d) (first stop : Nat) :
    (s.reparse d first stop).states.Matches d :=
  ⟨(length_reparse fits.length).trans fits.length, fits.version⟩

theorem Matches.tokensAt (fits : s.Matches d) (line : Nat) :
    (s.tokensAt d line).2.1.Matches d := by
  simp only [LineStates.tokensAt]
  split
  · exact fits
  · exact fits.reparse line (line + 1)

theorem length_reparseRanges (ranges : List (Nat × Nat)) (length : s.slots.length = d.lineCount) :
    (s.reparseRanges d ranges).1.slots.length = d.lineCount := by
  induction ranges generalizing s with
  | nil => exact length
  | cons range ranges ih => exact ih ((length_reparse length).trans length)

/-- Where a number does not fit the slots have been moved, and no more than that. -/
theorem changeIn_cases (newer : s.version < d.version) (build : Build) (changes : List Change) :
    (∃ visited, (s.changeIn build d changes).1 = some visited ∧
      (s.changeIn build d changes).2.Matches d) ∨
    (s.changeIn build d changes).1 = none ∧
      newLines? build 0 (Change.lastFirst changes).reverse = none ∧
      (s.changeIn build d changes).2.slots.length = d.lineCount ∧
      (s.changeIn build d changes).2.version = s.version := by
  simp only [changeIn, if_neg (Int.not_le.mpr newer)]
  split
  next => exact .inl ⟨[], rfl, matches_reset _ d⟩
  next fits =>
    have length := Decidable.not_not.mp fits
    split
    next lacks => exact .inr ⟨rfl, lacks, length, rfl⟩
    next ranges _ => exact .inl ⟨_, rfl, length_reparseRanges ranges.reverse length, rfl⟩

theorem length_changeIn (newer : s.version < d.version) (build : Build) (changes : List Change) :
    (s.changeIn build d changes).2.slots.length = d.lineCount := by
  rcases changeIn_cases newer build changes with ⟨_, _, fits⟩ | ⟨_, _, length, _⟩
  · exact fits.length
  · exact length

end Matches

end LineStates

namespace Tokenizer

/-- What a host can ask of a tokenizer, with the grammar files as they are at that time. -/
inductive Operation where
  | open_ (files : FileTree) (d : Document)
  | refresh (files : FileTree) (d : Document)
  | ensure (files : FileTree) (d : Document) (first stop : Nat)
  | change (d : Document) (changes : List Change)
  | scopeAt (files : FileTree) (d : Document) (p : Position)
  | close (u : Uri)

inductive Reply where
  | done (result : Except GrammarError Unit)
  | changed (result : Except GrammarError Bool)
  | scope (info : Option ScopeInfo)
  | nothing
  /-- A number did not fit, and the operation was left there. -/
  | overflow

variable {σ : Type}

variable [DecidableEq σ]

def perform (build : Build) (t : Tokenizer σ) : Operation → Reply × Tokenizer σ
  | .open_ files d => (t.openDocument files d).map .done id
  | .refresh files d => (t.refresh files d).map .done id
  | .ensure files d first stop => (t.ensure files d first stop).map .changed id
  | .change d changes =>
    (t.changeIn build d changes).map (fun fits => if fits then .nothing else .overflow) id
  | .scopeAt files d p => (t.scopeAt files d p).map .scope id
  | .close u => (.nothing, t.close u)

def onEntry? (t : Tokenizer σ) (files : FileTree) (d : Document) (failed : GrammarError → Reply)
    (work : LineStates σ → Tokenizer σ → Option (Reply × Tokenizer σ)) :
    Option (Reply × Tokenizer σ) :=
  match t.entry files d with
  | (.error e, t) => some (failed e, t)
  | (.ok s, t) => work s t

/-- Performs an operation with every slot looked up by its number. -/
def perform? (build : Build) (t : Tokenizer σ) : Operation → Option (Reply × Tokenizer σ)
  | .open_ files d => t.onEntry? files d (.done ∘ .error) fun s t =>
    ((s.sync d).reparse? d 0 (s.sync d).slots.length).map fun r =>
      (.done (.ok ()), t.store d.uri r.states r.visited)
  | .refresh files d => t.onEntry? files d (.done ∘ .error) fun s t =>
    ((s.reset d).reparse? d 0 (s.reset d).slots.length).map fun r =>
      (.done (.ok ()), t.store d.uri r.states r.visited)
  | .ensure files d first stop => t.onEntry? files d (.changed ∘ .error) fun s t =>
    ((s.sync d).reparse? d first stop).map fun r =>
      (.changed (.ok r.changed), t.store d.uri r.states r.visited)
  | .change d changes =>
    match t.documents[d.uri]? with
    | none => some (.nothing, t)
    | some s => (s.changeIn? build d changes).map fun (visited, s) =>
      (if visited.isSome then .nothing else .overflow, t.store d.uri s (visited.getD []))
  | .scopeAt files d p => t.onEntry? files d (fun _ => .scope none) fun s t =>
    ((s.sync d).tokensAt? d (d.clamp p).line).map fun (tokens, s, visited) =>
      (.scope (LineStates.describe d (d.clamp p) tokens),
        (t.store d.uri s visited).yieldAfter (visited.length - 1))
  | .close u => some (.nothing, t.close u)

/-- Performs operations one after the other, also behind one that was left midway. -/
def run (build : Build) (t : Tokenizer σ) : List Operation → List Reply × Tokenizer σ
  | [] => ([], t)
  | op :: ops =>
    let (reply, t) := t.perform build op
    let (replies, t) := t.run build ops
    (reply :: replies, t)

def run? (build : Build) (t : Tokenizer σ) : List Operation → Option (List Reply × Tokenizer σ)
  | [] => some ([], t)
  | op :: ops =>
    (t.perform? build op).bind fun (reply, t) =>
      (t.run? build ops).map fun (replies, t) => (reply :: replies, t)

def Filled (t : Tokenizer σ) : Prop :=
  ∀ (u : Uri) (s : LineStates σ), t.documents[u]? = some s → s.slots ≠ []

variable {build : Build} {t t' : Tokenizer σ} {files : FileTree} {d : Document} {s : LineStates σ}

theorem perform?_eq (filled : t.Filled) (op : Operation) :
    t.perform? build op = some (t.perform build op) := by
  cases op with
  | open_ files d =>
    rcases found : t.entry files d with ⟨e | s, t'⟩
    · simp [perform?, onEntry?, perform, openDocument, found]
    · have whole := LineStates.reparse?_eq 0 (s.sync d).slots.length (s.matches_sync d).length
      simp [perform?, onEntry?, perform, openDocument, found, whole, LineStates.reparseAll]
  | refresh files d =>
    rcases found : t.entry files d with ⟨e | s, t'⟩
    · simp [perform?, onEntry?, perform, refresh, found]
    · have whole := LineStates.reparse?_eq 0 (s.reset d).slots.length (s.matches_reset d).length
      simp [perform?, onEntry?, perform, refresh, found, whole, LineStates.reparseAll]
  | ensure files d first stop =>
    rcases found : t.entry files d with ⟨e | s, t'⟩
    · simp [perform?, onEntry?, perform, ensure, found]
    · have range := LineStates.reparse?_eq first stop (s.matches_sync d).length
      simp [perform?, onEntry?, perform, ensure, found, range]
  | scopeAt files d p =>
    rcases found : t.entry files d with ⟨e | s, t'⟩
    · simp [perform?, onEntry?, perform, scopeAt, found]
    · have line := LineStates.tokensAt?_eq (s.matches_sync d).length (d.clamp_line_lt p)
      simp [perform?, onEntry?, perform, scopeAt, found, line]
  | change d changes =>
    cases tracked : t.documents[d.uri]? with
    | none => simp [perform?, perform, changeIn, tracked]
    | some s =>
      have follows := LineStates.changeIn?_eq (filled _ s tracked) build d changes
      simp [perform?, perform, changeIn, tracked, follows]
  | close u => rfl

theorem changeIn_documents (t : Tokenizer σ) (d : Document) (changes : List Change)
    (tracked : t.documents[d.uri]? = some s) : (t.changeIn build d changes).2.documents =
      t.documents.insert d.uri (s.changeIn build d changes).2 := by
  simp [changeIn, tracked, store]

omit [DecidableEq σ] in
theorem stored_of_updates {u : Uri} {f : LineStates σ → LineStates σ}
    (updates : t.Updates files d f t') (fits : ∀ s, (f s).Matches d)
    (stored : t'.documents[u]? = some s) :
    t.documents[u]? = some s ∨ ∃ d : Document, s.slots.length = d.lineCount := by
  by_cases here : u = d.uri
  · subst here
    obtain ⟨s, -, rfl⟩ := updates.origin stored
    exact .inr ⟨d, (fits s).length⟩
  · exact .inl ((updates.others here).symm.trans stored)

theorem stored_changeIn {u : Uri} {changes : List Change}
    (stored : (t.changeIn build d changes).2.documents[u]? = some s) :
    t.documents[u]? = some s ∨ ∃ d : Document, s.slots.length = d.lineCount := by
  cases tracked : t.documents[d.uri]? with
  | none =>
    left
    simpa [changeIn, tracked] using stored
  | some before =>
    rw [changeIn_documents t d changes tracked, Std.ExtTreeMap.getElem?_insert] at stored
    split at stored
    next here =>
      cases Option.some.inj stored
      by_cases stale : d.version ≤ before.version
      · -- A change that is not newer is ignored.
        left
        rw [LineStates.changeIn, if_pos stale, ← Std.LawfulEqOrd.eq_of_compare here, tracked]
      · exact .inr ⟨d, LineStates.length_changeIn (Int.not_le.mp stale) build changes⟩
    next => exact .inl stored

/-- What an operation leaves of a document was there before, or it is as long as a snapshot. -/
theorem stored_perform (t : Tokenizer σ) (op : Operation) {u : Uri}
    (stored : (t.perform build op).2.documents[u]? = some s) :
    t.documents[u]? = some s ∨ ∃ d : Document, s.slots.length = d.lineCount := by
  cases op with
  | open_ files d =>
    exact stored_of_updates (openDocument_updates t files d)
      (fun s => (s.matches_sync d).reparse 0 (s.sync d).slots.length) stored
  | refresh files d =>
    exact stored_of_updates (refresh_updates t files d)
      (fun s => (s.matches_reset d).reparse 0 (s.reset d).slots.length) stored
  | ensure files d first stop =>
    exact stored_of_updates (ensure_updates t files d first stop)
      (fun s => (s.matches_sync d).reparse first stop) stored
  | scopeAt files d p =>
    exact stored_of_updates (scopeAt_updates t files d p)
      (fun s => (s.matches_sync d).tokensAt (d.clamp p).line) stored
  | change d changes => exact stored_changeIn stored
  | close u' =>
    left
    rw [perform, close, Std.ExtTreeMap.getElem?_erase] at stored
    split at stored
    · cases stored
    · exact stored

theorem Filled.perform (filled : t.Filled) (op : Operation) : (t.perform build op).2.Filled := by
  intro u s stored none
  rcases stored_perform t op stored with before | ⟨d, length⟩
  · exact filled u s before none
  · rw [none] at length
    exact Nat.succ_ne_zero _ length.symm

theorem Filled.run (filled : t.Filled) (ops : List Operation) :
    (t.run build ops).2.Filled ∧ t.run? build ops = some (t.run build ops) := by
  induction ops generalizing t with
  | nil => exact ⟨filled, rfl⟩
  | cons op ops ih =>
    obtain ⟨later, agrees⟩ := ih (filled.perform op)
    refine ⟨later, ?_⟩
    simp only [run?, perform?_eq filled, Option.bind_some, agrees, Option.map_some, run]

end Tokenizer

end EventXref
