import EventXref.Proofs.Batch
import EventXref.Regex.Search

/-!
Where matches lie. Every thread of a search notes places on its way, so the groups of a match lie
inside of it and between characters, whatever the program is; and the search goes on behind each
match, so that no two of them overlap.
-/
namespace EventXref

namespace Cursor

variable {text : List Char} {place : Cursor}

/-- The place stands in the text between two characters. -/
def In (text : List Char) (place : Cursor) : Prop :=
  ∃ before, text = before ++ place.rest ∧ place.offset = Text.size before

theorem In.past {c : Char} {rest : List Char} (inside : place.In text)
    (ahead : place.rest = c :: rest) : (place.past c rest).In text := by
  obtain ⟨before, split, offset⟩ := inside
  refine ⟨before ++ [c], ?_, ?_⟩
  · simp [Cursor.past, split, ahead]
  · simp [Cursor.past, offset]

theorem In.boundary (inside : place.In text) : Text.isBoundary place.offset text = true := by
  obtain ⟨before, rfl, offset⟩ := inside
  simp [Text.isBoundary, offset, Text.takeBytes_size]

end Cursor

namespace Program

variable {text : List Char} {p : Program} {ahead : Nat → Cursor → Bool} {place : Cursor}
  {low upto : Nat}

/-- The thread started no earlier than at `low`, and since then it has noted places between
characters, none of them behind `upto`. -/
structure Thread.Keeps (text : List Char) (low upto : Nat) (t : Thread) : Prop where
  low_le : low ≤ t.start
  start_le : t.start ≤ upto
  start : Text.isBoundary t.start text = true
  marks : ∀ e ∈ t.marks, t.start ≤ e.2 ∧ e.2 ≤ upto ∧ Text.isBoundary e.2 text = true

theorem Thread.Keeps.step {t : Thread} (keeps : t.Keeps text low upto) (next : Nat) :
    Thread.Keeps text low upto { t with step := next } :=
  ⟨keeps.low_le, keeps.start_le, keeps.start, keeps.marks⟩

theorem Thread.Keeps.mono {t : Thread} {later : Nat} (keeps : t.Keeps text low upto)
    (le : upto ≤ later) : t.Keeps text low later := by
  refine ⟨keeps.low_le, Nat.le_trans keeps.start_le le, keeps.start, ?_⟩
  intro e noted
  obtain ⟨behind, before, boundary⟩ := keeps.marks e noted
  exact ⟨behind, Nat.le_trans before le, boundary⟩

theorem Thread.Keeps.onward {t : Thread} {ts : List Thread} (here : t.Keeps text low upto)
    (rest : ∀ t ∈ ts, t.Keeps text low upto) (allowed : Bool) (next : Nat) :
    ∀ x ∈ (if allowed then { t with step := next } :: ts else ts), x.Keeps text low upto := by
  cases allowed with
  | true => exact List.forall_mem_cons.mpr ⟨here.step next, rest⟩
  | false => exact rest

theorem follow_keeps (boundary : Text.isBoundary place.offset text = true) {bound : Nat}
    {ts : List Thread} {waiting : Waiting} {v : Visits}
    (threads : ∀ t ∈ ts, t.Keeps text low place.offset)
    (waits : ∀ t ∈ waiting, t.Keeps text low place.offset) :
    ∀ t ∈ (follow p ahead place bound ts waiting v).1, t.Keeps text low place.offset := by
  fun_induction follow p ahead place bound ts waiting v with
  | case1 => exact waits
  | case2 => exact waits
  | case3 _ t ts _ _ _ ih => exact ih (List.forall_mem_cons.mp threads).2 waits
  | case4 _ t ts _ _ _ _ _ ih => exact ih (List.forall_mem_cons.mp threads).2 waits
  | case5 _ t ts _ _ _ _ _ _ _ ih =>
    obtain ⟨here, rest⟩ := List.forall_mem_cons.mp threads
    exact ih rest (List.forall_mem_cons.mpr ⟨here, waits⟩)
  | case6 _ t ts _ _ _ _ _ _ _ ih =>
    obtain ⟨here, rest⟩ := List.forall_mem_cons.mp threads
    exact ih rest (List.forall_mem_cons.mpr ⟨here, waits⟩)
  | case7 _ t ts _ _ _ _ _ ih =>
    obtain ⟨here, rest⟩ := List.forall_mem_cons.mp threads
    exact ih rest (List.forall_mem_cons.mpr ⟨here, waits⟩)
  | case8 _ t ts _ _ _ _ a next _ _ ih =>
    obtain ⟨here, rest⟩ := List.forall_mem_cons.mp threads
    exact ih (here.onward rest _ next) waits
  | case9 _ t ts _ _ _ _ slot next _ _ ih =>
    obtain ⟨here, rest⟩ := List.forall_mem_cons.mp threads
    refine ih (List.forall_mem_cons.mpr ⟨⟨here.low_le, here.start_le, here.start, ?_⟩, rest⟩) waits
    exact List.forall_mem_cons.mpr ⟨⟨here.start_le, Nat.le_refl _, boundary⟩, here.marks⟩
  | case10 _ t ts _ _ _ _ one other _ _ ih =>
    obtain ⟨here, rest⟩ := List.forall_mem_cons.mp threads
    exact ih (List.forall_mem_cons.mpr ⟨here.step one,
      List.forall_mem_cons.mpr ⟨here.step other, rest⟩⟩) waits
  | case11 _ t ts _ _ _ _ holds inner next _ _ ih =>
    obtain ⟨here, rest⟩ := List.forall_mem_cons.mp threads
    exact ih (here.onward rest _ next) waits

theorem taken?_keeps {t t' : Thread} {c : Char} (keeps : t.Keeps text low upto)
    (taken : p.taken? t c = some t') : t'.Keeps text low upto := by
  unfold taken? at taken
  split at taken
  · split at taken
    · cases Option.some.inj taken
      exact keeps.step _
    · cases taken
  · split at taken
    · cases Option.some.inj taken
      exact keeps.step _
    · cases taken
  · cases taken

theorem take_keeps {c : Char} (boundary : Text.isBoundary place.offset text = true)
    {ts : List Thread} {waiting : Waiting} {v : Visits}
    (threads : ∀ t ∈ ts, t.Keeps text low place.offset)
    (waits : ∀ t ∈ waiting, t.Keeps text low place.offset) :
    ∀ t ∈ (take p ahead c place ts waiting v).1, t.Keeps text low place.offset := by
  fun_induction take p ahead c place ts waiting v with
  | case1 => exact waits
  | case2 t ts _ _ _ ih => exact ih (List.forall_mem_cons.mp threads).2 waits
  | case3 t ts waiting v t' taken waiting' v' followed ih =>
    obtain ⟨here, rest⟩ := List.forall_mem_cons.mp threads
    have reached : ∀ t ∈ (follow p ahead place p.stepBound [t'] waiting v).1,
        t.Keeps text low place.offset :=
      follow_keeps boundary (List.forall_mem_singleton.mpr (taken?_keeps here taken)) waits
    rw [followed] at reached
    exact ih rest reached

theorem settle_mem (ts : List Thread) :
    (∀ t ∈ (p.settle ts).1, t ∈ ts) ∧ ∀ t ∈ (p.settle ts).2, t ∈ ts := by
  induction ts with
  | nil => simp [settle]
  | cons t ts ih =>
    unfold settle
    split
    · simp
    · obtain ⟨live, done⟩ := ih
      constructor
      · intro t' member
        rcases List.mem_cons.mp member with rfl | later
        · exact List.mem_cons_self
        · exact List.mem_cons_of_mem _ (live t' later)
      · intro t' member
        exact List.mem_cons_of_mem _ (done t' member)

end Program

/-- The match starts no earlier than at `low`, its ends and the places it noted stand between
characters of the text, and these places lie inside of it. -/
structure Match.Lies (text : List Char) (low : Nat) (m : Match) : Prop where
  low_le : low ≤ m.start
  start_le : m.start ≤ m.stop
  start : Text.isBoundary m.start text = true
  stop : Text.isBoundary m.stop text = true
  marks : ∀ e ∈ m.marks, m.start ≤ e.2 ∧ e.2 ≤ m.stop ∧ Text.isBoundary e.2 text = true

namespace Program

variable {text : List Char} {p : Program} {ahead : Nat → Cursor → Bool} {place : Cursor} {low : Nat}

/-- What a search may find: a match, with the place behind it. -/
def Lands (text : List Char) (low : Nat) (found : Match × Cursor) : Prop :=
  found.1.Lies text low ∧ found.2.In text ∧ found.2.offset = found.1.stop

theorem Thread.Keeps.lands {t : Thread} (keeps : t.Keeps text low place.offset)
    (inside : place.In text) : Lands text low (⟨t.start, place.offset, t.marks⟩, place) :=
  ⟨⟨keeps.low_le, keeps.start_le, keeps.start, inside.boundary, keeps.marks⟩, inside, rfl⟩

/-- Threads that wait at a place, with one that may start there. -/
theorem start_keeps {waiting waiting' : Waiting} {v v' : Visits} {starts : Bool}
    (inside : place.In text) (low_le : low ≤ place.offset)
    (waits : ∀ t ∈ waiting, t.Keeps text low place.offset)
    (started : (if starts = true then
      follow p ahead place p.stepBound [⟨p.start, place.offset, []⟩] waiting v
      else (waiting, v)) = (waiting', v')) :
    ∀ t ∈ waiting', t.Keeps text low place.offset := by
  cases starts with
  | false =>
    cases started
    exact waits
  | true =>
    have new : Thread.Keeps text low place.offset ⟨p.start, place.offset, []⟩ :=
      ⟨low_le, Nat.le_refl _, inside.boundary, by simp⟩
    have reached : ∀ t ∈ (follow p ahead place p.stepBound [⟨p.start, place.offset, []⟩] waiting
        v).1, t.Keeps text low place.offset :=
      follow_keeps inside.boundary (List.forall_mem_singleton.mpr new) waits
    rw [if_pos rfl] at started
    rwa [started] at reached

theorem settle_lands {waiting : Waiting} {live : List Thread} {done : Option Thread} {found : Found}
    (inside : place.In text) (waits : ∀ t ∈ waiting, t.Keeps text low place.offset)
    (lands : ∀ f ∈ found, Lands text low f) (settled : p.settle waiting.reverse = (live, done)) :
    (∀ t ∈ live, t.Keeps text low place.offset) ∧
      ∀ f ∈ (match done with
        | some t => some (⟨t.start, place.offset, t.marks⟩, place)
        | none => found : Found), Lands text low f := by
  obtain ⟨alive, ended⟩ := settle_mem (p := p) waiting.reverse
  rw [settled] at alive ended
  refine ⟨fun t member => waits t (List.mem_reverse.mp (alive t member)), ?_⟩
  cases done with
  | none => exact lands
  | some t =>
    intro f here
    cases Option.some.inj here
    exact (waits t (List.mem_reverse.mp (ended t rfl))).lands inside

theorem scan_lands {anchored : Bool} {before : Option Char} {offset : Nat} {rest : List Char}
    {waiting : Waiting} {found : Found} {v : Visits}
    (inside : Cursor.In text ⟨before, rest, offset⟩) (low_le : low ≤ offset)
    (waits : ∀ t ∈ waiting, t.Keeps text low offset) (lands : ∀ f ∈ found, Lands text low f) :
    ∀ f ∈ (scan p ahead anchored before offset rest waiting found v).1, Lands text low f := by
  fun_induction scan p ahead anchored before offset rest waiting found v with
  | case1 before offset waiting found v waiting' v' live done settled place started =>
    exact (settle_lands inside (start_keeps inside low_le waits started) lands settled).2
  | case2 before offset waiting found v waiting' v' live done settled c rest place started =>
    exact (settle_lands inside (start_keeps inside low_le waits started) lands settled).2
  | case3 before offset waiting found v waiting' v' live done settled c rest taken v'' place started
      found' _ next took ih =>
    obtain ⟨alive, lands⟩ :=
      settle_lands inside (start_keeps inside low_le waits started) lands settled
    have behind : next.In text := inside.past rfl
    have further : offset ≤ next.offset := Nat.le_add_right _ _
    have moved : ∀ t ∈ (take p ahead c next live [] v'.nextTurn).1,
        t.Keeps text low next.offset :=
      take_keeps behind.boundary (fun t member => (alive t member).mono further) (by simp)
    rw [took] at moved
    exact ih behind (Nat.le_trans low_le further) moved lands

theorem search_lands (inside : place.In text) (low_le : low ≤ place.offset) (v : Visits) :
    ∀ f ∈ (p.search place v).1, Lands text low f :=
  scan_lands inside low_le (by simp) (by simp)

theorem findNext_lands (p : Program) (last : Option Nat) (v : Visits) (inside : place.In text) :
    ∀ f ∈ (p.findNext last place v).1, Lands text place.offset f := by
  have found := search_lands (p := p) inside (Nat.le_refl _) v
  unfold findNext
  split
  · rename_i m behind v' here
    rw [here] at found
    split
    · split
      · simp
      · rename_i c rest ahead
        exact search_lands (inside.past ahead) (Nat.le_add_right _ _) v'
    · exact found
  · simp

end Program

namespace Match

variable {text : List Char} {low : Nat} {m : Match} {ms : List Match}

/-- The offset lies inside of the match, between two characters. -/
structure Holds (text : List Char) (m : Match) (offset : Nat) : Prop where
  start_le : m.start ≤ offset
  le_stop : offset ≤ m.stop
  boundary : Text.isBoundary offset text = true

theorem Lies.group? {i : Nat} {range : Nat × Nat} (lies : m.Lies text low)
    (took : m.group? i = some range) : m.Holds text range.1 ∧ m.Holds text range.2 := by
  have marked : ∀ slot offset, m.marks.lookup slot = some offset → m.Holds text offset := by
    intro slot offset found
    obtain ⟨before, behind, marks, -⟩ := List.lookup_eq_some_iff.mp found
    obtain ⟨start_le, le_stop, boundary⟩ := lies.marks (slot, offset) (by simp [marks])
    exact ⟨start_le, le_stop, boundary⟩
  unfold Match.group? at took
  split at took
  · cases Option.some.inj took
    exact ⟨⟨Nat.le_refl _, lies.start_le, lies.start⟩, ⟨lies.start_le, Nat.le_refl _, lies.stop⟩⟩
  · split at took
    · rename_i opened closed
      cases Option.some.inj took
      exact ⟨marked _ _ opened, marked _ _ closed⟩
    · cases took

/-- Matches in order, each behind the one before it. -/
def Ordered (text : List Char) : Nat → List Match → Prop
  | _, [] => True
  | low, m :: ms => m.Lies text low ∧ Ordered text m.stop ms

theorem Ordered.lies (ordered : Ordered text low ms) : ∀ m ∈ ms, m.Lies text low := by
  induction ms generalizing low with
  | nil => simp
  | cons m ms ih =>
    obtain ⟨here, rest⟩ := ordered
    refine List.forall_mem_cons.mpr ⟨here, ?_⟩
    intro other member
    have lies := ih rest other member
    have low_le : low ≤ m.stop := Nat.le_trans here.low_le here.start_le
    exact ⟨Nat.le_trans low_le lies.low_le, lies.start_le, lies.start, lies.stop, lies.marks⟩

theorem Ordered.pairwise (ordered : Ordered text low ms) :
    ms.Pairwise fun a b => a.stop ≤ b.start := by
  induction ms generalizing low with
  | nil => exact .nil
  | cons m ms ih =>
    obtain ⟨-, rest⟩ := ordered
    exact List.pairwise_cons.mpr ⟨fun other member => (rest.lies other member).low_le, ih rest⟩

end Match

namespace Program

variable {text : List Char} {place : Cursor}

theorem matchesFrom_ordered (p : Program) (bound : Nat) (last : Option Nat) (v : Visits)
    (ms : List Match) (inside : place.In text) :
    ∃ more, p.matchesFrom bound last place v ms = ms.reverse ++ more ∧
      Match.Ordered text place.offset more := by
  fun_induction matchesFrom p bound last place v ms with
  | case1 => exact ⟨[], by simp, trivial⟩
  | case2 => exact ⟨[], by simp, trivial⟩
  | case3 bound last place v ms m behind v' found ih =>
    have lands := p.findNext_lands last v inside
    rw [found] at lands
    obtain ⟨lies, there, offset⟩ := lands _ rfl
    obtain ⟨more, result, ordered⟩ := ih there
    refine ⟨m :: more, by simp [result], lies, ?_⟩
    rwa [← offset]

/-- The matches in a text do not overlap, whatever is searched for. -/
theorem findAll_ordered (p : Program) (text : List Char) :
    Match.Ordered text 0 (p.findAll text) := by
  have start : Cursor.In text ⟨none, text, 0⟩ := ⟨[], rfl, rfl⟩
  obtain ⟨more, result, ordered⟩ :=
    p.matchesFrom_ordered (text.length + 2) none (Visits.none p) [] start
  rw [findAll, result]
  exact ordered

end Program

end EventXref
