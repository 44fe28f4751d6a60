import EventXref.Proofs.CharSets
import EventXref.Proofs.Ways

/-!
The first match of a program in a text. Threads stand abreast, those that started earlier before the
others, and no place from which the end can be reached is passed over. So a search gives a match if
there is a way to the end from any place on, and the match begins at the first of these places.
-/
namespace EventXref

namespace Program

variable {p : Program} {ahead : Nat → Cursor → Bool} {place q : Cursor} {t t' u : Thread}
  {n s bound : Nat} {marks : List (Nat × Nat)} {v v' : Visits} {ts : List Thread} {waiting : Waiting}

/-- Threads that stand at a place together, the least preferred first: those that started earlier
are preferred, none started behind `s`, and a way that one of them goes is one of its `Origin`. -/
structure Abreast (p : Program) (ahead : Nat → Cursor → Bool)
    (Origin : Nat → Cursor → List (Nat × Nat) → Prop) (place : Cursor) (s : Nat) (waiting : Waiting)
    (v : Visits) : Prop where
  fits : v.Fits p
  closed : Closed p ahead place s [] waiting v
  order : waiting.Pairwise fun a b => b.start ≤ a.start
  low : ∀ t ∈ waiting, t.start ≤ s
  waits : ∀ t ∈ waiting, p.waits t = true
  sound : ∀ t ∈ waiting, ∀ n q marks, p.Way ahead n t place q marks → Origin t.start q marks

variable {Origin : Nat → Cursor → List (Nat × Nat) → Prop}

theorem Visits.Fresh.abreast (fresh : v.Fresh p) (place : Cursor) (s : Nat) :
    Abreast p ahead Origin place s [] v :=
  ⟨fresh.1, fresh.closed [], .nil, by simp, by simp, by simp⟩

theorem Abreast.later {s' : Nat} (abreast : Abreast p ahead Origin place s waiting v)
    (le : s ≤ s') : Abreast p ahead Origin place s' waiting v :=
  ⟨abreast.fits, abreast.closed.later le, abreast.order,
    fun t member => Nat.le_trans (abreast.low t member) le, abreast.waits, abreast.sound⟩

/-- A thread that did not start before the others is followed behind them. -/
theorem Abreast.follow (abreast : Abreast p ahead Origin place s waiting v) (le : s ≤ t.start)
    (sound : ∀ n q marks, p.Way ahead n t place q marks → Origin t.start q marks) :
    let r := follow p ahead place p.stepBound [t] waiting v
    Abreast p ahead Origin place t.start r.1 r.2 ∧ (∀ u ∈ waiting, u ∈ r.1) ∧
      (p.Ends ahead t place → ∃ u ∈ r.1, u.start ≤ t.start ∧ p.Ends ahead u place) := by
  intro r
  have enough : 2 * v.left + [t].length ≤ p.stepBound := by
    have few := v.left_le
    rw [abreast.fits.size] at few
    simp only [stepBound, List.length_singleton]
    omega
  obtain ⟨closed, fits, -, reached⟩ := follow_closed abreast.fits enough
    (List.forall_mem_singleton.mpr (Nat.le_refl t.start)) ((abreast.closed.later le).with [t])
  -- What every thread that comes from `t` keeps of it.
  let P : Thread → Prop := fun u => u.start = t.start ∧
    ∀ n q marks, p.Way ahead n u place q marks → Origin t.start q marks
  have keeps : ∀ u, P u → ∀ u' ∈ p.onward ahead place u, P u' := by
    rintro u ⟨start, ways⟩ u' member
    obtain ⟨-, same, -⟩ := onward_same member
    exact ⟨same.trans start, fun n q marks way => ways _ q marks (.pass member way)⟩
  obtain ⟨new, result, all⟩ := follow_adds p.stepBound waiting v keeps
    (List.forall_mem_singleton.mpr (⟨rfl, sound⟩ : P t))
  have result : r.1 = new ++ waiting := result
  have start : ∀ u ∈ new, u.start = t.start := fun u member => (all u member).1.1
  refine ⟨⟨fits, closed, ?_, ?_, ?_, ?_⟩, ?_, ?_⟩
  · rw [result]
    refine List.pairwise_append.mpr ⟨?_, abreast.order, ?_⟩
    · refine List.pairwise_iff_forall_sublist.mpr fun {a b} sub => Nat.le_of_eq ?_
      exact (start b (sub.subset (by simp))).trans (start a (sub.subset (by simp))).symm
    · intro a here b there
      rw [start a here]
      exact Nat.le_trans (abreast.low b there) le
  · rw [result]
    refine List.forall_mem_append.mpr ⟨fun u member => Nat.le_of_eq (start u member), ?_⟩
    exact fun u member => Nat.le_trans (abreast.low u member) le
  · rw [result]
    exact List.forall_mem_append.mpr ⟨fun u member => (all u member).2, abreast.waits⟩
  · rw [result]
    refine List.forall_mem_append.mpr ⟨fun u member n q marks way => ?_, abreast.sound⟩
    rw [start u member]
    exact (all u member).1.2 n q marks way
  · intro u member
    rw [result]
    exact List.mem_append_right _ member
  · intro ends
    rcases reached t List.mem_cons_self with outside | here
    · exact absurd outside ends.inside
    · exact closed.ends ends here

/-- Threads that take a character in order of preference stand abreast behind it, and none of those
that can come to the end is missed. -/
theorem Abreast.take {c : Char} {live : List Thread} {high : Nat}
    (abreast : Abreast p ahead Origin place s waiting v) (s_le : s ≤ high)
    (order : live.Pairwise fun a b => a.start ≤ b.start) (behind : ∀ t ∈ live, s ≤ t.start)
    (low : ∀ t ∈ live, t.start ≤ high)
    (sound : ∀ t ∈ live, ∀ t', p.taken? t c = some t' → ∀ n q marks,
      p.Way ahead n t' place q marks → Origin t.start q marks) :
    let r := take p ahead c place live waiting v
    Abreast p ahead Origin place high r.1 r.2 ∧ (∀ u ∈ waiting, u ∈ r.1) ∧
      ∀ t ∈ live, ∀ t', p.taken? t c = some t' → p.Ends ahead t' place →
        ∃ u ∈ r.1, u.start ≤ t.start ∧ p.Ends ahead u place := by
  induction live generalizing s waiting v with
  | nil => exact ⟨abreast.later s_le, fun _ member => member, by simp⟩
  | cons t live ih =>
    obtain ⟨first, order⟩ := List.pairwise_cons.mp order
    obtain ⟨behind, behinds⟩ := List.forall_mem_cons.mp behind
    obtain ⟨here, low⟩ := List.forall_mem_cons.mp low
    obtain ⟨ways, sound⟩ := List.forall_mem_cons.mp sound
    cases taken : p.taken? t c with
    | none =>
      rw [Program.take, taken]
      obtain ⟨result, kept, all⟩ := ih abreast s_le order behinds low sound
      refine ⟨result, kept, List.forall_mem_cons.mpr ⟨fun t' took => ?_, all⟩⟩
      rw [taken] at took
      cases took
    | some t' =>
      obtain ⟨-, start, -, -⟩ := taken?_same taken
      rw [Program.take, taken]
      obtain ⟨abreast', kept, ends⟩ := abreast.follow (t := t') (start ▸ behind)
        (start ▸ ways t' taken)
      obtain ⟨result, kept', all⟩ := ih abreast' (start ▸ here) order
        (fun u member => start ▸ first u member) low sound
      refine ⟨result, fun u member => kept' u (kept u member), List.forall_mem_cons.mpr ⟨?_, all⟩⟩
      intro t'' took can
      cases taken.symm.trans took
      obtain ⟨u, member, low, can'⟩ := ends can
      exact ⟨u, kept' u member, start ▸ low, can'⟩

theorem settle_cases (ts : List Thread) :
    (p.settle ts = (ts, none) ∧ ∀ t ∈ ts, p.isDone t = false) ∨
      ∃ live t after, ts = live ++ t :: after ∧ p.settle ts = (live, some t) ∧
        p.isDone t = true ∧ ∀ u ∈ live, p.isDone u = false := by
  induction ts with
  | nil => exact .inl ⟨rfl, by simp⟩
  | cons t ts ih =>
    by_cases done : p.isDone t = true
    · exact .inr ⟨[], t, ts, rfl, by simp [settle, done], done, by simp⟩
    · have going : p.isDone t = false := by simpa using done
      rcases ih with ⟨all, none⟩ | ⟨live, u, after, rfl, settled, ended, none⟩
      · exact .inl ⟨by simp [settle, going, all], List.forall_mem_cons.mpr ⟨going, none⟩⟩
      · exact .inr ⟨t :: live, u, after, rfl, by simp [settle, going, settled], ended,
          List.forall_mem_cons.mpr ⟨going, none⟩⟩

variable {found : Found} {live : List Thread}

/-- Some match has been found that starts at `s` or before, or else a thread that does can still
come to the end. -/
def Promised (p : Program) (ahead : Nat → Cursor → Bool) (place : Cursor) (found : Found)
    (threads : List Thread) (s : Nat) : Prop :=
  (∃ f ∈ found, f.1.start ≤ s) ∨ ∃ t ∈ threads, t.start ≤ s ∧ p.Ends ahead t place

/-- What has been found so far: a match of its `Origin`, and no thread that is still on its way
started behind it. -/
structure Leading (Origin : Nat → Cursor → List (Nat × Nat) → Prop) (place : Cursor)
    (threads : List Thread) (found : Found) : Prop where
  origin : ∀ f ∈ found, Origin f.1.start f.2 f.1.marks ∧ f.2.offset = f.1.stop
  start_le : ∀ f ∈ found, f.1.start ≤ place.offset
  before : ∀ f ∈ found, ∀ t ∈ threads, t.start ≤ f.1.start

/-- The match that a thread gives if one is done at a place, else the match so far. -/
def latest (place : Cursor) (done : Option Thread) (found : Found) : Found :=
  match done with
  | some t => some (⟨t.start, place.offset, t.marks⟩, place)
  | none => found

/-- The first thread that is done gives the match, and the threads behind it are given up. -/
theorem Abreast.settle (abreast : Abreast p ahead Origin place place.offset waiting v)
    (leading : Leading Origin place waiting found) {done : Option Thread}
    (settled : p.settle waiting.reverse = (live, done)) :
    Leading Origin place live (latest place done found) ∧
      (live.Pairwise fun a b => a.start ≤ b.start) ∧
      (∀ t ∈ live, t ∈ waiting ∧ p.isDone t = false) ∧
      ∀ s, Promised p ahead place found waiting s →
        Promised p ahead place (latest place done found) live s := by
  have order : waiting.reverse.Pairwise fun a b => a.start ≤ b.start :=
    List.pairwise_reverse.mpr abreast.order
  rcases settle_cases (p := p) waiting.reverse with
    ⟨all, going⟩ | ⟨front, t, after, split, one, ended, going⟩
  · rw [all] at settled
    cases settled
    refine ⟨⟨leading.origin, leading.start_le, fun f member t there => ?_⟩, order, ?_, ?_⟩
    · exact leading.before f member t (List.mem_reverse.mp there)
    · exact fun t member => ⟨List.mem_reverse.mp member, going t member⟩
    · rintro s (here | ⟨t, member, low, ends⟩)
      · exact .inl here
      · exact .inr ⟨t, List.mem_reverse.mpr member, low, ends⟩
  · rw [one] at settled
    cases settled
    have inside : ∀ u ∈ live ++ t :: after, u ∈ waiting :=
      fun u member => List.mem_reverse.mp (split ▸ member)
    have here : t ∈ waiting := inside t (by simp)
    rw [split] at order
    obtain ⟨front, back, across⟩ := List.pairwise_append.mp order
    refine ⟨⟨?_, ?_, ?_⟩, front, fun u member => ⟨inside u (by simp [member]), going u member⟩, ?_⟩
    · rintro f ⟨⟩
      exact ⟨abreast.sound t here _ _ _ (.done ended), rfl⟩
    · rintro f ⟨⟩
      exact abreast.low t here
    · rintro f ⟨⟩ u member
      exact across u member t List.mem_cons_self
    · rintro s (⟨f, member, low⟩ | ⟨u, member, low, ends⟩)
      · exact .inl ⟨_, rfl, Nat.le_trans (leading.before f member t here) low⟩
      · rw [← List.mem_reverse, split, List.mem_append] at member
        rcases member with before | behind
        · exact .inr ⟨u, before, low, ends⟩
        · refine .inl ⟨_, rfl, Nat.le_trans ?_ low⟩
          rcases List.mem_cons.mp behind with rfl | after
          · exact Nat.le_refl _
          · exact (List.pairwise_cons.mp back).1 u after

/-- A thread that is not done comes to the end behind the next character only. -/
theorem Ends.take (ends : p.Ends ahead t place) (waits : p.waits t = true)
    (going : p.isDone t = false) : ∃ c rest t', place.rest = c :: rest ∧ p.taken? t c = some t' ∧
      p.Ends ahead t' (place.past c rest) := by
  obtain ⟨n, q, marks, way⟩ := ends
  cases way with
  | done ended =>
    rw [going] at ended
    cases ended
  | pass member _ =>
    rw [Program.waits] at waits
    rw [onward] at member
    split at waits <;> simp_all
  | take next taken way => exact ⟨_, _, _, next, taken, _, _, _, way⟩

variable {anchored : Bool}

def seeded (p : Program) (ahead : Nat → Cursor → Bool) (anchored : Bool) (place : Cursor)
    (waiting : Waiting) (found : Found) (v : Visits) : Waiting × Visits :=
  if !anchored && found.isNone && p.mayStart place.rest then
    p.follow ahead place p.stepBound [⟨p.start, place.offset, []⟩] waiting v
  else (waiting, v)

theorem scan_nil (before : Option Char) (offset : Nat) :
    p.scan ahead anchored before offset [] waiting found v =
      let place : Cursor := ⟨before, [], offset⟩
      let r := p.seeded ahead anchored place waiting found v
      (latest place (p.settle r.1.reverse).2 found, r.2.nextTurn) := rfl

theorem scan_cons (before : Option Char) (offset : Nat) (c : Char) (rest : List Char) :
    p.scan ahead anchored before offset (c :: rest) waiting found v =
      let place : Cursor := ⟨before, c :: rest, offset⟩
      let r := p.seeded ahead anchored place waiting found v
      let s := p.settle r.1.reverse
      let found := latest place s.2 found
      if s.1.isEmpty && (anchored || found.isSome) then (found, r.2.nextTurn)
      else
        let next := place.past c rest
        let r := p.take ahead c next s.1 [] r.2.nextTurn
        p.scan ahead anchored next.before next.offset rest r.1 found r.2 := rfl

/-- Whether a thread that starts at an offset, here or later on, comes to the end. -/
def Seeds (p : Program) (ahead : Nat → Cursor → Bool) (anchored : Bool) (place : Cursor) (s : Nat) :
    Prop :=
  anchored = false ∧ ∃ q, place.Upto q ∧ q.offset = s ∧ p.Ends ahead ⟨p.start, s, []⟩ q

/-- A search may rely on the characters with which a match begins, and a thread that it starts gives
a match of its origin. -/
structure Starts (p : Program) (ahead : Nat → Cursor → Bool)
    (Origin : Nat → Cursor → List (Nat × Nat) → Prop) (anchored : Bool) (place : Cursor) : Prop where
  may : anchored = false → ∀ q : Cursor, p.Ends ahead ⟨p.start, q.offset, []⟩ q →
    p.mayStart q.rest = true
  sound : anchored = false → ∀ q, place.Upto q → ∀ n r marks,
    p.Way ahead n ⟨p.start, q.offset, []⟩ q r marks → Origin q.offset r marks

/-- The state of a search at a place before the next character is taken: what is found and which
threads go on, in order of preference. -/
structure Poised (p : Program) (ahead : Nat → Cursor → Bool)
    (Origin : Nat → Cursor → List (Nat × Nat) → Prop) (place : Cursor) (live : List Thread)
    (found : Found) (v : Visits) : Prop where
  fits : v.Fits p
  leading : Leading Origin place live found
  order : live.Pairwise fun a b => a.start ≤ b.start
  low : ∀ t ∈ live, t.start ≤ place.offset
  going : ∀ t ∈ live, p.waits t = true ∧ p.isDone t = false
  sound : ∀ t ∈ live, ∀ n q marks, p.Way ahead n t place q marks → Origin t.start q marks

theorem Abreast.seeded (abreast : Abreast p ahead Origin place place.offset waiting v)
    (leading : Leading Origin place waiting found) (starts : Starts p ahead Origin anchored place) :
    let r := p.seeded ahead anchored place waiting found v
    Abreast p ahead Origin place place.offset r.1 r.2 ∧ Leading Origin place r.1 found ∧
      ∀ s, Promised p ahead place found waiting s ∨
        (anchored = false ∧ s = place.offset ∧ p.Ends ahead ⟨p.start, s, []⟩ place) →
        Promised p ahead place found r.1 s := by
  intro r
  by_cases on : (!anchored && found.isNone && p.mayStart place.rest) = true
  · have eq : r = p.follow ahead place p.stepBound [⟨p.start, place.offset, []⟩] waiting v :=
      if_pos on
    simp only [Bool.and_eq_true, Bool.not_eq_true', Option.isNone_iff_eq_none] at on
    obtain ⟨⟨free, rfl⟩, -⟩ := on
    obtain ⟨result, kept, ends⟩ := abreast.follow (t := ⟨p.start, place.offset, []⟩) (Nat.le_refl _)
      (starts.sound free place (.here _))
    rw [← eq] at result kept ends
    refine ⟨result, ⟨by simp, by simp, by simp⟩, ?_⟩
    rintro s ((⟨f, none, -⟩ | ⟨t, member, low, can⟩) | ⟨-, rfl, can⟩)
    · cases none
    · exact .inr ⟨t, kept t member, low, can⟩
    · exact .inr (ends can)
  · have eq : r = (waiting, v) := if_neg on
    rw [eq]
    refine ⟨abreast, leading, ?_⟩
    rintro s (promised | ⟨free, rfl, can⟩)
    · exact promised
    · cases found with
      | some f => exact .inl ⟨f, rfl, leading.start_le f rfl⟩
      | none => simp [free, starts.may free place can] at on

/-- A place of a search: threads start unless there is a match, and then the first one that is done
gives the match, while the threads behind it are given up. -/
theorem Abreast.poised (abreast : Abreast p ahead Origin place place.offset waiting v)
    (leading : Leading Origin place waiting found) (starts : Starts p ahead Origin anchored place) :
    let r := p.seeded ahead anchored place waiting found v
    let s := p.settle r.1.reverse
    Poised p ahead Origin place s.1 (latest place s.2 found) r.2 ∧
      ∀ i, Promised p ahead place found waiting i ∨
        (anchored = false ∧ i = place.offset ∧ p.Ends ahead ⟨p.start, i, []⟩ place) →
        Promised p ahead place (latest place s.2 found) s.1 i := by
  intro r s
  obtain ⟨abreast', leading', seeds⟩ := abreast.seeded leading starts
  have settled : p.settle r.1.reverse = (s.1, s.2) := rfl
  obtain ⟨leading'', order, inside, promised⟩ := abreast'.settle leading' settled
  refine ⟨⟨abreast'.fits, leading'', order, ?_, ?_, ?_⟩, fun i given => promised i (seeds i given)⟩
  · exact fun t member => abreast'.low t (inside t member).1
  · exact fun t member => ⟨abreast'.waits t (inside t member).1, (inside t member).2⟩
  · exact fun t member => abreast'.sound t (inside t member).1

/-- The threads that go on take the next character. -/
theorem Poised.take {c : Char} {rest : List Char} (poised : Poised p ahead Origin place live found v)
    (next : place.rest = c :: rest) :
    let r := p.take ahead c (place.past c rest) live [] v.nextTurn
    Abreast p ahead Origin (place.past c rest) (place.past c rest).offset r.1 r.2 ∧
      Leading Origin (place.past c rest) r.1 found ∧
      ∀ s, Promised p ahead place found live s →
        Promised p ahead (place.past c rest) found r.1 s := by
  have le : place.offset ≤ (place.past c rest).offset :=
    Nat.le_of_lt (Cursor.Upto.offset_lt (.here (place.past c rest)))
  -- no thread that goes on started behind `high`, the start of the match if there is one
  obtain ⟨high, high_le, below, found_high⟩ : ∃ high, high ≤ place.offset ∧
      (∀ t ∈ live, t.start ≤ high) ∧ ∀ f ∈ found, high ≤ f.1.start := by
    cases found with
    | none => exact ⟨place.offset, Nat.le_refl _, poised.low, by simp⟩
    | some f => exact ⟨f.1.start, poised.leading.start_le f rfl, poised.leading.before f rfl, by simp⟩
  have sound : ∀ t ∈ live, ∀ t', p.taken? t c = some t' → ∀ n q marks,
      p.Way ahead n t' (place.past c rest) q marks → Origin t.start q marks :=
    fun t member t' taken n q marks way =>
      poised.sound t member _ q marks (.take next taken way)
  obtain ⟨result, -, all⟩ := (poised.fits.nextTurn.abreast (place.past c rest) 0).take
    (Nat.zero_le high) poised.order (fun _ _ => Nat.zero_le _) below sound
  refine ⟨result.later (Nat.le_trans high_le le), ⟨poised.leading.origin, ?_, ?_⟩, ?_⟩
  · exact fun f member => Nat.le_trans (poised.leading.start_le f member) le
  · exact fun f member t there => Nat.le_trans (result.low t there) (found_high f member)
  · rintro s (here | ⟨t, member, low, ends⟩)
    · exact .inl here
    · obtain ⟨waits, going⟩ := poised.going t member
      obtain ⟨c', rest', t', next', taken, ends'⟩ := ends.take waits going
      cases next.symm.trans next'
      obtain ⟨u, there, start, can⟩ := all t member t' taken ends'
      exact .inr ⟨u, there, Nat.le_trans start low, can⟩

/-- What a search gives: a match of its origin that does not start behind a place from which the end
can be reached, and visits that are as good as new. -/
structure Finds (p : Program) (Origin : Nat → Cursor → List (Nat × Nat) → Prop)
    (promised : Nat → Prop) (result : Found × Visits) : Prop where
  origin : ∀ f ∈ result.1, Origin f.1.start f.2 f.1.marks ∧ f.2.offset = f.1.stop
  least : ∀ s, promised s → ∃ f ∈ result.1, f.1.start ≤ s
  fresh : result.2.Fresh p

theorem scan_finds {before : Option Char} {offset : Nat} {rest : List Char}
    (starts : Starts p ahead Origin anchored ⟨before, rest, offset⟩)
    (abreast : Abreast p ahead Origin ⟨before, rest, offset⟩ offset waiting v)
    (leading : Leading Origin ⟨before, rest, offset⟩ waiting found) :
    Finds p Origin
      (fun s => Promised p ahead ⟨before, rest, offset⟩ found waiting s ∨
        Seeds p ahead anchored ⟨before, rest, offset⟩ s)
      (p.scan ahead anchored before offset rest waiting found v) := by
  induction rest generalizing before offset waiting found v with
  | nil =>
    obtain ⟨poised, promised⟩ := abreast.poised leading starts
    rw [scan_nil]
    refine ⟨poised.leading.origin, fun s given => ?_, poised.fits.nextTurn⟩
    have here := promised s <| given.imp id fun ⟨free, q, upto, offset, can⟩ => by
      cases upto.eq_of_end rfl
      exact ⟨free, offset.symm, can⟩
    rcases here with found | ⟨t, member, -, can⟩
    · exact found
    · obtain ⟨_, _, _, next, -⟩ := can.take (poised.going t member).1 (poised.going t member).2
      cases next
  | cons c rest ih =>
    obtain ⟨poised, promised⟩ := abreast.poised leading starts
    rw [scan_cons]
    extract_lets place r s found' next r'
    split
    next stops =>
      -- nobody goes on, and whoever starts later does so behind the match
      rw [Bool.and_eq_true, List.isEmpty_iff] at stops
      obtain ⟨nobody, ended⟩ := stops
      refine ⟨poised.leading.origin, fun i given => ?_, poised.fits.nextTurn⟩
      rcases given with given | ⟨free, q, upto, rfl, -⟩
      · rcases promised i (.inl given) with here | ⟨t, member, -⟩
        · exact here
        · rw [nobody] at member
          cases member
      · rw [free, Bool.false_or, Option.isSome_iff_exists] at ended
        obtain ⟨f, is⟩ := ended
        exact ⟨f, is, Nat.le_trans (poised.leading.start_le f is) upto.offset_le⟩
    next =>
      obtain ⟨abreast', leading', kept⟩ := poised.take rfl
      have result := ih ⟨starts.may, fun free q upto => starts.sound free q (.past rfl upto)⟩
        abreast' leading'
      refine ⟨result.origin, fun i given => result.least i ?_, result.fresh⟩
      rcases given with given | ⟨free, q, upto, rfl, can⟩
      · exact .inl (kept i (promised i (.inl given)))
      · rcases upto.eq_or_past rfl with rfl | later
        · exact .inl (kept _ (promised _ (.inr ⟨free, rfl, can⟩)))
        · exact .inr ⟨free, q, later, rfl, can⟩

/-- A way from the start of a program, from a place on or from a later one. -/
def Leaves (p : Program) (ahead : Nat → Cursor → Bool) (place : Cursor) (s : Nat) (q : Cursor)
    (marks : List (Nat × Nat)) : Prop :=
  ∃ r n, place.Upto r ∧ r.offset = s ∧ p.Way ahead n ⟨p.start, s, []⟩ r q marks

/-- A search finds a match if and only if there is one from some place on, and the match starts at
the first such place. -/
theorem search_finds
    (may : ∀ q : Cursor, p.Ends (p.leads p.aheads) ⟨p.start, q.offset, []⟩ q →
      p.mayStart q.rest = true) (fresh : v.Fresh p) (place : Cursor) :
    Finds p (p.Leaves (p.leads p.aheads) place) (Seeds p (p.leads p.aheads) false place)
      (p.search place v) := by
  have starts : Starts p (p.leads p.aheads) (p.Leaves (p.leads p.aheads) place) false place :=
    ⟨fun _ => may, fun _ q upto n r marks way => ⟨q, n, upto, rfl, way⟩⟩
  have result := scan_finds starts (fresh.abreast place place.offset)
    (⟨by simp, by simp, by simp⟩ : Leading _ place [] none)
  exact ⟨result.origin, fun s given => result.least s (.inr given), result.fresh⟩

/-- Steps lead to the end from a place if and only if some way does. -/
theorem leads_iff (depth step : Nat) (place : Cursor) :
    p.leads (depth + 1) step place = true ↔
      p.Ends (p.leads depth) ⟨step, place.offset, []⟩ place := by
  let t : Thread := ⟨step, place.offset, []⟩
  let Origin : Nat → Cursor → List (Nat × Nat) → Prop :=
    fun _ q marks => ∃ n, p.Way (p.leads depth) n t place q marks
  have empty : Abreast p (p.leads depth) Origin place 0 [] (Visits.none p) :=
    (Visits.none_fresh p).abreast place 0
  obtain ⟨abreast, -, seeded⟩ := empty.follow (t := t) (Nat.zero_le _)
    fun n q marks way => ⟨n, way⟩
  have starts : Starts p (p.leads depth) Origin true place :=
    ⟨fun off => absurd off (by simp), fun off => absurd off (by simp)⟩
  have result := scan_finds starts abreast
    (⟨by simp, by simp, by simp⟩ : Leading Origin place _ none)
  change Option.isSome _ = true ↔ _
  rw [Option.isSome_iff_exists]
  constructor
  · rintro ⟨f, found⟩
    obtain ⟨⟨n, way⟩, -⟩ := result.origin f found
    exact ⟨n, _, _, way⟩
  · intro can
    obtain ⟨f, found, -⟩ := result.least place.offset (.inl (.inr (seeded can)))
    exact ⟨f, found⟩

def behind : Step → List Nat
  | .check _ next | .mark _ next | .ahead _ _ next => [next]
  | .fork first second => [first, second]
  | _ => []

def ranges : Step → List (Nat × Nat)
  | .char c _ => [(c.toNat, c.toNat)]
  | .oneOf s _ => s.ranges
  | _ => []

variable {steps : Array Step} {i : Nat} {todo : List Nat} {seen : Array Bool}
  {found rs : List (Nat × Nat)} {step : Step}

theorem firstRanges_of_new (new : seen.getD i true = false) (here : steps[i]? = some step)
    (going : step ≠ .done) :
    firstRanges steps (bound + 1) (i :: todo) seen found =
      firstRanges steps bound (behind step ++ todo) (seen.setIfInBounds i true)
        (ranges step ++ found) := by
  rw [firstRanges, if_neg (by simp [new])]
  cases step <;> first | exact absurd rfl going | (simp only [here]; rfl)

theorem getD_seen (seen : Array Bool) (i j : Nat) :
    (seen.setIfInBounds i true).getD j true = true ↔ j = i ∨ seen.getD j true = true := by
  simp only [Array.getD_eq_getD_getElem?, Array.getElem?_setIfInBounds]
  by_cases same : i = j
  · subst same
    by_cases inside : i < seen.size <;> simp [inside]
  · simp [same, Ne.symm same]

/-- All steps that have been seen are dealt with, up to those that are still to be looked at. -/
structure Explored (steps : Array Step) (todo : List Nat) (seen : Array Bool)
    (found : List (Nat × Nat)) : Prop where
  size : seen.size = steps.size
  going : ∀ i step, steps[i]? = some step → seen.getD i true = true → step ≠ .done
  behind : ∀ i step, steps[i]? = some step → seen.getD i true = true →
    ∀ j ∈ behind step, j ∈ todo ∨ seen.getD j true = true
  ranges : ∀ i step, steps[i]? = some step → seen.getD i true = true →
    ∀ r ∈ ranges step, r ∈ found

theorem explored_none (steps : Array Step) (todo : List Nat) :
    Explored steps todo (Array.replicate steps.size false) [] := by
  have unseen : ∀ i step, steps[i]? = some step →
      (Array.replicate steps.size false).getD i true ≠ true := by
    intro i step here
    obtain ⟨inside, -⟩ := Array.getElem?_eq_some_iff.mp here
    simp [inside]
  refine ⟨by simp, ?_, ?_, ?_⟩
  all_goals exact fun i step here known => absurd known (unseen i step here)

theorem Explored.see (explored : Explored steps (i :: todo) seen found) (here : steps[i]? = some step)
    (going : step ≠ .done) :
    Explored steps (Program.behind step ++ todo) (seen.setIfInBounds i true)
      (Program.ranges step ++ found) := by
  refine ⟨by simp [explored.size], ?_, ?_, ?_⟩
  · intro j step' there known
    rcases (getD_seen seen i j).mp known with rfl | known
    · cases here.symm.trans there
      exact going
    · exact explored.going j step' there known
  · intro j step' there known k later
    rw [getD_seen, List.mem_append]
    rcases (getD_seen seen i j).mp known with rfl | known
    · cases here.symm.trans there
      exact .inl (.inl later)
    · rcases explored.behind j step' there known k later with pending | known
      · rcases List.mem_cons.mp pending with same | pending
        · exact .inr (.inl same)
        · exact .inl (.inr pending)
      · exact .inr (.inr known)
  · intro j step' there known r within
    rw [List.mem_append]
    rcases (getD_seen seen i j).mp known with rfl | known
    · cases here.symm.trans there
      exact .inl within
    · exact .inr (explored.ranges j step' there known r within)

theorem onward_behind (member : t' ∈ p.onward ahead place t) :
    ∃ step, p.steps[t.step]? = some step ∧ t'.step ∈ behind step := by
  unfold onward at member
  split at member
  next here =>
    split at member <;> simp at member
    exact ⟨_, here, by simp [behind, member]⟩
  next here =>
    simp at member
    exact ⟨_, here, by simp [behind, member]⟩
  next here =>
    refine ⟨_, here, ?_⟩
    simp at member
    rcases member with rfl | rfl <;> simp [behind]
  next here =>
    split at member <;> simp at member
    exact ⟨_, here, by simp [behind, member]⟩
  next => simp at member

theorem taken?_ranges {c : Char} (taken : p.taken? t c = some t') :
    ∃ step, p.steps[t.step]? = some step ∧ CharSet.Lies c.toNat (ranges step) := by
  unfold taken? at taken
  split at taken
  next d next here =>
    split at taken
    next same => exact ⟨_, here, by simp [ranges, CharSet.Lies, same]⟩
    next => cases taken
  next s next here =>
    split at taken
    next has => exact ⟨_, here, CharSet.lies_of_hasCode has⟩
    next => cases taken
  next => cases taken

theorem firstRanges_explored (explored : Explored steps todo seen found)
    (result : firstRanges steps bound todo seen found = some rs) :
    ∃ seen', Explored steps [] seen' rs ∧
      ∀ i, (i ∈ todo ∨ seen.getD i true = true) → seen'.getD i true = true := by
  induction bound generalizing todo seen found with
  | zero =>
    cases todo with
    | nil =>
      cases result
      exact ⟨seen, explored, by simp⟩
    | cons => cases result
  | succ bound ih =>
    cases todo with
    | nil =>
      cases result
      exact ⟨seen, explored, by simp⟩
    | cons i todo =>
      by_cases old : seen.getD i true = true
      · rw [firstRanges, if_pos old] at result
        have fewer : Explored steps todo seen found := by
          refine ⟨explored.size, explored.going, fun j step here known k later => ?_, explored.ranges⟩
          rcases explored.behind j step here known k later with pending | known
          · rcases List.mem_cons.mp pending with rfl | pending
            · exact .inr old
            · exact .inl pending
          · exact .inr known
        obtain ⟨seen', explored', known⟩ := ih fewer result
        refine ⟨seen', explored', fun j pending => known j ?_⟩
        rcases pending with pending | known
        · rcases List.mem_cons.mp pending with rfl | pending
          · exact .inr old
          · exact .inl pending
        · exact .inr known
      · have new : seen.getD i true = false := by simpa using old
        cases here : steps[i]? with
        | none => simp [firstRanges, new, here] at result
        | some step =>
          by_cases ended : step = .done
          · subst ended
            simp [firstRanges, new, here] at result
          · rw [firstRanges_of_new new here ended] at result
            obtain ⟨seen', explored', known⟩ := ih (explored.see here ended) result
            refine ⟨seen', explored', fun j pending => known j ?_⟩
            rw [getD_seen]
            grind

/-- From a step that has been seen the end is only reached over a character that was noted. -/
theorem Explored.first (explored : Explored p.steps [] seen rs)
    (way : p.Way ahead n t place q marks) (known : seen.getD t.step true = true) :
    ∃ c rest, place.rest = c :: rest ∧ CharSet.Lies c.toNat rs := by
  induction way with
  | done ended =>
    rw [isDone, beq_iff_eq] at ended
    exact absurd rfl (explored.going _ _ ended known)
  | pass member way ih =>
    obtain ⟨step, here, later⟩ := onward_behind member
    exact ih ((explored.behind _ step here known _ later).resolve_left List.not_mem_nil)
  | take next taken way _ =>
    obtain ⟨step, here, lies⟩ := taken?_ranges taken
    exact ⟨_, _, next, lies.mono (explored.ranges _ step here known)⟩

/-- A search passes over no place from which the end can be reached. -/
theorem mayStart_of_ends (noted : p.first = firstChars p.steps p.start)
    (ends : p.Ends ahead ⟨p.start, place.offset, []⟩ place) : p.mayStart place.rest = true := by
  obtain ⟨n, q, marks, way⟩ := ends
  unfold mayStart
  rw [noted, firstChars]
  cases result : firstRanges p.steps (2 * p.steps.size + 2) [p.start]
      (Array.replicate p.steps.size false) [] with
  | none => rfl
  | some rs =>
    obtain ⟨seen, explored, known⟩ := firstRanges_explored (explored_none p.steps [p.start]) result
    obtain ⟨c, rest, next, lies⟩ := explored.first way (known p.start (.inl List.mem_cons_self))
    rw [next]
    exact (CharSet.hasCode_ofRanges rs c.toNat).mpr lies

end Program

end EventXref
