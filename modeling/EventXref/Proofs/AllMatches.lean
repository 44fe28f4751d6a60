import EventXref.Proofs.CallTexts
import EventXref.Proofs.Places

namespace EventXref

open Cursor (between)

namespace Regex

/-- The pattern takes something whenever it matches, and from a place it matches in one way only. -/
structure Definite (r : Regex) : Prop where
  takes : ∀ {before mid behind marks}, r.reading.On before mid behind marks → mid ≠ []
  unique : ∀ {before rest marks marks' b b'}, r.reading (between before rest) marks b →
    r.reading (between before rest) marks' b' → marks = marks' ∧ b = b'

end Regex

namespace Program

variable {r r' : Regex} {before rest : List Char} {v v' : Visits}

/-- What is found from a place on: a reading of the pattern that begins at the first place where
there is one. -/
theorem search_first (r : Regex) (before rest : List Char) (fresh : v.Fresh (ofRegex r)) :
    ((ofRegex r).search (between before rest) v).2.Fresh (ofRegex r) ∧
    (∀ m q, ((ofRegex r).search (between before rest) v).1 = some (m, q) →
      ∃ skipped mid behind, rest = skipped ++ (mid ++ behind) ∧
        m.start = Text.size (before ++ skipped) ∧ m.stop = Text.size (before ++ skipped ++ mid) ∧
        q = between (before ++ skipped ++ mid) behind ∧
        r.reading.On (before ++ skipped) mid behind m.marks) ∧
    ∀ skipped mid behind marks, rest = skipped ++ (mid ++ behind) →
      r.reading.On (before ++ skipped) mid behind marks →
      ∃ m q, ((ofRegex r).search (between before rest) v).1 = some (m, q) ∧
        m.start ≤ Text.size (before ++ skipped) := by
  obtain ⟨answers, fresh'⟩ := search_answers r (between before rest) fresh
  refine ⟨fresh', fun m q found => ?_, fun skipped mid behind marks split reads => ?_⟩
  · obtain ⟨a, upto, start, reads, stop⟩ := answers.reads (m, q) found
    obtain ⟨skipped, left, rfl, rfl⟩ := Cursor.upto_between.mp upto
    obtain ⟨mid, behind, rfl, rfl⟩ := r.moves_reading _ _ _ _ reads
    exact ⟨skipped, mid, behind, rfl, start.symm, stop.symm, rfl, reads⟩
  · have upto : (between before rest).Upto (between (before ++ skipped) (mid ++ behind)) :=
      Cursor.upto_between.mpr ⟨skipped, mid ++ behind, split, rfl⟩
    obtain ⟨⟨m, q⟩, found, le⟩ := answers.least _ marks _ upto reads
    exact ⟨m, q, found, le⟩

theorem search_congr (definite : r.Definite)
    (same : ∀ before mid behind marks, r.reading.On before mid behind marks ↔
      r'.reading.On before mid behind marks)
    (fresh : v.Fresh (ofRegex r)) (fresh' : v'.Fresh (ofRegex r')) :
    ((ofRegex r).search (between before rest) v).1 =
      ((ofRegex r').search (between before rest) v').1 := by
  obtain ⟨-, reads, least⟩ := search_first r before rest fresh
  obtain ⟨-, reads', least'⟩ := search_first r' before rest fresh'
  cases found : ((ofRegex r).search (between before rest) v).1 with
  | none =>
    cases found' : ((ofRegex r').search (between before rest) v').1 with
    | none => rfl
    | some f =>
      obtain ⟨skipped, mid, behind, split, -, -, -, on⟩ := reads' f.1 f.2 found'
      obtain ⟨m, q, here, -⟩ := least _ _ _ _ split ((same _ _ _ _).mpr on)
      rw [found] at here
      cases here
  | some f =>
    obtain ⟨m, q⟩ := f
    obtain ⟨skipped, mid, behind, split, start, stop, place, on⟩ := reads m q found
    obtain ⟨m', q', found', le⟩ := least' _ _ _ _ split ((same _ _ _ _).mp on)
    obtain ⟨skipped', mid', behind', split', start', stop', place', on'⟩ := reads' m' q' found'
    obtain ⟨_, _, again, le'⟩ := least _ _ _ _ split' ((same _ _ _ _).mpr on')
    cases found.symm.trans again
    -- both begin at one place, and from there the pattern reads in one way
    have upto : (between before rest).Upto (between (before ++ skipped) (mid ++ behind)) :=
      Cursor.upto_between.mpr ⟨skipped, mid ++ behind, split, rfl⟩
    have upto' : (between before rest).Upto (between (before ++ skipped') (mid' ++ behind')) :=
      Cursor.upto_between.mpr ⟨skipped', mid' ++ behind', split', rfl⟩
    have starts : Text.size (before ++ skipped) = Text.size (before ++ skipped') := by
      omega
    have here := upto.unique upto' starts
    have on'' := (same _ _ _ _).mpr on'
    rw [Reading.On, ← here] at on''
    obtain ⟨marks, ends⟩ := definite.unique on on''
    have offsets : Text.size (before ++ skipped ++ mid) = Text.size (before ++ skipped' ++ mid') :=
      congrArg Cursor.offset ends
    have matches' : m = m' := by
      obtain ⟨_, _, _⟩ := m
      obtain ⟨_, _, _⟩ := m'
      simp only [Match.mk.injEq] at *
      exact ⟨by omega, by omega, marks⟩
    rw [found', matches', place, place', ends]

/-- No match is empty, so none is passed over. -/
theorem findNext_eq (definite : r.Definite) (fresh : v.Fresh (ofRegex r)) (last : Option Nat) :
    (ofRegex r).findNext last (between before rest) v = (ofRegex r).search (between before rest) v := by
  obtain ⟨-, reads, -⟩ := search_first r before rest fresh
  unfold findNext
  split
  next m behind v' found =>
    obtain ⟨skipped, mid, left, -, start, stop, -, on⟩ := reads m behind (by rw [found])
    have some := Text.size_pos (definite.takes on)
    have differ : m.start ≠ m.stop := by
      rw [start, stop, Text.size_append (before ++ skipped)]
      omega
    simp [differ, found]
  next found => rw [found]

theorem matchesFrom_congr (definite : r.Definite) (definite' : r'.Definite)
    (same : ∀ before mid behind marks, r.reading.On before mid behind marks ↔
      r'.reading.On before mid behind marks)
    (fresh : v.Fresh (ofRegex r)) (fresh' : v'.Fresh (ofRegex r')) (bound : Nat) (last : Option Nat)
    (ms : List Match) :
    (ofRegex r).matchesFrom bound last (between before rest) v ms =
      (ofRegex r').matchesFrom bound last (between before rest) v' ms := by
  induction bound generalizing last before rest v v' ms with
  | zero => rfl
  | succ bound ih =>
    have alike := @search_congr r r' before rest v v' definite same fresh fresh'
    obtain ⟨next, reads, -⟩ := search_first r before rest fresh
    obtain ⟨next', -, -⟩ := search_first r' before rest fresh'
    rw [matchesFrom, matchesFrom, findNext_eq definite fresh, findNext_eq definite' fresh']
    cases one : (ofRegex r).search (between before rest) v with
    | mk found w =>
      cases two : (ofRegex r').search (between before rest) v' with
      | mk found' w' =>
        rw [one] at alike next reads
        rw [two] at alike next'
        obtain rfl : found = found' := alike
        cases found with
        | none => rfl
        | some f =>
          obtain ⟨m, q⟩ := f
          obtain ⟨skipped, mid, behind, -, -, -, rfl, -⟩ := reads m q rfl
          exact ih next next' _ _

theorem findAll_eq (p : Program) (text : List Char) :
    p.findAll text = p.matchesFrom (text.length + 2) none (between [] text) (Visits.none p) [] := rfl

theorem findAll_congr (definite : r.Definite) (definite' : r'.Definite)
    (same : ∀ before mid behind marks, r.reading.On before mid behind marks ↔
      r'.reading.On before mid behind marks) (text : List Char) :
    (ofRegex r).findAll text = (ofRegex r').findAll text := by
  rw [findAll_eq, findAll_eq]
  exact matchesFrom_congr definite definite' same (Visits.none_fresh _) (Visits.none_fresh _) _ _ _

/-- A match is a reading of the pattern somewhere in a text. -/
def IsReading (r : Regex) (text : List Char) (m : Match) : Prop :=
  ∃ before mid behind, text = before ++ (mid ++ behind) ∧ m.start = Text.size before ∧
    m.stop = Text.size (before ++ mid) ∧ r.reading.On before mid behind m.marks

/-- Each match is a reading, and a reading that is no match starts inside of one. -/
theorem matchesFrom_reads (definite : r.Definite) (fresh : v.Fresh (ofRegex r)) {bound : Nat}
    (enough : rest.length < bound) (last : Option Nat) (ms : List Match) :
    ∃ new, (ofRegex r).matchesFrom bound last (between before rest) v ms = ms.reverse ++ new ∧
      (∀ m ∈ new, IsReading r (before ++ rest) m) ∧
      ∀ skipped mid behind marks, rest = skipped ++ (mid ++ behind) →
        r.reading.On (before ++ skipped) mid behind marks →
        ∃ m ∈ new, m.start ≤ Text.size (before ++ skipped) ∧
          (m.start = Text.size (before ++ skipped) ∨ Text.size (before ++ skipped) < m.stop) := by
  induction bound generalizing last before rest v ms with
  | zero => omega
  | succ bound ih =>
    obtain ⟨next, reads, least⟩ := search_first r before rest fresh
    rw [matchesFrom, findNext_eq definite fresh]
    cases one : (ofRegex r).search (between before rest) v with
    | mk found w =>
      rw [one] at next reads least
      cases found with
      | none =>
        refine ⟨[], by simp, by simp, fun skipped mid behind marks split on => ?_⟩
        obtain ⟨m, q, none, -⟩ := least skipped mid behind marks split on
        cases none
      | some f =>
        obtain ⟨m, q⟩ := f
        obtain ⟨skipped, mid, behind, split, start, stop, rfl, on⟩ := reads m q rfl
        have filled := List.length_pos_iff.mpr (definite.takes on)
        have shorter : behind.length < bound := by
          rw [split] at enough
          simp only [List.length_append] at enough
          omega
        obtain ⟨new, result, all, meets⟩ :=
          @ih (before ++ skipped ++ mid) behind w next shorter (some m.stop) (m :: ms)
        have whole : before ++ rest = before ++ skipped ++ mid ++ behind := by simp [split]
        refine ⟨m :: new, ?_, List.forall_mem_cons.mpr ⟨?_, ?_⟩, ?_⟩
        · simpa using result
        · exact ⟨before ++ skipped, mid, behind, by simp [split], start, stop, on⟩
        · intro m' member
          exact whole ▸ all m' member
        · intro skipped' mid' behind' marks split' on'
          obtain ⟨_, _, again, le⟩ := least _ _ _ _ split' on'
          cases again
          by_cases inside : Text.size (before ++ skipped') < m.stop
          · exact ⟨m, List.mem_cons_self, le, .inr inside⟩
          · -- the reading starts behind this match
            have later : Text.size (skipped ++ mid) ≤ Text.size skipped' := by
              simp only [stop, Text.size_append] at inside ⊢
              omega
            have same : skipped ++ mid ++ behind = skipped' ++ (mid' ++ behind') := by
              rw [← split', split, List.append_assoc]
            obtain ⟨between', rfl, rfl⟩ := Text.exists_append_of_size_le same later
            have eq : before ++ (skipped ++ mid ++ between') = before ++ skipped ++ mid ++ between' := by
              simp
            rw [eq] at on' ⊢
            obtain ⟨m', member, found⟩ := meets between' mid' behind' marks rfl on'
            exact ⟨m', List.mem_cons_of_mem _ member, found⟩

theorem findAll_reads (definite : r.Definite) (text : List Char) :
    (∀ m ∈ (ofRegex r).findAll text, IsReading r text m) ∧
      ∀ before mid behind marks, text = before ++ (mid ++ behind) →
        r.reading.On before mid behind marks → ∃ m ∈ (ofRegex r).findAll text,
          m.start ≤ Text.size before ∧ (m.start = Text.size before ∨ Text.size before < m.stop) := by
  have enough : text.length < text.length + 2 := by omega
  obtain ⟨new, result, all, meets⟩ :=
    @matchesFrom_reads r [] text _ definite (Visits.none_fresh (ofRegex r)) _ enough none []
  rw [findAll_eq, result]
  exact ⟨all, meets⟩

end Program

namespace Regex

variable {names names' : List String}

theorem callRegex_definite (listed : names ≠ []) (plain : ∀ n ∈ names, IsPlain n.toList) :
    (callRegex names).Definite := by
  have filled : ∀ n ∈ names, n.toList ≠ [] := fun n there => (plain n there).1
  constructor
  · intro before mid behind marks on
    obtain ⟨c, -, rfl, -⟩ := (on_callRegex listed filled).mp on
    simp [Call.text]
  · intro before rest marks marks' b b' reads reads'
    obtain ⟨mid, behind, rfl, rfl⟩ := moves_reading _ _ _ _ _ reads
    obtain ⟨mid', behind', split, rfl⟩ := moves_reading _ _ _ _ _ reads'
    rw [split] at reads'
    obtain ⟨c, call, rfl, rfl⟩ := (on_callRegex listed filled).mp reads
    obtain ⟨c', call', rfl, rfl⟩ := (on_callRegex listed filled).mp reads'
    obtain ⟨rfl, rfl⟩ := call.unique call' plain plain split
    exact ⟨rfl, rfl⟩

theorem on_callRegex_congr (listed : names ≠ []) (plain : ∀ n ∈ names, IsPlain n.toList)
    (same : ∀ n, n ∈ names ↔ n ∈ names') (before mid behind : List Char)
    (marks : List (Nat × Nat)) : (callRegex names).reading.On before mid behind marks ↔
      (callRegex names').reading.On before mid behind marks := by
  have listed' : names' ≠ [] := by
    rintro rfl
    obtain ⟨n, t, rfl⟩ := List.exists_cons_of_ne_nil listed
    exact List.not_mem_nil ((same n).mp List.mem_cons_self)
  rw [on_callRegex listed fun n there => (plain n there).1,
    on_callRegex listed' fun n there => (plain n ((same n).mpr there)).1]
  constructor
  · rintro ⟨c, call, eq⟩
    exact ⟨c, call.congr same, eq⟩
  · rintro ⟨c, call, eq⟩
    exact ⟨c, call.congr fun n => (same n).symm, eq⟩

end Regex

end EventXref
