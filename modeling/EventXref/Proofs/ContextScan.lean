import EventXref.Grammar.Context
import EventXref.Proofs.AllMatches

/-!
How a context grammar goes through a line. The match that counts next is one of a rule of the
innermost context; no rule takes a text that begins before it, and no rule listed before takes one
that begins with it.
-/
namespace EventXref

open Cursor (between)

namespace ContextRule

/-- The rule takes a text that stands between two others. A text without characters does not count. -/
def Takes (rule : ContextRule) (before mid behind : List Char) : Prop :=
  mid ≠ [] ∧ ∃ marks, rule.regex.reading.On before mid behind marks

def Solid (rule : ContextRule) : Prop :=
  ∀ before behind marks, ¬ rule.regex.reading.On before [] behind marks

end ContextRule

namespace ContextGrammar

variable {rules : List ContextRule} {rule : ContextRule} {before rest : List Char} {stop : Nat}

/-- No rule takes a text that begins at a place. -/
def Silent (rules : List ContextRule) (before rest : List Char) : Prop :=
  ∀ rule ∈ rules, ∀ mid behind, rest = mid ++ behind → ¬ rule.Takes before mid behind

/-- No rule takes a text that begins before an offset. -/
def Passes (rules : List ContextRule) (before rest : List Char) (stop : Nat) : Prop :=
  ∀ skipped left, rest = skipped ++ left → Text.size (before ++ skipped) < stop →
    Silent rules (before ++ skipped) left

/-- The match of a rule that counts behind a text, with what is skipped up to it. -/
structure Finds (rules : List ContextRule) (before skipped mid behind : List Char)
    (rule : ContextRule) : Prop where
  takes : rule.Takes (before ++ skipped) mid behind
  earliest : Passes rules before (skipped ++ (mid ++ behind)) (Text.size (before ++ skipped))
  foremost : ∃ earlier later, rules = earlier ++ rule :: later ∧
    Silent earlier (before ++ skipped) (mid ++ behind)

/-- What can come next in a line: nothing, or the match that counts. -/
inductive Next (rules : List ContextRule) (before rest : List Char) :
    Option (ContextRule × Match) → Prop
  | nothing (passes : ∀ stop, Passes rules before rest stop) : Next rules before rest none
  | found {rule : ContextRule} {m : Match} (skipped mid behind : List Char)
      (split : rest = skipped ++ (mid ++ behind)) (start : m.start = Text.size (before ++ skipped))
      (stop : m.stop = Text.size (before ++ skipped ++ mid))
      (finds : Finds rules before skipped mid behind rule) :
      Next rules before rest (some (rule, m))

theorem Silent.cons (silent : Silent rules before rest)
    (here : ∀ mid behind, rest = mid ++ behind → ¬ rule.Takes before mid behind) :
    Silent (rule :: rules) before rest := by
  intro r member
  rcases List.mem_cons.mp member with rfl | member
  · exact here
  · exact silent r member

theorem Passes.cons (passes : Passes rules before rest stop)
    (absent : ∀ skipped left, rest = skipped ++ left → Text.size (before ++ skipped) < stop →
      ∀ mid behind, left = mid ++ behind → ¬ rule.Takes (before ++ skipped) mid behind) :
    Passes (rule :: rules) before rest stop :=
  fun skipped left split early =>
    (passes skipped left split early).cons (absent skipped left split early)

/-- What a rule finds: the first text that it takes in the line. -/
theorem find?_takes (solid : rule.Solid) (before rest : List Char) :
    (∀ m, rule.pattern.find? (between before rest) = some m → ∃ skipped mid behind,
      rest = skipped ++ (mid ++ behind) ∧ m.start = Text.size (before ++ skipped) ∧
        m.stop = Text.size (before ++ skipped ++ mid) ∧ m.start < m.stop ∧
        rule.Takes (before ++ skipped) mid behind) ∧
    ∀ skipped left, rest = skipped ++ left →
      (∀ m, rule.pattern.find? (between before rest) = some m →
        Text.size (before ++ skipped) < m.start) →
      ∀ mid behind, left = mid ++ behind → ¬ rule.Takes (before ++ skipped) mid behind := by
  obtain ⟨-, sound, least⟩ := Program.search_first rule.regex before rest
    (Program.Visits.none_fresh (.ofRegex rule.regex))
  rw [rule.compiled, Program.find?]
  constructor
  · intro m found
    obtain ⟨⟨m', q⟩, answer, rfl⟩ := Option.map_eq_some_iff.mp found
    obtain ⟨skipped, mid, behind, split, start, stop, -, on⟩ := sound m' q answer
    have filled : mid ≠ [] := by
      rintro rfl
      exact solid _ _ _ on
    refine ⟨skipped, mid, behind, split, start, stop, ?_, filled, _, on⟩
    have size := Text.size_pos filled
    rw [start, stop, Text.size_append (before ++ skipped)]
    omega
  · rintro skipped _ split late mid behind rfl ⟨-, marks, on⟩
    obtain ⟨m, q, found, le⟩ := least skipped mid behind marks split on
    have := late m (Option.map_eq_some_iff.mpr ⟨_, found, rfl⟩)
    omega

theorem Next.passes {found : Option (ContextRule × Match)} (next : Next rules before rest found)
    (le : ∀ r n, found = some (r, n) → stop ≤ n.start) : Passes rules before rest stop := by
  intro skipped left split early
  cases next with
  | nothing passes => exact passes stop skipped left split early
  | found _ _ _ whole start _ finds =>
    apply finds.earliest skipped left (whole ▸ split)
    rw [← start]
    exact Nat.lt_of_lt_of_le early (le _ _ rfl)

/-- A rule that takes no text up to there does not change what comes next. -/
theorem Next.behind {found : Option (ContextRule × Match)} (next : Next rules before rest found)
    (absent : ∀ skipped left, rest = skipped ++ left →
      (∀ r n, found = some (r, n) → Text.size (before ++ skipped) ≤ n.start) →
      ∀ mid behind, left = mid ++ behind → ¬ rule.Takes (before ++ skipped) mid behind) :
    Next (rule :: rules) before rest found := by
  cases next with
  | nothing passes =>
    refine .nothing fun stop => (passes stop).cons fun skipped left split _ => ?_
    exact absent skipped left split (by simp)
  | found skipped mid behind split start stop finds =>
    obtain ⟨earlier, later, listed, silent⟩ := finds.foremost
    subst split
    refine .found skipped mid behind rfl start stop ⟨finds.takes, finds.earliest.cons ?_, ?_⟩
    · intro skipped' left split' early
      apply absent skipped' left split'
      rintro r n ⟨⟩
      exact Nat.le_of_lt (start ▸ early)
    · refine ⟨rule :: earlier, later, by rw [listed, List.cons_append], silent.cons ?_⟩
      apply absent skipped _ rfl
      rintro r n ⟨⟩
      exact Nat.le_of_eq start.symm

theorem nearest_next (solid : ∀ rule ∈ rules, rule.Solid) (before rest : List Char) :
    Next rules before rest (nearest rules (between before rest)) := by
  induction rules with
  | nil => exact .nothing fun stop skipped left _ _ rule member => by cases member
  | cons rule rules ih =>
    obtain ⟨sound, absent⟩ := find?_takes (solid rule List.mem_cons_self) before rest
    have later := ih fun r member => solid r (List.mem_cons_of_mem rule member)
    rw [nearest]
    generalize nearest rules (between before rest) = next at later ⊢
    cases found : rule.pattern.find? (between before rest) with
    | none =>
      rw [found] at absent
      cases next <;>
        exact later.behind fun skipped left split _ => absent skipped left split (by simp)
    | some m =>
      obtain ⟨skipped, mid, behind, rfl, start, stop, filled, takes⟩ := sound m found
      -- the match counts if what the other rules find does not begin before it
      have first : (∀ r n, next = some (r, n) → m.start ≤ n.start) →
          Next (rule :: rules) before (skipped ++ (mid ++ behind)) (some (rule, m)) := by
        intro le
        refine .found skipped mid behind rfl start stop ⟨takes, ?_, [], rules, rfl, ?_⟩
        · rw [← start]
          refine (later.passes le).cons fun skipped' left split' early => ?_
          apply absent skipped' left split'
          intro m' again
          cases found.symm.trans again
          exact early
        · intro r member
          cases member
      rw [Option.filter_some, if_pos (decide_eq_true filled)]
      cases next with
      | none => exact first (by simp)
      | some n =>
        obtain ⟨other, n⟩ := n
        dsimp only
        split
        next le =>
          apply first
          rintro r n' ⟨⟩
          exact le
        next late =>
          refine later.behind fun skipped' left split' upto => absent skipped' left split' ?_
          intro m' again
          cases found.symm.trans again
          exact Nat.lt_of_le_of_lt (upto other n rfl) (Nat.lt_of_not_le late)

theorem advance_between (before taken behind : List Char) :
    advance (Text.size (before ++ taken)) (between before (taken ++ behind)) =
      between (before ++ taken) behind := by
  have go : ∀ before, advance.go (Text.size (before ++ taken)) before.getLast? (Text.size before)
      (taken ++ behind) = between (before ++ taken) behind := by
    intro before
    induction taken generalizing before with
    | nil => cases behind <;> simp [advance.go, between]
    | cons c taken ih =>
      have further := ih (before ++ [c])
      have size := c.utf8Size_pos
      simp only [List.append_assoc, List.singleton_append, Text.size_append, Text.size_cons,
        List.getLast?_append, List.getLast?_singleton, Option.some_or, Text.size_nil] at further ⊢
      rw [List.cons_append, advance.go, if_neg (by omega)]
      simpa [Nat.add_assoc] using further
  exact go before

end ContextGrammar

end EventXref
