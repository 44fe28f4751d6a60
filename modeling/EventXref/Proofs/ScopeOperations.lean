import EventXref.Proofs.ContextScan

/-!
What it means that a parser follows the rules of a context grammar, and that the project's own one
does. The operations of a line come match by match; those of one match stand where it begins and
where it ends, and open and close the scopes of the rule and of the context that it opens or closes.
-/
namespace EventXref

open Cursor (between)

namespace ScopeStack

variable {a b c : List String} {xs ys : List ScopeOp}

/-- Wherever the open scopes end in `a`, the operations put `b` in its place. -/
def Turns (ops : List ScopeOp) (a b : List String) : Prop :=
  ∀ base cleared, ops.foldl step ⟨base ++ a, cleared⟩ = ⟨base ++ b, cleared⟩

theorem Turns.trans (first : Turns xs a b) (second : Turns ys b c) : Turns (xs ++ ys) a c := by
  intro base cleared
  rw [List.foldl_append, first, second]

theorem Turns.behind (turns : Turns xs a b) (front : List String) :
    Turns xs (front ++ a) (front ++ b) := by
  intro base cleared
  rw [← List.append_assoc, ← List.append_assoc]
  exact turns (base ++ front) cleared

theorem Turns.ne_nil (turns : Turns xs a b) (differ : a ≠ b) : xs ≠ [] := by
  rintro rfl
  have same := turns [] []
  exact differ (congrArg scopes same)

theorem turns_push (scopes : List String) : Turns (scopes.map .push) [] scopes := by
  intro base cleared
  induction scopes generalizing base with
  | nil => rfl
  | cons scope scopes ih =>
    have further := ih (base ++ [scope])
    rw [List.append_nil, List.append_assoc, List.singleton_append] at further
    rw [List.map_cons, List.foldl_cons, List.append_nil]
    exact further

theorem turns_closing (scopes : List String) : Turns (ContextGrammar.closing scopes) scopes [] := by
  intro base cleared
  cases scopes with
  | nil => rfl
  | cons scope scopes => simp [ContextGrammar.closing, step, apply]

end ScopeStack

open ScopeStack (Turns)

namespace LineParser

variable {size start offset : Nat} {s : ScopeStack} {block : List ScopeOp}
  {ops : List (Nat × ScopeOp)}

/-- The token between two offsets, if it holds anything. -/
def stretch (start stop : Nat) (scopes : List String) : List Token :=
  if start < stop then [⟨start, stop, scopes⟩] else []

theorem stretch_of_lt {stop : Nat} {scopes : List String} (filled : start < stop) :
    stretch start stop scopes = [⟨start, stop, scopes⟩] := if_pos filled

theorem cut_here (block : List ScopeOp) :
    cut size (block.map (start, ·) ++ ops) start s =
      cut size ops start (block.foldl ScopeStack.step s) := by
  induction block generalizing s with
  | nil => rfl
  | cons op block ih =>
    rw [List.map_cons, List.cons_append, cut, if_neg (Nat.lt_irrefl start), ih, List.foldl_cons]

/-- Operations at one offset end a token there, and are all done when the next one begins. -/
theorem cut_block (ahead : start ≤ offset) (filled : block ≠ []) :
    cut size (block.map (offset, ·) ++ ops) start s =
      (stretch start offset s.scopes ++ (cut size ops offset (block.foldl ScopeStack.step s)).1,
        (cut size ops offset (block.foldl ScopeStack.step s)).2) := by
  cases block with
  | nil => contradiction
  | cons op block =>
    by_cases before : start < offset
    · rw [List.map_cons, List.cons_append, cut, if_pos before, cut_here, stretch_of_lt before]
      rfl
    · obtain rfl : start = offset := by omega
      rw [cut_here, stretch, if_neg before]
      rfl

end LineParser

namespace ContextGrammar

/-- The scopes that the open scopes end in before a match, on it and behind it, and the open contexts
behind it. -/
structure Passage where
  before : List String
  on : List String
  behind : List String
  stack : List String

/-- How a match of a rule is passed; not at all if the rule opens a context that there is not. -/
def passage (g : ContextGrammar) (rule : ContextRule) (stack : List String) : Option Passage :=
  match rule.move with
  | .stay => some ⟨[], rule.scopes, [], stack⟩
  | .push name => (g.context? name).map fun c =>
    ⟨[], c.scopes ++ rule.scopes, c.scopes, name :: stack⟩
  | .pop =>
    let inside := (g.current stack).scopes
    some ⟨inside, inside ++ rule.scopes, [], stack.tail⟩

/-- The operations for a line from a place on, and the open contexts at its end, as the rules of a
grammar have them. -/
inductive Obeys (g : ContextGrammar) :
    List String → List Char → List Char → List (Nat × ScopeOp) → List String → Prop
  | rest {stack : List String} {before line : List Char}
      (passes : ∀ stop, Passes (g.current stack).rules before line stop) :
      Obeys g stack before line [] stack
  | found {stack last : List String} {before skipped mid behind : List Char} {rule : ContextRule}
      {q : Passage} {opening closing : List ScopeOp} {ops : List (Nat × ScopeOp)}
      (finds : Finds (g.current stack).rules before skipped mid behind rule)
      (passed : g.passage rule stack = some q)
      (opens : Turns opening q.before q.on) (closes : Turns closing q.on q.behind)
      (obeys : Obeys g q.stack (before ++ skipped ++ mid) behind ops last) :
      Obeys g stack before (skipped ++ (mid ++ behind))
        (opening.map (Text.size (before ++ skipped), ·) ++
          closing.map (Text.size (before ++ skipped ++ mid), ·) ++ ops) last

/-- The operations for a whole line. The first line opens the scope of the grammar before all. -/
def Admits (g : ContextGrammar) (s : ContextState) (line : List Char) (ops : List (Nat × ScopeOp))
    (s' : ContextState) : Prop :=
  ∃ first later, ops = first.map (0, ·) ++ later ∧
    (if s.started then first = [] else Turns first [] [g.scope]) ∧
    g.Obeys s.stack [] line later s'.stack ∧ s'.started = true

end ContextGrammar

/-- The parser follows the rules of a grammar: it parses every line, and its operations are as the
rules have them in the contexts that it stands in. -/
def LineParser.Follows {π σ : Type} (parser : LineParser π σ) (g : ContextGrammar) : Prop :=
  ∃ Stands : π → ContextState → Prop,
    Stands parser.initial ⟨false, [ContextGrammar.outermost]⟩ ∧
    ∀ p s line, Stands p s → ∃ ops p' s',
      parser.parseLine p line = some (ops, p') ∧ Stands p' s' ∧ g.Admits s line ops s'

namespace ContextGrammar

variable {g : ContextGrammar} {rule : ContextRule} {stack : List String} {q : Passage}

theorem effect_turns (passed : g.passage rule stack = some q) : ∃ opening closing,
    g.effect rule stack = some (opening, closing, q.stack) ∧ Turns opening q.before q.on ∧
      Turns closing q.on q.behind := by
  have opens := ScopeStack.turns_push rule.scopes
  have closes := ScopeStack.turns_closing rule.scopes
  rw [passage] at passed
  rw [effect]
  cases move : rule.move with
  | stay =>
    simp only [move] at passed
    cases passed
    exact ⟨_, _, rfl, opens, closes⟩
  | push name =>
    simp only [move] at passed
    obtain ⟨c, there, rfl⟩ := Option.map_eq_some_iff.mp passed
    simp only [there]
    refine ⟨_, _, rfl, (ScopeStack.turns_push c.scopes).trans ?_, ?_⟩
    · simpa using opens.behind c.scopes
    · simpa using closes.behind c.scopes
  | pop =>
    simp only [move] at passed
    cases passed
    have leaves := closes.behind (g.current stack).scopes
    rw [List.append_nil] at leaves
    refine ⟨_, _, rfl, ?_, leaves.trans (ScopeStack.turns_closing _)⟩
    simpa using opens.behind (g.current stack).scopes

/-- A rule with scopes of its own changes the open scopes where its match begins and where it ends. -/
theorem passage_ne (passed : g.passage rule stack = some q) (filled : rule.scopes ≠ []) :
    q.before ≠ q.on ∧ q.on ≠ q.behind := by
  rw [passage] at passed
  cases move : rule.move with
  | stay =>
    simp only [move] at passed
    cases passed
    exact ⟨filled.symm, filled⟩
  | push name =>
    simp only [move] at passed
    obtain ⟨c, -, rfl⟩ := Option.map_eq_some_iff.mp passed
    simp [filled]
  | pop =>
    simp only [move] at passed
    cases passed
    simp [filled]

/-- No pattern matches an empty text, and no rule opens a context that there is not. -/
structure Sound (g : ContextGrammar) : Prop where
  solid : ∀ stack, ∀ rule ∈ (g.current stack).rules, rule.Solid
  linked : ∀ stack, ∀ rule ∈ (g.current stack).rules, ∃ q, g.passage rule stack = some q

theorem operations_obeys (sound : g.Sound) {fuel : Nat} (stack : List String)
    (before line : List Char) (enough : line.length ≤ fuel) : ∃ ops last,
      g.operations fuel stack (between before line) = some (ops, last) ∧
      g.Obeys stack before line ops last := by
  induction fuel generalizing stack before line with
  | zero =>
    obtain rfl := List.length_eq_zero_iff.mp (Nat.le_zero.mp enough)
    refine ⟨[], stack, rfl, .rest ?_⟩
    rintro stop skipped left split - rule - mid behind rfl ⟨filled, -⟩
    have empty : skipped = [] ∧ mid = [] ∧ behind = [] := by simpa using split.symm
    exact filled empty.2.1
  | succ fuel ih =>
    have next := nearest_next (sound.solid stack) before line
    rw [operations]
    generalize nearest (g.current stack).rules (between before line) = found at next
    cases next with
    | nothing passes => exact ⟨[], stack, rfl, .rest passes⟩
    | @found rule m skipped mid behind split start stop finds =>
      obtain ⟨earlier, later, listed, -⟩ := finds.foremost
      obtain ⟨q, passed⟩ := sound.linked stack rule (by simp [listed])
      obtain ⟨opening, closing, effects, opens, closes⟩ := effect_turns passed
      have size := List.length_pos_of_ne_nil finds.takes.1
      subst split
      obtain ⟨ops, last, run, obeys⟩ := ih q.stack (before ++ skipped ++ mid) behind (by
        simp only [List.length_append] at enough
        omega)
      have advanced : advance (Text.size (before ++ skipped ++ mid))
          (between before (skipped ++ (mid ++ behind))) =
            between (before ++ skipped ++ mid) behind := by
        rw [← List.append_assoc, List.append_assoc before]
        exact advance_between before (skipped ++ mid) behind
      refine ⟨_, last, ?_, .found finds passed opens closes obeys⟩
      simp only [effects, start, stop, advanced, run, Option.bind_eq_bind, Option.bind_some]
      rfl

theorem parser_follows (sound : g.Sound) : g.parser.Follows g := by
  refine ⟨Eq, rfl, ?_⟩
  rintro s _ line rfl
  obtain ⟨ops, last, run, obeys⟩ :=
    operations_obeys sound s.stack [] line (Nat.le_refl _)
  refine ⟨_, ⟨true, last⟩, _, congrArg (Option.map _) run, rfl, ?_⟩
  cases started : s.started with
  | true => exact ⟨[], ops, by simp, by simp [started], obeys, rfl⟩
  | false =>
    refine ⟨[.push g.scope], ops, by simp, ?_, obeys, rfl⟩
    simpa [started] using ScopeStack.turns_push [g.scope]

end ContextGrammar

end EventXref
