import Mathlib
import EventXref.Event.Pattern
import EventXref.Proofs.PatternMeaning

/-!
The pattern of calls. With the default template and names of ordinary characters, the pattern of a
language can be read, and what it matches can be said without it: one of the names at a word
boundary, an opening parenthesis and a quoted text on the same line, with blanks between them. From
one place there is at most one such text, so the order of the names decides nothing.
-/
namespace EventXref

namespace Regex

/-- A name without blanks and characters that mean something in patterns. -/
def IsPlain (name : List Char) : Prop := name ≠ [] ∧ ∀ c ∈ name, isMeta c = false ∧ Text.isBlank c = false

variable {s : Reader} {c : Char} {t rest : List Char} {fuel : Nat}

theorem escape_plain {name : List Char} (plain : ∀ c ∈ name, isMeta c = false) :
    escape name = name := by
  induction name with
  | nil => rfl
  | cons c name ih =>
    obtain ⟨here, later⟩ := List.forall_mem_cons.mp plain
    have rest := ih later
    rw [escape] at rest ⊢
    rw [List.flatMap_cons, rest, if_neg (by simp [here]), List.singleton_append]

theorem ofSet_single (ascii : Bool) (c : Char) : ofSet ascii (CharSet.single c) = .literal [c] := by
  simp [ofSet, CharSet.only?, CharSet.single, CharSet.range]

theorem pushLiteral_eq (flags : s.flags = Pattern.flags) (c : Char) :
    s.pushLiteral c = s.pushSimple (.literal [c]) := by
  rw [Reader.pushLiteral, Reader.pushSet, flags]
  exact congrArg s.pushSimple (ofSet_single false c)

theorem readElement_plain (flags : s.flags = Pattern.flags) (plain : isMeta c = false) :
    readElement false s c t = some (s.pushSimple (.literal [c]), t) := by
  rw [← pushLiteral_eq flags]
  unfold readElement
  split <;> first | rfl | (exfalso; revert plain; decide)

theorem readElements_step (flags : s.flags = Pattern.flags) {s' : Reader}
    (element : readElement false s c t = some (s', rest)) :
    readElements false (fuel + 1) s (c :: t) = readElements false fuel s' rest := by
  rw [readElements, skipSpace, flags]
  simp only [Pattern.flags, Flags.plain, Bool.false_eq_true, if_false, element]

def charParts (name : List Char) : List Part :=
  (name.map fun c => (⟨some (.literal [c]), 0⟩ : Part)).reverse

theorem readElements_name (flags : s.flags = Pattern.flags) {name : List Char}
    (plain : ∀ c ∈ name, isMeta c = false) :
    readElements false (fuel + name.length) s (name ++ t) = readElements false fuel
      { s with top := { s.top with
        parts := charParts name ++ s.top.parts } } t := by
  induction name generalizing s with
  | nil => rfl
  | cons c name ih =>
    obtain ⟨here, later⟩ := List.forall_mem_cons.mp plain
    rw [List.length_cons, ← Nat.add_assoc, List.cons_append,
      readElements_step flags (readElement_plain flags here), ih (by exact flags) later]
    simp [Reader.pushSimple, Reader.push, Frame.push, charParts]

theorem readElements_names (flags : s.flags = Pattern.flags) (clear : s.top.parts = [])
    {names : List String} (listed : names ≠ [])
    (plain : ∀ n ∈ names, ∀ c ∈ n.toList, isMeta c = false) :
    ∃ choices parts, Part.sequence parts :: choices =
        (names.map fun n => Part.sequence (charParts n.toList)).reverse ++ s.top.choices ∧
      readElements false (fuel + (Pattern.alternation names).length) s
          (Pattern.alternation names ++ t) =
        readElements false fuel { s with top := { s.top with choices, parts } } t := by
  induction names generalizing s with
  | nil => contradiction
  | cons n names ih =>
    obtain ⟨here, later⟩ := List.forall_mem_cons.mp plain
    cases names with
    | nil =>
      refine ⟨s.top.choices, charParts n.toList, rfl, ?_⟩
      rw [Pattern.alternation, escape_plain here, readElements_name flags here, clear,
        List.append_nil]
    | cons m names =>
      have length : fuel + (Pattern.alternation (n :: m :: names)).length =
          fuel + (Pattern.alternation (m :: names)).length + 1 + n.toList.length := by
        simp only [Pattern.alternation, escape_plain here, List.length_append, List.length_cons]
        omega
      let read : Reader := { s with top := { s.top with parts := charParts n.toList ++ s.top.parts } }
      obtain ⟨choices, parts, all, result⟩ := @ih { read with top := read.top.nextChoice } flags rfl
        (by simp) later
      refine ⟨choices, parts, ?_, ?_⟩
      · rw [all]
        simp only [List.map_cons, List.reverse_cons, List.append_assoc]
        refine congrArg _ (congrArg _ ?_)
        simp only [read, Frame.nextChoice, clear, List.append_nil]
        rfl
      · have text : Pattern.alternation (n :: m :: names) ++ t =
            n.toList ++ '|' :: (Pattern.alternation (m :: names) ++ t) := by
          simp [Pattern.alternation, escape_plain here]
        have bar : readElement false read '|' (Pattern.alternation (m :: names) ++ t) =
            some ({ read with top := read.top.nextChoice }, Pattern.alternation (m :: names) ++ t) := rfl
        rw [length, text, readElements_name flags here, readElements_step (by exact flags) bar]
        exact result

theorem joinLiterals_chars (cs : List Char) :
    joinLiterals (cs.map fun c => .literal [c]) = if cs = [] then [] else [.literal cs] := by
  induction cs with
  | nil => rfl
  | cons c cs ih =>
    rw [List.map_cons, joinLiterals, ih]
    cases cs <;> simp

theorem sequence_charParts {name : List Char} (filled : name ≠ []) :
    (Part.sequence (charParts name)).regex = some (.literal name) := by
  have chars : (name.map fun c => (⟨some (.literal [c]), 0⟩ : Part)).filterMap Part.regex =
      name.map fun c => .literal [c] := by
    simp [List.filterMap_map]
  have flat : (name.map fun c => Regex.literal [c]).flatMap parts = name.map fun c => .literal [c] := by
    rw [List.flatMap_map, List.map_eq_flatMap]
    rfl
  simp only [charParts, Part.sequence, List.reverse_reverse, chars, concat, flat, joinLiterals_chars,
    filled, if_false, row]

theorem depthOf_le {parts : List Part} {k : Nat} (all : ∀ p ∈ parts, p.depth ≤ k) :
    Part.depthOf parts ≤ k + 1 := by
  have fold : ∀ (ns : List Nat) (a : Nat), a ≤ k → (∀ n ∈ ns, n ≤ k) → ns.foldl max a ≤ k := by
    intro ns
    induction ns with
    | nil => exact fun a le _ => le
    | cons n ns ih =>
      intro a le all
      obtain ⟨here, later⟩ := List.forall_mem_cons.mp all
      exact ih (max a n) (Nat.max_le.mpr ⟨le, here⟩) later
  have deepest := fold (parts.map Part.depth) 0 (Nat.zero_le k) (List.forall_mem_map.mpr all)
  simp only [Part.depthOf]
  split <;> omega

theorem sequence_charParts_depth (name : List Char) : (Part.sequence (charParts name)).depth ≤ 1 := by
  refine depthOf_le fun p member => ?_
  simp only [charParts, List.mem_reverse, List.mem_map] at member
  obtain ⟨c, -, rfl⟩ := member
  exact Nat.le_refl 0

def blanks : Regex := .rep (.set false Text.blankChars) 0 none true

/-- The characters that may stand between two quotes of a kind. -/
def unquoted (quote : Char) : CharSet := (CharSet.ofChars [quote, '\r', '\n']).compl

def quoted (quote : Char) : Regex :=
  row [.literal [quote], .rep (.set false (unquoted quote)) 0 none true, .literal [quote]]

/-- A call of one of some functions with a quoted text as its first argument. -/
def callRegex (names : List String) : Regex :=
  row [.anchor (.wordBoundary false), .group 1 (choice (names.map fun n => .literal n.toList)), blanks,
    .literal ['('], blanks, .group 2 (.alt (quoted '"') (quoted '\''))]

/-- What is behind the group of the names in the default template. -/
def argument : List Char := "\\s*\\(\\s*(\"[^\"\\r\\n]*\"|'[^'\\r\\n]*')".toList

theorem source_default (names : List String) : Pattern.source Template.default names =
    '\\' :: 'b' :: '(' :: (Pattern.alternation names ++ ')' :: argument) := by
  rfl

theorem unquoted_double : unquoted '"' = ⟨[(0, 9), (11, 12), (14, 33), (35, 1114111)]⟩ := by
  cbv

theorem unquoted_single : unquoted '\'' = ⟨[(0, 9), (11, 12), (14, 38), (40, 1114111)]⟩ := by
  cbv

theorem readElements_tail (g a : Part) :
    readElements false 34 ⟨Pattern.flags, 1, [], ⟨.plain, Pattern.flags, [], [g, a]⟩, []⟩
        argument =
      some ⟨Pattern.flags, 2, [], ⟨.plain, Pattern.flags, [],
        [⟨some (.group 2 (.alt (quoted '"') (quoted '\''))), 6⟩, ⟨some blanks, 1⟩, ⟨some (.literal ['(']), 0⟩,
          ⟨some blanks, 1⟩, g, a]⟩, []⟩ := by
  cbv

theorem openParenthesis_plain (flags : s.flags = Pattern.flags) (other : c ≠ '?') :
    openParenthesis false s (c :: t) = some (s.openCapture, c :: t) := by
  rw [openParenthesis, skipSpace, flags]
  simp only [Pattern.flags, Flags.plain, Bool.false_eq_true, if_false]
  split <;> simp_all

theorem exists_alternation {names : List String} (listed : names ≠ [])
    (plain : ∀ n ∈ names, IsPlain n.toList) :
    ∃ c t, Pattern.alternation names = c :: t ∧ c ≠ '?' := by
  obtain ⟨n, names, rfl⟩ := List.exists_cons_of_ne_nil listed
  obtain ⟨filled, chars⟩ := plain n List.mem_cons_self
  obtain ⟨c, t, spelled⟩ := List.exists_cons_of_ne_nil filled
  have here := (chars c (spelled ▸ List.mem_cons_self)).1
  have other : c ≠ '?' := by
    rintro rfl
    revert here
    decide
  have same := escape_plain fun d inside => (chars d inside).1
  rw [spelled] at same
  cases names with
  | nil => exact ⟨c, t, by rw [Pattern.alternation, spelled, same], other⟩
  | cons m names =>
    exact ⟨c, t ++ '|' :: Pattern.alternation (m :: names),
      by simp [Pattern.alternation, same, spelled], other⟩

theorem alternation_names {names : List String} (plain : ∀ n ∈ names, IsPlain n.toList) :
    let whole := Part.alternation (names.map fun n => Part.sequence (charParts n.toList)).reverse
    whole.regex = some (choice (names.map fun n => .literal n.toList)) ∧ whole.depth ≤ 2 := by
  constructor
  · have regexes : (names.map fun n => Part.sequence (charParts n.toList)).filterMap Part.regex =
        names.map fun n => .literal n.toList := by
      rw [List.filterMap_map]
      induction names with
      | nil => rfl
      | cons n names ih =>
        obtain ⟨here, later⟩ := List.forall_mem_cons.mp plain
        have first : (Part.regex ∘ fun n : String => Part.sequence (charParts n.toList)) n =
            some (.literal n.toList) := sequence_charParts here.1
        rw [List.filterMap_cons_some first, ih later, List.map_cons]
    simp only [Part.alternation, List.reverse_reverse, regexes]
  · refine depthOf_le fun p member => ?_
    obtain ⟨n, -, rfl⟩ := List.mem_map.mp (List.mem_reverse.mp member)
    exact sequence_charParts_depth n.toList

theorem char?_literal {n : List Char} {c : Char} (single : char? (.literal n) = some c) : n = [c] := by
  unfold char? at single
  split at single
  next d eq =>
    cases eq
    cases single
    rfl
  next => cases single

theorem mapM_char? {names : List (List Char)} {cs : List Char}
    (all : (names.map Regex.literal).mapM char? = some cs) : names = cs.map fun c => [c] := by
  induction names generalizing cs with
  | nil => simpa using all.symm
  | cons n names ih =>
    simp only [List.map_cons, List.mapM_cons, Option.pure_def, Option.bind_eq_bind,
      Option.bind_eq_some_iff, Option.some.injEq] at all
    obtain ⟨c, single, cs', rest, rfl⟩ := all
    rw [List.map_cons, ← ih rest, char?_literal single]

/-- A choice between literals keeps them as they are, unless all of them are single characters. -/
theorem choice_literals {names : List (List Char)} (listed : names ≠ []) :
    choice (names.map .literal) = anyOf (names.map .literal) ∨
      ∃ cs, names = cs.map (fun c => [c]) ∧
        choice (names.map .literal) = ofSet false (CharSet.ofChars cs) := by
  have flat : (names.map Regex.literal).flatMap alternatives = names.map .literal := by
    rw [List.flatMap_map, List.map_eq_flatMap]
    rfl
  obtain ⟨bound, size⟩ : ∃ bound, ((names.map Regex.literal).map Regex.size).foldr (· + ·) 0 =
      bound + 1 := by
    obtain ⟨n, names, rfl⟩ := List.exists_cons_of_ne_nil listed
    exact ⟨((names.map Regex.literal).map Regex.size).foldr (· + ·) 0, Nat.add_comm _ _⟩
  rw [choice, size, choiceWithin]
  simp only [flat]
  split
  · exact .inl rfl
  · split
    next _ cs chars => exact .inr ⟨cs, mapM_char? chars, rfl⟩
    next sets _ all =>
      obtain ⟨n, names, rfl⟩ := List.exists_cons_of_ne_nil listed
      simp [set?] at all
    next =>
      have shared : sharedParts (names.map Regex.literal) = [] := by
        obtain ⟨n, names, rfl⟩ := List.exists_cons_of_ne_nil listed
        cases names <;> rfl
      rw [shared]
      exact .inl rfl

def boundaryPart : Part := ⟨some (.anchor (.wordBoundary false)), 0⟩

def namesPart (names : List String) : Part :=
  Part.deeper (Part.alternation (names.map fun n => Part.sequence (charParts n.toList)).reverse)
    (.group 1)

/-- What the default template is read as, the last part first. -/
def callParts (names : List String) : List Part :=
  [⟨some (.group 2 (.alt (quoted '"') (quoted '\''))), 6⟩, ⟨some blanks, 1⟩,
    ⟨some (.literal ['(']), 0⟩, ⟨some blanks, 1⟩, namesPart names, boundaryPart]

theorem length_source_default (names : List String) :
    (Pattern.source Template.default names).length =
      35 + (Pattern.alternation names).length + 1 + 1 := by
  have behind : argument.length = 33 := by decide +kernel
  rw [source_default]
  simp only [List.length_cons, List.length_append]
  omega

theorem readElements_source {names : List String} (listed : names ≠ [])
    (plain : ∀ n ∈ names, IsPlain n.toList) :
    readElements false (Pattern.source Template.default names).length
        (Reader.start Pattern.flags) (Pattern.source Template.default names) =
      some ⟨Pattern.flags, 2, [], ⟨.plain, Pattern.flags, [], callParts names⟩, []⟩ := by
  let tail := ')' :: argument
  let begun : Reader := (Reader.start Pattern.flags).push boundaryPart
  let opened : Reader := ⟨Pattern.flags, 1, [], Frame.start (.capture 1) Pattern.flags,
    [⟨.plain, Pattern.flags, [], [boundaryPart]⟩]⟩
  obtain ⟨choices, parts, all, inside⟩ := @readElements_names opened tail 35 rfl rfl names listed
    fun n member c within => ((plain n member).2 c within).1
  obtain ⟨c, t, begins, other⟩ := exists_alternation listed plain
  have boundary : readElement false (Reader.start Pattern.flags) '\\'
      ('b' :: '(' :: (Pattern.alternation names ++ tail)) =
      some (begun, '(' :: (Pattern.alternation names ++ tail)) := rfl
  have parenthesis : readElement false begun '(' (Pattern.alternation names ++ tail) =
      some (opened, Pattern.alternation names ++ tail) := by
    rw [begins, List.cons_append]
    exact openParenthesis_plain rfl other
  let named : Reader := { opened with top := { opened.top with choices, parts } }
  have group : Part.deeper (Part.alternation (Part.sequence parts :: choices)) (.group 1) =
      namesPart names := by
    rw [all, show opened.top.choices = [] from rfl, List.append_nil, namesPart]
  have closing : readElement false named ')' argument =
      some (⟨Pattern.flags, 1, [], ⟨.plain, Pattern.flags, [], [namesPart names, boundaryPart]⟩, []⟩,
        argument) := by
    rw [← group]
    rfl
  rw [length_source_default, source_default, readElements_step rfl boundary,
    readElements_step rfl parenthesis, inside, readElements_step rfl closing, readElements_tail]
  rfl

theorem callParts_regex {names : List String} (plain : ∀ n ∈ names, IsPlain n.toList) :
    (Part.alternation [Part.sequence (callParts names)]).regex = some (callRegex names) := by
  have group : (namesPart names).regex =
      some (.group 1 (choice (names.map fun n => .literal n.toList))) := by
    simp only [namesPart, Part.deeper, (alternation_names plain).1, Option.map_some]
  have regexes : (callParts names).reverse.filterMap Part.regex = [.anchor (.wordBoundary false),
      .group 1 (choice (names.map fun n => .literal n.toList)), blanks, .literal ['('], blanks,
      .group 2 (.alt (quoted '"') (quoted '\''))] := by
    simp [callParts, boundaryPart, group]
  have row_read : concat ((callParts names).reverse.filterMap Part.regex) = callRegex names := by
    rw [regexes]
    rfl
  simp only [Part.alternation, Part.sequence, List.reverse_singleton, List.filterMap_cons,
    List.filterMap_nil, row_read]
  rfl

theorem callParts_depth {names : List String} (plain : ∀ n ∈ names, IsPlain n.toList) :
    (Part.alternation [Part.sequence (callParts names)]).depth ≤ 8 := by
  have group : (namesPart names).depth ≤ 3 := Nat.succ_le_succ (alternation_names plain).2
  have each : ∀ p ∈ callParts names, p.depth ≤ 6 := by
    simpa [callParts, boundaryPart] using Nat.le_trans group (by decide)
  have row : Part.depthOf (callParts names) ≤ 6 + 1 := depthOf_le each
  exact depthOf_le (List.forall_mem_singleton.mpr row)

theorem parse?_call {names : List String} (listed : names ≠ [])
    (plain : ∀ n ∈ names, IsPlain n.toList) :
    parse? false Pattern.flags (Pattern.source Template.default names) = some (callRegex names) := by
  have finished : Reader.finish ⟨Pattern.flags, 2, [], ⟨.plain, Pattern.flags, [], callParts names⟩,
      []⟩ = some (Part.alternation [Part.sequence (callParts names)]) := rfl
  have allowed : ¬ maxDepth < (Part.alternation [Part.sequence (callParts names)]).depth := by
    have shallow := callParts_depth plain
    simp only [maxDepth]
    omega
  simp [parse?, readElements_source listed plain, finished, allowed, callParts_regex plain]

end Regex

end EventXref
