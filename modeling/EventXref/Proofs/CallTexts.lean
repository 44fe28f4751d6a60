import EventXref.Proofs.CallPatterns

namespace EventXref

namespace Cursor

def between (before rest : List Char) : Cursor := ⟨before.getLast?, rest, Text.size before⟩

theorem between_past (before : List Char) (c : Char) (rest : List Char) :
    (between before (c :: rest)).past c rest = between (before ++ [c]) rest := by
  simp [between, past]

theorem upto_between {before rest : List Char} {q : Cursor} : (between before rest).Upto q ↔
    ∃ mid behind, rest = mid ++ behind ∧ q = between (before ++ mid) behind := by
  constructor
  · intro upto
    induction rest generalizing before with
    | nil => exact ⟨[], [], rfl, by simpa using upto.eq_of_end rfl⟩
    | cons c rest ih =>
      rcases upto.eq_or_past rfl with rfl | further
      · exact ⟨[], c :: rest, rfl, by simp⟩
      · rw [between_past] at further
        obtain ⟨mid, behind, rfl, rfl⟩ := ih further
        exact ⟨c :: mid, behind, rfl, by simp⟩
  · rintro ⟨mid, behind, rfl, rfl⟩
    induction mid generalizing before with
    | nil => simpa using Upto.here _
    | cons c mid ih =>
      have further := @ih (before ++ [c])
      rw [List.append_assoc, ← between_past] at further
      exact .past rfl further

end Cursor

open Cursor (between)

namespace Reading

variable {R S : Reading} {before mid behind : List Char} {marks : List (Nat × Nat)}

/-- The reading takes one text between two others. -/
def On (R : Reading) (before mid behind : List Char) (marks : List (Nat × Nat)) : Prop :=
  R (between before (mid ++ behind)) marks (between (before ++ mid) behind)

/-- The reading takes some beginning of what is left. -/
def Moves (R : Reading) : Prop := ∀ before rest marks b, R (between before rest) marks b →
  ∃ mid behind, rest = mid ++ behind ∧ b = between (before ++ mid) behind

theorem moves_stay (holds : Cursor → Prop) : (stay holds).Moves := by
  rintro before rest marks b ⟨-, rfl, -⟩
  exact ⟨[], rest, rfl, by simp⟩

theorem moves_takes (class' : Char → Prop) : (takes class').Moves := by
  rintro before rest marks b ⟨c, rest', ahead, -, rfl, -⟩
  change rest = c :: rest' at ahead
  subst ahead
  exact ⟨[c], rest', rfl, Cursor.between_past before c rest'⟩

theorem Moves.comp (first : R.Moves) (second : S.Moves) : (comp R S).Moves := by
  rintro before rest marks b ⟨q, one, two, reads, reads', rfl⟩
  obtain ⟨mid, behind, rfl, rfl⟩ := first before rest one q reads
  obtain ⟨mid', behind', rfl, rfl⟩ := second _ behind two b reads'
  exact ⟨mid ++ mid', behind', by simp, by simp⟩

theorem moves_rounds (moves : R.Moves) (n : Nat) : (rounds R n).Moves := by
  induction n with
  | zero => exact moves_stay _
  | succ n ih => exact moves.comp ih

theorem moves_spells (cs : List Char) : (spells cs).Moves := by
  induction cs with
  | nil => exact moves_stay _
  | cons c cs ih => exact (moves_takes _).comp ih

theorem on_stay {holds : Cursor → Prop} : (stay holds).On before mid behind marks ↔
    mid = [] ∧ marks = [] ∧ holds (between before behind) := by
  constructor
  · rintro ⟨here, same, rfl⟩
    have rest := congrArg Cursor.rest same
    obtain rfl : mid = [] := by simpa [between] using rest.symm
    exact ⟨rfl, rfl, here⟩
  · rintro ⟨rfl, rfl, here⟩
    exact ⟨here, by simp, rfl⟩

theorem on_takes {class' : Char → Prop} : (takes class').On before mid behind marks ↔
    ∃ c, mid = [c] ∧ class' c ∧ marks = [] := by
  constructor
  · rintro ⟨c, rest, ahead, here, same, rfl⟩
    obtain rfl : behind = rest := congrArg Cursor.rest same
    change mid ++ behind = [c] ++ behind at ahead
    exact ⟨c, List.append_cancel_right ahead, here, rfl⟩
  · rintro ⟨c, rfl, here, rfl⟩
    exact ⟨c, behind, rfl, here, (Cursor.between_past before c behind).symm, rfl⟩

theorem on_comp (first : R.Moves) (second : S.Moves) : (comp R S).On before mid behind marks ↔
    ∃ x y one two, mid = x ++ y ∧ R.On before x (y ++ behind) one ∧ S.On (before ++ x) y behind two ∧
      marks = two ++ one := by
  constructor
  · rintro ⟨q, one, two, reads, reads', rfl⟩
    obtain ⟨x, rest, split, rfl⟩ := first before _ one q reads
    obtain ⟨y, behind', rfl, same⟩ := second _ rest two _ reads'
    obtain rfl : behind = behind' := congrArg Cursor.rest same
    rw [← List.append_assoc] at split
    obtain rfl := List.append_cancel_right split
    refine ⟨x, y, one, two, rfl, ?_, ?_, rfl⟩
    · simpa [On] using reads
    · simpa [On] using reads'
  · rintro ⟨x, y, one, two, rfl, reads, reads', rfl⟩
    refine ⟨between (before ++ x) (y ++ behind), one, two, ?_, ?_, rfl⟩
    · simpa [On] using reads
    · simpa [On] using reads'

theorem on_spells {cs : List Char} :
    (spells cs).On before mid behind marks ↔ mid = cs ∧ marks = [] := by
  induction cs generalizing before mid marks with
  | nil => simp [spells, on_stay]
  | cons c cs ih =>
    rw [spells, on_comp (moves_takes _) (moves_spells cs)]
    simp only [on_takes, ih]
    constructor
    · rintro ⟨x, y, one, two, rfl, ⟨d, rfl, rfl, rfl⟩, ⟨rfl, rfl⟩, rfl⟩
      exact ⟨rfl, rfl⟩
    · rintro ⟨rfl, rfl⟩
      exact ⟨[c], cs, [], [], rfl, ⟨c, rfl, rfl, rfl⟩, ⟨rfl, rfl⟩, rfl⟩

/-- Any number of rounds of one character each are a text of such characters. -/
theorem on_rounds_takes {class' : Char → Prop} {n : Nat} :
    (rounds (takes class') n).On before mid behind marks ↔
      mid.length = n ∧ (∀ c ∈ mid, class' c) ∧ marks = [] := by
  induction n generalizing before mid marks with
  | zero =>
    rw [rounds, on_stay, List.length_eq_zero_iff]
    constructor
    · rintro ⟨rfl, rfl, -⟩
      exact ⟨rfl, by simp, rfl⟩
    · rintro ⟨rfl, -, rfl⟩
      exact ⟨rfl, rfl, trivial⟩
  | succ n ih =>
    rw [rounds, on_comp (moves_takes _) (moves_rounds (moves_takes _) n)]
    simp only [on_takes, ih]
    constructor
    · rintro ⟨x, y, one, two, rfl, ⟨c, rfl, here, rfl⟩, ⟨rfl, later, rfl⟩, rfl⟩
      exact ⟨by simp, by simpa using ⟨here, later⟩, rfl⟩
    · rintro ⟨length, all, rfl⟩
      obtain ⟨c, mid, rfl⟩ := List.exists_cons_of_length_eq_add_one length
      obtain ⟨here, later⟩ := List.forall_mem_cons.mp all
      exact ⟨[c], mid, [], [], rfl, ⟨c, rfl, here, rfl⟩, ⟨by simpa using length, later, rfl⟩, rfl⟩

end Reading

namespace Regex

open Reading

theorem moves_reading (r : Regex) : r.reading.Moves := by
  induction r with
  | empty => exact moves_stay _
  | literal cs => exact moves_spells cs
  | set ascii s => exact moves_takes _
  | anchor k => exact moves_stay _
  | seq a b ia ib => exact ia.comp ib
  | alt a b ia ib =>
    rintro before rest marks q (reads | reads)
    · exact ia before rest marks q reads
    · exact ib before rest marks q reads
  | rep r least most greedy ih =>
    rintro before rest marks q ⟨n, -, -, reads⟩
    exact moves_rounds ih n before rest marks q reads
  | group i r ih =>
    rintro before rest marks q ⟨inner, reads, -⟩
    exact ih before rest inner q reads
  | ahead holds r _ => exact moves_stay _

theorem anyOf_reading (rs : List Regex) (a : Cursor) (marks : List (Nat × Nat)) (b : Cursor) :
    (anyOf rs).reading a marks b ↔ ∃ r ∈ rs, r.reading a marks b := by
  induction rs with
  | nil =>
    simp only [anyOf, never, reading, takes, List.not_mem_nil, false_and, exists_false, iff_false]
    rintro ⟨c, rest, -, has, -⟩
    cases has
  | cons r rs ih =>
    cases rs with
    | nil => simp [anyOf]
    | cons r' rs =>
      change r.reading a marks b ∨ (anyOf (r' :: rs)).reading a marks b ↔ _
      rw [ih]
      simp

/-- A set of characters that are given reads one of them, also if it is written as a literal. -/
theorem ofSet_ofChars_reading {cs : List Char} (listed : cs ≠ []) (a : Cursor)
    (marks : List (Nat × Nat)) (b : Cursor) :
    (ofSet false (CharSet.ofChars cs)).reading a marks b ↔ takes (· ∈ cs) a marks b := by
  have has := CharSet.contains_ofChars cs
  have class_eq : takes (fun c => (CharSet.ofChars cs).contains c = true) = takes (· ∈ cs) := by
    simp only [has]
  unfold ofSet
  split
  next d only =>
    -- the only range is one code point, which is that of every character given
    have same : ∀ c, c ∈ cs ↔ c = d := by
      unfold CharSet.only? at only
      split at only
      next lo hi ranges =>
        split at only
        next eq =>
          subst eq
          obtain ⟨c, t, rfl⟩ := List.exists_cons_of_ne_nil listed
          have code : ∀ e, e ∈ c :: t ↔ e.toNat = lo := by
            intro e
            rw [← has e, CharSet.contains, CharSet.hasCode, ranges]
            simp only [Text.inRanges]
            split
            · simp; omega
            · split <;> simp <;> omega
          have first := (code c).mp List.mem_cons_self
          have eq : c = d := by
            rw [← first, Char.ofNat_toNat] at only
            exact Option.some.inj only
          intro e
          rw [code, ← eq, ← first, Char.toNat_inj]
        next => cases only
      next => cases only
    simp only [reading, spells, comp_stay, same]
  next =>
    split
    next none =>
      obtain ⟨c, t, rfl⟩ := List.exists_cons_of_ne_nil listed
      have inside := (has c).mpr List.mem_cons_self
      rw [CharSet.isEmpty, List.isEmpty_iff] at none
      rw [CharSet.contains, CharSet.hasCode, none] at inside
      cases inside
    next => rw [reading, class_eq]

theorem choice_literals_reading {names : List (List Char)} (listed : names ≠ []) (a : Cursor)
    (marks : List (Nat × Nat)) (b : Cursor) :
    (choice (names.map .literal)).reading a marks b ↔ ∃ n ∈ names, spells n a marks b := by
  rcases choice_literals listed with any | ⟨cs, spelled, set⟩
  · rw [any, anyOf_reading]
    constructor
    · rintro ⟨r, member, reads⟩
      obtain ⟨n, there, rfl⟩ := List.mem_map.mp member
      exact ⟨n, there, reads⟩
    · rintro ⟨n, there, reads⟩
      exact ⟨.literal n, List.mem_map_of_mem there, reads⟩
  · have filled : cs ≠ [] := by
      rintro rfl
      exact listed spelled
    rw [set, ofSet_ofChars_reading filled, spelled]
    constructor
    · rintro ⟨c, rest, ahead, member, here⟩
      refine ⟨[c], List.mem_map_of_mem member, ?_⟩
      rw [spells, spells, comp_stay]
      exact ⟨c, rest, ahead, rfl, here⟩
    · rintro ⟨n, member, reads⟩
      obtain ⟨c, there, rfl⟩ := List.mem_map.mp member
      rw [spells, spells, comp_stay] at reads
      obtain ⟨d, rest, ahead, rfl, here⟩ := reads
      exact ⟨d, rest, ahead, there, here⟩

end Regex

/-- A call as it is written. -/
structure Call where
  name : List Char
  gap : List Char
  inner : List Char
  quote : Char
  event : List Char

namespace Call

def text (c : Call) : List Char :=
  c.name ++ (c.gap ++ '(' :: (c.inner ++ c.quote :: (c.event ++ [c.quote])))

def eventStart (c : Call) : Nat := Text.size c.name + Text.size c.gap + 1 + Text.size c.inner

/-- The groups of a match that starts at an offset, the last noted place first. -/
def marks (c : Call) (offset : Nat) : List (Nat × Nat) :=
  [(Program.closeSlot 2, offset + Text.size c.text), (Program.openSlot 2, offset + c.eventStart),
    (Program.closeSlot 1, offset + Text.size c.name), (Program.openSlot 1, offset)]

def isWord (c : Char) : Bool := Anchor.isWordChar false c

/-- The call is one of these functions and stands behind a text at a word boundary. -/
structure IsOf (c : Call) (names : List String) (before : List Char) : Prop where
  listed : ∃ n ∈ names, n.toList = c.name
  boundary : before.getLast?.any isWord ≠ c.name.head?.any isWord
  gap : ∀ b ∈ c.gap, Text.isBlank b = true
  inner : ∀ b ∈ c.inner, Text.isBlank b = true
  quote : c.quote = '"' ∨ c.quote = '\''
  event : ∀ e ∈ c.event, e ≠ c.quote ∧ e ≠ '\r' ∧ e ≠ '\n'

end Call

namespace Regex

open Reading

variable {names : List String} {before mid behind : List Char} {marks : List (Nat × Nat)}

theorem on_seq {a b : Regex} : (Regex.seq a b).reading.On before mid behind marks ↔
    ∃ x y one two, mid = x ++ y ∧ a.reading.On before x (y ++ behind) one ∧
      b.reading.On (before ++ x) y behind two ∧ marks = two ++ one :=
  on_comp (moves_reading a) (moves_reading b)

theorem on_any {ascii greedy : Bool} {s : CharSet} :
    (Regex.rep (.set ascii s) 0 none greedy).reading.On before mid behind marks ↔
      (∀ c ∈ mid, s.contains c = true) ∧ marks = [] := by
  constructor
  · rintro ⟨n, -, -, reads⟩
    exact (on_rounds_takes.mp reads).2
  · rintro ⟨all, rfl⟩
    exact ⟨mid.length, Nat.zero_le _, by simp, on_rounds_takes.mpr ⟨rfl, all, rfl⟩⟩

theorem contains_unquoted {quote : Char} (kind : quote = '"' ∨ quote = '\'') (c : Char) :
    (unquoted quote).contains c = true ↔ c ≠ quote ∧ c ≠ '\r' ∧ c ≠ '\n' := by
  have limit := CharSet.toNat_lt c
  have codes : ∀ d : Char, c ≠ d ↔ c.toNat ≠ d.toNat := fun d => not_congr Char.toNat_inj.symm
  rw [CharSet.contains, CharSet.hasCode]
  rcases kind with rfl | rfl
  · rw [unquoted_double, codes, codes, codes]
    change _ ↔ c.toNat ≠ 34 ∧ c.toNat ≠ 13 ∧ c.toNat ≠ 10
    rw [CharSet.inRanges_iff (by decide)]
    simp only [CharSet.lies_cons]
    simp [CharSet.Lies]
    omega
  · rw [unquoted_single, codes, codes, codes]
    change _ ↔ c.toNat ≠ 39 ∧ c.toNat ≠ 13 ∧ c.toNat ≠ 10
    rw [CharSet.inRanges_iff (by decide)]
    simp only [CharSet.lies_cons]
    simp [CharSet.Lies]
    omega

theorem on_literal {cs : List Char} :
    (Regex.literal cs).reading.On before mid behind marks ↔ mid = cs ∧ marks = [] := on_spells

theorem on_anchor {k : Anchor} : (Regex.anchor k).reading.On before mid behind marks ↔
    mid = [] ∧ marks = [] ∧ k.holds (between before behind) = true := on_stay

theorem on_group {i : Nat} {r : Regex} : (Regex.group i r).reading.On before mid behind marks ↔
    ∃ inner, r.reading.On before mid behind inner ∧ marks =
      (Program.closeSlot i, Text.size (before ++ mid)) :: inner ++
        [(Program.openSlot i, Text.size before)] := Iff.rfl

theorem on_alt {a b : Regex} : (Regex.alt a b).reading.On before mid behind marks ↔
    a.reading.On before mid behind marks ∨ b.reading.On before mid behind marks := Iff.rfl

theorem on_blanks : blanks.reading.On before mid behind marks ↔
    (∀ c ∈ mid, Text.isBlank c = true) ∧ marks = [] := on_any

theorem on_quoted {quote : Char} (kind : quote = '"' ∨ quote = '\'') :
    (quoted quote).reading.On before mid behind marks ↔ ∃ event, mid = quote :: (event ++ [quote]) ∧
      (∀ e ∈ event, e ≠ quote ∧ e ≠ '\r' ∧ e ≠ '\n') ∧ marks = [] := by
  simp only [quoted, row, on_seq, on_literal, on_any, contains_unquoted kind]
  constructor
  · rintro ⟨_, _, _, _, rfl, ⟨rfl, rfl⟩, ⟨event, _, _, _, rfl, ⟨all, rfl⟩, ⟨rfl, rfl⟩, rfl⟩, rfl⟩
    exact ⟨event, rfl, all, rfl⟩
  · rintro ⟨event, rfl, all, rfl⟩
    exact ⟨[quote], _, [], [], rfl, ⟨rfl, rfl⟩, ⟨event, [quote], [], [], rfl, ⟨all, rfl⟩,
      ⟨rfl, rfl⟩, rfl⟩, rfl⟩

theorem on_names (listed : names ≠ []) :
    (choice (names.map fun n => .literal n.toList)).reading.On before mid behind marks ↔
      (∃ n ∈ names, n.toList = mid) ∧ marks = [] := by
  have eq : (names.map fun n => Regex.literal n.toList) = (names.map String.toList).map .literal := by
    simp
  have filled : names.map String.toList ≠ [] := by simpa using listed
  rw [eq, On, choice_literals_reading filled]
  constructor
  · rintro ⟨cs, member, reads⟩
    obtain ⟨n, there, rfl⟩ := List.mem_map.mp member
    obtain ⟨rfl, rfl⟩ := on_spells.mp reads
    exact ⟨⟨n, there, rfl⟩, rfl⟩
  · rintro ⟨⟨n, there, rfl⟩, rfl⟩
    exact ⟨n.toList, List.mem_map_of_mem there, on_spells.mpr ⟨rfl, rfl⟩⟩

theorem isWordChar_eq : Anchor.isWordChar false = Text.wordChars.contains := by
  funext c
  rw [Anchor.isWordChar, if_neg Bool.false_ne_true]

theorem boundary_iff {name rest : List Char} (filled : name ≠ []) :
    (Anchor.wordBoundary false).holds (between before (name ++ rest)) = true ↔
      before.getLast?.any Call.isWord ≠ name.head?.any Call.isWord := by
  obtain ⟨c, t, rfl⟩ := List.exists_cons_of_ne_nil filled
  exact bne_iff_ne

/-- The pattern of calls matches what is a call of one of the functions, and notes its parts. -/
theorem on_callRegex (listed : names ≠ []) (filled : ∀ n ∈ names, n.toList ≠ []) :
    (callRegex names).reading.On before mid behind marks ↔
      ∃ c : Call, c.IsOf names before ∧ mid = c.text ∧ marks = c.marks (Text.size before) := by
  simp only [callRegex, row, on_seq, on_anchor, on_group, on_names listed, on_blanks, on_literal,
    on_alt]
  constructor
  · rintro ⟨_, _, _, _, rfl, ⟨rfl, rfl, boundary⟩, ⟨name, _, _, _, rfl, ⟨_, ⟨⟨n, there, rfl⟩, rfl⟩, rfl⟩,
      ⟨gap, _, _, _, rfl, ⟨blank, rfl⟩, ⟨_, _, _, _, rfl, ⟨rfl, rfl⟩, ⟨inner, last, _, _, rfl,
        ⟨blank', rfl⟩, ⟨_, quoted, rfl⟩, rfl⟩, rfl⟩, rfl⟩, rfl⟩, rfl⟩
    rw [List.append_assoc, boundary_iff (filled n there)] at boundary
    obtain ⟨quote, event, kind, rfl, plain, rfl⟩ : ∃ quote event, (quote = '"' ∨ quote = '\'') ∧
        last = quote :: (event ++ [quote]) ∧ (∀ e ∈ event, e ≠ quote ∧ e ≠ '\r' ∧ e ≠ '\n') ∧ _ = [] := by
      rcases quoted with double | single
      · obtain ⟨event, eq, plain, none⟩ := (on_quoted (.inl rfl)).mp double
        exact ⟨'"', event, .inl rfl, eq, plain, none⟩
      · obtain ⟨event, eq, plain, none⟩ := (on_quoted (.inr rfl)).mp single
        exact ⟨'\'', event, .inr rfl, eq, plain, none⟩
    refine ⟨⟨n.toList, gap, inner, quote, event⟩, ⟨⟨n, there, rfl⟩, boundary, blank, blank', kind, plain⟩,
      ?_, ?_⟩
    · simp [Call.text]
    · have paren : '('.utf8Size = 1 := rfl
      simp only [Call.marks, Call.text, Call.eventStart, Text.size_append, Text.size_cons,
        Text.size_nil, paren, List.append_nil, List.nil_append, List.cons_append, List.cons.injEq,
        Prod.mk.injEq, and_true, true_and]
      omega
  · rintro ⟨c, call, rfl, rfl⟩
    obtain ⟨n, there, name⟩ := call.listed
    have some : c.name ≠ [] := name ▸ filled n there
    have quoted : (quoted c.quote).reading.On (before ++ c.name ++ c.gap ++ ['('] ++ c.inner)
        (c.quote :: (c.event ++ [c.quote])) behind [] :=
      (on_quoted call.quote).mpr ⟨c.event, rfl, call.event, rfl⟩
    have boundary : (Anchor.wordBoundary false).holds (between before (c.text ++ behind)) = true := by
      rw [Call.text, List.append_assoc]
      exact (boundary_iff some).mpr call.boundary
    refine ⟨[], c.text, [], _, rfl, ⟨rfl, rfl, boundary⟩, ⟨c.name, _, _, _, rfl,
      ⟨[], ⟨⟨n, there, name⟩, rfl⟩, rfl⟩, ⟨c.gap, _, [], _, rfl, ⟨call.gap, rfl⟩, ⟨['('], _, [], _, rfl,
        ⟨rfl, rfl⟩, ⟨c.inner, _, [], _, rfl, ⟨call.inner, rfl⟩, ⟨[], ?_, rfl⟩, rfl⟩, rfl⟩, rfl⟩, rfl⟩, ?_⟩
    · rw [List.append_nil]
      rcases call.quote with double | single
      · exact .inl (double ▸ quoted)
      · exact .inr (single ▸ quoted)
    · have paren : '('.utf8Size = 1 := rfl
      simp only [Call.marks, Call.text, Call.eventStart, Text.size_append, Text.size_cons,
        Text.size_nil, paren, List.append_nil, List.nil_append, List.cons_append, List.cons.injEq,
        Prod.mk.injEq, and_true, true_and]
      omega

end Regex

theorem append_unique {P : Char → Prop} {x y r s : List Char} (all : ∀ c ∈ x, P c)
    (all' : ∀ c ∈ y, P c) (stops : ∀ c ∈ r.head?, ¬ P c) (stops' : ∀ c ∈ s.head?, ¬ P c)
    (eq : x ++ r = y ++ s) : x = y ∧ r = s := by
  induction x generalizing y with
  | nil =>
    cases y with
    | nil => exact ⟨rfl, eq⟩
    | cons d y =>
      rw [List.nil_append] at eq
      exact absurd (all' d List.mem_cons_self) (stops d (by simp [eq]))
  | cons c x ih =>
    obtain ⟨here, later⟩ := List.forall_mem_cons.mp all
    cases y with
    | nil =>
      rw [List.nil_append] at eq
      exact absurd here (stops' c (by simp [← eq]))
    | cons d y =>
      obtain ⟨rfl, tails⟩ := List.cons.inj eq
      obtain ⟨rfl, rfl⟩ := ih later (List.forall_mem_cons.mp all').2 tails
      exact ⟨rfl, rfl⟩

namespace Call

variable {c c' : Call} {names names' : List String} {before behind behind' : List Char}

theorem IsOf.name_ne_nil (call : c.IsOf names before) (plain : ∀ n ∈ names, Regex.IsPlain n.toList) :
    c.name ≠ [] := by
  obtain ⟨n, there, name⟩ := call.listed
  exact name ▸ (plain n there).1

theorem IsOf.name_plain (call : c.IsOf names before) (plain : ∀ n ∈ names, Regex.IsPlain n.toList) :
    ∀ d ∈ c.name, Text.isBlank d = false ∧ d ≠ '(' := by
  obtain ⟨n, there, name⟩ := call.listed
  intro d inside
  obtain ⟨meta', blank⟩ := (plain n there).2 d (name ▸ inside)
  refine ⟨blank, ?_⟩
  rintro rfl
  revert meta'
  decide

theorem IsOf.quote_not_blank (call : c.IsOf names before) : Text.isBlank c.quote = false := by
  rcases call.quote with eq | eq <;> rw [eq] <;> decide

/-- A call that begins a text can be found in it in one way only. -/
theorem IsOf.unique (call : c.IsOf names before) (call' : c'.IsOf names' before)
    (plain : ∀ n ∈ names, Regex.IsPlain n.toList) (plain' : ∀ n ∈ names', Regex.IsPlain n.toList)
    (eq : c.text ++ behind = c'.text ++ behind') : c = c' ∧ behind = behind' := by
  obtain ⟨name, gap, inner, quote, event⟩ := c
  obtain ⟨name', gap', inner', quote', event'⟩ := c'
  simp only [text, List.append_assoc, List.cons_append] at eq
  -- a name ends before the first blank or parenthesis
  have ends : ∀ (gap rest : List Char), (∀ b ∈ gap, Text.isBlank b = true) →
      ∀ d ∈ (gap ++ '(' :: rest).head?, ¬ (Text.isBlank d = false ∧ d ≠ '(') := by
    intro gap rest blank d head
    cases gap with
    | nil =>
      cases head
      simp
    | cons b gap =>
      cases head
      simp [blank d List.mem_cons_self]
  obtain ⟨rfl, behindName⟩ := append_unique (call.name_plain plain) (call'.name_plain plain')
    (ends _ _ call.gap) (ends _ _ call'.gap) eq
  have paren : ∀ (rest : List Char), ∀ d ∈ ('(' :: rest).head?, ¬ Text.isBlank d = true := by
    rintro rest d ⟨⟩
    decide
  obtain ⟨rfl, behindGap⟩ := append_unique call.gap call'.gap (paren _) (paren _) behindName
  obtain ⟨-, inside⟩ := List.cons.inj behindGap
  have quotes : ∀ {q : Char}, Text.isBlank q = false → ∀ (rest : List Char), ∀ d ∈ (q :: rest).head?,
      ¬ Text.isBlank d = true := by
    rintro q solid rest d ⟨⟩
    simp [solid]
  obtain ⟨rfl, behindInner⟩ := append_unique call.inner call'.inner (quotes call.quote_not_blank _)
    (quotes call'.quote_not_blank _) inside
  obtain ⟨rfl, behindQuote⟩ := List.cons.inj behindInner
  have closing : ∀ (rest : List Char), ∀ d ∈ (quote :: rest).head?, ¬ d ≠ quote := by
    rintro rest d ⟨⟩
    simp
  obtain ⟨rfl, behindEvent⟩ := append_unique (P := (· ≠ quote))
    (fun e within => (call.event e within).1) (fun e within => (call'.event e within).1)
    (closing _) (closing _) behindQuote
  exact ⟨rfl, by simpa using behindEvent⟩

theorem IsOf.congr (call : c.IsOf names before) (same : ∀ n, n ∈ names ↔ n ∈ names') :
    c.IsOf names' before := by
  obtain ⟨n, there, name⟩ := call.listed
  exact ⟨⟨n, (same n).mp there, name⟩, call.boundary, call.gap, call.inner, call.quote, call.event⟩

end Call

end EventXref
