import EventXref.Proofs.ContextScan
import EventXref.Proofs.LuaGrammar

namespace EventXref.Lua

open Cursor (between)

variable {before mid behind : List Char} {marks : List (Nat × Nat)} {c : Char}

theorem contains_letters :
    (⟨[(65, 90), (95, 95), (97, 122)]⟩ : CharSet).contains c = true ↔ isLetter c = true := by
  rw [CharSet.contains, CharSet.hasCode, CharSet.inRanges_iff (by decide), isLetter_iff]

theorem contains_lettersOrDigits :
    (⟨[(48, 57), (65, 90), (95, 95), (97, 122)]⟩ : CharSet).contains c = true ↔
      isLetterOrDigit c = true := by
  rw [CharSet.contains, CharSet.hasCode, CharSet.inRanges_iff (by decide), isLetterOrDigit_iff]
  rfl

theorem contains_unbroken :
    (⟨[(0, 9), (11, 0x10FFFF)]⟩ : CharSet).contains c = true ↔ c ≠ '\n' := by
  have limit := CharSet.toNat_lt c
  have code : c ≠ '\n' ↔ c.toNat ≠ 10 := not_congr Char.toNat_inj.symm
  rw [CharSet.contains, CharSet.hasCode, CharSet.inRanges_iff (by decide), code]
  simp only [CharSet.lies_cons]
  simp [CharSet.Lies]
  omega

theorem on_set {ascii : Bool} {s : CharSet} :
    (Regex.set ascii s).reading.On before mid behind marks ↔
      ∃ c, mid = [c] ∧ s.contains c = true ∧ marks = [] := Reading.on_takes

/-- A place is the boundary of a word if exactly one side of it is a word character. -/
theorem holds_wordBoundary : (Anchor.wordBoundary false).holds (between before behind) = true ↔
    before.getLast?.any Text.wordChars.contains ≠ behind.head?.any Text.wordChars.contains := by
  rw [← Regex.isWordChar_eq]
  exact bne_iff_ne

theorem holds_boundary_before {rest : List Char} (letter : isLetter c = true) :
    (Anchor.wordBoundary false).holds (between before (c :: rest)) = true ↔
      before.getLast?.any Text.wordChars.contains = false := by
  have word := wordChar_of_isLetterOrDigit (isLetterOrDigit_of_isLetter letter)
  rw [holds_wordBoundary, List.head?_cons, Option.any_some, word, ne_eq, Bool.not_eq_true]

/-- Names begin at the boundary of a word. -/
theorem on_named {ends : Regex} : (∃ marks, (named ends).reading.On before mid behind marks) ↔
    ∃ name last, mid = name ++ last ∧ IsName name ∧
      before.getLast?.any Text.wordChars.contains = false ∧
      ∃ marks, ends.reading.On (before ++ name) last behind marks := by
  simp only [named, Regex.row, Regex.on_seq, Regex.on_anchor, on_set, Regex.on_any,
    contains_letters, contains_lettersOrDigits]
  constructor
  · rintro ⟨-, _, _, _, _, rfl, ⟨rfl, rfl, boundary⟩, ⟨_, _, _, _, rfl, ⟨c, rfl, letter, rfl⟩,
      ⟨more, last, _, marks, rfl, ⟨all, rfl⟩, ends, rfl⟩, rfl⟩, rfl⟩
    refine ⟨c :: more, last, rfl, ⟨c, more, rfl, letter, all⟩, ?_, marks, ?_⟩
    · exact (holds_boundary_before letter).mp boundary
    · rw [List.append_nil, List.append_assoc] at ends
      exact ends
  · rintro ⟨_, last, rfl, ⟨c, more, rfl, letter, all⟩, apart, marks, ends⟩
    have none : marks = marks ++ [] := (List.append_nil marks).symm
    refine ⟨marks, [], _, [], marks, rfl, ⟨rfl, rfl, (holds_boundary_before letter).mpr apart⟩,
      ⟨[c], _, [], marks, rfl, ⟨c, rfl, letter, rfl⟩, ⟨more, last, [], marks, rfl, ⟨all, rfl⟩, ?_,
        none⟩, none⟩, none⟩
    rw [List.append_nil, List.append_assoc]
    exact ends

theorem on_ahead_call :
    (∃ marks, (Regex.ahead true (.row [Regex.blanks, .literal ['(']])).reading.On before mid behind
      marks) ↔ mid = [] ∧ OpensCall behind := by
  have reads : (∃ marks b, (Regex.row [Regex.blanks, .literal ['(']]).reading
      (between before behind) marks b) ↔ OpensCall behind := by
    constructor
    · rintro ⟨marks, b, reads⟩
      obtain ⟨mid, left, rfl, rfl⟩ := Regex.moves_reading _ _ _ _ _ reads
      obtain ⟨blanks, _, _, _, rfl, blank, paren, -⟩ := Regex.on_seq.mp reads
      obtain ⟨rfl, -⟩ := Regex.on_literal.mp paren
      exact ⟨blanks, left, by simp, (Regex.on_blanks.mp blank).1⟩
    · rintro ⟨blanks, left, rfl, all⟩
      have on : (Regex.row [Regex.blanks, .literal ['(']]).reading.On before (blanks ++ ['(']) left
          [] := Regex.on_seq.mpr ⟨blanks, ['('], [], [], rfl, Regex.on_blanks.mpr ⟨all, rfl⟩,
            Regex.on_literal.mpr ⟨rfl, rfl⟩, rfl⟩
      rw [Reading.On, List.append_assoc] at on
      exact ⟨[], _, on⟩
  constructor
  · rintro ⟨marks, on⟩
    obtain ⟨rfl, -, holds⟩ := Reading.on_stay.mp on
    exact ⟨rfl, reads.mp (holds.mpr rfl)⟩
  · rintro ⟨rfl, opens⟩
    exact ⟨[], Reading.on_stay.mpr ⟨rfl, rfl, fun _ => rfl, fun _ => reads.mpr opens⟩⟩

theorem on_boundary_behind {name : List Char} (named : IsName name) :
    (∃ marks, (Regex.anchor (.wordBoundary false)).reading.On (before ++ name) mid behind marks) ↔
      mid = [] ∧ behind.head?.any Text.wordChars.contains = false := by
  have inside : (before ++ name).getLast?.any Text.wordChars.contains = true := by
    have filled : name ≠ [] := by
      obtain ⟨c, rest, rfl, -⟩ := named
      exact List.cons_ne_nil c rest
    rw [List.getLast?_append_of_ne_nil _ filled, List.getLast?_eq_some_getLast filled,
      Option.any_some]
    exact wordChar_of_isLetterOrDigit (named.all _ (List.getLast_mem filled))
  have boundary : (Anchor.wordBoundary false).holds (between (before ++ name) behind) = true ↔
      behind.head?.any Text.wordChars.contains = false := by
    rw [holds_wordBoundary, inside, ne_comm, ne_eq, Bool.not_eq_true]
  constructor
  · rintro ⟨marks, on⟩
    obtain ⟨rfl, -, holds⟩ := Regex.on_anchor.mp on
    exact ⟨rfl, boundary.mp holds⟩
  · rintro ⟨rfl, apart⟩
    exact ⟨[], Regex.on_anchor.mpr ⟨rfl, rfl, boundary.mpr apart⟩⟩

namespace Lexeme

theorem reads_spelled (cs : List Char) :
    (∃ marks, (Regex.literal cs).reading.On before mid behind marks) ↔
      spelled? cs (mid ++ behind) = some mid := by
  rw [spelled?_eq_some_iff]
  constructor
  · rintro ⟨marks, on⟩
    obtain ⟨rfl, -⟩ := Regex.on_literal.mp on
    exact ⟨rfl, List.prefix_append _ _⟩
  · rintro ⟨rfl, -⟩
    exact ⟨[], Regex.on_literal.mpr ⟨rfl, rfl⟩⟩

theorem reads_lineComment : (∃ marks, (regex .lineComment).reading.On before mid behind marks) ↔
    dashed? (mid ++ behind) = some mid := by
  rw [dashed?_eq_some_iff]
  simp only [regex, Regex.row, unbroken, Regex.on_seq, Regex.on_literal, Regex.on_any,
    Regex.on_anchor, contains_unbroken]
  constructor
  · rintro ⟨-, _, _, _, _, rfl, ⟨rfl, rfl⟩, ⟨text, _, _, _, rfl, ⟨all, rfl⟩, ⟨rfl, rfl, ends⟩,
      rfl⟩, rfl⟩
    have empty : behind = [] := by simpa [Anchor.holds, between] using ends
    subst empty
    refine ⟨by simp, ⟨text, by simp⟩, ?_⟩
    simpa using fun member => all _ member rfl
  · rintro ⟨whole, ⟨text, dashes⟩, unbroken⟩
    obtain rfl : behind = [] := by simpa using whole.symm
    rw [List.append_nil] at dashes unbroken
    subst dashes
    refine ⟨[], ['-', '-'], text, [], [], rfl, ⟨rfl, rfl⟩, ⟨text, [], [], [], by simp, ⟨?_, rfl⟩,
      ⟨rfl, rfl, rfl⟩, rfl⟩, rfl⟩
    rintro c member rfl
    exact unbroken (List.mem_append_right _ member)

theorem reads_escape : (∃ marks, (regex .escape).reading.On before mid behind marks) ↔
    escaped? (mid ++ behind) = some mid := by
  rw [escaped?_eq_some_iff]
  simp only [regex, Regex.row, unbroken, Regex.on_seq, Regex.on_literal, on_set, contains_unbroken]
  constructor
  · rintro ⟨-, _, _, _, _, rfl, ⟨rfl, rfl⟩, ⟨c, rfl, unbroken, rfl⟩, rfl⟩
    exact ⟨c, behind, rfl, unbroken, rfl⟩
  · rintro ⟨c, behind', -, unbroken, rfl⟩
    exact ⟨[], ['\\'], [c], [], [], rfl, ⟨rfl, rfl⟩, ⟨c, rfl, unbroken, rfl⟩, rfl⟩

theorem reads_call : (∃ marks, (regex .call).reading.On before mid behind marks) ↔
    text? before.getLast? (mid ++ behind) .call = some mid := by
  rw [regex, on_named, text?_call]
  constructor
  · rintro ⟨name, last, rfl, named, apart, ahead⟩
    obtain ⟨rfl, opens⟩ := on_ahead_call.mp ahead
    rw [List.append_nil]
    exact ⟨behind, rfl, named, apart, opens⟩
  · rintro ⟨behind', whole, named, apart, opens⟩
    obtain rfl := List.append_cancel_left whole
    exact ⟨mid, [], (List.append_nil mid).symm, named, apart, on_ahead_call.mpr ⟨rfl, opens⟩⟩

theorem reads_name : (∃ marks, (regex .name).reading.On before mid behind marks) ↔
    text? before.getLast? (mid ++ behind) .name = some mid := by
  rw [regex, on_named, text?, name?_eq_some_iff]
  constructor
  · rintro ⟨name, last, rfl, named, apart, ends⟩
    obtain ⟨rfl, last⟩ := (on_boundary_behind named).mp ends
    rw [List.append_nil]
    refine ⟨behind, rfl, named, apart, ?_, by rw [last, Bool.not_false]⟩
    -- what goes on with a name goes on with a word
    rw [Option.any_eq_false] at last ⊢
    intro c head
    exact Bool.eq_false_iff.mpr fun letter =>
      Bool.eq_false_iff.mp (last c head) (wordChar_of_isLetterOrDigit letter)
  · rintro ⟨behind', whole, named, apart, -, last⟩
    obtain rfl := List.append_cancel_left whole
    rw [Bool.not_eq_true'] at last
    exact ⟨mid, [], (List.append_nil mid).symm, named, apart,
      (on_boundary_behind named).mpr ⟨rfl, last⟩⟩

theorem reads_regex (l : Lexeme) : (∃ marks, l.regex.reading.On before mid behind marks) ↔
    l.text? before.getLast? (mid ++ behind) = some mid := by
  cases l with
  | openComment | closeComment => exact reads_spelled _
  | openQuote q | closeQuote q => exact reads_spelled _
  | lineComment => exact reads_lineComment
  | escape => exact reads_escape
  | call => exact reads_call
  | name => exact reads_name

theorem takes_rule {l : Lexeme} : l.rule.Takes before mid behind ↔
    l.text? before.getLast? (mid ++ behind) = some mid := by
  constructor
  · rintro ⟨-, on⟩
    exact l.reads_regex.mp on
  · intro found
    obtain ⟨-, c, t, rfl, -⟩ := text?_begins found
    exact ⟨List.cons_ne_nil c t, l.reads_regex.mpr found⟩

theorem solid_rule (l : Lexeme) : l.rule.Solid := by
  intro before behind marks on
  obtain ⟨-, c, t, empty, -⟩ := text?_begins (l.reads_regex.mp ⟨marks, on⟩)
  cases empty

end Lexeme

end EventXref.Lua
