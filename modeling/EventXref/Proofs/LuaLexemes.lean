import EventXref.Grammar.Basic
import EventXref.Proofs.WordChars

/-!
Lua texts, as far as comments, strings and calls go. A line consists of lexemes and of the stretches
between them. Which lexemes there are depends on the region, and a region goes on in the next line
if nothing closes it.
-/
namespace EventXref.Lua

inductive Quote where
  | single
  | double
deriving DecidableEq, Repr

/-- What a stretch of text is part of. -/
inductive Region where
  | code
  | comment
  | quoted (q : Quote)
deriving DecidableEq, Repr

inductive Lexeme where
  | openComment
  | closeComment
  | lineComment
  | openQuote (q : Quote)
  | closeQuote (q : Quote)
  | escape
  | call
  | name
deriving DecidableEq, Repr

def Quote.char : Quote → Char
  | .single => '\''
  | .double => '"'

def isLetter (c : Char) : Bool := c.isAlpha || c == '_'

def isLetterOrDigit (c : Char) : Bool := c.isAlphanum || c == '_'

/-- A name; only characters of seven bits stand in names. -/
def IsName (text : List Char) : Prop :=
  ∃ c rest, text = c :: rest ∧ isLetter c = true ∧ ∀ d ∈ rest, isLetterOrDigit d = true

def OpensCall (rest : List Char) : Prop :=
  ∃ blanks behind, rest = blanks ++ '(' :: behind ∧ ∀ b ∈ blanks, Text.isBlank b = true

def spelled? (cs rest : List Char) : Option (List Char) :=
  if cs.isPrefixOf rest then some cs else none

def dashed? (rest : List Char) : Option (List Char) :=
  if ['-', '-'].isPrefixOf rest && !rest.contains '\n' then some rest else none

def escaped? : List Char → Option (List Char)
  | '\\' :: c :: _ => if c = '\n' then none else some ['\\', c]
  | _ => none

/-- The name that begins at a place, if what is behind it meets a condition. There is none right
behind a word character, of whatever script. -/
def name? (before : Option Char) (rest : List Char) (ends : List Char → Bool) :
    Option (List Char) :=
  if rest.head?.any isLetter && !before.any Text.wordChars.contains &&
      ends (rest.dropWhile isLetterOrDigit) then
    some (rest.takeWhile isLetterOrDigit)
  else none

namespace Lexeme

/-- The text of a lexeme if it begins at a place: behind this character and with this rest of the
line. -/
def text? (before : Option Char) (rest : List Char) : Lexeme → Option (List Char)
  | .openComment => spelled? ['-', '-', '[', '['] rest
  | .closeComment => spelled? [']', ']'] rest
  | .lineComment => dashed? rest
  | .openQuote q | .closeQuote q => spelled? [q.char] rest
  | .escape => escaped? rest
  | .call => name? before rest fun behind => (behind.dropWhile Text.isBlank).head? == some '('
  | .name => name? before rest fun behind => !behind.head?.any Text.wordChars.contains

/-- The region that a lexeme is part of. What opens a region is part of it, and so is what closes
it. -/
def within (r : Region) : Lexeme → Region
  | .openComment => .comment
  | .openQuote q => .quoted q
  | _ => r

def next (r : Region) : Lexeme → Region
  | .closeComment | .closeQuote _ => .code
  | l => l.within r

def scope : Lexeme → String
  | .openComment => "punctuation.definition.comment.begin.lua"
  | .closeComment => "punctuation.definition.comment.end.lua"
  | .lineComment => "comment.line.double-dash.lua"
  | .openQuote _ => "punctuation.definition.string.begin.lua"
  | .closeQuote _ => "punctuation.definition.string.end.lua"
  | .escape => "constant.character.escape.lua"
  | .call => "variable.function.lua"
  | .name => "variable.other.lua"

end Lexeme

namespace Region

/-- The lexemes of a region. Where two could begin, the first one does. -/
def lexemes : Region → List Lexeme
  | .code => [.openComment, .lineComment, .openQuote .single, .openQuote .double, .call, .name]
  | .comment => [.closeComment]
  | .quoted q => [.escape, .closeQuote q]

/-- The scope of all that is part of a region. -/
def scope? : Region → Option String
  | .code => none
  | .comment => some "comment.block.lua"
  | .quoted .single => some "string.quoted.single.lua"
  | .quoted .double => some "string.quoted.double.lua"

def scopes (r : Region) : List String := "source.lua" :: r.scope?.toList

/-- The lexeme that begins at a place, with its text. -/
def lexeme? (r : Region) (before : Option Char) (rest : List Char) : Option (Lexeme × List Char) :=
  r.lexemes.findSome? fun l => (l.text? before rest).map (l, ·)

end Region

/-- A lexeme, or a stretch without one. -/
structure Piece where
  region : Region
  lexeme : Option Lexeme
  text : List Char
deriving DecidableEq, Repr

namespace Piece

def scopes (p : Piece) : List String := p.region.scopes ++ (p.lexeme.map Lexeme.scope).toList

/-- Puts a character that begins no lexeme in front of pieces. -/
def consPlain (r : Region) (c : Char) : List Piece → List Piece
  | ⟨_, none, text⟩ :: ps => ⟨r, none, c :: text⟩ :: ps
  | ps => ⟨r, none, [c]⟩ :: ps

/-- The tokens of pieces that are one behind the other. -/
def layout : Nat → List Piece → List Token
  | _, [] => []
  | start, p :: ps =>
    let stop := start + Text.size p.text
    ⟨start, stop, p.scopes⟩ :: layout stop ps

end Piece

/-- The pieces of a line, or of what is left of it behind a character, and the region at its end. -/
def pieces (r : Region) (before : Option Char) : List Char → List Piece × Region
  | [] => ([], r)
  | c :: rest =>
    match r.lexeme? before (c :: rest) with
    | some (l, text) =>
      let (ps, last) := pieces (l.next r) text.getLast? (rest.drop (text.length - 1))
      (⟨l.within r, some l, text⟩ :: ps, last)
    | none =>
      let (ps, last) := pieces r (some c) rest
      (Piece.consPlain r c ps, last)
termination_by line => line.length

def linePieces (r : Region) : List (List Char) → List (List Piece)
  | [] => []
  | line :: lines =>
    let (ps, last) := pieces r none line
    ps :: linePieces last lines

section Texts

variable {before : Option Char} {rest text : List Char} {c : Char}

theorem isLetterOrDigit_of_isLetter (letter : isLetter c = true) : isLetterOrDigit c = true := by
  simp only [isLetter, isLetterOrDigit, Char.isAlphanum, Bool.or_eq_true] at *
  exact letter.imp_left .inl

theorem IsName.all (name : IsName text) : ∀ c ∈ text, isLetterOrDigit c = true := by
  obtain ⟨c, rest, rfl, letter, all⟩ := name
  exact List.forall_mem_cons.mpr ⟨isLetterOrDigit_of_isLetter letter, all⟩

theorem spelled?_eq_some_iff {cs : List Char} :
    spelled? cs rest = some text ↔ text = cs ∧ cs <+: rest := by
  rw [spelled?, Option.ite_none_right_eq_some, List.isPrefixOf_iff_prefix, Option.some.injEq,
    eq_comm, and_comm]

theorem dashed?_eq_some_iff :
    dashed? rest = some text ↔ text = rest ∧ ['-', '-'] <+: rest ∧ '\n' ∉ rest := by
  rw [dashed?, Option.ite_none_right_eq_some, Option.some.injEq, and_comm, eq_comm]
  simp [List.isPrefixOf_iff_prefix]

theorem escaped?_eq_some_iff : escaped? rest = some text ↔
    ∃ c behind, rest = '\\' :: c :: behind ∧ c ≠ '\n' ∧ text = ['\\', c] := by
  unfold escaped?
  split
  next c behind =>
    rw [Option.ite_none_left_eq_some]
    constructor
    · rintro ⟨unbroken, ⟨⟩⟩
      exact ⟨c, behind, rfl, unbroken, rfl⟩
    · rintro ⟨c', behind', ⟨⟩, unbroken, rfl⟩
      exact ⟨unbroken, rfl⟩
  next other =>
    refine ⟨nofun, ?_⟩
    rintro ⟨c, behind, rfl, -, -⟩
    exact absurd rfl (other c behind)

/-- A name goes on as long as it can. -/
theorem name?_eq_some_iff {ends : List Char → Bool} : name? before rest ends = some text ↔
    ∃ behind, rest = text ++ behind ∧ IsName text ∧ before.any Text.wordChars.contains = false ∧
      behind.head?.any isLetterOrDigit = false ∧ ends behind = true := by
  rw [name?, Option.ite_none_right_eq_some]
  simp only [Bool.and_eq_true, Bool.not_eq_true', Option.some.injEq]
  constructor
  · rintro ⟨⟨⟨starts, apart⟩, ends⟩, rfl⟩
    refine ⟨_, List.takeWhile_append_dropWhile.symm, ?_, apart, ?_, ends⟩
    · obtain ⟨c, head, letter⟩ := (Option.any_eq_true _ _).mp starts
      obtain ⟨rest, rfl⟩ := List.head?_eq_some_iff.mp head
      rw [List.takeWhile_cons_of_pos (isLetterOrDigit_of_isLetter letter)]
      exact ⟨c, _, rfl, letter, fun d member => List.all_eq_true.mp List.all_takeWhile d member⟩
    · refine (Option.any_eq_false _ _).mpr fun c head => ?_
      have stops := List.head?_dropWhile_not isLetterOrDigit rest
      rwa [head] at stops
  · rintro ⟨behind, rfl, name, apart, last, ends⟩
    have stop : ∀ c t, behind = c :: t → ¬ isLetterOrDigit c = true := by
      rintro c t rfl
      simpa using last
    have whole : (text ++ behind).takeWhile isLetterOrDigit = text := by
      rw [List.takeWhile_append_of_pos name.all]
      cases behind with
      | nil => exact List.append_nil text
      | cons c t => rw [List.takeWhile_cons_of_neg (stop c t rfl), List.append_nil]
    have left : (text ++ behind).dropWhile isLetterOrDigit = behind := by
      rw [List.dropWhile_append_of_pos name.all]
      cases behind with
      | nil => rfl
      | cons c t => exact List.dropWhile_cons_of_neg (stop c t rfl)
    obtain ⟨c, rest, rfl, letter, -⟩ := name
    refine ⟨⟨⟨by simpa using letter, apart⟩, ?_⟩, whole⟩
    rw [left]
    exact ends

theorem opensCall_iff :
    ((rest.dropWhile Text.isBlank).head? == some '(') = true ↔ OpensCall rest := by
  rw [beq_iff_eq]
  constructor
  · intro head
    obtain ⟨behind, left⟩ := List.head?_eq_some_iff.mp head
    refine ⟨rest.takeWhile Text.isBlank, behind, ?_, ?_⟩
    · rw [← left, List.takeWhile_append_dropWhile]
    · exact fun b member => List.all_eq_true.mp List.all_takeWhile b member
  · rintro ⟨blanks, behind, rfl, all⟩
    rw [List.dropWhile_append_of_pos all, List.dropWhile_cons_of_neg (by decide), List.head?_cons]

theorem isLetter_iff : isLetter c = true ↔
    CharSet.Lies c.toNat [(0x41, 0x5A), (0x5F, 0x5F), (0x61, 0x7A)] := by
  have underscore : c = '_' ↔ c.toNat = 0x5F := Char.toNat_inj.symm
  simp [isLetter, Char.isAlpha, Char.isUpper, Char.isLower, CharSet.Lies, UInt32.le_iff_toNat_le,
    underscore]
  omega

theorem isLetterOrDigit_iff :
    isLetterOrDigit c = true ↔ CharSet.Lies c.toNat Text.asciiWordRanges := by
  have underscore : c = '_' ↔ c.toNat = 0x5F := Char.toNat_inj.symm
  simp [isLetterOrDigit, Char.isAlphanum, Char.isAlpha, Char.isUpper, Char.isLower, Char.isDigit,
    CharSet.Lies, Text.asciiWordRanges, UInt32.le_iff_toNat_le, underscore]
  omega

theorem wordChar_of_isLetterOrDigit (letter : isLetterOrDigit c = true) :
    Text.wordChars.contains c = true := Text.wordChars_ascii (isLetterOrDigit_iff.mp letter)

theorem not_stop_of_isLetterOrDigit (letter : isLetterOrDigit c = true) :
    ¬ CharSet.Lies c.toNat CharSet.stops := by
  intro stop
  have word := wordChar_of_isLetterOrDigit letter
  rw [Text.not_wordChar_of_stop stop] at word
  cases word

/-- What follows a name in a call does not belong to a name. -/
theorem OpensCall.apart (opens : OpensCall rest) : rest.head?.any isLetterOrDigit = false := by
  obtain ⟨blanks, behind, rfl, all⟩ := opens
  cases blanks with
  | nil => rfl
  | cons b blanks =>
    have stop := CharSet.stop_of_isBlank (all b List.mem_cons_self)
    exact Bool.eq_false_iff.mpr fun letter => not_stop_of_isLetterOrDigit letter stop

end Texts

namespace Lexeme

variable {l : Lexeme} {before : Option Char} {rest text : List Char}

theorem text?_call : text? before rest .call = some text ↔ ∃ behind, rest = text ++ behind ∧
    IsName text ∧ before.any Text.wordChars.contains = false ∧ OpensCall behind := by
  rw [text?, name?_eq_some_iff]
  constructor
  · rintro ⟨behind, whole, name, apart, -, opens⟩
    exact ⟨behind, whole, name, apart, opensCall_iff.mp opens⟩
  · rintro ⟨behind, whole, name, apart, opens⟩
    exact ⟨behind, whole, name, apart, opens.apart, opensCall_iff.mpr opens⟩

/-- A lexeme takes some characters of the line, and the first is neither a blank nor a
parenthesis. -/
theorem text?_begins (found : l.text? before rest = some text) :
    text <+: rest ∧ ∃ c t, text = c :: t ∧ Text.isBlank c = false ∧ c ≠ '(' := by
  have spelled : ∀ c t, spelled? (c :: t) rest = some text → Text.isBlank c = false →
      c ≠ '(' → text <+: rest ∧ ∃ c t, text = c :: t ∧ Text.isBlank c = false ∧ c ≠ '(' := by
    intro c t found blank paren
    obtain ⟨rfl, starts⟩ := spelled?_eq_some_iff.mp found
    exact ⟨starts, c, t, rfl, blank, paren⟩
  have named : ∀ ends, name? before rest ends = some text →
      text <+: rest ∧ ∃ c t, text = c :: t ∧ Text.isBlank c = false ∧ c ≠ '(' := by
    intro ends found
    obtain ⟨behind, rfl, ⟨c, t, rfl, letter, -⟩, -⟩ := name?_eq_some_iff.mp found
    have free := not_stop_of_isLetterOrDigit (isLetterOrDigit_of_isLetter letter)
    refine ⟨List.prefix_append _ _, c, t, rfl, ?_, ?_⟩
    · exact Bool.eq_false_iff.mpr fun blank => free (CharSet.stop_of_isBlank blank)
    · rintro rfl
      exact free ⟨(0x28, 0x2B), by decide⟩
  cases l with
  | openComment | closeComment => exact spelled _ _ found (by decide) (by decide)
  | openQuote q | closeQuote q => cases q <;> exact spelled _ _ found (by decide) (by decide)
  | lineComment =>
    obtain ⟨rfl, ⟨t, rfl⟩, -⟩ := dashed?_eq_some_iff.mp found
    exact ⟨List.prefix_refl _, '-', '-' :: t, rfl, by decide, by decide⟩
  | escape =>
    obtain ⟨c, behind, rfl, -, rfl⟩ := escaped?_eq_some_iff.mp found
    exact ⟨⟨behind, rfl⟩, '\\', [c], rfl, by decide, by decide⟩
  | call | name =>
    rw [text?] at found
    exact named _ found

end Lexeme

/-- How a line, or what is left of it behind a character, falls into pieces. -/
inductive Reads : Region → Option Char → List Char → List Piece → Region → Prop
  | done (r : Region) (before : Option Char) : Reads r before [] [] r
  | lexeme {r last : Region} {before : Option Char} {l : Lexeme} {text behind : List Char}
      {ps : List Piece} (found : r.lexeme? before (text ++ behind) = some (l, text))
      (reads : Reads (l.next r) text.getLast? behind ps last) :
      Reads r before (text ++ behind) (⟨l.within r, some l, text⟩ :: ps) last
  | plain {r last : Region} {before : Option Char} {c : Char} {rest : List Char} {ps : List Piece}
      (none : r.lexeme? before (c :: rest) = none) (reads : Reads r (some c) rest ps last) :
      Reads r before (c :: rest) (Piece.consPlain r c ps) last

theorem Region.lexeme?_begins {r : Region} {before : Option Char} {line text : List Char}
    {l : Lexeme} (found : r.lexeme? before line = some (l, text)) :
    l ∈ r.lexemes ∧ l.text? before line = some text := by
  obtain ⟨l', member, eq⟩ := List.exists_of_findSome?_eq_some found
  obtain ⟨text', taken, ⟨⟩⟩ := Option.map_eq_some_iff.mp eq
  exact ⟨member, taken⟩

theorem reads_pieces (r : Region) (before : Option Char) (line : List Char) :
    Reads r before line (pieces r before line).1 (pieces r before line).2 := by
  fun_induction pieces r before line with
  | case1 r before => exact .done r before
  | case2 r before c rest l text found ps last eq ih =>
    obtain ⟨⟨behind, whole⟩, d, t, rfl, -⟩ :=
      Lexeme.text?_begins (Region.lexeme?_begins found).2
    obtain ⟨rfl, rfl⟩ := List.cons.inj whole
    rw [eq] at ih
    refine @Reads.lexeme r _ before l (d :: t) behind _ found ?_
    simpa using ih
  | case3 r before c rest none ps last eq ih =>
    rw [eq] at ih
    exact .plain none ih

namespace Piece

def texts (ps : List Piece) : List Char := (ps.map text).flatten

theorem consPlain_cases (r : Region) (c : Char) (ps : List Piece) :
    (∃ r' text rest, ps = ⟨r', none, text⟩ :: rest ∧
      consPlain r c ps = ⟨r, none, c :: text⟩ :: rest) ∨
    (∀ p ∈ ps.head?, p.lexeme ≠ none) ∧ consPlain r c ps = ⟨r, none, [c]⟩ :: ps := by
  cases ps with
  | nil => exact .inr ⟨nofun, rfl⟩
  | cons p ps =>
    obtain ⟨r', lexeme, text⟩ := p
    cases lexeme with
    | none => exact .inl ⟨r', text, ps, rfl, rfl⟩
    | some l =>
      refine .inr ⟨?_, rfl⟩
      rintro p ⟨⟩
      exact nofun

theorem texts_consPlain (r : Region) (c : Char) (ps : List Piece) :
    texts (consPlain r c ps) = c :: texts ps := by
  rcases consPlain_cases r c ps with ⟨r', text, rest, rfl, eq⟩ | ⟨-, eq⟩ <;> rw [eq] <;> rfl

/-- The pieces behind a character: they are the same as without it, only the first one may be a
longer or a new stretch. -/
theorem consPlain_append {r : Region} {c : Char} {ps front back : List Piece} {p : Piece}
    (here : consPlain r c ps = front ++ p :: back) : (∃ front', ps = front' ++ p :: back) ∨
      p.lexeme = none ∧ ((∃ q, ps = q :: back ∧ q.lexeme = none) ∨
        ps = back ∧ ∀ q ∈ ps.head?, q.lexeme ≠ none) := by
  rcases consPlain_cases r c ps with ⟨r', text, rest, rfl, eq⟩ | ⟨head, eq⟩ <;>
    rw [eq] at here <;> cases front
  case inl.nil =>
    cases here
    exact .inr ⟨rfl, .inl ⟨_, rfl, rfl⟩⟩
  case inl.cons q front =>
    obtain ⟨-, rfl⟩ := List.cons.inj here
    exact .inl ⟨⟨r', none, text⟩ :: front, rfl⟩
  case inr.nil =>
    cases here
    exact .inr ⟨rfl, .inr ⟨rfl, head⟩⟩
  case inr.cons q front => exact .inl ⟨front, (List.cons.inj here).2⟩

end Piece

namespace Region

variable {r : Region} {before : Option Char} {text behind : List Char} {l : Lexeme}

/-- Where a name could be a call, it is one. -/
theorem lexeme?_call_iff (found : r.lexeme? before (text ++ behind) = some (l, text)) :
    l = .call ↔ l.within r = .code ∧ IsName text ∧ OpensCall behind := by
  obtain ⟨member, taken⟩ := lexeme?_begins found
  constructor
  · rintro rfl
    obtain ⟨behind', whole, name, -, opens⟩ := Lexeme.text?_call.mp taken
    cases List.append_cancel_left whole
    refine ⟨?_, name, opens⟩
    cases r with
    | code => rfl
    | comment | quoted => simp [lexemes] at member
  · rintro ⟨code, name, opens⟩
    have letter : ∀ c t, text ++ behind = c :: t → isLetter c = true := by
      obtain ⟨d, rest, rfl, letter, -⟩ := name
      rintro c t ⟨⟩
      exact letter
    cases r with
    | comment =>
      cases List.mem_singleton.mp member
      cases code
    | quoted q =>
      simp only [lexemes, List.mem_cons, List.not_mem_nil, or_false] at member
      rcases member with rfl | rfl <;> cases code
    | code =>
      simp only [lexemes, List.mem_cons, List.not_mem_nil, or_false] at member
      rcases member with rfl | rfl | rfl | rfl | rfl | rfl
      case inl | inr.inr.inl | inr.inr.inr.inl => cases code
      case inr.inl =>
        obtain ⟨-, ⟨t, whole⟩, -⟩ := dashed?_eq_some_iff.mp taken
        exact absurd (letter _ _ whole.symm) (by decide)
      case inr.inr.inr.inr.inl => rfl
      case inr.inr.inr.inr.inr =>
        -- calls are tried before other names
        rw [Lexeme.text?] at taken
        obtain ⟨-, -, -, apart, -⟩ := name?_eq_some_iff.mp taken
        have call := Lexeme.text?_call.mpr ⟨behind, rfl, name, apart, opens⟩
        rw [lexeme?, show lexemes .code = [.openComment, .lineComment, .openQuote .single,
          .openQuote .double, .call] ++ [.name] from rfl, List.findSome?_append] at found
        rcases Option.or_eq_some_iff.mp found with earlier | ⟨none, -⟩
        · obtain ⟨l, member, eq⟩ := List.exists_of_findSome?_eq_some earlier
          obtain ⟨_, -, ⟨⟩⟩ := Option.map_eq_some_iff.mp eq
          exact absurd member (by decide)
        · have missing := List.findSome?_eq_none_iff.mp none .call (by simp)
          rw [call] at missing
          cases missing

end Region

namespace Reads

variable {r last : Region} {before : Option Char} {line : List Char} {ps front back : List Piece}
  {p : Piece}

theorem texts_eq (reads : Reads r before line ps last) : Piece.texts ps = line := by
  induction reads with
  | done => rfl
  | lexeme _ _ ih =>
    rw [← ih]
    rfl
  | plain _ _ ih => rw [Piece.texts_consPlain, ih]

theorem text_ne_nil (reads : Reads r before line ps last) : ∀ p ∈ ps, p.text ≠ [] := by
  induction reads with
  | done => nofun
  | lexeme found _ ih =>
    obtain ⟨-, c, t, rfl, -⟩ := Lexeme.text?_begins (Region.lexeme?_begins found).2
    exact List.forall_mem_cons.mpr ⟨List.cons_ne_nil _ _, ih⟩
  | @plain r _ _ c _ ps _ _ ih =>
    rcases Piece.consPlain_cases r c ps with ⟨r', text, rest, rfl, eq⟩ | ⟨-, eq⟩ <;> rw [eq]
    · exact List.forall_mem_cons.mpr ⟨List.cons_ne_nil _ _, (List.forall_mem_cons.mp ih).2⟩
    · exact List.forall_mem_cons.mpr ⟨List.cons_ne_nil _ _, ih⟩

/-- Blanks and parentheses begin no lexeme. -/
theorem not_opensCall_of_head (reads : Reads r before line ps last)
    (head : ∀ p ∈ ps.head?, p.lexeme ≠ none) : ¬ OpensCall line := by
  rintro ⟨blanks, behind, whole, all⟩
  cases reads with
  | done => cases blanks <;> cases whole
  | lexeme found reads =>
    obtain ⟨-, c, t, rfl, blank, paren⟩ := Lexeme.text?_begins (Region.lexeme?_begins found).2
    cases blanks with
    | nil => exact paren (List.cons.inj whole).1
    | cons b blanks =>
      obtain rfl : c = b := (List.cons.inj whole).1
      rw [all c List.mem_cons_self] at blank
      cases blank
  | @plain _ _ _ c rest ps none reads =>
    rcases Piece.consPlain_cases r c ps with ⟨r', text, rest, rfl, eq⟩ | ⟨-, eq⟩ <;>
      exact head ⟨r, .none, _⟩ (by rw [eq]; rfl) rfl

/-- A stretch without lexemes goes on as long as it can, also over blanks and parentheses. -/
theorem not_opensCall (reads : Reads r before line ps last) (here : ps = front ++ p :: back)
    (plain : p.lexeme = none) : ¬ OpensCall (Piece.texts back) := by
  induction reads generalizing front p with
  | done => simp at here
  | lexeme found reads ih =>
    cases front with
    | nil =>
      cases here
      cases plain
    | cons q front => exact ih (List.cons.inj here).2 plain
  | plain none reads ih =>
    rcases Piece.consPlain_append here with ⟨front', there⟩ | ⟨-, ⟨q, there, plain'⟩ | ⟨rfl, head⟩⟩
    · exact ih there plain
    · exact @ih [] q there plain'
    · rw [reads.texts_eq]
      exact reads.not_opensCall_of_head head

/-- Every lexeme began at its place, in some region. -/
theorem exists_lexeme? {l : Lexeme} (reads : Reads r before line ps last)
    (here : ps = front ++ p :: back) (lexeme : p.lexeme = some l) : ∃ r' before',
      p.region = l.within r' ∧
        r'.lexeme? before' (p.text ++ Piece.texts back) = some (l, p.text) := by
  induction reads generalizing front with
  | done => simp at here
  | @lexeme r _ before _ _ _ _ found reads ih =>
    cases front with
    | nil =>
      cases here
      cases lexeme
      rw [reads.texts_eq]
      exact ⟨r, before, rfl, found⟩
    | cons q front => exact ih (List.cons.inj here).2
  | plain none reads ih =>
    rcases Piece.consPlain_append here with ⟨front', there⟩ | ⟨plain, -⟩
    · exact ih there
    · cases plain.symm.trans lexeme

/-- The calls are the names in code that have an opening parenthesis behind them. -/
theorem call_iff (reads : Reads r before line ps last) (here : ps = front ++ p :: back) :
    p.lexeme = some .call ↔ p.region = .code ∧ IsName p.text ∧ OpensCall (Piece.texts back) := by
  cases lexeme : p.lexeme with
  | none =>
    have closed := reads.not_opensCall here lexeme
    exact ⟨nofun, fun ⟨_, _, opens⟩ => absurd opens closed⟩
  | some l =>
    obtain ⟨r', before', region, found⟩ := reads.exists_lexeme? here lexeme
    rw [region, Option.some.injEq, Region.lexeme?_call_iff found]

end Reads

end EventXref.Lua
