import Mathlib.Data.List.Forall2
import EventXref.Document.Edit
import EventXref.Proofs.LineBreaks
import EventXref.Proofs.Machine

/-!
Batches of changes that do not touch each other. Carried out from the last to the first they
replace all their spans at once: what stands between two spans stays as it is.

A change that starts inside a character takes the whole character, so its neighbours have to keep
away from the beginning of that character and not only from the column that the change names.
-/
namespace EventXref

namespace Text

theorem takeBytes_size_add (s : List Char) (n : Nat) (t : List Char) :
    takeBytes (size s + n) (s ++ t) = s ++ takeBytes n t := by
  induction s with
  | nil => simp
  | cons c s ih =>
    have fits : c.utf8Size ≤ size (c :: s) + n := by
      rw [size_cons]
      omega
    have rest : size (c :: s) + n - c.utf8Size = size s + n := by
      rw [size_cons]
      omega
    rw [List.cons_append, takeBytes_cons fits, rest, ih, List.cons_append]

theorem takeBytes_size (s t : List Char) : takeBytes (size s) (s ++ t) = s := by
  simpa [takeBytes_zero] using takeBytes_size_add s 0 t

theorem dropBytes_size_add (s : List Char) (n : Nat) (t : List Char) :
    dropBytes (size s + n) (s ++ t) = dropBytes n t := by
  have whole := takeBytes_append_dropBytes (size s + n) (s ++ t)
  rw [takeBytes_size_add, List.append_assoc] at whole
  apply (List.append_right_inj (takeBytes n t)).mp
  rw [List.append_cancel_left whole, takeBytes_append_dropBytes]

theorem dropBytes_size (s t : List Char) : dropBytes (size s) (s ++ t) = t := by
  simpa [dropBytes_zero] using dropBytes_size_add s 0 t

theorem size_takeBytes_of_isBoundary {n : Nat} {t : List Char} (boundary : isBoundary n t = true) :
    size (takeBytes n t) = n := by
  simpa [isBoundary] using boundary

theorem le_size_of_isBoundary {n : Nat} {t : List Char} (boundary : isBoundary n t = true) :
    n ≤ size t := by
  have whole := congrArg size (takeBytes_append_dropBytes n t)
  rw [size_append, size_takeBytes_of_isBoundary boundary] at whole
  omega

theorem slice_size (s t rest : List Char) :
    slice (size s) (size s + size t) (s ++ (t ++ rest)) = t := by
  rw [slice, takeBytes_size_add, takeBytes_size, dropBytes_size]

theorem exists_content_append (l : List Char) :
    ∃ ending, l = content l ++ ending ∧ ∀ c ∈ ending, isBreak c = true := by
  refine ⟨(l.reverse.takeWhile isBreak).reverse, ?_, ?_⟩
  · rw [content, trimEnd, ← List.reverse_append, List.takeWhile_append_dropWhile,
      List.reverse_reverse]
  · intro c member
    exact List.all_eq_true.mp List.all_takeWhile c (List.mem_reverse.mp member)

end Text

namespace Position

instance : LE Position := ⟨fun p q => (compare p q).isLE⟩

theorem le_iff {p q : Position} :
    p ≤ q ↔ p.line < q.line ∨ p.line = q.line ∧ p.column ≤ q.column := by
  show (compare p q).isLE ↔ _
  simp only [compare, order]
  grind [Ordering.isLE]

instance (p q : Position) : Decidable (p ≤ q) := inferInstanceAs (Decidable (_ = true))

theorem le_refl (p : Position) : p ≤ p := le_iff.mpr (.inr ⟨rfl, Nat.le_refl _⟩)

theorem le_trans {p q r : Position} (hpq : p ≤ q) (hqr : q ≤ r) : p ≤ r := by
  rw [le_iff] at *
  omega

theorem le_total (p q : Position) : p ≤ q ∨ q ≤ p := by
  simp only [le_iff]
  omega

end Position

namespace Document

theorem offset?_mono {ls : List (List Char)} {p q : Position} {a b : Nat} (le : p ≤ q)
    (ha : offset? ls p = some a) (hb : offset? ls q = some b) : a ≤ b := by
  obtain ⟨line, column⟩ := p
  obtain ⟨line', column'⟩ := q
  have order := Position.le_iff.mp le
  simp only at order
  clear le
  induction ls generalizing line line' a b with
  | nil => cases ha
  | cons l ls ih =>
    cases line with
    | zero =>
      obtain ⟨reaches, rfl⟩ := offset?_first.mp ha
      cases line' with
      | zero =>
        obtain ⟨-, rfl⟩ := offset?_first.mp hb
        omega
      | succ line' =>
        obtain ⟨rest, -, rfl⟩ := offset?_later.mp hb
        omega
    | succ line =>
      obtain ⟨rest, hrest, rfl⟩ := offset?_later.mp ha
      cases line' with
      | zero => omega
      | succ line' =>
        obtain ⟨rest', hrest', rfl⟩ := offset?_later.mp hb
        have := ih line hrest line' hrest' (by omega)
        omega

theorem offset?_column_inj {ls : List (List Char)} {line column column' a : Nat}
    (h : offset? ls ⟨line, column⟩ = some a) (h' : offset? ls ⟨line, column'⟩ = some a) :
    column = column' := by
  induction ls generalizing line a with
  | nil => cases h
  | cons l ls ih =>
    cases line with
    | zero =>
      obtain ⟨-, rfl⟩ := offset?_first.mp h
      exact (offset?_first.mp h').2
    | succ line =>
      obtain ⟨rest, hrest, rfl⟩ := offset?_later.mp h
      obtain ⟨rest', hrest', same⟩ := offset?_later.mp h'
      have : rest' = rest := by omega
      subst this
      exact ih hrest hrest'

theorem offset?_le_size {ls : List (List Char)} {p : Position} {a : Nat}
    (h : offset? ls p = some a) : a ≤ Text.size ls.flatten := by
  obtain ⟨line, column⟩ := p
  induction ls generalizing line a with
  | nil => cases h
  | cons l ls ih =>
    rw [List.flatten_cons, Text.size_append]
    cases line with
    | zero =>
      obtain ⟨reaches, rfl⟩ := offset?_first.mp h
      omega
    | succ line =>
      obtain ⟨rest, hrest, rfl⟩ := offset?_later.mp h
      have := ih line hrest
      omega

theorem offset?_anchor {ls : List (List Char)} {p : Position} {a : Nat}
    (found : offset? ls p = some a)
    (within : p.column ≤ Text.size (Text.content (ls.getD p.line []))) :
    offset? ls ⟨p.line, Text.size (Text.takeBytes p.column (Text.content (ls.getD p.line [])))⟩ =
      some (Text.size (Text.takeBytes a ls.flatten)) := by
  obtain ⟨line, column⟩ := p
  induction ls generalizing line a with
  | nil => cases found
  | cons l ls ih =>
    cases line with
    | zero =>
      obtain ⟨reaches, rfl⟩ := offset?_first.mp found
      simp only [List.getD_cons_zero] at within ⊢
      obtain ⟨ending, hl, -⟩ := Text.exists_content_append l
      have same : Text.takeBytes a (l :: ls).flatten = Text.takeBytes a (Text.content l) := by
        have taken := Text.takeBytes_append within ending
        rw [← hl] at taken
        rw [List.flatten_cons, Text.takeBytes_append reaches, taken]
      have small := Text.size_takeBytes_le a (Text.content l)
      exact offset?_first.mpr ⟨by omega, by rw [same]⟩
    | succ line =>
      obtain ⟨rest, hrest, rfl⟩ := offset?_later.mp found
      have tail := ih line hrest within
      apply offset?_later.mpr
      refine ⟨_, tail, ?_⟩
      rw [List.flatten_cons, Text.takeBytes_size_add, Text.size_append]

/-- The beginning of the character that a position in a line falls into. -/
def anchor (d : Document) (p : Position) : Position :=
  ⟨p.line, Text.size (Text.takeBytes p.column (d.line p.line))⟩

/-- A change with the character in which it starts. -/
def anchored (d : Document) (c : Change) : Change :=
  { c with span := ⟨d.anchor c.span.start, c.span.stop⟩ }

/-- The position lies in the content of its line and not in the line's ending. -/
def InContent (d : Document) (p : Position) : Prop := p.column ≤ Text.size (d.line p.line)

instance (d : Document) (p : Position) : Decidable (d.InContent p) :=
  inferInstanceAs (Decidable (_ ≤ _))

section Places

variable {d : Document} {p q : Position} {a b : Nat}

theorem cutAt_of_byteOf (found : d.byteOf? p = some a) (within : d.InContent p) :
    Text.CutAt d.text a p.line := Text.cutAt_of_offset found within

theorem byteOf_mono (le : p ≤ q) (ha : d.byteOf? p = some a) (hb : d.byteOf? q = some b) :
    a ≤ b := offset?_mono le ha hb

theorem byteOf_le_size (found : d.byteOf? p = some a) : a ≤ Text.size d.text := by
  have bound := offset?_le_size found
  rwa [fullLines, Text.flatten_splitLines] at bound

theorem byteOf_anchor (found : d.byteOf? p = some a) (within : d.InContent p) :
    d.byteOf? (d.anchor p) = some (Text.size (Text.takeBytes a d.text)) := by
  have moved := offset?_anchor found within
  rwa [fullLines, Text.flatten_splitLines] at moved

theorem byteOf_inj (ha : d.byteOf? p = some a) (hp : d.InContent p)
    (hb : d.byteOf? q = some a) (hq : d.InContent q) : p = q := by
  obtain ⟨line, column⟩ := p
  obtain ⟨line', column'⟩ := q
  have same : line = line' :=
    (cutAt_of_byteOf ha hp).line_eq.symm.trans (cutAt_of_byteOf hb hq).line_eq
  subst same
  rw [offset?_column_inj ha hb]

end Places

end Document

namespace Change

def Apart (a b : Change) : Prop := a.span.stop ≤ b.span.start ∨ b.span.stop ≤ a.span.start

instance (a b : Change) : Decidable (Apart a b) := inferInstanceAs (Decidable (_ ∨ _))

theorem Apart.symm {a b : Change} (apart : Apart a b) : Apart b a := Or.symm apart

theorem insertLast_sorted {c : Change} {cs : List Change}
    (sorted : cs.Pairwise fun a b => b.span.start ≤ a.span.start) :
    (insertLast c cs).Pairwise fun a b => b.span.start ≤ a.span.start := by
  induction cs with
  | nil => simp [insertLast]
  | cons e es ih =>
    obtain ⟨first, rest⟩ := List.pairwise_cons.mp sorted
    simp only [insertLast]
    split
    · rename_i earlier
      have le : c.span.start ≤ e.span.start := by
        show (compare _ _).isLE
        simp [earlier]
      apply List.pairwise_cons.mpr
      refine ⟨?_, ih rest⟩
      intro x hx
      rcases List.mem_cons.mp ((insertLast_perm c es).mem_iff.mp hx) with rfl | hx
      · exact le
      · exact first x hx
    · rename_i later
      have le : e.span.start ≤ c.span.start := by
        rcases Position.le_total e.span.start c.span.start with le | le
        · exact le
        · have same : compare c.span.start e.span.start = .eq := by
            have : (compare c.span.start e.span.start).isLE := le
            revert this later
            cases compare c.span.start e.span.start <;> simp
          rw [Std.LawfulEqCmp.eq_of_compare same]
          exact Position.le_refl _
      apply List.pairwise_cons.mpr
      refine ⟨?_, sorted⟩
      intro x hx
      rcases List.mem_cons.mp hx with rfl | hx
      · exact le
      · exact Position.le_trans (first x hx) le

theorem lastFirst_sorted (cs : List Change) :
    (lastFirst cs).Pairwise fun a b => b.span.start ≤ a.span.start := by
  induction cs with
  | nil => exact .nil
  | cons c cs ih => exact insertLast_sorted ih

end Change

namespace Replacement

/-- The text from an offset on when replacements in ascending order are carried out at once. -/
def replaced (t : List Char) : Nat → List Replacement → List Char
  | place, [] => Text.dropBytes place t
  | place, r :: rs => Text.slice place r.start t ++ (r.text ++ replaced t r.stop rs)

/-- Each replacement starts no earlier than the one before ends, also when it takes the whole
character that it starts in. -/
def Ascending (t : List Char) : Nat → List Replacement → Prop
  | place, [] => place ≤ Text.size t
  | place, r :: rs =>
    place ≤ Text.size (Text.takeBytes r.start t) ∧ r.start ≤ r.stop ∧ Ascending t r.stop rs

theorem Ascending.earlier {t : List Char} {place place' : Nat} {rs : List Replacement}
    (ascending : Ascending t place rs) (le : place' ≤ place) : Ascending t place' rs := by
  cases rs with
  | nil => exact Nat.le_trans le ascending
  | cons r rs => exact ⟨Nat.le_trans le ascending.1, ascending.2⟩

/-- A replacement in front of all others keeps what they have made of the text behind it. -/
theorem carryOut?_replaced {t : List Char} {r : Replacement} {rs : List Replacement}
    (le : r.start ≤ r.stop) (ascending : Ascending t r.stop rs) :
    r.carryOut? (replaced t 0 rs) = some (replaced t 0 (r :: rs)) := by
  -- All that counts is that the text begins as before, at least as far as `r` reaches.
  obtain ⟨kept, rest, hk, now, behind⟩ : ∃ kept rest, r.stop ≤ Text.size (Text.takeBytes kept t) ∧
      replaced t 0 rs = Text.takeBytes kept t ++ rest ∧
      replaced t r.stop rs = Text.slice r.stop kept t ++ rest := by
    cases rs with
    | nil =>
      have all : Text.takeBytes (Text.size t) t = t := by
        have := Text.takeBytes_size_add t 0 []
        simpa [Text.takeBytes] using this
      refine ⟨Text.size t, [], ?_, ?_, ?_⟩
      · rw [all]
        exact ascending
      · rw [all, List.append_nil, replaced, Text.dropBytes_zero]
      · rw [List.append_nil, replaced, Text.slice, all]
    | cons r' rs =>
      refine ⟨r'.start, r'.text ++ replaced t r'.stop rs, ascending.1, ?_, rfl⟩
      rw [replaced, Text.slice, Text.dropBytes_zero]
  have bound := Text.size_takeBytes_le kept t
  have inside : r.start ≤ Text.size (Text.takeBytes kept t) := Nat.le_trans le hk
  have fits : r.start ≤ Text.size (replaced t 0 rs) ∧ r.stop ≤ Text.size (replaced t 0 rs) := by
    rw [now, Text.size_append]
    omega
  have front : Text.takeBytes r.start (replaced t 0 rs) = Text.takeBytes r.start t := by
    rw [now, Text.takeBytes_append inside, Text.takeBytes_takeBytes (by omega)]
  have back : Text.dropBytes r.stop (replaced t 0 rs) = replaced t r.stop rs := by
    rw [now, Text.dropBytes_append hk, behind, Text.slice]
  rw [carryOut?, if_pos fits, front, back, replaced, Text.slice, Text.dropBytes_zero,
    List.append_assoc]

def carryOutAll? : List Replacement → List Char → Option (List Char)
  | [], t => some t
  | r :: rs, t => (r.carryOut? t).bind (carryOutAll? rs)

theorem carryOutAll_eq_ok {rs : List Replacement} {t t' : List Char} :
    carryOutAll rs t = (.ok (), t') ↔ carryOutAll? rs t = some t' := by
  induction rs generalizing t with
  | nil => simp [carryOutAll, carryOutAll?]
  | cons r rs ih =>
    rw [carryOutAll, carryOutAll?]
    cases r.carryOut? t with
    | none => simp
    | some now => simpa using ih

theorem carryOutAll?_append (rs rs' : List Replacement) (t : List Char) :
    carryOutAll? (rs ++ rs') t = (carryOutAll? rs t).bind (carryOutAll? rs') := by
  induction rs generalizing t with
  | nil => rfl
  | cons r rs ih =>
    have rest : carryOutAll? (rs ++ rs') = fun t => (carryOutAll? rs t).bind (carryOutAll? rs') :=
      funext ih
    simp [carryOutAll?, Option.bind_assoc, rest]

theorem carryOutAll?_reverse {t : List Char} {rs : List Replacement}
    (ascending : Ascending t 0 rs) : carryOutAll? rs.reverse t = some (replaced t 0 rs) := by
  induction rs with
  | nil => simp [carryOutAll?, replaced, Text.dropBytes_zero]
  | cons r rs ih =>
    obtain ⟨-, le, rest⟩ := ascending
    have before := ih (rest.earlier (Nat.zero_le _))
    rw [List.reverse_cons, carryOutAll?_append, before]
    simp [carryOutAll?, carryOut?_replaced le rest]

end Replacement

namespace Document

/-- A batch that a document follows line by line: all positions lie in contents, no two changes
start at one place, and no two overlap, each taken with the character in which it starts. -/
structure Admits (d : Document) (changes : List Change) : Prop where
  within : ∀ c ∈ changes, d.InContent c.span.start ∧ d.InContent c.span.stop
  distinct : changes.Pairwise fun a b => a.span.start ≠ b.span.start
  apart : changes.Pairwise fun a b => (d.anchored a).Apart (d.anchored b)

structure Places (d : Document) (c : Change) (r : Replacement) : Prop where
  first : Text.CutAt d.text r.start c.span.start.line
  last : Text.CutAt d.text r.stop c.span.stop.line
  text : r.text = c.text

section Edit

variable {d d' : Document} {c : Change} {r : Replacement} {changes : List Change}

theorem resolve_eq_ok : d.resolve c = .ok r ↔ d.byteOf? c.span.start = some r.start ∧
    d.byteOf? c.span.stop = some r.stop ∧ r.start ≤ r.stop ∧ r.text = c.text := by
  unfold resolve resolvePosition
  cases ha : d.byteOf? c.span.start with
  | none => simp [bind, Except.bind]
  | some a =>
    cases hb : d.byteOf? c.span.stop with
    | none => simp [bind, Except.bind]
    | some b =>
      obtain ⟨start, stop, text⟩ := r
      simp only [bind, Except.bind]
      by_cases inverted : b < a
      · simp only [if_pos inverted]
        constructor
        · intro h
          cases h
        · rintro ⟨h₁, h₂, le, -⟩
          cases h₁
          cases h₂
          exact absurd le (Nat.not_le.mpr inverted)
      · simp only [if_neg inverted, Except.ok.injEq, Replacement.mk.injEq, Option.some.injEq]
        constructor
        · rintro ⟨rfl, rfl, rfl⟩
          exact ⟨rfl, rfl, Nat.le_of_not_lt inverted, rfl⟩
        · rintro ⟨rfl, rfl, -, rfl⟩
          exact ⟨rfl, rfl, rfl⟩

theorem resolveAll_forall {cs : List Change} {rs : List Replacement}
    (resolved : d.resolveAll cs = .ok rs) :
    List.Forall₂ (fun c r => d.resolve c = .ok r) cs rs := by
  induction cs generalizing rs with
  | nil =>
    cases resolved
    exact .nil
  | cons c cs ih =>
    simp only [resolveAll, bind, Except.bind] at resolved
    cases hr : d.resolve c with
    | error e => simp [hr] at resolved
    | ok r =>
      cases hrs : d.resolveAll cs with
      | error e => simp [hr, hrs] at resolved
      | ok rest =>
        simp only [hr, hrs, pure, Except.pure, Except.ok.injEq] at resolved
        subst resolved
        exact .cons hr (ih hrs)

theorem edit_eq_ok (edited : d.edit changes = .ok d') :
    ∃ rs text, List.Forall₂ (fun c r => d.resolve c = .ok r) (Change.lastFirst changes) rs ∧
      Replacement.carryOutAll? rs d.text = some text ∧
      d' = { d with text, version := d.version + 1 } := by
  rw [edit, applyChanges] at edited
  cases resolved : d.resolveAll (Change.lastFirst changes) with
  | error e => simp [resolved] at edited
  | ok rs =>
    cases carried : Replacement.carryOutAll rs d.text with
    | mk answer text =>
    cases answer with
    | error e => simp [resolved, carried] at edited
    | ok done =>
      simp only [resolved, carried, commit] at edited
      split at edited
      · rename_i next
        split at next
        · rename_i version grown
          cases next
          cases edited
          refine ⟨rs, text, resolveAll_forall resolved, Replacement.carryOutAll_eq_ok.mp carried, ?_⟩
          rw [Build.eq_of_signed_checked grown]
        · cases next
      · cases edited

theorem edit_keeps (edited : d.edit changes = .ok d') :
    d'.uri = d.uri ∧ d'.language = d.language ∧ d'.version = d.version + 1 := by
  obtain ⟨rs, text, -, -, rfl⟩ := edit_eq_ok edited
  exact ⟨rfl, rfl, rfl⟩

/-- Of two changes that may stand in one batch the one that starts first ends before the character
in which the other one starts. -/
theorem stop_le_takeBytes {a b : Change} {ra rb : Replacement} (ha : d.resolve a = .ok ra)
    (hb : d.resolve b = .ok rb) (wa : d.InContent a.span.start) (wb : d.InContent b.span.start)
    (order : a.span.start ≤ b.span.start) (distinct : a.span.start ≠ b.span.start)
    (apart : (d.anchored a).Apart (d.anchored b)) :
    ra.stop ≤ Text.size (Text.takeBytes rb.start d.text) := by
  obtain ⟨a₁, a₂, -, -⟩ := resolve_eq_ok.mp ha
  obtain ⟨b₁, b₂, leb, -⟩ := resolve_eq_ok.mp hb
  rcases apart with before | behind
  · exact byteOf_mono before a₂ (byteOf_anchor b₁ wb)
  · -- Then `b` is empty and stands where `a` starts, which the batch rules out.
    have low := byteOf_mono behind b₂ (byteOf_anchor a₁ wa)
    have small := Text.size_takeBytes_le ra.start d.text
    have high := byteOf_mono order a₁ b₁
    have same : rb.start = ra.start := by omega
    rw [same] at b₁
    exact absurd (byteOf_inj a₁ wa b₁ wb) distinct

theorem ascending_of_resolved {cs : List Change} {rs : List Replacement} {place : Nat}
    (resolved : List.Forall₂ (fun c r => d.resolve c = .ok r) cs rs)
    (within : ∀ c ∈ cs, d.InContent c.span.start)
    (sorted : cs.Pairwise fun a b => a.span.start ≤ b.span.start)
    (distinct : cs.Pairwise fun a b => a.span.start ≠ b.span.start)
    (apart : cs.Pairwise fun a b => (d.anchored a).Apart (d.anchored b))
    (bound : place ≤ Text.size d.text)
    (before : ∀ c ∈ cs, ∀ r, d.resolve c = .ok r →
      place ≤ Text.size (Text.takeBytes r.start d.text)) :
    Replacement.Ascending d.text place rs := by
  induction resolved generalizing place with
  | nil => exact bound
  | @cons c r cs rs hr rest ih =>
    obtain ⟨-, found, le, -⟩ := resolve_eq_ok.mp hr
    rw [List.pairwise_cons] at sorted distinct apart
    refine ⟨before c (by simp) r hr, le, ?_⟩
    apply ih (fun e he => within e (by simp [he])) sorted.2 distinct.2 apart.2
      (byteOf_le_size found)
    intro e he re hre
    exact stop_le_takeBytes hr hre (within c (by simp)) (within e (by simp [he])) (sorted.1 e he)
      (distinct.1 e he) (apart.1 e he)

/-- An admitted batch replaces all its spans at once. -/
theorem edit_of_admits (admits : d.Admits changes) (edited : d.edit changes = .ok d') :
    ∃ rs, List.Forall₂ d.Places (Change.lastFirst changes).reverse rs ∧
      Replacement.Ascending d.text 0 rs ∧
      d' = { d with text := Replacement.replaced d.text 0 rs, version := d.version + 1 } := by
  obtain ⟨rs, text, resolved, carried, rfl⟩ := edit_eq_ok edited
  have perm := (List.reverse_perm _).trans (Change.lastFirst_perm changes)
  have members : ∀ c ∈ (Change.lastFirst changes).reverse, c ∈ changes :=
    fun c hc => perm.mem_iff.mp hc
  have sorted := List.pairwise_reverse.mpr (Change.lastFirst_sorted changes)
  have distinct := (perm.pairwise_iff fun h => Ne.symm h).mpr admits.distinct
  have apart := (perm.pairwise_iff fun h => Change.Apart.symm h).mpr admits.apart
  have ahead := List.forall₂_reverse_iff.mpr resolved
  have ascending : Replacement.Ascending d.text 0 rs.reverse :=
    ascending_of_resolved ahead (fun c hc => (admits.within c (members c hc)).1) sorted distinct
      apart (Nat.zero_le _) (fun _ _ _ _ => Nat.zero_le _)
  have whole := Replacement.carryOutAll?_reverse ascending
  rw [List.reverse_reverse, carried] at whole
  refine ⟨rs.reverse, ?_, ascending, by rw [Option.some.inj whole]⟩
  apply List.Forall₂.imp _ (List.forall₂_and_left _ _ |>.mpr ⟨members, ahead⟩)
  rintro c r ⟨hc, hr⟩
  obtain ⟨h₁, h₂, -, same⟩ := resolve_eq_ok.mp hr
  exact ⟨cutAt_of_byteOf h₁ (admits.within c hc).1, cutAt_of_byteOf h₂ (admits.within c hc).2, same⟩

end Edit

end Document

end EventXref
