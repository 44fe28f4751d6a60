import EventXref.Proofs.Simultaneous

/-!
Changes that start at one offset. A batch is carried out from the last start to the first, and the
changes of one start in the order of the list, each at the offsets that it had before the batch. So
of two insertions the one listed second comes to stand in front, and a replaced range with an
insertion listed before it takes its bytes from the inserted text first; as much of the old range
is left over. All other places of the text are as if each change had been alone there.
-/
namespace EventXref

namespace Text

variable {a b c : Nat} {t : List Char}

theorem slice_append_slice (first : a ≤ b) (second : b ≤ c) (t : List Char) :
    slice a b t ++ slice b c t = slice a c t := by
  have parts := slice_append_dropBytes first (takeBytes c t)
  rw [slice, takeBytes_takeBytes second] at parts
  exact parts

theorem slice_self (a : Nat) (t : List Char) : slice a a t = [] := by
  have whole := takeBytes_append_slice (Nat.le_refl a) t
  simpa using whole

theorem size_slice (le : a ≤ b) (first : isBoundary a t = true) (last : isBoundary b t = true) :
    size (slice a b t) = b - a := by
  have whole := congrArg size (takeBytes_append_slice le t)
  rw [size_append, size_takeBytes_of_isBoundary first, size_takeBytes_of_isBoundary last] at whole
  omega

theorem isBoundary_takeBytes (le : a ≤ b) (boundary : isBoundary a t = true) :
    isBoundary a (takeBytes b t) = true := by
  rwa [isBoundary, takeBytes_takeBytes le]

end Text

namespace Change

theorem insertLast_filter (p : Position) (c : Change) (cs : List Change) :
    (insertLast c cs).filter (fun e => e.span.start = p) =
      (c :: cs).filter fun e => e.span.start = p := by
  induction cs with
  | nil => rfl
  | cons e es ih =>
    simp only [insertLast]
    split
    · rename_i earlier
      -- `c` only passes changes that start later, so none that shares its start.
      have differ : c.span.start ≠ e.span.start := by
        intro same
        simp [same] at earlier
      by_cases here : c.span.start = p
      · have elsewhere : e.span.start ≠ p := fun there => differ (here.trans there.symm)
        simp [ih, here, elsewhere]
      · simp [List.filter_cons, ih, here]
    · rfl

theorem lastFirst_filter (p : Position) (cs : List Change) :
    (lastFirst cs).filter (fun c => c.span.start = p) = cs.filter fun c => c.span.start = p := by
  induction cs with
  | nil => rfl
  | cons c cs ih => rw [lastFirst, insertLast_filter, List.filter_cons, List.filter_cons, ih]

/-- The changes of a batch from the first start to the last; of changes with one start the one
listed last comes first. -/
structure Ranked (changes order : List Change) : Prop where
  perm : order.Perm changes
  ascending : order.Pairwise fun a b => a.span.start ≤ b.span.start
  reversed : ∀ p, order.filter (fun c => c.span.start = p) =
    (changes.filter fun c => c.span.start = p).reverse

theorem ranked_lastFirst (changes : List Change) :
    Ranked changes (lastFirst changes).reverse := by
  constructor
  · exact (List.reverse_perm _).trans (lastFirst_perm changes)
  · exact List.pairwise_reverse.mpr (lastFirst_sorted changes)
  · intro p
    rw [List.filter_reverse, lastFirst_filter]

end Change

namespace Replacement

/-- What replacements make of the text from an offset on when they are carried out from the last of
the list to the first: each takes the place of the bytes that then stand at its start. -/
def carried (t : List Char) : Nat → List Replacement → List Char
  | place, [] => Text.dropBytes place t
  | place, r :: rs => Text.slice place r.start t ++
      (r.text ++ Text.dropBytes (r.stop - r.start) (carried t r.start rs))

/-- What a replaced range leaves of insertions at its start and of itself. -/
def remains (r : Replacement) (t : List Char) (ins : List Replacement) : List Char :=
  Text.dropBytes (r.stop - r.start) ((ins.map (·.text)).flatten ++ Text.slice r.start r.stop t)

def Inserts (r : Replacement) : Prop := r.stop = r.start

/-- A batch that an editor may send: insertions may share their offset with each other and with the
start of a replaced range that is listed after them. -/
structure Legal (t : List Char) (rs : List Replacement) : Prop where
  boundaries : ∀ r ∈ rs, r.OnBoundaries t
  apart : rs.Pairwise Apart
  insertionsFirst : rs.Pairwise fun a b => a.start = b.start → a.Inserts

/-- Replacements from the first start to the last that cut between characters and keep apart. -/
structure InRow (t : List Char) (rs : List Replacement) : Prop where
  boundaries : ∀ r ∈ rs, r.OnBoundaries t
  upright : ∀ r ∈ rs, r.start ≤ r.stop
  ascending : rs.Pairwise fun a b => a.start ≤ b.start
  apart : rs.Pairwise Apart

section Row

variable {t : List Char} {place p : Nat} {r b : Replacement} {rs rs' : List Replacement}

theorem InRow.sublist (row : InRow t rs) (sub : rs'.Sublist rs) : InRow t rs' := by
  constructor
  · exact fun r member => row.boundaries r (sub.subset member)
  · exact fun r member => row.upright r (sub.subset member)
  · exact row.ascending.sublist sub
  · exact row.apart.sublist sub

theorem InRow.takeBytes (row : InRow t rs) (ends : ∀ r ∈ rs, r.stop ≤ p) :
    InRow (Text.takeBytes p t) rs := by
  refine { row with boundaries := ?_ }
  intro r member
  have boundaries := row.boundaries r member
  have upright := row.upright r member
  have bound := ends r member
  exact ⟨Text.isBoundary_takeBytes (by omega) boundaries.1,
    Text.isBoundary_takeBytes bound boundaries.2⟩

theorem InRow.behind_or_at (row : InRow t (r :: rs)) (member : b ∈ rs) :
    r.stop ≤ b.start ∨ b.start = r.start ∧ b.stop = r.start := by
  have order := (List.pairwise_cons.mp row.ascending).1 b member
  have upright := row.upright b (by simp [member])
  rcases (List.pairwise_cons.mp row.apart).1 b member with before | behind
  · exact .inl before
  · exact .inr ⟨by omega, by omega⟩

/-- Up to the first start the text is the old one. -/
theorem carried_eq_slice_append (le : place ≤ p) (before : ∀ b ∈ rs, p ≤ b.start)
    (t : List Char) : carried t place rs = Text.slice place p t ++ carried t p rs := by
  cases rs with
  | nil => exact (Text.slice_append_dropBytes le t).symm
  | cons r rs =>
    have parts := Text.slice_append_slice le (before r (by simp)) t
    rw [carried, carried, ← parts, List.append_assoc]

/-- A replacement finds as many bytes at its start as it takes. -/
theorem InRow.width_le_size (row : InRow t (r :: rs)) :
    r.stop - r.start ≤ Text.size (carried t r.start rs) := by
  have upright := row.upright r (by simp)
  have cuts := row.boundaries r (by simp)
  induction rs with
  | nil =>
    have whole := congrArg Text.size (Text.takeBytes_append_dropBytes r.start t)
    rw [Text.size_append, Text.size_takeBytes_of_isBoundary cuts.1] at whole
    have bound := Text.le_size_of_isBoundary cuts.2
    rw [carried]
    omega
  | cons b rs ih =>
    rcases row.behind_or_at (b := b) (by simp) with behind | ⟨start, stop⟩
    · -- The old range still stands in front of `b`.
      have width := Text.size_slice (Nat.le_trans upright behind) cuts.1
        (row.boundaries b (by simp)).1
      rw [carried, Text.size_append, width]
      omega
    · have fewer := ih (row.sublist (by simp))
      rw [carried, start, stop, Nat.sub_self, Text.dropBytes_zero, Text.size_append,
        Text.size_append]
      omega

theorem InRow.carryOut?_eq (row : InRow t (r :: rs)) :
    r.carryOut? (carried t 0 rs) = some (carried t 0 (r :: rs)) := by
  have upright := row.upright r (by simp)
  have front := Text.size_takeBytes_of_isBoundary (row.boundaries r (by simp)).1
  have now : carried t 0 rs = Text.takeBytes r.start t ++ carried t r.start rs := by
    have parts := carried_eq_slice_append (Nat.zero_le _) (List.pairwise_cons.mp row.ascending).1 t
    rwa [Text.slice, Text.dropBytes_zero] at parts
  have fits : r.start ≤ Text.size (carried t 0 rs) ∧ r.stop ≤ Text.size (carried t 0 rs) := by
    have room := row.width_le_size
    rw [now, Text.size_append, front]
    omega
  have before : Text.takeBytes r.start (carried t 0 rs) = Text.takeBytes r.start t := by
    rw [now, Text.takeBytes_append (Nat.le_of_eq front.symm),
      Text.takeBytes_takeBytes (Nat.le_refl _)]
  have behind : Text.dropBytes r.stop (carried t 0 rs) =
      Text.dropBytes (r.stop - r.start) (carried t r.start rs) := by
    have parts := Text.dropBytes_size_add (Text.takeBytes r.start t) (r.stop - r.start)
      (carried t r.start rs)
    rwa [front, Nat.add_sub_cancel' upright, ← now] at parts
  rw [carryOut?, if_pos fits, before, behind, carried, Text.slice, Text.dropBytes_zero,
    List.append_assoc]

theorem InRow.carryOutAll?_reverse (row : InRow t rs) :
    carryOutAll? rs.reverse t = some (carried t 0 rs) := by
  induction rs with
  | nil => simp [carryOutAll?, carried, Text.dropBytes_zero]
  | cons r rs ih =>
    have before := ih (row.sublist (by simp))
    rw [List.reverse_cons, carryOutAll?_append, before]
    simp [carryOutAll?, row.carryOut?_eq]

/-- If each ends before the next one starts, all are carried out at once. -/
theorem InRow.carried_eq_replaced (row : InRow t rs)
    (ends : rs.Pairwise fun a b => a.stop ≤ b.start) (place : Nat) :
    carried t place rs = replaced t place rs := by
  induction rs generalizing place with
  | nil => rfl
  | cons r rs ih =>
    have upright := row.upright r (by simp)
    have cuts := row.boundaries r (by simp)
    obtain ⟨here, rest⟩ := List.pairwise_cons.mp ends
    have removed : Text.dropBytes (r.stop - r.start) (carried t r.start rs) =
        carried t r.stop rs := by
      rw [carried_eq_slice_append upright here, ← Text.size_slice upright cuts.1 cuts.2,
        Text.dropBytes_size]
    rw [carried, replaced, removed, ih (row.sublist (by simp)) rest]

/-- Replacements on the two sides of an offset do not see each other. -/
theorem InRow.carried_append {front back : List Replacement} (row : InRow t front)
    (ends : ∀ a ∈ front, a.stop ≤ p) (before : ∀ b ∈ back, p ≤ b.start) (le : place ≤ p) :
    carried t place (front ++ back) =
      carried (Text.takeBytes p t) place front ++ carried t p back := by
  induction front generalizing place with
  | nil => exact carried_eq_slice_append le before t
  | cons a front ih =>
    have bound : a.start ≤ p := Nat.le_trans (row.upright a (by simp)) (ends a (by simp))
    have rest := ih (row.sublist (by simp)) (fun b member => ends b (by simp [member])) bound
    have same : Text.slice place a.start (Text.takeBytes p t) = Text.slice place a.start t := by
      rw [Text.slice, Text.takeBytes_takeBytes bound, Text.slice]
    have room := (row.takeBytes ends).width_le_size
    rw [List.cons_append, carried, carried, rest, Text.dropBytes_append room, same]
    simp only [List.append_assoc]

theorem carried_insertions {ins back : List Replacement}
    (here : ∀ i ∈ ins, i.start = place ∧ i.stop = place) :
    carried t place (ins ++ back) = (ins.map (·.text)).flatten ++ carried t place back := by
  induction ins with
  | nil => rfl
  | cons i ins ih =>
    obtain ⟨start, stop⟩ := here i (by simp)
    have rest := ih fun j member => here j (by simp [member])
    rw [List.cons_append, carried, start, stop, Nat.sub_self, Text.dropBytes_zero, rest,
      Text.slice_self]
    simp

/-- A replaced range takes its bytes from the insertions at its start and only then from the old
text. -/
theorem InRow.carried_crossed {front ins back : List Replacement}
    (row : InRow t (front ++ r :: (ins ++ back))) (wide : r.start < r.stop)
    (here : ∀ i ∈ ins, i.start = r.start) (later : ∀ b ∈ back, r.start < b.start) :
    carried t 0 (front ++ r :: (ins ++ back)) =
      carried (Text.takeBytes r.start t) 0 front ++
        (r.text ++ (r.remains t ins ++ carried t r.stop back)) := by
  have site : InRow t (r :: (ins ++ back)) := row.sublist (by simp)
  have cuts := site.boundaries r (by simp)
  have upright := Nat.le_of_lt wide
  obtain ⟨-, -, ordered⟩ := List.pairwise_append.mp row.ascending
  obtain ⟨-, -, separate⟩ := List.pairwise_append.mp row.apart
  have ends : ∀ a ∈ front, a.stop ≤ r.start := by
    intro a member
    have order := ordered a member r (by simp)
    rcases separate a member r (by simp) with before | behind
    · exact before
    · omega
  have starts : ∀ b ∈ r :: (ins ++ back), r.start ≤ b.start := by
    intro b member
    rcases List.mem_cons.mp member with rfl | member
    · exact Nat.le_refl _
    · exact (List.pairwise_cons.mp site.ascending).1 b member
  have insertions : ∀ i ∈ ins, i.start = r.start ∧ i.stop = r.start := by
    intro i member
    rcases site.behind_or_at (b := i) (by simp [member]) with behind | there
    · have := here i member
      omega
    · exact there
  have beyond : ∀ b ∈ back, r.stop ≤ b.start := by
    intro b member
    have := later b member
    rcases site.behind_or_at (b := b) (by simp [member]) with behind | there
    · exact behind
    · omega
  have room : r.stop - r.start ≤
      Text.size ((ins.map (·.text)).flatten ++ Text.slice r.start r.stop t) := by
    rw [Text.size_append, Text.size_slice upright cuts.1 cuts.2]
    omega
  have found : carried t r.start (ins ++ back) =
      (ins.map (·.text)).flatten ++ Text.slice r.start r.stop t ++ carried t r.stop back := by
    rw [carried_insertions insertions, carried_eq_slice_append upright beyond, List.append_assoc]
  rw [InRow.carried_append (row.sublist (by simp)) ends starts (Nat.zero_le _), carried,
    Text.slice_self, found, Text.dropBytes_append room, List.nil_append, remains]

end Row

end Replacement

namespace Document

variable {d : Document} {changes : List Change} {rs up : List Replacement}

theorem inRow_of_resolved {order : List Change} (resolved : List.Forall₂ d.Resolves order up)
    (ascending : order.Pairwise fun a b => a.span.start ≤ b.span.start)
    (boundaries : ∀ r ∈ up, r.OnBoundaries d.text) (apart : up.Pairwise Replacement.Apart) :
    Replacement.InRow d.text up := by
  have descending := resolved_descending (List.forall₂_reverse_iff.mpr resolved)
    (List.pairwise_reverse.mpr ascending)
  exact ⟨boundaries, upright_of_resolved resolved, List.pairwise_reverse.mp descending, apart⟩

/-- A batch of changes that cut between characters and keep apart never fails, as long as there is a
version left, and what it makes of the text is known in any case. If only insertions share their offset, all changes take place at once, those at
one position in the reverse of their order in the list. A replaced range takes its bytes first from
the insertions at its start that come behind it in that order; what stands before and behind the
range is what the other changes make of it. -/
theorem edit_of_shared_starts (d : Document) (changes : List Change) (rs : List Replacement)
    (resolved : List.Forall₂ d.Resolves changes rs) (boundaries : ∀ r ∈ rs, r.OnBoundaries d.text)
    (apart : rs.Pairwise Replacement.Apart) :
    ∃ order up, Change.Ranked changes order ∧ List.Forall₂ d.Resolves order up ∧ up.Perm rs ∧
      (∀ build, d.applyChanges build changes = d.commit build (Replacement.carried d.text 0 up)) ∧
      (d.HasNextVersion → d.edit changes = .ok { d with
        text := Replacement.carried d.text 0 up, version := d.version + 1 }) ∧
      ((rs.Pairwise fun a b => a.start = b.start → a.Inserts ∧ b.Inserts) →
        Replacement.carried d.text 0 up = Replacement.replaced d.text 0 up) ∧
      ∀ front r ins back, up = front ++ r :: (ins ++ back) → r.start < r.stop →
        (∀ i ∈ ins, i.start = r.start) → (∀ b ∈ back, r.start < b.start) →
        Replacement.carried d.text 0 up =
          Replacement.carried (Text.takeBytes r.start d.text) 0 front ++
            (r.text ++ (r.remains d.text ins ++ Replacement.carried d.text r.stop back)) := by
  obtain ⟨down, resolvedDown, permDown⟩ :=
    List.perm_comp_forall₂ (Change.lastFirst_perm changes) resolved
  have ranked := Change.ranked_lastFirst changes
  have resolvedUp := List.forall₂_reverse_iff.mpr resolvedDown
  have perm := (List.reverse_perm down).trans permDown
  have row : Replacement.InRow d.text down.reverse :=
    inRow_of_resolved resolvedUp ranked.ascending
      (fun r member => boundaries r (perm.mem_iff.mp member))
      ((perm.pairwise_iff .symm).mpr apart)
  have whole := row.carryOutAll?_reverse
  rw [List.reverse_reverse] at whole
  have applied := applyChanges_of_carried (resolveAll_eq_ok resolvedDown) whole
  refine ⟨_, down.reverse, ranked, resolvedUp, perm, applied, ?_, ?_, ?_⟩
  · intro next
    rw [edit, applied, next.commit]
  · intro shared
    have sharedUp := (perm.pairwise_iff fun h same => (h same.symm).symm).mpr shared
    apply row.carried_eq_replaced
    refine ((row.ascending.and row.apart).and sharedUp).imp_of_mem ?_
    rintro a b - member ⟨⟨order, before | behind⟩, inserts⟩
    · exact before
    · have upright := row.upright b member
      have stop : a.stop = a.start := (inserts (by omega)).1
      omega
  · rintro front r ins back split wide here later
    rw [split] at row ⊢
    exact row.carried_crossed wide here later

def letters : Document := ⟨⟨"file:///a.lua"⟩, "lua", 3, "abc".toList⟩

/-- Two insertions in front of the second letter, which is then replaced. -/
def crossing : List Change :=
  [⟨⟨⟨0, 1⟩, ⟨0, 1⟩⟩, ['1']⟩, ⟨⟨⟨0, 1⟩, ⟨0, 1⟩⟩, ['2', '3']⟩, ⟨⟨⟨0, 1⟩, ⟨0, 2⟩⟩, ['Z']⟩]

def crossed : List Replacement := [⟨1, 1, ['1']⟩, ⟨1, 1, ['2', '3']⟩, ⟨1, 2, ['Z']⟩]

theorem letters_resolves_crossing : List.Forall₂ letters.Resolves crossing crossed :=
  .cons ⟨by rfl, by rfl, by decide, rfl⟩ (.cons ⟨by rfl, by rfl, by decide, rfl⟩
    (.cons ⟨by rfl, by rfl, by decide, rfl⟩ .nil))

theorem legal_crossed : Replacement.Legal letters.text crossed := by
  constructor
  · simp [crossed, Replacement.OnBoundaries]
    decide
  · simp [crossed, Replacement.Apart]
  · simp [crossed, Replacement.Inserts]

theorem edit_of_shared_starts_crossing :
    List.Forall₂ letters.Resolves crossing crossed ∧ Replacement.Legal letters.text crossed ∧
    ∃ order up, Change.Ranked crossing order ∧ List.Forall₂ letters.Resolves order up ∧
      letters.edit crossing = .ok { letters with
        text := Replacement.carried letters.text 0 up, version := 4 } := by
  refine ⟨letters_resolves_crossing, legal_crossed, ?_⟩
  obtain ⟨order, up, ranked, resolved, -, -, edited, -⟩ := edit_of_shared_starts letters crossing
    crossed letters_resolves_crossing legal_crossed.boundaries legal_crossed.apart
  exact ⟨order, up, ranked, resolved, edited (by decide)⟩

/-- The batch is legal and listed from the first start to the last. At once its changes would make
`a123Zc` of the text, yet the digits come in another order, one of them is lost, and the replaced
letter stays. Two insertions alone are all kept, but in reverse. -/
theorem shared_starts_lose_an_insertion :
    (List.Forall₂ letters.Resolves crossing crossed ∧ Replacement.Legal letters.text crossed ∧
      (crossed.Pairwise fun a b => a.start ≤ b.start) ∧
      Replacement.replaced letters.text 0 crossed = "a123Zc".toList ∧
      letters.edit crossing = .ok { letters with text := "aZ31bc".toList, version := 4 }) ∧
    Replacement.replaced letters.text 0 (crossed.take 2) = "a123bc".toList ∧
    letters.edit (crossing.take 2) =
      .ok { letters with text := "a231bc".toList, version := 4 } := by
  refine ⟨⟨letters_resolves_crossing, legal_crossed, by simp [crossed], by rfl, by rfl⟩, by rfl,
    by rfl⟩

end Document

end EventXref
