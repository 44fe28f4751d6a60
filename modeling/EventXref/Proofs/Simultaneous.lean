import Mathlib.Data.List.Perm.Basic
import EventXref.Proofs.Batch

/-!
A batch of changes takes place as a whole or not at all. All changes are resolved before the first
is carried out, so one that cannot be resolved leaves the document as it was. Otherwise, if the
resolved spans keep apart, every change finds the text before and inside its span as it was before
the batch: those carried out earlier lie behind it. The order in which a host lists the changes is
of no account.
-/
namespace EventXref

namespace Replacement

variable {t : List Char} {rs : List Replacement}

def Apart (a b : Replacement) : Prop := a.stop ≤ b.start ∨ b.stop ≤ a.start

theorem Apart.symm {a b : Replacement} (apart : Apart a b) : Apart b a := Or.symm apart

/-- Both ends fall between characters of the text. -/
def OnBoundaries (t : List Char) (r : Replacement) : Prop :=
  Text.isBoundary r.start t = true ∧ Text.isBoundary r.stop t = true

end Replacement

namespace Document

variable {d : Document} {c : Change} {changes others : List Change} {rs : List Replacement}

/-- The bytes that a change replaces, and by what. -/
structure Resolves (d : Document) (c : Change) (r : Replacement) : Prop where
  start : d.byteOf? c.span.start = some r.start
  stop : d.byteOf? c.span.stop = some r.stop
  upright : r.start ≤ r.stop
  text : r.text = c.text

/-- The type of versions holds another one behind that of the document. -/
def HasNextVersion (d : Document) : Prop := -2147483648 ≤ d.version ∧ d.version < 2147483647

instance (d : Document) : Decidable d.HasNextVersion := inferInstanceAs (Decidable (_ ∧ _))

theorem HasNextVersion.commit (next : d.HasNextVersion) (build : Build) (text : List Char) :
    d.commit build text = (.ok (), { d with text, version := d.version + 1 }) := by
  obtain ⟨low, high⟩ := next
  rw [Document.commit, Build.signed_of_fits (by rw [values32]; omega) (by rw [values32]; omega)]

theorem resolve_eq_ok_iff {r : Replacement} : d.resolve c = .ok r ↔ d.Resolves c r := by
  rw [resolve_eq_ok]
  constructor
  · rintro ⟨start, stop, upright, text⟩
    exact ⟨start, stop, upright, text⟩
  · rintro ⟨start, stop, upright, text⟩
    exact ⟨start, stop, upright, text⟩

theorem resolveAll_eq_ok (resolved : List.Forall₂ d.Resolves changes rs) :
    d.resolveAll changes = .ok rs := by
  induction resolved with
  | nil => rfl
  | @cons c r cs rs here _ ih =>
    simp [resolveAll, bind, Except.bind, resolve_eq_ok_iff.mpr here, ih, pure, Except.pure]

theorem resolved_descending (resolved : List.Forall₂ d.Resolves changes rs)
    (sorted : changes.Pairwise fun a b => b.span.start ≤ a.span.start) :
    rs.Pairwise fun a b => b.start ≤ a.start := by
  induction resolved with
  | nil => exact .nil
  | @cons c r cs rs here rest ih =>
    rw [List.pairwise_cons] at sorted ⊢
    refine ⟨?_, ih sorted.2⟩
    intro r' member
    obtain ⟨i, inside, rfl⟩ := List.getElem_of_mem member
    have all := List.forall₂_iff_get.mp rest
    have there := all.2 i (by omega) inside
    exact byteOf_mono (sorted.1 _ (List.get_mem _ _)) there.start here.start

theorem upright_of_resolved (resolved : List.Forall₂ d.Resolves changes rs) :
    ∀ r ∈ rs, r.start ≤ r.stop := by
  intro r member
  obtain ⟨i, inside, rfl⟩ := List.getElem_of_mem member
  have all := List.forall₂_iff_get.mp resolved
  exact (all.2 i (by omega) inside).upright

theorem applyChanges_of_carried {text : List Char}
    (resolved : d.resolveAll (Change.lastFirst changes) = .ok rs)
    (carried : Replacement.carryOutAll? rs d.text = some text) (build : Build) :
    d.applyChanges build changes = d.commit build text := by
  rw [applyChanges, resolved]
  simp only [Replacement.carryOutAll_eq_ok.mpr carried]

end Document

end EventXref
