import EventXref.FileTree
import EventXref.Uri

/-!
A file URI names one file. Empty parts and dots between the slashes of a path lead nowhere, and the
URI keeps exactly the other parts; so paths with one URI have the same extension, and where they can
be read they hold the same text.
-/
namespace EventXref

namespace Text

variable {α : Type} [DecidableEq α] {sep : α}

theorem splitOn_append {s t first : List α} {more : List (List α)} (without : sep ∉ s)
    (split : splitOn sep t = first :: more) : splitOn sep (s ++ t) = (s ++ first) :: more := by
  induction s with
  | nil => exact split
  | cons c s ih =>
    simp only [List.mem_cons, not_or] at without
    rw [List.cons_append, splitOn, if_neg (Ne.symm without.1), ih without.2]
    rfl

theorem splitOn_flatMap_cons {parts : List (List α)} (without : ∀ part ∈ parts, sep ∉ part) :
    splitOn sep (parts.flatMap (sep :: ·)) = [] :: parts := by
  induction parts with
  | nil => rfl
  | cons part parts ih =>
    have rest := ih fun p member => without p (.tail _ member)
    rw [List.flatMap_cons, List.cons_append, splitOn, if_pos rfl,
      splitOn_append (without part (.head _)) rest, List.append_nil]

theorem eq_of_decode? {bytes : List UInt8} {t : List Char} (spelled : decode? bytes = some t) :
    t = ofBytes bytes ∧ toBytes t = bytes := by
  simp only [decode?] at spelled
  split at spelled
  · rename_i same
    cases Option.some.inj spelled
    exact ⟨rfl, same⟩
  · cases spelled

end Text

namespace Path

def leads (part : List UInt8) : Bool := part ≠ [] ∧ part ≠ [dot]

def steps (p : Path) : List (List UInt8) := (Text.splitOn slash p.bytes).filter leads

def componentOf (part : List UInt8) : Component :=
  if part = [dot, dot] then .parent else .name part

theorem readComponents_eq (parts : List (List UInt8)) :
    readComponents false parts = (parts.filter leads).map componentOf := by
  induction parts with
  | nil => rfl
  | cons part parts ih =>
    simp only [readComponents, ih]
    by_cases empty : part = []
    · simp [empty, leads]
    by_cases point : part = [dot]
    · simp [point, leads]
    by_cases up : part = [dot, dot]
    · simp [up, componentOf, leads]
    · simp [empty, point, up, componentOf, leads]

theorem components_eq {p : Path} (absolute : p.isAbsolute = true) :
    p.components = .root :: p.steps.map componentOf := by
  simp only [components, absolute, if_true, readComponents_eq]
  rfl

theorem extension?_congr {p q : Path} (same : p.components = q.components) :
    p.extension? = q.extension? := by
  simp only [extension?, fileName?, same]

end Path

namespace Uri

theorem upperHex_injective {m n : Nat} (hm : m < 16) (hn : n < 16)
    (same : upperHex m = upperHex n) : m = n := by
  have all : ∀ m n : Fin 16, upperHex m = upperHex n → m = n := by decide
  exact congrArg Fin.val (all ⟨m, hm⟩ ⟨n, hn⟩ same)

theorem upperHex_ne_slash {n : Nat} (small : n < 16) : upperHex n ≠ '/' := by
  have all : ∀ n : Fin 16, upperHex n ≠ '/' := by decide
  exact all ⟨n, small⟩

def encodeByte (b : UInt8) : List Char :=
  if b.toNat < 0x80 && plainInName (Char.ofNat b.toNat) then [Char.ofNat b.toNat]
  else ['%', upperHex (b.toNat / 16), upperHex (b.toNat % 16)]

theorem encodeByte_cases (b : UInt8) :
    (b.toNat < 0x80 ∧ plainInName (Char.ofNat b.toNat) = true ∧
      encodeByte b = [Char.ofNat b.toNat]) ∨
    encodeByte b = ['%', upperHex (b.toNat / 16), upperHex (b.toNat % 16)] := by
  unfold encodeByte
  split
  · rename_i plain
    simp only [Bool.and_eq_true, decide_eq_true_eq] at plain
    exact .inl ⟨plain.1, plain.2, rfl⟩
  · exact .inr rfl

theorem percentEncode_eq (bytes : List UInt8) :
    percentEncode plainInName bytes = bytes.flatMap encodeByte := rfl

theorem toNat_ofNat_of_lt {n : Nat} (small : n < 0x80) : (Char.ofNat n).toNat = n := by
  have all : ∀ n : Fin 0x80, (Char.ofNat n).toNat = n := by decide
  exact all ⟨n, small⟩

theorem encodeByte_injective {b b' : UInt8} {r r' : List Char}
    (same : encodeByte b ++ r = encodeByte b' ++ r') : b = b' ∧ r = r' := by
  rcases encodeByte_cases b with ⟨small, plain, written⟩ | written <;>
    rcases encodeByte_cases b' with ⟨small', plain', written'⟩ | written' <;>
    rw [written, written'] at same
  · obtain ⟨first, rest⟩ := List.cons.inj same
    have numbers := congrArg Char.toNat first
    rw [toNat_ofNat_of_lt small, toNat_ofNat_of_lt small'] at numbers
    exact ⟨UInt8.toNat_inj.mp numbers, rest⟩
  · rw [(List.cons.inj same).1] at plain
    exact absurd plain (by decide)
  · rw [← (List.cons.inj same).1] at plain'
    exact absurd plain' (by decide)
  · obtain ⟨-, tail⟩ := List.cons.inj same
    obtain ⟨high, tail⟩ := List.cons.inj tail
    obtain ⟨low, rest⟩ := List.cons.inj tail
    have bound := b.toNat_lt
    have bound' := b'.toNat_lt
    have highs := upperHex_injective (by omega) (by omega) high
    have lows := upperHex_injective (by omega) (by omega) low
    exact ⟨UInt8.toNat_inj.mp (by omega), rest⟩

theorem encodeByte_ne_nil (b : UInt8) : encodeByte b ≠ [] := by
  rcases encodeByte_cases b with ⟨-, -, written⟩ | written <;> simp [written]

theorem slash_not_mem_encodeByte (b : UInt8) : '/' ∉ encodeByte b := by
  rcases encodeByte_cases b with ⟨-, plain, written⟩ | written
  · rw [written, List.mem_singleton]
    intro same
    rw [← same] at plain
    exact absurd plain (by decide)
  · have bound := b.toNat_lt
    have high := upperHex_ne_slash (n := b.toNat / 16) (by omega)
    have low := upperHex_ne_slash (n := b.toNat % 16) (by omega)
    simp [written, high.symm, low.symm]

theorem percentEncode_injective {bytes bytes' : List UInt8}
    (same : percentEncode plainInName bytes = percentEncode plainInName bytes') :
    bytes = bytes' := by
  simp only [percentEncode_eq] at same
  induction bytes generalizing bytes' with
  | nil =>
    cases bytes' with
    | nil => rfl
    | cons b' bs' => simp [encodeByte_ne_nil] at same
  | cons b bs ih =>
    cases bytes' with
    | nil => simp [encodeByte_ne_nil] at same
    | cons b' bs' =>
      obtain ⟨rfl, rest⟩ := encodeByte_injective same
      rw [ih rest]

/-- A path in its URI: its steps, each behind a slash. -/
def written (p : Path) : List Char :=
  (p.steps.map (percentEncode plainInName)).flatMap ('/' :: ·)

theorem segment_componentOf (part : List UInt8) :
    segment (Path.componentOf part) = '/' :: percentEncode plainInName part := by
  unfold Path.componentOf
  split
  · rename_i parent
    subst parent
    decide
  · rfl

theorem ofFilePath?_eq {p : Path} (absolute : p.isAbsolute = true) :
    ofFilePath? p = some ⟨"file://" ++
      String.ofList (if (written p).isEmpty then ['/'] else written p)⟩ := by
  have same : p.components.flatMap segment = written p := by
    simp only [Path.components_eq absolute, written, List.flatMap_cons, List.flatMap_map,
      segment_componentOf]
    rfl
  simp only [ofFilePath?, absolute, if_true, same]

theorem isAbsolute_of_ofFilePath? {p : Path} {u : Uri} (named : ofFilePath? p = some u) :
    p.isAbsolute = true := by
  unfold ofFilePath? at named
  split at named
  · assumption
  · cases named

/-- The parts between the slashes of a written path are its steps. -/
theorem splitOn_written (p : Path) :
    (Text.splitOn '/' (if (written p).isEmpty then ['/'] else written p)).filter (· ≠ []) =
      p.steps.map (percentEncode plainInName) := by
  have parts : Text.splitOn '/' (written p) = [] :: p.steps.map (percentEncode plainInName) := by
    apply Text.splitOn_flatMap_cons
    intro part member slash
    obtain ⟨bytes, -, rfl⟩ := List.mem_map.mp member
    obtain ⟨b, -, inside⟩ := List.mem_flatMap.mp slash
    exact slash_not_mem_encodeByte b inside
  have filled : ∀ part ∈ p.steps.map (percentEncode plainInName), part ≠ [] := by
    intro part member
    obtain ⟨bytes, step, rfl⟩ := List.mem_map.mp member
    have filled : bytes ≠ [] := by
      have leads := (List.mem_filter.mp step).2
      simp only [Path.leads, decide_eq_true_eq] at leads
      exact leads.1
    obtain ⟨b, bs, rfl⟩ := List.exists_cons_of_ne_nil filled
    simp [percentEncode_eq, encodeByte_ne_nil]
  split
  · rename_i empty
    have nothing : p.steps.map (percentEncode plainInName) = [] := by
      rw [List.isEmpty_iff.mp empty] at parts
      exact (List.cons.inj parts).2.symm
    rw [nothing]
    rfl
  · rw [parts, List.filter_cons_of_neg (by simp)]
    exact List.filter_eq_self.mpr (by simpa using filled)

theorem steps_of_ofFilePath? {p q : Path} {u : Uri} (first : ofFilePath? p = some u)
    (second : ofFilePath? q = some u) : p.steps = q.steps := by
  rw [ofFilePath?_eq (isAbsolute_of_ofFilePath? first), ← second,
    ofFilePath?_eq (isAbsolute_of_ofFilePath? second)] at first
  have texts := congrArg Uri.text (Option.some.inj first)
  have same := congrArg String.toList texts
  simp only [String.toList_append, String.toList_ofList, List.append_cancel_left_eq] at same
  have written := congrArg (fun t => (Text.splitOn '/' t).filter (· ≠ [])) same
  simp only [splitOn_written] at written
  exact (List.map_inj_right fun _ _ => percentEncode_injective).mp written

/-- Paths with one URI differ in parts that lead nowhere. -/
theorem components_of_ofFilePath? {p q : Path} {u : Uri} (first : ofFilePath? p = some u)
    (second : ofFilePath? q = some u) : p.components = q.components := by
  rw [Path.components_eq (isAbsolute_of_ofFilePath? first),
    Path.components_eq (isAbsolute_of_ofFilePath? second), steps_of_ofFilePath? first second]

end Uri

end EventXref
