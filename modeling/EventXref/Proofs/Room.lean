import Mathlib.Algebra.BigOperators.Group.List.Basic
import Mathlib.Data.List.Perm.Subperm
import EventXref.Proofs.CallPatterns
import EventXref.Proofs.Places

/-!
The room that the pattern of calls takes. Everything that is added to an automaton keeps the states
that are there and takes a number of bytes that its text bounds: a set so many for each of its byte
sequences, words so many for each of their bytes. So names of a moderate size always fit.
-/
namespace EventXref

namespace Regex

/-- No state is lost, and not more than so many bytes come on top. -/
structure Grows (room : Nat) (grow : Tally → Tally) : Prop where
  states : ∀ t, t.states ≤ (grow t).states
  bytes : ∀ t, (grow t).bytes ≤ t.bytes + room

@[simp] theorem Tally.bytes_add (t : Tally) (states ways : Nat) :
    (t.add states ways).bytes = t.bytes + (32 * states + ways) := by
  simp only [bytes, add, stateSize]
  omega

@[simp] theorem Tally.states_add (t : Tally) (states ways : Nat) :
    (t.add states ways).states = t.states + states := rfl

namespace Grows

variable {room room' : Nat} {grow grow' : Tally → Tally}

theorem mono (grows : Grows room grow) (le : room ≤ room') : Grows room' grow :=
  ⟨grows.states, fun t => Nat.le_trans (grows.bytes t) (Nat.add_le_add_left le _)⟩

theorem id : Grows 0 fun t => t := ⟨fun _ => Nat.le_refl _, fun _ => Nat.le_refl _⟩

theorem add (states ways : Nat) : Grows (32 * states + ways) fun t => t.add states ways :=
  ⟨fun t => by simp, fun t => by simp⟩

theorem comp (first : Grows room grow) (second : Grows room' grow') :
    Grows (room + room') fun t => grow' (grow t) := by
  constructor
  · exact fun t => Nat.le_trans (first.states t) (second.states _)
  · intro t
    have one := first.bytes t
    have two := second.bytes (grow t)
    omega

theorem foldl {α : Type} {xs : List α} {rooms : α → Nat} {grows : Tally → α → Tally}
    (each : ∀ x ∈ xs, Grows (rooms x) fun t => grows t x) :
    Grows (xs.map rooms).sum fun t => xs.foldl grows t := by
  induction xs with
  | nil => exact .id
  | cons x xs ih =>
    obtain ⟨here, later⟩ := List.forall_mem_cons.mp each
    exact (here.comp (ih later)).mono (by simp)

end Grows

/-! ### Sets -/

/-- The bytes that sequences take at most. -/
def sequencesRoom (sequences : List (List (Nat × Nat))) : Nat :=
  64 + (sequences.map fun ranges => 40 * ranges.length + 8).sum

namespace SetBuild

/-- The bytes that an open state takes when it is closed. -/
def levelRoom (level : List Way × Option (Nat × Nat)) : Nat :=
  32 + 8 * level.1.length + if level.2.isSome then 8 else 0

/-- The bytes that are taken, and those that the open states are going to take. -/
def taken (b : SetBuild) : Nat := b.tally.bytes + (b.opened.map levelRoom).sum

theorem close_spec (b : SetBuild) (ways : List Way) :
    (b.close ways).2.opened = b.opened ∧ b.tally.states ≤ (b.close ways).2.tally.states ∧
      (b.close ways).2.tally.bytes ≤ b.tally.bytes + (32 + 8 * ways.length) := by
  unfold close
  dsimp only
  split
  · exact ⟨rfl, Nat.le_refl _, Nat.le_add_right _ _⟩
  · refine ⟨rfl, Nat.le_add_right _ _, ?_⟩
    simp [Tally.readingSize]

theorem levelRoom_waysTo (level : List Way × Option (Nat × Nat)) (next : Nat) :
    32 + 8 * (waysTo level next).length = levelRoom level := by
  obtain ⟨ways, _ | _⟩ := level
  · simp [waysTo, levelRoom]
  · simp only [waysTo, levelRoom, List.length_append, List.length_singleton, Option.isSome_some,
      if_true]
    omega

/-- Closing states takes only what they were going to take. -/
theorem closeBelow_spec (depth : Nat) (opened : List (List Way × Option (Nat × Nat))) (next : Nat)
    (b : SetBuild) : b.tally.states ≤ (closeBelow depth opened next b).tally.states ∧
      (closeBelow depth opened next b).taken ≤ b.tally.bytes + (opened.map levelRoom).sum := by
  induction opened generalizing next b with
  | nil => exact ⟨Nat.le_refl _, Nat.le_refl _⟩
  | cons level outer ih =>
    have room := levelRoom_waysTo level next
    rw [closeBelow]
    split
    · refine ⟨Nat.le_refl _, ?_⟩
      simp only [taken, List.map_cons, List.sum_cons, levelRoom, Option.isSome_none] at room ⊢
      simp only [Bool.false_eq_true, if_false]
      omega
    · obtain ⟨-, states, bytes⟩ := close_spec b (waysTo level next)
      obtain ⟨states', taken'⟩ := ih (b.close (waysTo level next)).1 (b.close (waysTo level next)).2
      refine ⟨Nat.le_trans states states', ?_⟩
      simp only [List.map_cons, List.sum_cons]
      omega

theorem addSequence_spec (target : Nat) (b : SetBuild) (ranges : List (Nat × Nat)) :
    b.tally.states ≤ (addSequence target b ranges).tally.states ∧
      (addSequence target b ranges).taken ≤ b.taken + 40 * ranges.length := by
  obtain ⟨states, taken'⟩ :=
    closeBelow_spec (common ranges (b.opened.reverse.map Prod.snd)) b.opened target b
  have dropped := List.length_drop (i := common ranges (b.opened.reverse.map Prod.snd)) (l := ranges)
  unfold addSequence
  dsimp only
  split
  next ways last outer r rs opened rest =>
    refine ⟨states, ?_⟩
    rw [rest, List.length_cons] at dropped
    have below : ∀ l : List (Nat × Nat), ((l.map fun r => (([], some r) :
        List Way × Option (Nat × Nat))).map levelRoom).sum = 40 * l.length := by
      intro l
      induction l with
      | nil => rfl
      | cons a l ih => simp [levelRoom] at ih ⊢; omega
    have inner := below rs.reverse
    have level : levelRoom (ways, some r) ≤ levelRoom (ways, last) + 8 := by
      simp [levelRoom]
    simp only [taken, opened, List.map_append, List.map_cons, List.sum_append, List.sum_cons] at *
    rw [List.length_reverse] at inner
    omega
  next =>
    refine ⟨states, ?_⟩
    simp only [taken] at *
    omega

theorem addSequences_spec (sequences : List (List (Nat × Nat))) (target : Nat) (b : SetBuild) :
    b.tally.states ≤ (sequences.foldl (addSequence target) b).tally.states ∧
      (sequences.foldl (addSequence target) b).taken ≤
        b.taken + (sequences.map fun ranges => 40 * ranges.length + 8).sum := by
  induction sequences generalizing b with
  | nil => exact ⟨Nat.le_refl _, Nat.le_refl _⟩
  | cons ranges sequences ih =>
    obtain ⟨states, taken⟩ := addSequence_spec target b ranges
    obtain ⟨states', taken'⟩ := ih (addSequence target b ranges)
    simp only [List.foldl_cons, List.map_cons, List.sum_cons]
    exact ⟨Nat.le_trans states states', by omega⟩

end SetBuild

theorem growForwards_grows (sequences : List (List (Nat × Nat))) :
    Grows (sequencesRoom sequences) (growForwards sequences) := by
  have whole : ∀ t : Tally, t.states ≤ (growForwards sequences t).states ∧
      (growForwards sequences t).bytes ≤ t.bytes + sequencesRoom sequences := by
    intro t
    obtain ⟨states, taken⟩ := SetBuild.addSequences_spec sequences t.states
      ⟨t.add 1 0, Slots.empty 10000, [([], none)]⟩
    have first : SetBuild.taken ⟨t.add 1 0, Slots.empty 10000, [([], none)]⟩ = t.bytes + 64 := by
      simp [SetBuild.taken, SetBuild.levelRoom]
    rw [first] at taken
    unfold growForwards
    dsimp only at states ⊢
    generalize sequences.foldl (SetBuild.addSequence t.states) _ = built at *
    obtain ⟨states', taken'⟩ := SetBuild.closeBelow_spec 0 built.opened t.states built
    generalize SetBuild.closeBelow 0 built.opened t.states built = closed at *
    rw [Tally.states_add] at states
    rw [sequencesRoom]
    simp only [SetBuild.taken] at taken taken'
    split
    next ways last outer opened =>
      obtain ⟨-, states'', bytes⟩ := closed.close_spec ways
      rw [opened, List.map_cons, List.sum_cons, SetBuild.levelRoom] at taken'
      exact ⟨by omega, by dsimp only at *; omega⟩
    next => exact ⟨by omega, by omega⟩
  exact ⟨fun t => (whole t).1, fun t => (whole t).2⟩

namespace BackwardBuild

theorem addRange_spec (b : BackwardBuild) (next : Nat) (r : Nat × Nat) :
    b.tally.states ≤ (b.addRange next r).1.tally.states ∧
      (b.addRange next r).1.tally.bytes ≤ b.tally.bytes + 32 := by
  unfold addRange
  dsimp only
  split <;> simp

theorem addRanges_spec (ranges : List (Nat × Nat)) (b : BackwardBuild) (next : Nat) :
    b.tally.states ≤ (ranges.foldl (fun (b, next) r => b.addRange next r) (b, next)).1.tally.states ∧
      (ranges.foldl (fun (b, next) r => b.addRange next r) (b, next)).1.tally.bytes ≤
        b.tally.bytes + 32 * ranges.length := by
  induction ranges generalizing b next with
  | nil => exact ⟨Nat.le_refl _, Nat.le_refl _⟩
  | cons r ranges ih =>
    obtain ⟨states, bytes⟩ := b.addRange_spec next r
    obtain ⟨states', bytes'⟩ := ih (b.addRange next r).1 (b.addRange next r).2
    rw [List.foldl_cons, List.length_cons]
    exact ⟨Nat.le_trans states states', Nat.le_trans bytes' (by omega)⟩

theorem addSequences_spec (sequences : List (List (Nat × Nat))) (target : Nat) (b : BackwardBuild) :
    b.tally.states ≤ (sequences.foldl (addSequence target) b).tally.states ∧
      (sequences.foldl (addSequence target) b).tally.bytes ≤
        b.tally.bytes + (sequences.map fun ranges => 40 * ranges.length + 8).sum := by
  induction sequences generalizing b with
  | nil => exact ⟨Nat.le_refl _, Nat.le_refl _⟩
  | cons ranges sequences ih =>
    obtain ⟨states, bytes⟩ := addRanges_spec ranges b target
    obtain ⟨states', bytes'⟩ := ih (addSequence target b ranges)
    have step : (addSequence target b ranges).tally =
        (ranges.foldl (fun (b, next) r => b.addRange next r) (b, target)).1.tally.add 0 4 := rfl
    rw [step, Tally.states_add] at states'
    rw [step, Tally.bytes_add] at bytes'
    simp only [List.foldl_cons, List.map_cons, List.sum_cons]
    exact ⟨by omega, by omega⟩

end BackwardBuild

theorem growBackwards_grows (sequences : List (List (Nat × Nat))) :
    Grows (sequencesRoom sequences) (growBackwards sequences) := by
  constructor <;> intro t <;>
    obtain ⟨states, bytes⟩ := BackwardBuild.addSequences_spec sequences (t.states + 1)
      ⟨t.add 2 0, Slots.empty 1000⟩
  · exact Nat.le_trans (Nat.le_add_right _ _) states
  · rw [Tally.bytes_add] at bytes
    rw [sequencesRoom]
    exact Nat.le_trans bytes (by omega)

theorem growSet_grows (forwards isAscii : Bool) (sequences : List (List (Nat × Nat))) :
    Grows (sequencesRoom sequences) (growSet forwards isAscii sequences) := by
  unfold growSet
  split
  · refine (Grows.add _ _).mono ?_
    have each : 8 * sequences.length ≤ (sequences.map fun ranges => 40 * ranges.length + 8).sum := by
      induction sequences with
      | nil => exact Nat.le_refl _
      | cons ranges sequences ih => simp only [List.length_cons, List.map_cons, List.sum_cons]; omega
    simp only [sequencesRoom, Tally.readingSize]
    omega
  · split
    · exact growForwards_grows sequences
    · exact growBackwards_grows sequences

/-! ### Words -/

def wordsRoom (words : List (List UInt8)) : Nat :=
  (words.map fun word => 76 * word.length + 4).sum

theorem wordsRoom_eq (words : List (List UInt8)) :
    wordsRoom words = wordsRoom (words.filter fun w => !w.isEmpty) + 4 * words.countP List.isEmpty := by
  induction words with
  | nil => rfl
  | cons word words ih =>
    cases word with
    | nil =>
      simp only [wordsRoom, List.map_cons, List.sum_cons] at ih ⊢
      simp [ih]
      omega
    | cons byte word =>
      simp only [wordsRoom, List.map_cons, List.sum_cons] at ih ⊢
      simp [ih]
      omega

/-- The words in the parts are those that are not empty, and each empty one begins a part. -/
theorem segments_spec (words : List (List UInt8)) :
    (segments words).flatten = words.filter (fun w => !w.isEmpty) ∧
      (segments words).length = words.countP List.isEmpty + 1 := by
  induction words with
  | nil => exact ⟨rfl, rfl⟩
  | cons word rest ih =>
    obtain ⟨members, count⟩ := ih
    cases word with
    | nil => simp [segments, members, count]
    | cons byte word =>
      unfold segments
      split
      next first more eq =>
        rw [eq] at members count
        simp only [List.flatten_cons, List.length_cons] at members count ⊢
        simp [← members, count]
      next none => simp [none] at count

theorem mergeEmpty_spec (words : List (List UInt8)) :
    (mergeEmpty words).filter (fun w => !w.isEmpty) = words.filter (fun w => !w.isEmpty) ∧
      (mergeEmpty words).countP List.isEmpty ≤ words.countP List.isEmpty := by
  have rest : (words.dropWhile List.isEmpty).filter (fun w => !w.isEmpty) =
      words.filter (fun w => !w.isEmpty) := by
    induction words with
    | nil => rfl
    | cons w words ih =>
      rw [List.dropWhile_cons]
      split
      next empty => rw [ih, List.filter_cons_of_neg (by simp [empty])]
      next => rfl
  have fewer : (words.dropWhile List.isEmpty).countP List.isEmpty ≤ words.countP List.isEmpty :=
    (List.dropWhile_sublist _).countP_le
  unfold mergeEmpty
  dsimp only
  split
  next shorter =>
    refine ⟨by simpa using rest, ?_⟩
    -- the first word is empty, so one empty word is left out and one is put back
    cases words with
    | nil => simp at shorter
    | cons w words =>
      rw [List.dropWhile_cons] at shorter ⊢
      split at shorter
      next empty =>
        rw [if_pos empty, List.countP_cons_of_pos (by rfl), List.countP_cons_of_pos (by exact empty)]
        exact Nat.succ_le_succ (List.dropWhile_sublist _).countP_le
      next => simp at shorter
  next => exact ⟨rest, fewer⟩

theorem nodup_eraseDups (bytes : List UInt8) : bytes.eraseDups.Nodup := by
  induction size : bytes.length using Nat.strongRecOn generalizing bytes with
  | ind n ih =>
    cases bytes with
    | nil => exact List.nodup_nil
    | cons b bytes =>
      rw [List.eraseDups_cons, List.nodup_cons]
      constructor
      · simp [List.mem_eraseDups]
      · refine ih _ ?_ _ rfl
        have := List.length_filter_le (fun c => !c == b) bytes
        rw [← size, List.length_cons]
        omega

theorem length_eraseDups_le (bytes : List UInt8) : bytes.eraseDups.length ≤ bytes.length :=
  ((nodup_eraseDups bytes).subperm fun _ => List.mem_eraseDups.mp).length_le


/-- Words with different first bytes are different ones. -/
theorem sum_heads_le (room : List UInt8 → Nat) {bytes : List UInt8} (distinct : bytes.Nodup)
    (words : List (List UInt8)) :
    (bytes.map fun b => ((words.filter fun w => decide (w.head? = some b)).map room).sum).sum ≤
      (words.map room).sum := by
  induction words with
  | nil => simp
  | cons w words ih =>
    have once : (bytes.map fun b => if w.head? = some b then room w else 0).sum ≤ room w := by
      clear ih
      induction bytes with
      | nil => exact Nat.zero_le _
      | cons b bytes ih =>
        obtain ⟨new, distinct⟩ := List.nodup_cons.mp distinct
        rw [List.map_cons, List.sum_cons]
        split
        next head =>
          have others : ∀ c ∈ bytes, (if w.head? = some c then room w else 0) = 0 := by
            intro c member
            rw [if_neg]
            rw [head]
            rintro ⟨⟩
            exact new member
          rw [List.map_congr_left others]
          simp
        next => simpa using ih distinct
    have split : ∀ b, (((w :: words).filter fun w => decide (w.head? = some b)).map room).sum =
        (if w.head? = some b then room w else 0) +
          ((words.filter fun w => decide (w.head? = some b)).map room).sum := by
      intro b
      by_cases head : w.head? = some b <;> simp [head]
    simp only [split, List.sum_map_add, List.map_cons, List.sum_cons]
    exact Nat.add_le_add once ih

def groupRoom (group : List (List UInt8)) : Nat :=
  (group.map fun word => 76 * (word.length - 1) + 48).sum

theorem wordsRoom_group {group : List (List UInt8)} (filled : ∀ w ∈ group, w ≠ []) :
    wordsRoom group = groupRoom group + 32 * group.length := by
  induction group with
  | nil => rfl
  | cons w group ih =>
    obtain ⟨here, later⟩ := List.forall_mem_cons.mp filled
    have some := List.length_pos_iff.mpr here
    have rest := ih later
    simp only [wordsRoom, groupRoom, List.map_cons, List.sum_cons, List.length_cons] at rest ⊢
    omega

def growGroup (bound : Nat) (t : Tally) (group : List (List UInt8)) : Tally :=
  let firsts := (group.filterMap List.head?).eraseDups
  let t := firsts.foldl (fun t byte =>
    growTree bound ((group.filter (·.head? = some byte)).map List.tail) t) t
  match firsts.length with
  | 0 => t
  | 1 => t.add 1 Tally.forkSize
  | n => t.add 1 (Tally.forkSize + Tally.readingSize * n)

theorem growTree_succ (bound : Nat) (words : List (List UInt8)) (t : Tally) :
    growTree (bound + 1) words t =
      if words.all List.isEmpty then t
      else ((segments (mergeEmpty words)).foldl (growGroup bound) t).add 1
        (Tally.forkSize * ((segments (mergeEmpty words)).length - 1)) := rfl

theorem growGroup_grows {bound : Nat}
    (tree : ∀ words, Grows (wordsRoom words) (growTree bound words)) (group : List (List UInt8)) :
    Grows (groupRoom group) fun t => growGroup bound t group := by
  have distinct := nodup_eraseDups (group.filterMap List.head?)
  have count : (group.filterMap List.head?).eraseDups.length ≤ group.length :=
    Nat.le_trans (length_eraseDups_le _) (List.length_filterMap_le _ _)
  unfold growGroup
  generalize (group.filterMap List.head?).eraseDups = firsts at distinct count ⊢
  let tails (byte : UInt8) := (group.filter (·.head? = some byte)).map List.tail
  have trees : Grows (firsts.map fun byte => wordsRoom (tails byte)).sum fun t =>
      firsts.foldl (fun t byte => growTree bound (tails byte) t) t :=
    .foldl fun byte _ => tree (tails byte)
  have rooms : ∀ byte, ((group.filter fun w => decide (w.head? = some byte)).map
      fun w => 76 * (w.length - 1) + 4).sum = wordsRoom (tails byte) := by
    intro byte
    simp [wordsRoom, tails, Function.comp_def]
  have below := sum_heads_le (fun w => 76 * (w.length - 1) + 4) distinct group
  simp only [rooms] at below
  have room : groupRoom group =
      (group.map fun w => 76 * (w.length - 1) + 4).sum + 44 * group.length := by
    have split : ∀ w : List UInt8, 76 * (w.length - 1) + 48 = 76 * (w.length - 1) + 4 + 44 :=
      fun w => rfl
    simp only [groupRoom, split, List.sum_map_add]
    simp [Nat.mul_comm]
  dsimp only
  split
  next none => exact trees.mono (by omega)
  next one => exact (trees.comp (.add 1 Tally.forkSize)).mono (by simp only [Tally.forkSize]; omega)
  next zero _ =>
    refine (trees.comp (.add 1 _)).mono ?_
    have : firsts.length ≠ 0 := fun none => zero none
    simp only [Tally.forkSize, Tally.readingSize]
    omega

theorem growTree_grows (bound : Nat) (words : List (List UInt8)) :
    Grows (wordsRoom words) (growTree bound words) := by
  induction bound generalizing words with
  | zero => exact Grows.id.mono (Nat.zero_le _)
  | succ bound ih =>
    obtain ⟨members, count⟩ := segments_spec (mergeEmpty words)
    obtain ⟨kept, fewer⟩ := mergeEmpty_spec words
    have groups : ((segments (mergeEmpty words)).map groupRoom).sum =
        groupRoom (words.filter fun w => !w.isEmpty) := by
      rw [← kept, ← members, groupRoom, List.map_flatten, List.sum_flatten, List.map_map]
      rfl
    have filled : ∀ w ∈ words.filter (fun w => !w.isEmpty), w ≠ [] := by
      simp
    have whole := wordsRoom_eq words
    rw [wordsRoom_group filled] at whole
    have both := (Grows.foldl fun group _ => growGroup_grows ih group :
      Grows ((segments (mergeEmpty words)).map groupRoom).sum _).comp
        (.add 1 (Tally.forkSize * ((segments (mergeEmpty words)).length - 1)))
    have split : growTree (bound + 1) words = fun t => if words.all List.isEmpty then t else _ :=
      funext (growTree_succ bound words)
    rw [split]
    cases ended : words.all List.isEmpty with
    | true => exact Grows.id.mono (Nat.zero_le _)
    | false =>
      -- a word that is left pays for the state of this place
      have left : 0 < (words.filter fun w => !w.isEmpty).length := by
        simpa [List.length_pos_iff, List.filter_eq_nil_iff] using ended
      exact both.mono (by simp only [Tally.forkSize]; omega)

theorem growWords_grows (forwards : Bool) (words : List (List Char)) :
    Grows (32 + (words.map fun w => 76 * Text.size w + 4).sum) (growWords forwards words) := by
  have bytes : ∀ w : List Char, (w.flatMap String.utf8EncodeChar).length = Text.size w := by
    intro w
    induction w with
    | nil => rfl
    | cons c w ih => simp [ih]
  have room : ∀ reverse : Bool, wordsRoom (if reverse then words.map fun w => w.flatMap String.utf8EncodeChar
      else (words.map fun w => w.flatMap String.utf8EncodeChar).map List.reverse) =
        (words.map fun w => 76 * Text.size w + 4).sum := by
    intro reverse
    cases reverse <;> simp [wordsRoom, Function.comp_def, bytes]
  rw [← room forwards]
  exact (Grows.add 1 0).comp (growTree_grows _ _)

/-! ### Sets of given characters -/

def width (r : Nat × Nat) : Nat := r.2 + 1 - r.1

theorem alignedCut?_width {lo hi last first unit : Nat} (ordered : lo ≤ hi) (pos : 0 < unit)
    (cut : Text.alignedCut? lo hi unit = some (last, first)) :
    width (lo, last) + width (first, hi) ≤ width (lo, hi) := by
  have low := Nat.div_add_mod lo unit
  have high := Nat.div_add_mod hi unit
  have low_lt := Nat.mod_lt lo pos
  have high_lt := Nat.mod_lt hi pos
  unfold Text.alignedCut? at cut
  split at cut
  · cases cut
  next differ =>
    have later : unit * (lo / unit) + unit ≤ unit * (hi / unit) := by
      have := Nat.div_le_div_right (c := unit) ordered
      have next : lo / unit + 1 ≤ hi / unit := by omega
      calc unit * (lo / unit) + unit = unit * (lo / unit + 1) := (Nat.mul_succ _ _).symm
        _ ≤ unit * (hi / unit) := Nat.mul_le_mul_left _ next
    rw [Nat.mul_comm (lo / unit), Nat.mul_comm (hi / unit)] at cut
    simp only [width]
    split at cut
    · cases cut
      omega
    · split at cut
      · cases cut
        omega
      · cases cut

theorem rangeCut?_width {lo hi last first : Nat} (ordered : lo ≤ hi)
    (cut : Text.rangeCut? lo hi = some (last, first)) :
    width (lo, last) + width (first, hi) ≤ width (lo, hi) := by
  unfold Text.rangeCut? at cut
  split at cut
  · cases cut
    simp only [width]
    omega
  · split at cut
    next n found =>
      have between := List.find?_some found
      simp only [Bool.and_eq_true, decide_eq_true_eq] at between
      cases cut
      simp only [width]
      omega
    next =>
      split at cut
      · cases cut
      · obtain ⟨unit, member, cut⟩ := List.exists_of_findSome?_eq_some cut
        refine alignedCut?_width ordered ?_ cut
        simp only [List.mem_cons, List.not_mem_nil, or_false] at member
        rcases member with rfl | rfl | rfl <;> decide

theorem encodedRange_length (lo hi : Nat) : (Text.encodedRange lo hi).length ≤ 4 := by
  simp only [Text.encodedRange, List.length_map, List.length_zip, String.length_utf8EncodeChar]
  exact Nat.le_trans (Nat.min_le_left _ _) (Char.utf8Size_le_four _)

theorem sequencesWithin_room (bound lo hi : Nat) :
    ((Text.sequencesWithin bound lo hi).map fun ranges => 40 * ranges.length + 8).sum ≤
      168 * width (lo, hi) := by
  induction bound generalizing lo hi with
  | zero => exact Nat.zero_le _
  | succ bound ih =>
    rw [Text.sequencesWithin]
    split
    · exact Nat.zero_le _
    next ordered =>
      split
      next last first cut =>
        have both := rangeCut?_width (Nat.le_of_not_lt ordered) cut
        have one := ih lo last
        have two := ih first hi
        rw [List.map_append, List.sum_append]
        omega
      next =>
        have short := encodedRange_length lo hi
        simp only [List.map_cons, List.map_nil, List.sum_cons, List.sum_nil, width]
        omega

theorem sequencesRoom_flatMap (rs : List (Nat × Nat)) :
    sequencesRoom (rs.flatMap Text.byteSequences) ≤ 64 + 168 * (rs.map width).sum := by
  rw [sequencesRoom]
  refine Nat.add_le_add_left ?_ 64
  induction rs with
  | nil => exact Nat.zero_le _
  | cons r rs ih =>
    have here := sequencesWithin_room Text.maxCuts r.1 r.2
    rw [List.flatMap_cons, List.map_append, List.sum_append, List.map_cons, List.sum_cons]
    change _ + _ ≤ 168 * (width (r.1, r.2) + _)
    rw [Text.byteSequences]
    omega

theorem joined_width (lo hi : Nat) (rest : List (Nat × Nat)) :
    ((CharSet.joined lo hi rest).map width).sum ≤ width (lo, hi) + (rest.map width).sum := by
  induction rest generalizing lo hi with
  | nil => simp [CharSet.joined]
  | cons r rest ih =>
    obtain ⟨a, b⟩ := r
    rw [CharSet.joined]
    split
    · have joined := ih lo (max hi b)
      simp only [List.map_cons, List.sum_cons, width] at joined ⊢
      omega
    · have later := ih a b
      simp only [List.map_cons, List.sum_cons] at later ⊢
      omega

theorem ofChars_width (cs : List Char) : ((CharSet.ofChars cs).ranges.map width).sum ≤ cs.length := by
  have single : ((cs.map fun c => (c.toNat, c.toNat)).map width).sum = cs.length := by
    simp [width, Function.comp_def]
  have sorted := ((List.mergeSort_perm (cs.map fun c => (c.toNat, c.toNat)) fun a b => a.1 ≤ b.1).map
    width).sum_eq
  rw [single] at sorted
  rw [← sorted, CharSet.ofChars, CharSet.ofRanges]
  split
  next none => simp [CharSet.empty]
  next lo hi rest eq =>
    rw [eq]
    exact joined_width lo hi rest

/-! ### Patterns -/

/-- The pattern takes not more than so many bytes, whichever way it is read. -/
def Takes (r : Regex) (room : Nat) : Prop :=
  ∀ forwards, Grows room (growChoice forwards (r.growths forwards))

namespace Takes

variable {a b r : Regex} {room room' : Nat}

theorem mono (takes : r.Takes room) (le : room ≤ room') : r.Takes room' :=
  fun forwards => (takes forwards).mono le

theorem literal (cs : List Char) : (Regex.literal cs).Takes (32 * Text.size cs) :=
  fun _ => Grows.add (Text.size cs) 0

theorem anchor (k : Anchor) : (Regex.anchor k).Takes 32 := fun _ => Grows.add 1 0

theorem set (ascii : Bool) (s : CharSet) :
    (Regex.set ascii s).Takes (sequencesRoom (s.ranges.flatMap Text.byteSequences)) :=
  fun forwards => growSet_grows forwards _ _

theorem seq (first : a.Takes room) (second : b.Takes room') : (Regex.seq a b).Takes (room + room') := by
  intro forwards
  cases forwards with
  | true => exact (first true).comp (second true)
  | false => exact ((second false).comp (first false)).mono (by omega)

theorem many (one : r.Takes room) (greedy : Bool) : (Regex.rep r 0 none greedy).Takes (room + 112) := by
  intro forwards
  change Grows _ (growRounds _ _ 0 none)
  unfold growRounds
  cases r.takesSome with
  | true => exact ((Grows.add 1 8).comp (one forwards)).mono (by omega)
  | false => exact (one forwards).comp (.add 3 16)

theorem group (inner : r.Takes room) (i : Nat) : (Regex.group i r).Takes (room + 64) := by
  intro forwards
  cases forwards with
  | true => exact (((Grows.add 1 0).comp (inner true)).comp (.add 1 0)).mono (by omega)
  | false => exact (inner false).mono (by omega)

theorem alt_seq {a' b' : Regex} (first : (Regex.seq a b).Takes room)
    (second : (Regex.seq a' b').Takes room') :
    (Regex.alt (.seq a b) (.seq a' b')).Takes (room + room' + 72) := by
  intro forwards
  exact ((first forwards).comp (second forwards)).comp (.add 2 8)

end Takes

def namesRoom (names : List (List Char)) : Nat := 128 + 168 * (names.map Text.size).sum

theorem growths_anyOf {names : List (List Char)} (listed : names ≠ []) (forwards : Bool) :
    (anyOf (names.map .literal)).growths forwards =
      names.map fun n => ⟨some n, fun t => t.add (Text.size n) 0⟩ := by
  induction names with
  | nil => contradiction
  | cons n names ih =>
    cases names with
    | nil => rfl
    | cons m names =>
      change _ :: (anyOf ((m :: names).map .literal)).growths forwards = _
      rw [ih (by simp)]
      rfl

theorem takes_anyOf {names : List (List Char)} (filled : ∀ n ∈ names, n ≠ []) (listed : names ≠ []) :
    (anyOf (names.map .literal)).Takes (namesRoom names) := by
  intro forwards
  rw [growths_anyOf listed]
  match names, listed with
  | [n], _ =>
    refine (Grows.add _ _).mono ?_
    simp only [namesRoom, List.map_cons, List.map_nil, List.sum_cons, List.sum_nil]
    omega
  | n :: m :: names, _ =>
    have literals : ∀ l : List (List Char), (l.map fun n =>
        (⟨some n, fun t => t.add (Text.size n) 0⟩ : Growth)).mapM Growth.literal? = some l := by
      intro l
      induction l with
      | nil => rfl
      | cons n l ih => simp [ih]
    have words : growChoice forwards ((n :: m :: names).map fun n =>
        ⟨some n, fun t => t.add (Text.size n) 0⟩) = growWords forwards (n :: m :: names) := by
      funext t
      have all := literals (n :: m :: names)
      simp only [List.map_cons] at all
      simp only [List.map_cons, growChoice, all]
    rw [words]
    refine (growWords_grows forwards _).mono ?_
    have each : ∀ l : List (List Char), (∀ n ∈ l, n ≠ []) →
        (l.map fun w => 76 * Text.size w + 4).sum ≤ 168 * (l.map Text.size).sum := by
      intro l filled
      induction l with
      | nil => exact Nat.le_refl _
      | cons n l ih =>
        obtain ⟨here, later⟩ := List.forall_mem_cons.mp filled
        have some := Text.size_pos here
        have rest := ih later
        simp only [List.map_cons, List.sum_cons]
        omega
    have sum := each _ filled
    simp only [namesRoom]
    omega

theorem takes_choice {names : List (List Char)} (filled : ∀ n ∈ names, n ≠ []) (listed : names ≠ []) :
    (choice (names.map .literal)).Takes (namesRoom names) := by
  rcases choice_literals listed with any | ⟨cs, spelled, set⟩
  · rw [any]
    exact takes_anyOf filled listed
  · have chars : cs.length ≤ (names.map Text.size).sum := by
      rw [spelled]
      clear spelled set
      induction cs with
      | nil => exact Nat.le_refl _
      | cons c cs ih =>
        have some := Char.utf8Size_pos c
        simp only [List.map_cons, List.sum_cons, List.length_cons, Text.size_cons, Text.size_nil]
        omega
    have sequences := sequencesRoom_flatMap (CharSet.ofChars cs).ranges
    have widths := ofChars_width cs
    rw [set, ofSet]
    split
    next c _ =>
      have four := Char.utf8Size_le_four c
      refine (Takes.literal [c]).mono ?_
      simp only [namesRoom, Text.size_cons, Text.size_nil]
      omega
    next =>
      split
      · refine (Takes.set true CharSet.empty).mono ?_
        simp [namesRoom, sequencesRoom, CharSet.empty]
        omega
      · refine (Takes.set false _).mono ?_
        simp only [namesRoom]
        omega

theorem takes_blanks : blanks.Takes 2000 := by
  refine ((Takes.set false Text.blankChars).many true).mono ?_
  decide +kernel

theorem takes_quoted {quote : Char} (kind : quote = '"' ∨ quote = '\'') : (quoted quote).Takes 2000 := by
  rcases kind with rfl | rfl
  · refine ((Takes.literal _).seq (((Takes.set false _).many true).seq (Takes.literal _))).mono ?_
    rw [unquoted_double]
    decide +kernel
  · refine ((Takes.literal _).seq (((Takes.set false _).many true).seq (Takes.literal _))).mono ?_
    rw [unquoted_single]
    decide +kernel

theorem takes_argument : (row [blanks, .literal ['('], blanks,
    .group 2 (.alt (quoted '"') (quoted '\''))]).Takes 10000 := by
  have quotes := ((takes_quoted (.inl rfl)).alt_seq (takes_quoted (.inr rfl))).group 2
  exact (takes_blanks.seq ((Takes.literal ['(']).seq (takes_blanks.seq quotes))).mono (by decide)

variable {names : List String}

theorem takes_callRegex (listed : names ≠ []) (filled : ∀ n ∈ names, n.toList ≠ []) :
    (callRegex names).Takes (11000 + 168 * (names.map fun n => Text.size n.toList).sum) := by
  have spelled : (names.map fun n => Regex.literal n.toList) = (names.map String.toList).map .literal := by
    simp
  have choice : (choice ((names.map String.toList).map .literal)).Takes
      (namesRoom (names.map String.toList)) :=
    takes_choice (by simpa using filled) (by simpa using listed)
  rw [← spelled] at choice
  refine ((Takes.anchor _).seq ((choice.group 1).seq takes_argument)).mono ?_
  simp only [namesRoom, List.map_map, Function.comp_def]
  omega

/-- Names of a moderate size always fit. -/
theorem fits_of_size_le (listed : names ≠ []) (filled : ∀ n ∈ names, n.toList ≠ [])
    (small : (names.map fun n => Text.size n.toList).sum ≤ 60000) : (callRegex names).fits = true := by
  have start : ∀ anchored, (growStart anchored).bytes ≤ 112 := by decide
  have forwards := (takes_callRegex listed filled true).bytes
    ((growStart (callRegex names).startsText).add 1 0)
  have backwards := (takes_callRegex listed filled false).bytes (growStart (callRegex names).endsText)
  have begin := start (callRegex names).startsText
  have begin' := start (callRegex names).endsText
  have limit : Tally.limit = 10485760 := by decide
  rw [Tally.bytes_add] at forwards
  simp only [fits, Tally.isOver, forwardTally, backwardTally, Tally.bytes_add, limit, Bool.and_eq_true,
    Bool.not_eq_true', decide_eq_false_iff_not]
  exact ⟨by omega, by omega⟩

theorem growChoice_seq (a b : Regex) (t : Tally) : growChoice true ((Regex.seq a b).growths true) t =
    growChoice true (b.growths true) (growChoice true (a.growths true) t) := rfl

theorem growChoice_group (i : Nat) (r : Regex) (t : Tally) :
    growChoice true ((Regex.group i r).growths true) t =
      (growChoice true (r.growths true) (t.add 1 0)).add 1 0 := rfl

/-- Every byte of a single name takes a state. -/
theorem not_fits_of_size_gt {name : String} (large : 327680 < Text.size name.toList) :
    (callRegex [name]).fits = false := by
  have single : choice [Regex.literal name.toList] = .literal name.toList := by
    rcases choice_literals (List.cons_ne_nil name.toList []) with any | ⟨cs, spelled, -⟩
    · exact any
    · -- one character takes four bytes at most
      obtain ⟨c, -, eq⟩ := List.map_eq_singleton_iff.mp spelled.symm
      have four := Char.utf8Size_le_four c
      rw [← eq, Text.size_cons, Text.size_nil] at large
      omega
  have many : Text.size name.toList ≤ (callRegex [name]).forwardTally.states := by
    rw [callRegex, List.map_cons, List.map_nil, single, row, row, forwardTally, growChoice_seq,
      growChoice_seq, growChoice_group, Tally.states_add]
    · refine Nat.le_trans ?_ (Nat.le_trans (takes_argument true |>.states _) (Nat.le_add_right _ _))
      change _ ≤ _ + _ + _
      omega
    · simp
    · simp
  have limit : Tally.limit = 10485760 := by decide
  have heavy : (callRegex [name]).forwardTally.isOver = true := by
    simp only [Tally.isOver, Tally.bytes, Tally.stateSize, limit, decide_eq_true_eq]
    omega
  rw [fits, heavy]
  rfl

end Regex

end EventXref
