import EventXref.Text.CharSet

namespace EventXref.CharSet

/-- Whether a code point lies in one of some ranges, in any order. -/
def Lies (n : Nat) (rs : List (Nat × Nat)) : Prop := ∃ r ∈ rs, r.1 ≤ n ∧ n ≤ r.2

variable {n lo hi : Nat} {rs rest : List (Nat × Nat)}

theorem lies_cons {r : Nat × Nat} : Lies n (r :: rs) ↔ (r.1 ≤ n ∧ n ≤ r.2) ∨ Lies n rs := by
  simp [Lies]

theorem lies_append {rs' : List (Nat × Nat)} : Lies n (rs ++ rs') ↔ Lies n rs ∨ Lies n rs' := by
  simp only [Lies, List.mem_append, or_and_right, exists_or]

theorem Lies.mono {rs' : List (Nat × Nat)} (lies : Lies n rs) (sub : ∀ r ∈ rs, r ∈ rs') :
    Lies n rs' := by
  obtain ⟨r, member, within⟩ := lies
  exact ⟨r, sub r member, within⟩

theorem not_lies_of_lt (ascending : ∀ r ∈ rs, lo ≤ r.1) (before : n < lo) : ¬ Lies n rs := by
  rintro ⟨r, member, first, -⟩
  have := ascending r member
  omega

theorem inRanges_iff (ascending : rs.Pairwise fun a b => a.1 ≤ b.1) :
    Text.inRanges rs n = true ↔ Lies n rs := by
  induction rs with
  | nil => simp [Text.inRanges, Lies]
  | cons r rs ih =>
    obtain ⟨first, ascending⟩ := List.pairwise_cons.mp ascending
    rw [lies_cons, Text.inRanges]
    by_cases before : n < r.1
    · have none := not_lies_of_lt first before
      simp [before, none, Nat.not_le_of_lt before]
    · by_cases within : n ≤ r.2
      · simp [before, within, Nat.le_of_not_lt before]
      · simp [before, within, ih ascending]

theorem inRanges_joined (ascending : ((lo, hi) :: rest).Pairwise fun a b => a.1 ≤ b.1) :
    Text.inRanges (joined lo hi rest) n = true ↔ Lies n ((lo, hi) :: rest) := by
  induction rest generalizing lo hi with
  | nil => exact inRanges_iff ascending
  | cons r rest ih =>
    obtain ⟨a, b⟩ := r
    obtain ⟨first, later⟩ := List.pairwise_cons.mp ascending
    obtain ⟨second, last⟩ := List.pairwise_cons.mp later
    have le : lo ≤ a := first (a, b) List.mem_cons_self
    rw [joined]
    split
    next touch =>
      have widened : ((lo, max hi b) :: rest).Pairwise fun a b => a.1 ≤ b.1 :=
        List.pairwise_cons.mpr ⟨fun r member => first r (List.mem_cons_of_mem _ member), last⟩
      rw [ih widened]
      simp only [lies_cons]
      rw [← or_assoc]
      refine or_congr_left ?_
      omega
    next =>
      rw [Text.inRanges]
      by_cases before : n < lo
      · have none := not_lies_of_lt (n := n) first before
        rw [lies_cons, if_pos before]
        simp only [none, or_false]
        simp
        omega
      · by_cases within : n ≤ hi
        · simp [before, within, lies_cons]
          omega
        · simp [before, within, ih later, lies_cons]

theorem hasCode_ofRanges (rs : List (Nat × Nat)) (n : Nat) :
    (ofRanges rs).hasCode n = true ↔ Lies n rs := by
  have ascending : (rs.mergeSort fun a b => a.1 ≤ b.1).Pairwise fun a b => a.1 ≤ b.1 := by
    refine (List.pairwise_mergeSort ?_ ?_ rs).imp of_decide_eq_true
    · intro a b c
      simp only [decide_eq_true_eq]
      omega
    · intro a b
      simp only [Bool.or_eq_true, decide_eq_true_eq]
      omega
  have same : Lies n (rs.mergeSort fun a b => a.1 ≤ b.1) ↔ Lies n rs := by
    simp [Lies]
  rw [← same, ofRanges]
  split
  next none => simp [none, Lies, hasCode, empty, Text.inRanges]
  next lo hi rest sorted =>
    rw [sorted] at ascending ⊢
    exact inRanges_joined ascending

theorem contains_ofChars (cs : List Char) (c : Char) : (ofChars cs).contains c = true ↔ c ∈ cs := by
  rw [contains, ofChars, hasCode_ofRanges]
  constructor
  · rintro ⟨r, member, first, last⟩
    obtain ⟨d, there, rfl⟩ := List.mem_map.mp member
    have same : c = d := Char.toNat_inj.mp (Nat.le_antisymm last first)
    exact same ▸ there
  · exact fun there => ⟨_, List.mem_map_of_mem there, Nat.le_refl _, Nat.le_refl _⟩

theorem toNat_lt (c : Char) : c.toNat < 0x110000 := by
  have valid := c.valid
  simp only [UInt32.isValidChar, Nat.isValidChar] at valid
  change c.val.toNat < _
  omega

theorem lies_of_hasCode {s : CharSet} (has : s.hasCode n = true) : Lies n s.ranges := by
  obtain ⟨rs⟩ := s
  rw [hasCode] at has
  induction rs with
  | nil => cases has
  | cons r rs ih =>
    rw [Text.inRanges] at has
    rw [lies_cons]
    split at has
    · cases has
    · split at has
      · exact .inl (by omega)
      · exact .inr (ih has)

end EventXref.CharSet
