import EventXref.Proofs.CallPatterns

namespace EventXref

namespace CharSet

variable {n lo hi : Nat} {rs rest : List (Nat × Nat)}

theorem lies_of_joined (lies : Lies n (joined lo hi rest)) : Lies n ((lo, hi) :: rest) := by
  induction rest generalizing lo hi with
  | nil => exact lies
  | cons r rest ih =>
    obtain ⟨a, b⟩ := r
    rw [joined] at lies
    split at lies
    next touches =>
      -- what lies in the joined range but not in the first one lies in the second one
      rcases lies_cons.mp (ih lies) with ⟨first, last⟩ | later
      · by_cases inside : n ≤ hi
        · exact lies_cons.mpr (.inl ⟨first, inside⟩)
        · refine lies_cons.mpr (.inr (lies_cons.mpr (.inl ?_)))
          dsimp only at last ⊢
          omega
      · exact lies_cons.mpr (.inr (lies_cons.mpr (.inr later)))
    next =>
      rcases lies_cons.mp lies with first | later
      · exact lies_cons.mpr (.inl first)
      · exact lies_cons.mpr (.inr (ih later))

theorem lies_of_ofRanges (lies : Lies n (ofRanges rs).ranges) : Lies n rs := by
  have sub : ∀ r ∈ rs.mergeSort (fun a b => a.1 ≤ b.1), r ∈ rs := fun r => List.mem_mergeSort.mp
  rw [ofRanges] at lies
  split at lies
  next => exact absurd lies (by simp [empty, Lies])
  next lo hi rest sorted => exact (lies_of_joined lies).mono (sorted ▸ sub)

def metaRanges : List (Nat × Nat) :=
  [(0x23, 0x24), (0x26, 0x26), (0x28, 0x2B), (0x2D, 0x2E), (0x3F, 0x3F), (0x5B, 0x5E), (0x7B, 0x7E)]

def stops : List (Nat × Nat) := Text.blankRanges ++ metaRanges

theorem stop_of_isBlank {c : Char} (blank : Text.isBlank c = true) : Lies c.toNat stops :=
  lies_append.mpr (.inl (lies_of_hasCode (s := ⟨Text.blankRanges⟩) blank))

/-- The set has none of the stops. -/
def IsClear (s : CharSet) : Prop := ∀ n, Lies n s.ranges → ¬ Lies n stops

def isApart (rs : List (Nat × Nat)) : Bool :=
  rs.all fun r => stops.all fun s => s.2 < r.1 || r.2 < s.1

theorem not_lies_of_isApart (apart : isApart rs = true) (lies : Lies n rs) : ¬ Lies n stops := by
  obtain ⟨r, member, first, last⟩ := lies
  rintro ⟨s, stop, first', last'⟩
  have split := List.all_eq_true.mp (List.all_eq_true.mp apart r member) s stop
  simp only [Bool.or_eq_true, decide_eq_true_eq] at split
  omega

theorem isClear_unions {ss : List CharSet} (clear : ∀ s ∈ ss, s.IsClear) : (unions ss).IsClear := by
  intro n lies
  obtain ⟨r, member, within⟩ := lies_of_ofRanges lies
  obtain ⟨s, there, ranges⟩ := List.mem_flatMap.mp member
  exact clear s there n ⟨r, ranges, within⟩

theorem lies_unions {ss : List CharSet} {s : CharSet} (member : s ∈ ss) (lies : Lies n s.ranges) :
    Lies n (unions ss).ranges := by
  obtain ⟨r, ranges, within⟩ := lies
  refine lies_of_hasCode ((hasCode_ofRanges _ n).mpr ⟨r, ?_, within⟩)
  exact List.mem_flatMap.mpr ⟨s, member, ranges⟩

/-- The characters of the table are given as a list so that nothing has to decode them. -/
theorem isClear_ofTable (table : List Char)
    (apart : isApart (((Text.splitOn '\n' table).flatMap (Text.splitOn ' ')).flatMap entry) = true) :
    (ofTable (String.ofList table)).IsClear := by
  intro n lies
  rw [ofTable, String.toList_ofList] at lies
  exact not_lies_of_isApart apart (lies_of_ofRanges lies)

theorem lies_ofTable (table : List Char) (r : Nat × Nat)
    (first : (((Text.splitOn '\n' table).flatMap (Text.splitOn ' ')).flatMap entry).head? = some r)
    (within : r.1 ≤ n ∧ n ≤ r.2) : Lies n (ofTable (String.ofList table)).ranges := by
  rw [ofTable, String.toList_ofList]
  exact lies_of_hasCode ((hasCode_ofRanges _ n).mpr ⟨r, List.mem_of_head? first, within⟩)

end CharSet

namespace Text

open CharSet (IsClear isClear_ofTable isClear_unions lies_ofTable lies_unions)

namespace Category

set_option maxRecDepth 100000 in
theorem otherLetter_isClear : (members .otherLetter).IsClear :=
  isClear_ofTable _ (by decide +kernel)

set_option maxRecDepth 100000 in
theorem letters_isClear (c : Category) (member : c ∈ letters) : (members c).IsClear := by
  simp only [letters, casedLetters, List.cons_append, List.nil_append, List.mem_cons,
    List.not_mem_nil, or_false] at member
  rcases member with rfl | rfl | rfl | rfl | rfl
  · exact isClear_ofTable _ (by decide +kernel)
  · exact isClear_ofTable _ (by decide +kernel)
  · exact isClear_ofTable _ (by decide +kernel)
  · exact isClear_ofTable _ (by decide +kernel)
  · exact otherLetter_isClear

set_option maxRecDepth 100000 in
theorem marks_isClear (c : Category) (member : c ∈ marks) : (members c).IsClear := by
  simp only [marks, List.mem_cons, List.not_mem_nil, or_false] at member
  rcases member with rfl | rfl | rfl <;> exact isClear_ofTable _ (by decide +kernel)

set_option maxRecDepth 100000 in
theorem digits_isClear (c : Category)
    (member : c ∈ [decimalNumber, letterNumber, connectorPunctuation]) : (members c).IsClear := by
  simp only [List.mem_cons, List.not_mem_nil, or_false] at member
  rcases member with rfl | rfl | rfl <;> exact isClear_ofTable _ (by decide +kernel)

theorem union_isClear {cs : List Category} (clear : ∀ c ∈ cs, (members c).IsClear) :
    (union cs).IsClear := by
  refine isClear_unions fun s member => ?_
  obtain ⟨c, there, rfl⟩ := List.mem_map.mp member
  exact clear c there

end Category

set_option maxRecDepth 100000 in
theorem Trait.otherAlphabetic_isClear : otherAlphabetic.IsClear :=
  isClear_ofTable _ (by decide +kernel)

theorem Trait.alphabetic_isClear : alphabetic.IsClear := by
  refine isClear_unions (List.forall_mem_cons.mpr ⟨?_, List.forall_mem_cons.mpr ⟨?_, ?_⟩⟩)
  · exact Category.union_isClear Category.letters_isClear
  · exact Category.digits_isClear _ (by simp)
  · simpa using otherAlphabetic_isClear

theorem wordChars_isClear : wordChars.IsClear := by
  refine isClear_unions fun s member => ?_
  simp only [List.mem_cons, List.not_mem_nil, or_false] at member
  rcases member with rfl | rfl | rfl | rfl | rfl
  · exact Trait.alphabetic_isClear
  · exact Category.union_isClear Category.marks_isClear
  · exact Category.digits_isClear _ (by simp)
  · exact Category.digits_isClear _ (by simp)
  · exact fun n => CharSet.not_lies_of_isApart (by decide +kernel)

theorem not_wordChar_of_stop {c : Char} (stop : CharSet.Lies c.toNat CharSet.stops) :
    wordChars.contains c = false := by
  refine Bool.eq_false_iff.mpr fun word => ?_
  rw [CharSet.contains] at word
  exact wordChars_isClear c.toNat (CharSet.lies_of_hasCode word) stop

set_option maxRecDepth 100000 in
theorem alphabetic_ascii {n : Nat} (lies : CharSet.Lies n [(0x41, 0x5A), (0x61, 0x7A)]) :
    CharSet.Lies n Trait.alphabetic.ranges := by
  refine lies_unions (s := Category.union Category.letters) List.mem_cons_self ?_
  obtain ⟨r, member, within⟩ := lies
  simp only [List.mem_cons, List.not_mem_nil, or_false] at member
  rcases member with rfl | rfl
  · refine lies_unions (s := Category.members .uppercaseLetter) (List.mem_map_of_mem (by decide)) ?_
    exact lies_ofTable _ _ (by decide +kernel) within
  · refine lies_unions (s := Category.members .lowercaseLetter) (List.mem_map_of_mem (by decide)) ?_
    exact lies_ofTable _ _ (by decide +kernel) within

set_option maxRecDepth 100000 in
theorem digitChars_ascii {n : Nat} (within : 0x30 ≤ n ∧ n ≤ 0x39) :
    CharSet.Lies n digitChars.ranges :=
  lies_ofTable _ (0x30, 0x39) (by decide +kernel) within

def asciiWordRanges : List (Nat × Nat) := [(0x30, 0x39), (0x41, 0x5A), (0x5F, 0x5F), (0x61, 0x7A)]

theorem wordChars_ascii {c : Char} (ascii : CharSet.Lies c.toNat asciiWordRanges) :
    wordChars.contains c = true := by
  have part : ∀ s ∈ [Trait.alphabetic, Category.union Category.marks, digitChars,
      Category.members .connectorPunctuation, joiners], CharSet.Lies c.toNat s.ranges →
      wordChars.contains c = true := by
    rintro s member ⟨r, ranges, within⟩
    rw [CharSet.contains, wordChars, CharSet.unions, CharSet.hasCode_ofRanges]
    exact ⟨r, List.mem_flatMap.mpr ⟨s, member, ranges⟩, within⟩
  obtain ⟨r, member, within⟩ := ascii
  simp only [asciiWordRanges, List.mem_cons, List.not_mem_nil, or_false] at member
  rcases member with rfl | rfl | rfl | rfl
  · exact part digitChars (by simp) (digitChars_ascii within)
  · exact part Trait.alphabetic (by simp) (alphabetic_ascii ⟨_, by simp, within⟩)
  · have first : (Category.members .connectorPunctuation).ranges.head? = some (0x5F, 0x5F) := by cbv
    exact part Category.connectorPunctuation.members (by simp) ⟨_, List.mem_of_head? first, within⟩
  · exact part Trait.alphabetic (by simp) (alphabetic_ascii ⟨_, by simp, within⟩)

theorem wordChars_underscore : wordChars.contains '_' = true :=
  wordChars_ascii ⟨(0x5F, 0x5F), by decide⟩

end Text

namespace Regex

theorem isPlain_of_clear {name : List Char} (filled : name ≠ [])
    (clear : ∀ c ∈ name, ¬ CharSet.Lies c.toNat CharSet.stops) : IsPlain name := by
  refine ⟨filled, fun c member => ?_⟩
  have free := clear c member
  rw [CharSet.stops, CharSet.lies_append, not_or] at free
  constructor
  · refine Bool.eq_false_iff.mpr fun special => free.2 ?_
    have stop : (CharSet.mk CharSet.metaRanges).contains c = true :=
      List.all_eq_true.mp (by decide) c (List.contains_iff_mem.mp special)
    exact CharSet.lies_of_hasCode stop
  · refine Bool.eq_false_iff.mpr fun blank => free.1 ?_
    exact CharSet.lies_of_hasCode (s := ⟨Text.blankRanges⟩) blank

/-- A name of word characters needs no escapes in a pattern. -/
theorem isPlain_of_word {name : String} (filled : name ≠ "")
    (word : ∀ c ∈ name.toList, Text.wordChars.contains c = true) : IsPlain name.toList :=
  isPlain_of_clear (by simpa using filled) fun c member =>
    Text.wordChars_isClear c.toNat (CharSet.lies_of_hasCode (word c member))

end Regex

end EventXref
