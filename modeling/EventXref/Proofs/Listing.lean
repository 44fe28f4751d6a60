import EventXref.Proofs.FileTree

namespace EventXref

namespace Text

section Utf8

variable {b : UInt8} {v value lo hi : Nat} {range : Nat × Nat} {more : List (Nat × Nat)}
  {rest : List UInt8}

theorem readBytes_whole (leads : lead? b.toNat = some (value, [])) :
    readBytes 0 [] (b :: rest) = Char.ofNat value :: readBytes 0 [] rest := by
  simp [readBytes, begins, leads]

theorem readBytes_lead (leads : lead? b.toNat = some (value, range :: more)) :
    readBytes 0 [] (b :: rest) = readBytes value (range :: more) rest := by
  simp [readBytes, begins, leads]

theorem readBytes_owed (low : lo ≤ b.toNat) (high : b.toNat ≤ hi) :
    readBytes value ((lo, hi) :: range :: more) (b :: rest) =
      readBytes (value * 64 + (b.toNat - 0x80)) (range :: more) rest := by
  simp [readBytes, low, high]

theorem readBytes_last (low : lo ≤ b.toNat) (high : b.toNat ≤ hi) :
    readBytes value [(lo, hi)] (b :: rest) =
      Char.ofNat (value * 64 + (b.toNat - 0x80)) :: readBytes 0 [] rest := by
  simp [readBytes, low, high]

theorem lead?_two (low : 0x80 ≤ v) (high : v < 0x800) :
    lead? (v / 64 + 0xC0) = some (v / 64, [(0x80, 0xBF)]) := by
  rw [lead?, if_neg (by omega), if_pos (by omega), Nat.add_sub_cancel]

theorem lead?_three (low : 0x800 ≤ v) (high : v < 0xD800 ∨ 0xDFFF < v ∧ v < 0x10000) :
    ∃ lo hi, lead? (v / 4096 + 0xE0) = some (v / 4096, [(lo, hi), (0x80, 0xBF)]) ∧
      lo ≤ v / 64 % 64 + 0x80 ∧ v / 64 % 64 + 0x80 ≤ hi := by
  rw [lead?, if_neg (by omega), if_neg (by omega)]
  split
  · have value : v / 4096 = 0 := by omega
    exact ⟨0xA0, 0xBF, by rw [value], by omega, by omega⟩
  split
  · have value : v / 4096 = 13 := by omega
    exact ⟨0x80, 0x9F, by rw [value], by omega, by omega⟩
  · rw [if_pos (by omega), Nat.add_sub_cancel]
    exact ⟨0x80, 0xBF, rfl, by omega, by omega⟩

theorem lead?_four (low : 0x10000 ≤ v) (high : v < 0x110000) :
    ∃ lo hi, lead? (v / 262144 + 0xF0) = some (v / 262144, [(lo, hi), (0x80, 0xBF), (0x80, 0xBF)]) ∧
      lo ≤ v / 4096 % 64 + 0x80 ∧ v / 4096 % 64 + 0x80 ≤ hi := by
  rw [lead?, if_neg (by omega), if_neg (by omega), if_neg (by omega), if_neg (by omega),
    if_neg (by omega)]
  split
  · have value : v / 262144 = 0 := by omega
    exact ⟨0x90, 0xBF, by rw [value], by omega, by omega⟩
  split
  · rw [Nat.add_sub_cancel]
    exact ⟨0x80, 0xBF, rfl, by omega, by omega⟩
  · have value : v / 262144 = 4 := by omega
    rw [if_pos (by omega)]
    exact ⟨0x80, 0x8F, by rw [value], by omega, by omega⟩

end Utf8

theorem readBytes_encoded (c : Char) (rest : List UInt8) :
    readBytes 0 [] (String.utf8EncodeChar c ++ rest) = c :: readBytes 0 [] rest := by
  have valid : c.val.toNat < 0xD800 ∨ 0xDFFF < c.val.toNat ∧ c.val.toNat < 0x110000 := c.valid
  have back : Char.ofNat c.val.toNat = c := Char.ofNat_toNat c
  have byte : ∀ n < 256, (UInt8.ofNat n).toNat = n := fun n small =>
    UInt8.toNat_ofNat_of_lt' small
  have last : ∀ n, (UInt8.ofNat (n % 64 + 0x80)).toNat = n % 64 + 0x80 := fun n =>
    byte _ (by omega)
  simp only [String.utf8EncodeChar]
  generalize c.val.toNat = v at *
  split
  · have whole : lead? (UInt8.ofNat v).toNat = some (v, []) := by
      rw [byte v (by omega), lead?, if_pos (by omega)]
    rw [List.cons_append, readBytes_whole whole, back, List.nil_append]
  split
  · have first : (UInt8.ofNat (v / 64 % 32 + 0xC0)).toNat = v / 64 + 0xC0 := by
      rw [byte _ (by omega)]
      omega
    have leads := lead?_two (v := v) (by omega) (by omega)
    rw [← first] at leads
    rw [List.cons_append, readBytes_lead leads, List.cons_append,
      readBytes_last (by rw [last]; omega) (by rw [last]; omega), last, List.nil_append]
    have value : v / 64 * 64 + (v % 64 + 0x80 - 0x80) = v := by omega
    rw [value, back]
  split
  · have first : (UInt8.ofNat (v / 4096 % 16 + 0xE0)).toNat = v / 4096 + 0xE0 := by
      rw [byte _ (by omega)]
      omega
    obtain ⟨lo, hi, leads, low, high⟩ := lead?_three (v := v) (by omega) (by omega)
    rw [← first] at leads
    rw [List.cons_append, readBytes_lead leads, List.cons_append,
      readBytes_owed (by rwa [last]) (by rwa [last]), last, List.cons_append,
      readBytes_last (by rw [last]; omega) (by rw [last]; omega), last, List.nil_append]
    have value : (v / 4096 * 64 + (v / 64 % 64 + 0x80 - 0x80)) * 64 +
        (v % 64 + 0x80 - 0x80) = v := by omega
    rw [value, back]
  · have first : (UInt8.ofNat (v / 262144 % 8 + 0xF0)).toNat = v / 262144 + 0xF0 := by
      rw [byte _ (by omega)]
      omega
    obtain ⟨lo, hi, leads, low, high⟩ := lead?_four (v := v) (by omega) (by omega)
    rw [← first] at leads
    rw [List.cons_append, readBytes_lead leads, List.cons_append,
      readBytes_owed (by rwa [last]) (by rwa [last]), last, List.cons_append,
      readBytes_owed (by rw [last]; omega) (by rw [last]; omega), last, List.cons_append,
      readBytes_last (by rw [last]; omega) (by rw [last]; omega), last, List.nil_append]
    have value : ((v / 262144 * 64 + (v / 4096 % 64 + 0x80 - 0x80)) * 64 +
        (v / 64 % 64 + 0x80 - 0x80)) * 64 + (v % 64 + 0x80 - 0x80) = v := by omega
    rw [value, back]

theorem ofBytes_toBytes (t : List Char) : ofBytes (toBytes t) = t := by
  induction t with
  | nil => rfl
  | cons c t ih =>
    have rest : toBytes (c :: t) = String.utf8EncodeChar c ++ toBytes t := List.flatMap_cons
    rw [rest, ofBytes, readBytes_encoded]
    exact congrArg (c :: ·) ih

theorem decode?_toBytes (t : List Char) : decode? (toBytes t) = some t := by
  simp [decode?, ofBytes_toBytes]

theorem toNat_of_mem_encoded {c : Char} {b : UInt8} (member : b ∈ String.utf8EncodeChar c) :
    b.toNat = c.val.toNat ∨ 0x80 ≤ b.toNat := by
  have high : ∀ n < 256, 0x80 ≤ n → 0x80 ≤ (UInt8.ofNat n).toNat := by
    intro n small high
    rwa [UInt8.toNat_ofNat_of_lt' small]
  simp only [String.utf8EncodeChar] at member
  generalize c.val.toNat = v at member ⊢
  split at member
  · have small : v < 256 := by omega
    left
    rw [List.mem_singleton.mp member, UInt8.toNat_ofNat_of_lt' small]
  · right
    split at member
    · simp only [List.mem_cons, List.not_mem_nil, or_false] at member
      rcases member with rfl | rfl <;> exact high _ (by omega) (by omega)
    split at member
    · simp only [List.mem_cons, List.not_mem_nil, or_false] at member
      rcases member with rfl | rfl | rfl <;> exact high _ (by omega) (by omega)
    · simp only [List.mem_cons, List.not_mem_nil, or_false] at member
      rcases member with rfl | rfl | rfl | rfl <;> exact high _ (by omega) (by omega)

theorem slash_not_mem_toBytes {t : List Char} (without : '/' ∉ t) : Path.slash ∉ toBytes t := by
  intro slash
  obtain ⟨c, member, inside⟩ := List.mem_flatMap.mp slash
  rcases toNat_of_mem_encoded inside with same | high
  · have : c = '/' := Char.toNat_inj.mp same.symm
    exact without (this ▸ member)
  · exact absurd high (by decide)

theorem splitOn_ne_nil {α : Type} [DecidableEq α] {sep : α} (a : List α) : splitOn sep a ≠ [] := by
  induction a with
  | nil => exact List.cons_ne_nil _ _
  | cons c a ih =>
    rw [splitOn]
    split
    · exact List.cons_ne_nil _ _
    · split
      · exact List.cons_ne_nil _ _
      · exact List.cons_ne_nil _ _

theorem splitOn_append_cons {α : Type} [DecidableEq α] {sep : α} (a b : List α) :
    splitOn sep (a ++ sep :: b) = splitOn sep a ++ splitOn sep b := by
  induction a with
  | nil => simp [splitOn]
  | cons c a ih =>
    simp only [List.cons_append, splitOn]
    split
    · rw [ih, List.cons_append]
    · rw [ih]
      cases split : splitOn sep a with
      | nil => exact absurd split (splitOn_ne_nil a)
      | cons part parts => rfl

end Text

namespace FileTree

/-- A name that an entry of a folder can have. -/
structure IsName (name : String) : Prop where
  leads : leads name = true
  inner : name ≠ ".."
  plain : '/' ∉ name.toList

instance (name : String) : Decidable (IsName name) :=
  decidable_of_iff (FileTree.leads name = true ∧ name ≠ ".." ∧ '/' ∉ name.toList)
    ⟨fun h => ⟨h.1, h.2.1, h.2.2⟩, fun h => ⟨h.leads, h.inner, h.plain⟩⟩

/-- In every folder the names of the entries are different. -/
def WellNamed (t : FileTree) : Prop :=
  ∀ place entries, t.at? place = some (.folder entries) →
    (entries.map Prod.fst).Nodup ∧ ∀ e ∈ entries, IsName e.1

variable {root node : FileTree} {entries : List (String × FileTree)} {dir : Path} {name : String}
  {follow : List String → Option (List String)} {idle more ns place r r' : List String}

theorem WellNamed.child (named : (folder entries).WellNamed)
    (found : entries.lookup name = some node) : node.WellNamed := by
  intro place inner here
  apply named (name :: place) inner
  simp [at?, entry?, found, here]

theorem isName_of_lookup (named : (folder entries).WellNamed)
    (found : entries.lookup name = some node) : IsName name := by
  obtain ⟨before, after, rfl, -⟩ := List.lookup_eq_some_iff.mp found
  exact (named [] _ rfl).2 (name, node) (by simp)

/-- Where names lead to a place, further names lead on from there. -/
theorem walk_onward (skips : idle.filter leads = [])
    (onward : ∀ follow, root.walk follow r more = some r')
    (follows : ∀ ns, follow (ns ++ idle) = some r → follow (ns ++ more) = some r')
    (walked : root.walk follow place (ns ++ idle) = some r) :
    root.walk follow place (ns ++ more) = some r' := by
  induction ns generalizing place with
  | nil =>
    cases walk_nowhere skips walked
    exact onward follow
  | cons n ns ih =>
    rw [List.cons_append] at walked ⊢
    unfold walk at walked ⊢
    -- The goal makes the same steps, so each case of what was walked is one of the goal.
    split at walked
    · by_cases stays : n = "" ∨ n = "."
      · rw [if_pos stays] at walked ⊢
        exact ih walked
      rw [if_neg stays] at walked ⊢
      by_cases up : n = ".."
      · rw [if_pos up] at walked ⊢
        exact ih walked
      rw [if_neg up] at walked ⊢
      split at walked
      · cases walked
      · rw [← List.append_assoc] at walked ⊢
        exact follows _ walked
      · exact ih walked
    · cases walked

theorem resolve_onward (links : Nat) (skips : idle.filter leads = [])
    (onward : ∀ follow, root.walk follow r more = some r')
    (resolved : root.resolve? links (ns ++ idle) = some r) :
    root.resolve? links (ns ++ more) = some r' := by
  induction links generalizing ns with
  | zero => exact walk_onward skips onward (fun _ never => nomatch never) resolved
  | succ links ih => exact walk_onward skips onward (fun ns => ih) resolved

theorem walk_name (here : root.at? r = some (.folder entries)) (named : IsName name)
    (found : entries.lookup name = some node) (solid : ∀ target, node ≠ .link target) :
    root.walk follow r [name] = some (r ++ [name]) := by
  have moves : ¬ (name = "" ∨ name = ".") := by
    have leads := named.leads
    simp only [FileTree.leads, decide_eq_true_eq] at leads
    exact fun idle => idle.elim leads.1 leads.2
  cases node with
  | link target => exact absurd rfl (solid target)
  | file _ | folder _ | locked => simp [walk, here, moves, named.inner, found]

end FileTree

namespace Path

/-- A path that can be opened if it leads to something. -/
def IsShort (p : Path) : Prop := p.bytes.length ≤ FileTree.maxPathLength

instance (p : Path) : Decidable p.IsShort := inferInstanceAs (Decidable (_ ≤ _))

variable {dir : Path} {name : String} {names : List String}

/-- The bytes of a folder's path, with or without a slash at the end, and the path of an entry. -/
theorem join_name (absolute : dir.isAbsolute = true) (named : FileTree.IsName name) :
    ∃ front, (dir.bytes = front ∨ dir.bytes = front ++ [slash]) ∧
      (join dir (.ofString name)).bytes = front ++ slash :: Text.toBytes name.toList := by
  have relative : (ofString name).isAbsolute = false := by
    have without := Text.slash_not_mem_toBytes named.plain
    simp only [isAbsolute, decide_eq_false_iff_not]
    exact fun first => without (List.mem_of_head? first)
  have filled : dir.bytes.isEmpty = false := by
    cases bytes : dir.bytes with
    | nil => simp [isAbsolute, bytes] at absolute
    | cons b rest => rfl
  simp only [join, relative, filled, Bool.false_or, decide_eq_true_eq]
  by_cases ends : dir.bytes.getLast? = some slash
  · obtain ⟨front, bytes⟩ := List.getLast?_eq_some_iff.mp ends
    refine ⟨front, .inr bytes, ?_⟩
    rw [if_neg (by simp), if_pos ends]
    simp [bytes, ofString]
  · exact ⟨dir.bytes, .inl rfl, by rw [if_neg (by simp), if_neg ends]; rfl⟩

theorem length_lt_join (absolute : dir.isAbsolute = true) (named : FileTree.IsName name) :
    dir.bytes.length < (join dir (.ofString name)).bytes.length := by
  obtain ⟨front, dir_eq, bytes⟩ := join_name absolute named
  have filled : Text.toBytes name.toList ≠ [] := by
    intro empty
    have read := Text.ofBytes_toBytes name.toList
    rw [empty] at read
    have nameless : name = "" := String.toList_inj.mp read.symm
    have leads := named.leads
    simp [FileTree.leads, nameless] at leads
  have size := List.length_pos_iff.mpr filled
  have joined := congrArg List.length bytes
  rw [List.length_append, List.length_cons] at joined
  rcases dir_eq with same | same
  · rw [same]
    omega
  · rw [same, List.length_append, List.length_singleton]
    omega

theorem isAbsolute_join (absolute : dir.isAbsolute = true) (named : FileTree.IsName name) :
    (join dir (.ofString name)).isAbsolute = true := by
  obtain ⟨front, dir_eq, bytes⟩ := join_name absolute named
  simp only [isAbsolute, decide_eq_true_eq] at absolute ⊢
  rw [bytes]
  cases front with
  | nil => rfl
  | cons b front => rcases dir_eq with same | same <;> simpa [same] using absolute

theorem namesOf?_join (absolute : dir.isAbsolute = true) (named : FileTree.IsName name)
    (spelled : FileTree.namesOf? dir = some names) :
    ∃ ns idle, names = ns ++ idle ∧ idle.filter FileTree.leads = [] ∧
      FileTree.namesOf? (join dir (.ofString name)) = some (ns ++ [name]) := by
  obtain ⟨front, dir_eq, bytes⟩ := join_name absolute named
  have last : Text.splitOn slash (Text.toBytes name.toList) = [Text.toBytes name.toList] := by
    have split := Text.splitOn_append (t := []) (Text.slash_not_mem_toBytes named.plain) rfl
    rwa [List.append_nil] at split
  have whole : ∀ ns, (Text.splitOn slash front).mapM
      (fun part => (Text.decode? part).map String.ofList) = some ns →
      FileTree.namesOf? (join dir (.ofString name)) = some (ns ++ [name]) := by
    intro ns kept
    simp [FileTree.namesOf?, bytes, Text.splitOn_append_cons, last, List.mapM_append, kept,
      Text.decode?_toBytes]
  rcases dir_eq with same | same
  · refine ⟨names, [], (List.append_nil _).symm, rfl, whole names ?_⟩
    rwa [FileTree.namesOf?, same] at spelled
  · rw [FileTree.namesOf?, same, Text.splitOn_append_cons, List.mapM_append] at spelled
    obtain ⟨ns, kept, spelled⟩ := Option.bind_eq_some_iff.mp spelled
    refine ⟨ns, [""], ?_, rfl, whole ns kept⟩
    exact (Option.some.inj spelled).symm

end Path

namespace FileTree

variable {root node : FileTree} {entries : List (String × FileTree)} {dir : Path} {name : String}

/-- A path that leads to a node unless it is too long. -/
structure Opens (root : FileTree) (path : Path) (node : FileTree) : Prop where
  short : path.IsShort → root.open? path = some node
  long : ¬ path.IsShort → root.open? path = none

theorem opens_join (here : root.open? dir = some (.folder entries)) (named : IsName name)
    (found : entries.lookup name = some node) (solid : ∀ target, node ≠ .link target) :
    root.Opens (dir.join (.ofString name)) node := by
  obtain ⟨absolute, -, names, place, spelled, resolved, stored⟩ := open?_eq_some.mp here
  constructor
  · intro short
    obtain ⟨ns, idle, rfl, skips, spelled'⟩ := Path.namesOf?_join absolute named spelled
    refine open?_eq_some.mpr ⟨Path.isAbsolute_join absolute named, short, _, place ++ [name],
      spelled', ?_, ?_⟩
    · exact resolve_onward maxLinks skips (fun _ => walk_name stored named found solid) resolved
    · rw [at?_child stored, found]
  · intro long
    cases opened : root.open? (dir.join (.ofString name)) with
    | none => rfl
    | some node => exact absurd (open?_eq_some.mp opened).2.1 long

theorem open?_slashes {n : Nat} (short : n < maxPathLength) :
    (folder entries).open? ⟨List.replicate (n + 1) Path.slash⟩ = some (folder entries) := by
  have parts : ∀ n, Text.splitOn Path.slash (List.replicate n Path.slash) =
      List.replicate (n + 1) [] := by
    intro n
    induction n with
    | zero => rfl
    | succ n ih => rw [List.replicate_succ, Text.splitOn, if_pos rfl, ih]; rfl
  have spelled : ∀ n, (List.replicate n []).mapM
      (fun part => (Text.decode? part).map String.ofList) = some (List.replicate n "") := by
    intro n
    induction n with
    | zero => rfl
    | succ n ih => rw [List.replicate_succ, List.mapM_cons, ih]; rfl
  have stays : ∀ n follow, (folder entries).walk follow [] (List.replicate n "") = some [] := by
    intro n follow
    induction n with
    | zero => rfl
    | succ n ih => simp [List.replicate_succ, walk, at?, ih]
  refine open?_eq_some.mpr ⟨rfl, ?_, List.replicate (n + 2) "", [], ?_, stays _ _, rfl⟩
  · rw [List.length_replicate]
    exact short
  · rw [namesOf?, parts, spelled]

theorem depth_lookup (found : entries.lookup name = some node) :
    node.depth ≤ depthOfEntries entries := by
  induction entries with
  | nil => cases found
  | cons e entries ih =>
    obtain ⟨other, child⟩ := e
    rw [List.lookup_cons] at found
    simp only [depthOfEntries]
    split at found
    · cases Option.some.inj found
      exact Nat.le_max_left _ _
    · exact Nat.le_trans (ih found) (Nat.le_max_right _ _)

theorem depth_at? {place : List String} (here : root.at? place = some node) :
    node.depth ≤ root.depth := by
  induction place generalizing root with
  | nil =>
    cases here
    exact Nat.le_refl _
  | cons name place ih =>
    obtain ⟨child, found, there⟩ := Option.bind_eq_some_iff.mp here
    cases root with
    | file _ | link _ | locked => cases found
    | folder entries =>
      have below := depth_lookup found
      have inner := ih there
      rw [depth]
      omega

theorem depth_open? (here : root.open? dir = some node) : node.depth ≤ root.depth := by
  obtain ⟨-, -, names, place, -, -, stored⟩ := open?_eq_some.mp here
  exact depth_at? stored

theorem lookup_of_mem (different : (entries.map Prod.fst).Nodup) (member : (name, node) ∈ entries) :
    entries.lookup name = some node := by
  induction entries with
  | nil => cases member
  | cons e entries ih =>
    obtain ⟨other, child⟩ := e
    obtain ⟨first, rest⟩ := List.nodup_cons.mp different
    rcases List.mem_cons.mp member with same | behind
    · cases same
      exact List.lookup_cons_self
    · have differs : (name == other) = false := by
        simp only [beq_eq_false_iff_ne]
        rintro rfl
        exact first (List.mem_map.mpr ⟨_, behind, rfl⟩)
      rw [List.lookup_cons, differs]
      exact ih rest behind

theorem wellNamed_file (text : Option String) : (file text).WellNamed := by
  intro place entries here
  cases place with
  | nil => cases here
  | cons name place => cases here

theorem wellNamed_link (target : String) : (link target).WellNamed := by
  intro place entries here
  cases place with
  | nil => cases here
  | cons name place => cases here

theorem wellNamed_folder : (folder entries).WellNamed ↔
    (entries.map Prod.fst).Nodup ∧ ∀ e ∈ entries, IsName e.1 ∧ e.2.WellNamed := by
  constructor
  · intro named
    obtain ⟨different, names⟩ := named [] entries rfl
    refine ⟨different, fun e member => ⟨names e member, ?_⟩⟩
    exact named.child (lookup_of_mem different member)
  · rintro ⟨different, each⟩ place inner here
    cases place with
    | nil =>
      cases here
      exact ⟨different, fun e member => (each e member).1⟩
    | cons name place =>
      obtain ⟨node, found, there⟩ := Option.bind_eq_some_iff.mp here
      obtain ⟨before, after, rfl, -⟩ := List.lookup_eq_some_iff.mp found
      exact (each (name, node) (by simp)).2 place inner there

theorem insertEntry_perm (e : Entry) (es : List Entry) : (insertEntry e es).Perm (e :: es) := by
  induction es with
  | nil => exact .refl _
  | cons d ds ih =>
    rw [insertEntry]
    split
    · exact .refl _
    · exact (ih.cons d).trans (.swap e d ds)

theorem mem_sortEntries {e : Entry} : e ∈ sortEntries entries ↔
    ∃ node, (e.name, node) ∈ entries ∧ (∀ target, node ≠ .link target) ∧
      e.isFolder = node.isFolder := by
  induction entries with
  | nil => simp [sortEntries]
  | cons d entries ih =>
    obtain ⟨name, child⟩ := d
    obtain ⟨shown, isFolder⟩ := e
    cases child with
    | link target =>
      simp [sortEntries, ih, or_and_right, exists_or]
    | file _ | folder _ | locked =>
      simp [sortEntries, (insertEntry_perm _ _).mem_iff, ih, or_and_right, exists_or, and_assoc,
        FileTree.isFolder]

theorem insertEntry_sorted {e : Entry} {es : List Entry}
    (sorted : es.Pairwise fun a b => a.name < b.name) (new : ∀ d ∈ es, d.name ≠ e.name) :
    (insertEntry e es).Pairwise fun a b => a.name < b.name := by
  induction es with
  | nil => exact List.pairwise_singleton _ _
  | cons d ds ih =>
    obtain ⟨first, rest⟩ := List.pairwise_cons.mp sorted
    have later : compare d.name e.name = .gt ↔ e.name < d.name :=
      compareOfLessAndEq_eq_gt String.le_antisymm String.le_total String.not_le _ _
    rw [insertEntry]
    split
    · rename_i gt
      have less := later.mp gt
      refine List.pairwise_cons.mpr ⟨?_, sorted⟩
      intro x member
      rcases List.mem_cons.mp member with rfl | member
      · exact less
      · exact String.lt_trans less (first x member)
    · rename_i le
      have less : d.name < e.name :=
        Std.lt_of_le_of_ne (String.not_lt.mp (mt later.mpr le)) (new d List.mem_cons_self)
      refine List.pairwise_cons.mpr ⟨?_, ih rest fun x member => new x (.tail _ member)⟩
      intro x member
      rcases List.mem_cons.mp ((insertEntry_perm e ds).mem_iff.mp member) with rfl | member
      · exact less
      · exact first x member

theorem mem_listing (named : (folder entries).WellNamed) {e : Entry} : e ∈ sortEntries entries ↔
    ∃ node, entries.lookup e.name = some node ∧ (∀ target, node ≠ .link target) ∧
      e.isFolder = node.isFolder := by
  rw [mem_sortEntries]
  constructor
  · rintro ⟨node, member, rest⟩
    exact ⟨node, lookup_of_mem (named [] entries rfl).1 member, rest⟩
  · rintro ⟨node, found, rest⟩
    obtain ⟨before, after, rfl, -⟩ := List.lookup_eq_some_iff.mp found
    exact ⟨node, by simp, rest⟩

theorem sortEntries_sorted (different : (entries.map Prod.fst).Nodup) :
    (sortEntries entries).Pairwise fun a b => a.name < b.name := by
  induction entries with
  | nil => exact .nil
  | cons d entries ih =>
    obtain ⟨name, child⟩ := d
    obtain ⟨first, rest⟩ := List.nodup_cons.mp different
    have new : ∀ e ∈ sortEntries entries, e.name ≠ name := by
      rintro e member rfl
      obtain ⟨node, listed, -⟩ := mem_sortEntries.mp member
      exact first (List.mem_map.mpr ⟨_, listed, rfl⟩)
    cases child with
    | link target => exact ih rest
    | file _ | folder _ | locked => exact insertEntry_sorted (ih rest) new

end FileTree

end EventXref
