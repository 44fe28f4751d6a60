import Mathlib.Data.List.Nodup
import EventXref.Event.Index

/-!
The index as a map from documents to what each contributed last. Places are kept by side and name as
ascending lists without repetition, so that they depend on the contributed occurrences alone.
-/
namespace EventXref

def Ascending {α : Type} [Ord α] (members : List α) : Prop :=
  members.Pairwise fun a b => compare a b = .lt

theorem Ascending.ext {α : Type} [Ord α] [Std.TransOrd α] {a b : List α} (ha : Ascending a)
    (hb : Ascending b) (same : ∀ x, x ∈ a ↔ x ∈ b) : a = b := by
  have distinct : ∀ {members : List α}, Ascending members → members.Nodup := by
    intro members ascending
    refine ascending.imp ?_
    intro x y less equal
    subst equal
    simp at less
  have perm := (List.perm_ext_iff_of_nodup (distinct ha) (distinct hb)).mpr same
  refine List.Perm.eq_of_pairwise ?_ ha hb perm
  intro x y _ _ less greater
  rw [Std.OrientedCmp.gt_of_lt less] at greater
  cases greater

namespace Location

instance : Std.TransOrd Location :=
  inferInstanceAs (Std.TransCmp (compareLex (compareOn uri) (compareOn position)))

instance : Std.LawfulEqOrd Location where
  compare_self := Std.ReflOrd.compare_self
  eq_of_compare {a b} same := by
    obtain ⟨uris, positions⟩ := Ordering.then_eq_eq.mp same
    have hu : a.uri = b.uri := Std.LawfulEqCmp.eq_of_compare uris
    have hp : a.position = b.position := Std.LawfulEqCmp.eq_of_compare positions
    cases a
    cases b
    simp_all

theorem mem_insert {l l' : Location} {places : List Location} :
    l' ∈ insert l places ↔ l' = l ∨ l' ∈ places := by
  induction places with
  | nil => simp [insert]
  | cons d ds ih =>
    simp only [insert]
    split
    · simp
    · rename_i same
      have equal : l = d := Std.LawfulEqCmp.eq_of_compare same
      simp [equal]
    · simp only [List.mem_cons, ih]
      tauto

theorem insert_ascending {places : List Location} (ascending : Ascending places) (l : Location) :
    Ascending (insert l places) := by
  induction places with
  | nil => exact List.pairwise_singleton _ _
  | cons d ds ih =>
    obtain ⟨first, rest⟩ := List.pairwise_cons.mp ascending
    simp only [insert]
    split
    · rename_i less
      refine List.pairwise_cons.mpr ⟨?_, ascending⟩
      intro e member
      rcases List.mem_cons.mp member with rfl | later
      · exact less
      · exact Std.TransCmp.lt_trans less (first e later)
    · exact ascending
    · rename_i greater
      refine List.pairwise_cons.mpr ⟨?_, ih rest⟩
      intro e member
      rcases mem_insert.mp member with rfl | later
      · exact Std.OrientedCmp.gt_iff_lt.mp greater
      · exact first e later

end Location

/-- What each document contributed last; documents without occurrences have no entry. -/
abbrev Contributions := Std.ExtTreeMap Uri (List Occurrence)

namespace Contributions

def replace (m : Contributions) (u : Uri) (found : List Occurrence) : Contributions :=
  if found.isEmpty then m.erase u else m.insert u found

def ofDocuments (documents : List (Uri × List Occurrence)) : Contributions :=
  documents.foldl (fun m (u, found) => m.replace u found) ∅

def Has (m : Contributions) (o : Occurrence) : Prop :=
  ∃ (u : Uri) (found : List Occurrence), m[u]? = some found ∧ o ∈ found

/-- Every contribution has occurrences, and they carry the URI it is filed under. -/
def Owned (m : Contributions) : Prop :=
  ∀ (u : Uri) (found : List Occurrence), m[u]? = some found → found ≠ [] ∧ ∀ o ∈ found, o.uri = u

variable {m m' : Contributions} {u u' : Uri} {found found' : List Occurrence} {o : Occurrence}

theorem getElem?_replace (m : Contributions) (u u' : Uri) (found : List Occurrence) :
    (m.replace u found)[u']? =
      if u = u' then (if found.isEmpty then none else some found) else m[u']? := by
  unfold replace
  split
  · rw [Std.ExtTreeMap.getElem?_erase]
    simp
  · rw [Std.ExtTreeMap.getElem?_insert]
    simp

theorem erase_absent (absent : m[u]? = none) : m.erase u = m := by
  apply Std.ExtTreeMap.ext_getElem?
  intro v
  rw [Std.ExtTreeMap.getElem?_erase]
  by_cases here : u = v
  · simp [← here, absent]
  · simp [here]

theorem Owned.has_iff (owned : m.Owned) :
    m.Has o ↔ ∃ found, m[o.uri]? = some found ∧ o ∈ found := by
  constructor
  · rintro ⟨u, found, stored, member⟩
    rw [(owned u found stored).2 o member]
    exact ⟨found, stored, member⟩
  · rintro ⟨found, stored, member⟩
    exact ⟨o.uri, found, stored, member⟩

/-- What a document has in all contributions is what it contributed itself. -/
theorem Owned.has_of_uri (owned : m.Owned) :
    m.Has o ∧ o.uri = u ↔ o ∈ m[u]?.getD [] ∧ o.uri = u := by
  rw [owned.has_iff]
  constructor
  · rintro ⟨⟨found, stored, member⟩, rfl⟩
    simpa [stored] using member
  · rintro ⟨member, rfl⟩
    cases stored : m[o.uri]? with
    | none => simp [stored] at member
    | some found => exact ⟨⟨found, rfl, by simpa [stored] using member⟩, rfl⟩

theorem Owned.mem_iff (owned : m.Owned) : u ∈ m ↔ ∃ o, m.Has o ∧ o.uri = u := by
  rw [Std.ExtTreeMap.mem_iff_isSome_getElem?]
  constructor
  · intro stored
    obtain ⟨found, stored⟩ := Option.isSome_iff_exists.mp stored
    obtain ⟨filled, own⟩ := owned u found stored
    obtain ⟨o, member⟩ := List.exists_mem_of_ne_nil _ filled
    exact ⟨o, ⟨u, found, stored, member⟩, own o member⟩
  · rintro ⟨o, has, rfl⟩
    obtain ⟨found, stored, -⟩ := owned.has_iff.mp has
    rw [stored]
    rfl

theorem Owned.replace (owned : m.Owned) (own : ∀ o ∈ found, o.uri = u) :
    (m.replace u found).Owned := by
  intro u' found' stored
  rw [getElem?_replace] at stored
  split at stored
  · rename_i same
    subst same
    split at stored
    · cases stored
    · rename_i filled
      cases Option.some.inj stored
      exact ⟨by simpa using filled, own⟩
  · exact owned u' found' stored

theorem Owned.has_replace (owned : m.Owned) (own : ∀ o ∈ found, o.uri = u) (o : Occurrence) :
    (m.replace u found).Has o ↔ if u = o.uri then o ∈ found else m.Has o := by
  rw [(owned.replace own).has_iff, owned.has_iff, getElem?_replace]
  split
  · cases found with
    | nil => simp
    | cons o' found => simp
  · rfl

theorem Owned.erase (owned : m.Owned) (u : Uri) : Owned (m.erase u) := by
  intro v found stored
  rw [Std.ExtTreeMap.getElem?_erase] at stored
  split at stored
  · cases stored
  · exact owned v found stored

theorem owned_empty : Owned ∅ := by
  intro u found stored
  simp at stored

theorem replace_comm (m : Contributions) (apart : u ≠ u') :
    (m.replace u found).replace u' found' = (m.replace u' found').replace u found := by
  apply Std.ExtTreeMap.ext_getElem?
  intro v
  simp only [getElem?_replace]
  by_cases first : u = v
  · have second : u' ≠ v := fun same => apart (first.trans same.symm)
    simp [first, second]
  · simp [first]

theorem foldl_replace_perm {documents documents' : List (Uri × List Occurrence)}
    (perm : documents.Perm documents') (distinct : (documents.map Prod.fst).Nodup)
    (m : Contributions) :
    documents.foldl (fun m (u, found) => m.replace u found) m =
      documents'.foldl (fun m (u, found) => m.replace u found) m := by
  refine perm.foldl_eq' ?_ m
  intro x hx y hy z
  by_cases same : x.1 = y.1
  · rw [List.inj_on_of_nodup_map distinct hx hy same]
  · exact replace_comm z same

end Contributions

namespace Index

variable {i : Index} {P : Occurrence → Prop}

theorem getElem?_side_update (i : Index) (kind kind' : EventKind) (name name' : String)
    (f : List Location → List Location) :
    ((i.update kind name f).side kind')[name']? =
      if kind = kind' ∧ name = name' then
        (if (f (i.locations kind name)).isEmpty then none else some (f (i.locations kind name)))
      else (i.side kind')[name']? := by
  cases kind <;> cases kind' <;> simp [update, locations, side, Std.ExtTreeMap.getElem?_alter]

theorem locations_update (i : Index) (kind kind' : EventKind) (name name' : String)
    (f : List Location → List Location) :
    (i.update kind name f).locations kind' name' =
      if kind = kind' ∧ name = name' then f (i.locations kind name)
      else i.locations kind' name' := by
  rw [locations, getElem?_side_update]
  split
  · split
    · rename_i nothing
      simpa using nothing.symm
    · rfl
  · rfl

/-- The places of each side are those of the occurrences that satisfy `P`. -/
structure Lists (i : Index) (P : Occurrence → Prop) : Prop where
  ascending : ∀ kind name, Ascending (i.locations kind name)
  mem : ∀ kind name l, l ∈ i.locations kind name ↔ P ⟨kind, name, l⟩
  filled : ∀ kind name, name ∈ i.side kind → i.locations kind name ≠ []

theorem Lists.update {Q : Occurrence → Prop} (lists : i.Lists P) (kind : EventKind) (name : String)
    {f : List Location → List Location} (ascending : Ascending (f (i.locations kind name)))
    (here : ∀ l, l ∈ f (i.locations kind name) ↔ Q ⟨kind, name, l⟩)
    (elsewhere : ∀ o, ¬ (kind = o.kind ∧ name = o.name) → (Q o ↔ P o)) :
    (i.update kind name f).Lists Q := by
  constructor
  · intro kind' name'
    rw [locations_update]
    split
    · exact ascending
    · exact lists.ascending kind' name'
  · intro kind' name' l
    rw [locations_update]
    split
    · rename_i same
      obtain ⟨rfl, rfl⟩ := same
      exact here l
    · rename_i other
      rw [elsewhere ⟨kind', name', l⟩ other]
      exact lists.mem kind' name' l
  · intro kind' name' member
    rw [Std.ExtTreeMap.mem_iff_isSome_getElem?, getElem?_side_update] at member
    rw [locations_update]
    split at member
    · rename_i same
      rw [if_pos same]
      split at member
      · cases member
      · rename_i some
        simpa using some
    · rename_i other
      rw [if_neg other]
      exact lists.filled kind' name' (Std.ExtTreeMap.mem_iff_isSome_getElem?.mpr member)

theorem Lists.addOccurrence (lists : i.Lists P) (o : Occurrence) :
    (i.addOccurrence o).Lists fun o' => o' = o ∨ P o' := by
  obtain ⟨kind, name, place⟩ := o
  apply lists.update
  · exact Location.insert_ascending (lists.ascending kind name) place
  · intro l
    rw [Location.mem_insert, lists.mem]
    simp
  · rintro ⟨kind', name', l⟩ other
    simp_all [eq_comm]

theorem Lists.dropOccurrence (lists : i.Lists P) (o : Occurrence) :
    (i.dropOccurrence o).Lists fun o' => o' ≠ o ∧ P o' := by
  obtain ⟨kind, name, place⟩ := o
  apply lists.update
  · exact (lists.ascending kind name).filter _
  · intro l
    rw [List.mem_filter, lists.mem]
    simp [and_comm]
  · rintro ⟨kind', name', l⟩ other
    simp_all [eq_comm]

theorem Lists.congr {Q : Occurrence → Prop} (lists : i.Lists P) (same : ∀ o, P o ↔ Q o) :
    i.Lists Q :=
  ⟨lists.ascending, fun kind name l => (lists.mem kind name l).trans (same _), lists.filled⟩

theorem Lists.withDocuments (lists : i.Lists P) (m : Contributions) :
    Lists { i with documents := m } P :=
  ⟨lists.ascending, lists.mem, lists.filled⟩

theorem Lists.addAll (lists : i.Lists P) (found : List Occurrence) :
    (found.foldl Index.addOccurrence i).Lists fun o => o ∈ found ∨ P o := by
  induction found generalizing i P with
  | nil => exact lists.congr (by simp)
  | cons o found ih =>
    refine (ih (lists.addOccurrence o)).congr ?_
    intro o'
    simp only [List.mem_cons]
    tauto

theorem Lists.dropAll (lists : i.Lists P) (found : List Occurrence) :
    (found.foldl Index.dropOccurrence i).Lists fun o => o ∉ found ∧ P o := by
  induction found generalizing i P with
  | nil => exact lists.congr (by simp)
  | cons o found ih =>
    refine (ih (lists.dropOccurrence o)).congr ?_
    intro o'
    simp only [List.mem_cons]
    tauto

theorem documents_update (i : Index) (kind : EventKind) (name : String)
    (f : List Location → List Location) : (i.update kind name f).documents = i.documents := by
  cases kind <;> rfl

theorem documents_addAll (i : Index) (found : List Occurrence) :
    (found.foldl Index.addOccurrence i).documents = i.documents := by
  induction found generalizing i with
  | nil => rfl
  | cons o found ih => exact (ih _).trans (documents_update i o.kind o.name _)

theorem documents_dropAll (i : Index) (found : List Occurrence) :
    (found.foldl Index.dropOccurrence i).documents = i.documents := by
  induction found generalizing i with
  | nil => rfl
  | cons o found ih => exact (ih _).trans (documents_update i o.kind o.name _)

/-- The index shows these contributions: it keeps them, and lists the places of their
occurrences. -/
structure Represents (i : Index) (m : Contributions) : Prop where
  documents : i.documents = m
  owned : m.Owned
  lists : i.Lists m.Has

section Represents

variable {m : Contributions} {u : Uri} {found : List Occurrence}

theorem represents_empty : empty.Represents ∅ := by
  refine ⟨rfl, Contributions.owned_empty, ?_, ?_, ?_⟩
  · intro kind name
    cases kind <;> simp [Ascending, locations, side, empty]
  · intro kind name l
    cases kind <;> simp [locations, side, empty, Contributions.Has]
  · intro kind name member
    cases kind <;> simp [side, empty] at member

theorem Represents.remove (shows : i.Represents m) (u : Uri) :
    (i.remove u).2.Represents (m.erase u) := by
  have owned := shows.owned.erase u
  unfold Index.remove
  rw [shows.documents]
  cases stored : m[u]? with
  | none => rwa [Contributions.erase_absent stored]
  | some found =>
    refine ⟨documents_dropAll _ _, owned, ?_⟩
    refine ((shows.lists.withDocuments (m.erase u)).dropAll found).congr ?_
    intro o
    rw [owned.has_iff, shows.owned.has_iff, Std.ExtTreeMap.getElem?_erase]
    -- Dropping is by equality alone; that it spares other documents is what ownership is for.
    by_cases here : u = o.uri
    · subst here
      simp [stored]
    · have other : o ∉ found := fun member => here ((shows.owned u found stored).2 o member).symm
      simp [here, other]

theorem Represents.add (shows : i.Represents m) (absent : m[u]? = none)
    (own : ∀ o ∈ found, o.uri = u) : (i.add u found).Represents (m.replace u found) := by
  have owned := shows.owned.replace own
  have lists : (found.foldl addOccurrence i).Lists (m.replace u found).Has := by
    refine (shows.lists.addAll found).congr ?_
    intro o
    rw [owned.has_iff, shows.owned.has_iff, Contributions.getElem?_replace]
    by_cases here : u = o.uri
    · subst here
      cases found with
      | nil => simp [absent]
      | cons o' found => simp [absent]
    · have other : o ∉ found := fun member => here (own o member).symm
      simp [here, other]
  have documents : (found.foldl addOccurrence i).documents = m :=
    (documents_addAll i found).trans shows.documents
  unfold Index.add
  split
  · rename_i nothing
    refine ⟨?_, owned, lists⟩
    rw [documents, Contributions.replace, if_pos nothing, Contributions.erase_absent absent]
  · rename_i filled
    refine ⟨?_, owned, lists.withDocuments _⟩
    simp only [documents, Contributions.replace, if_neg filled]

theorem Represents.replace (shows : i.Represents m) (own : ∀ o ∈ found, o.uri = u) :
    (i.replace u found).Represents (m.replace u found) := by
  have removed := (shows.remove u).add (u := u) (by simp) own
  have same : Contributions.replace (m.erase u) u found = m.replace u found := by
    apply Std.ExtTreeMap.ext_getElem?
    intro v
    rw [Contributions.getElem?_replace, Contributions.getElem?_replace,
      Std.ExtTreeMap.getElem?_erase]
    by_cases here : u = v
    · simp [here]
    · simp [here]
  rwa [same] at removed

theorem represents_ofDocuments {documents : List (Uri × List Occurrence)}
    (own : ∀ entry ∈ documents, ∀ o ∈ entry.2, o.uri = entry.1) :
    (ofDocuments documents).Represents (Contributions.ofDocuments documents) := by
  have run : ∀ (i : Index) (m : Contributions), i.Represents m →
      (documents.foldl (fun i (u, found) => i.replace u found) i).Represents
        (documents.foldl (fun m (u, found) => m.replace u found) m) := by
    induction documents with
    | nil => exact fun i m shows => shows
    | cons entry documents ih =>
      intro i m shows
      exact ih (fun e member => own e (.tail _ member)) _ _ (shows.replace (own entry (.head _)))
  exact run empty ∅ represents_empty

structure Agree (i j : Index) : Prop where
  locations : ∀ kind name, i.locations kind name = j.locations kind name
  lookup : ∀ kind name, i.lookup kind name = j.lookup kind name
  names : ∀ kind, i.names kind = j.names kind
  documentCount : i.documentCount = j.documentCount
  remove : ∀ u, (i.remove u).1 = (j.remove u).1

theorem Represents.mem_names (shows : i.Represents m) (kind : EventKind) (name : String) :
    name ∈ i.names kind ↔ ∃ l, m.Has ⟨kind, name, l⟩ := by
  rw [names, Std.ExtTreeMap.mem_keys]
  constructor
  · intro member
    obtain ⟨l, place⟩ := List.exists_mem_of_ne_nil _ (shows.lists.filled kind name member)
    exact ⟨l, (shows.lists.mem kind name l).mp place⟩
  · rintro ⟨l, has⟩
    have place := (shows.lists.mem kind name l).mpr has
    rw [Std.ExtTreeMap.mem_iff_isSome_getElem?]
    cases stored : (i.side kind)[name]? with
    | none => simp [Index.locations, stored] at place
    | some places => rfl

theorem Represents.removes_iff (shows : i.Represents m) (u : Uri) :
    (i.remove u).1 = true ↔ u ∈ m := by
  rw [Index.remove, shows.documents, Std.ExtTreeMap.mem_iff_isSome_getElem?]
  cases m[u]? <;> simp

/-- All answers depend on the occurrences that were contributed and on nothing else. -/
theorem Represents.agree {j : Index} {m' : Contributions} (left : i.Represents m)
    (right : j.Represents m') (same : ∀ o, m.Has o ↔ m'.Has o) : i.Agree j := by
  have locations : ∀ kind name, i.locations kind name = j.locations kind name := by
    intro kind name
    apply (left.lists.ascending kind name).ext (right.lists.ascending kind name)
    intro l
    rw [left.lists.mem, right.lists.mem, same]
  have members : ∀ u, u ∈ m ↔ u ∈ m' := by
    intro u
    rw [left.owned.mem_iff, right.owned.mem_iff]
    simp only [same]
  refine ⟨locations, fun kind name => locations kind.opposite name, ?_, ?_, ?_⟩
  · intro kind
    apply Ascending.ext Std.ExtTreeMap.ordered_keys Std.ExtTreeMap.ordered_keys
    intro name
    have here := left.mem_names kind name
    simp only [same] at here
    exact here.trans (right.mem_names kind name).symm
  · -- The maps may differ in order and repetition inside a contribution, their keys may not.
    have keys : m.keys = m'.keys := by
      apply Ascending.ext Std.ExtTreeMap.ordered_keys Std.ExtTreeMap.ordered_keys
      simpa [Std.ExtTreeMap.mem_keys] using members
    have sizes := congrArg List.length keys
    rw [Std.ExtTreeMap.length_keys, Std.ExtTreeMap.length_keys] at sizes
    rw [documentCount, documentCount, left.documents, right.documents, sizes]
  · intro u
    rw [Bool.eq_iff_iff, left.removes_iff, right.removes_iff, members]

end Represents

inductive Command where
  | replace (u : Uri) (found : List Occurrence)
  | remove (u : Uri)
  | clear
  | replaceAll (documents : List (Uri × List Occurrence))

namespace Command

def apply (i : Index) : Command → Index
  | .replace u found => i.replace u found
  | .remove u => (i.remove u).2
  | .clear => Index.empty
  | .replaceAll documents => ofDocuments documents

/-- What the command does to the map from documents to contributions. -/
def note (m : Contributions) : Command → Contributions
  | .replace u found => m.replace u found
  | .remove u => m.erase u
  | .clear => ∅
  | .replaceAll documents => Contributions.ofDocuments documents

/-- Every occurrence carries the URI it is filed under. -/
def IsOwn : Command → Prop
  | .replace u found => ∀ o ∈ found, o.uri = u
  | .replaceAll documents => ∀ entry ∈ documents, ∀ o ∈ entry.2, o.uri = entry.1
  | _ => True

theorem represents_apply {m : Contributions} (shows : i.Represents m) (c : Command)
    (own : c.IsOwn) : (c.apply i).Represents (c.note m) := by
  cases c with
  | replace u found => exact shows.replace own
  | remove u => exact shows.remove u
  | clear => exact represents_empty
  | replaceAll documents => exact represents_ofDocuments own

end Command

def run (commands : List Command) : Index := commands.foldl Command.apply empty

def noted (commands : List Command) : Contributions := commands.foldl Command.note ∅

theorem run_represents {commands : List Command} (own : ∀ c ∈ commands, c.IsOwn) :
    (run commands).Represents (noted commands) := by
  have steps : ∀ (i : Index) (m : Contributions), i.Represents m →
      (commands.foldl Command.apply i).Represents (commands.foldl Command.note m) := by
    induction commands with
    | nil => exact fun i m shows => shows
    | cons c commands ih =>
      intro i m shows
      exact ih (fun c' member => own c' (.tail _ member)) _ _
        (Command.represents_apply shows c (own c (.head _)))
  exact steps empty ∅ represents_empty

def contributing (documents : List (Uri × List Occurrence)) : List Command :=
  documents.map fun (u, found) => .replace u found

theorem noted_contributing (commands : List Command) (documents : List (Uri × List Occurrence)) :
    noted (commands ++ contributing documents) =
      documents.foldl (fun m (u, found) => m.replace u found) (noted commands) := by
  rw [noted, List.foldl_append, contributing, List.foldl_map]
  rfl

theorem agree_of_noted {commands others : List Command} (own : ∀ c ∈ commands, c.IsOwn)
    (own' : ∀ c ∈ others, c.IsOwn) (same : ∀ o, (noted commands).Has o ↔ (noted others).Has o) :
    (run commands).Agree (run others) :=
  (run_represents own).agree (run_represents own') same

theorem isOwn_append {commands others : List Command} (own : ∀ c ∈ commands, c.IsOwn)
    (own' : ∀ c ∈ others, c.IsOwn) : ∀ c ∈ commands ++ others, c.IsOwn := by
  intro c member
  rcases List.mem_append.mp member with here | there
  · exact own c here
  · exact own' c there

theorem isOwn_contributing {documents : List (Uri × List Occurrence)}
    (own : ∀ entry ∈ documents, ∀ o ∈ entry.2, o.uri = entry.1) :
    ∀ c ∈ contributing documents, c.IsOwn := by
  intro c member
  obtain ⟨entry, there, rfl⟩ := List.mem_map.mp member
  exact own entry there

theorem agree_of_same_members {commands : List Command} (own : ∀ c ∈ commands, c.IsOwn) {u : Uri}
    {found found' : List Occurrence} (here : ∀ o ∈ found, o.uri = u)
    (same : ∀ o, o ∈ found ↔ o ∈ found') :
    (run (commands ++ contributing [(u, found)])).Agree
      (run (commands ++ contributing [(u, found')])) := by
  have here' : ∀ o ∈ found', o.uri = u := fun o member => here o ((same o).mpr member)
  have owned := (run_represents own).owned
  apply agree_of_noted
  · exact isOwn_append own (isOwn_contributing (by simpa using here))
  · exact isOwn_append own (isOwn_contributing (by simpa using here'))
  · intro o
    rw [noted_contributing, noted_contributing]
    simp only [List.foldl_cons, List.foldl_nil]
    rw [owned.has_replace here, owned.has_replace here', same]

section Order

variable {commands : List Command} {documents documents' : List (Uri × List Occurrence)}

theorem agree_of_perm (own : ∀ c ∈ commands, c.IsOwn)
    (here : ∀ entry ∈ documents, ∀ o ∈ entry.2, o.uri = entry.1)
    (distinct : (documents.map Prod.fst).Nodup) (perm : documents.Perm documents') :
    (run (commands ++ contributing documents)).Agree
      (run (commands ++ contributing documents')) := by
  have here' : ∀ entry ∈ documents', ∀ o ∈ entry.2, o.uri = entry.1 :=
    fun entry member => here entry (perm.mem_iff.mpr member)
  apply agree_of_noted
  · exact isOwn_append own (isOwn_contributing here)
  · exact isOwn_append own (isOwn_contributing here')
  · intro o
    rw [noted_contributing, noted_contributing, Contributions.foldl_replace_perm perm distinct]

theorem run_replaceAll (commands : List Command) (documents : List (Uri × List Occurrence)) :
    run (commands ++ [.replaceAll documents]) = run ([] ++ contributing documents) := by
  simp only [run, List.foldl_append, List.foldl_cons, List.foldl_nil, contributing, List.foldl_map]
  rfl

end Order

/-- The index answers as the map from documents to their last contributions does. The answers depend
on the contributed occurrences alone: neither on how often a contribution repeats one, nor on the
order in which different documents contribute. -/
theorem run_answers_as_contributions (commands : List Command) (own : ∀ c ∈ commands, c.IsOwn) :
    (∀ kind name, Ascending ((run commands).locations kind name) ∧
      ∀ l, l ∈ (run commands).locations kind name ↔ (noted commands).Has ⟨kind, name, l⟩) ∧
    (∀ kind name, Ascending ((run commands).lookup kind name) ∧
      ∀ l, l ∈ (run commands).lookup kind name ↔ (noted commands).Has ⟨kind.opposite, name, l⟩) ∧
    (∀ kind, ((run commands).names kind).Pairwise (· < ·) ∧
      ∀ name, name ∈ (run commands).names kind ↔ ∃ l, (noted commands).Has ⟨kind, name, l⟩) ∧
    (run commands).documentCount = (noted commands).size ∧
    (∀ u, ((run commands).remove u).1 = true ↔ u ∈ noted commands) ∧
    (∀ others : List Command, (∀ c ∈ others, c.IsOwn) →
      (∀ o, (noted commands).Has o ↔ (noted others).Has o) → (run commands).Agree (run others)) ∧
    (∀ u found found', (∀ o ∈ found, o.uri = u) → (∀ o, o ∈ found ↔ o ∈ found') →
      (run (commands ++ contributing [(u, found)])).Agree
        (run (commands ++ contributing [(u, found')]))) ∧
    (∀ documents documents' : List (Uri × List Occurrence),
      (∀ entry ∈ documents, ∀ o ∈ entry.2, o.uri = entry.1) →
      (documents.map Prod.fst).Nodup → documents.Perm documents' →
      (run (commands ++ contributing documents)).Agree (run (commands ++ contributing documents')) ∧
      (run (commands ++ [.replaceAll documents])).Agree
        (run (commands ++ [.replaceAll documents']))) := by
  have shows := run_represents own
  refine ⟨fun kind name => ⟨shows.lists.ascending kind name, shows.lists.mem kind name⟩,
    fun kind name => ⟨shows.lists.ascending kind.opposite name, shows.lists.mem kind.opposite name⟩,
    fun kind => ⟨?_, shows.mem_names kind⟩, ?_, shows.removes_iff,
    fun others own' => agree_of_noted own own',
    fun u found found' => agree_of_same_members own, ?_⟩
  · refine Std.ExtTreeMap.ordered_keys.imp ?_
    intro a b less
    exact compareOfLessAndEq_eq_lt.mp less
  · rw [documentCount, shows.documents]
  · intro documents documents' here distinct perm
    refine ⟨agree_of_perm own here distinct perm, ?_⟩
    -- Replacing all is contributing to an empty index, so the history does not matter.
    rw [run_replaceAll, run_replaceAll]
    exact agree_of_perm (by simp) here distinct perm

/-- Two documents raise one event, the first of them twice at one place; then it goes. -/
def sharedEvent : List Command :=
  [.replace ⟨"file:///a"⟩
      [⟨.trigger, "saved", ⟨⟨"file:///a"⟩, ⟨0, 0⟩⟩⟩, ⟨.trigger, "saved", ⟨⟨"file:///a"⟩, ⟨0, 0⟩⟩⟩],
    .replace ⟨"file:///b"⟩ [⟨.trigger, "saved", ⟨⟨"file:///b"⟩, ⟨1, 2⟩⟩⟩],
    .remove ⟨"file:///a"⟩]

theorem run_answers_as_contributions_shared_event :
    (∀ c ∈ sharedEvent, c.IsOwn) ∧
      (∀ l, l ∈ (run sharedEvent).lookup .listener "saved" ↔ l = ⟨⟨"file:///b"⟩, ⟨1, 2⟩⟩) ∧
      ((run sharedEvent).remove ⟨"file:///b"⟩).1 = true ∧
      ¬ ((run sharedEvent).remove ⟨"file:///a"⟩).1 = true := by
  have own : ∀ c ∈ sharedEvent, c.IsOwn := by
    simp [sharedEvent, Command.IsOwn, Occurrence.uri]
  have left : noted sharedEvent = (∅ : Contributions).insert ⟨"file:///b"⟩
      [⟨.trigger, "saved", ⟨⟨"file:///b"⟩, ⟨1, 2⟩⟩⟩] := by
    apply Std.ExtTreeMap.ext_getElem?
    intro u
    simp only [sharedEvent, noted, List.foldl_cons, List.foldl_nil, Command.note,
      Std.ExtTreeMap.getElem?_erase, Contributions.getElem?_replace, Std.ExtTreeMap.getElem?_insert]
    by_cases gone : (⟨"file:///a"⟩ : Uri) = u
    · subst gone
      simp
    · simp [gone]
  obtain ⟨-, lookup, -, -, documents, -⟩ := run_answers_as_contributions sharedEvent own
  rw [left] at lookup documents
  refine ⟨own, ?_, ?_, ?_⟩
  · intro l
    rw [(lookup .listener "saved").2]
    simp [Contributions.Has, EventKind.opposite, Std.ExtTreeMap.getElem?_insert]
  · rw [documents]
    simp
  · rw [documents]
    simp

end Index

end EventXref
