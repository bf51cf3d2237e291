import Mathlib.Data.List.Lex
import Mathlib.Data.List.Nodup
import RecordSheets.Proofs.Files.Walk
import RecordSheets.Proofs.Text.ByteOrder

/-!
# The order of files

Places are compared name by name, and names by their bytes (`Place.Before`), so what lies in a folder stands where the name of the
folder stands. The files below a folder are listed in this order, each once (`FileTree.pairwise_filesBelow`): they are listed at
all exactly if the tree shows them (`FileTree.mem_filesBelow_iff`).
-/

namespace RecordSheets

/-! ## Places -/

/-- A place comes before another one: it is a part of the way there, or at the first name that differs its name has the smaller
bytes. -/
def Place.Before (p q : Place) : Prop := p.map Utf8.encode < q.map Utf8.encode

namespace Place

instance (p q : Place) : Decidable (p.Before q) := inferInstanceAs (Decidable (p.map Utf8.encode < q.map Utf8.encode))

/-- Comparing names by their bytes is comparing them as texts. -/
theorem before_iff_lt (p q : Place) : p.Before q ↔ p < q := by
  unfold Before
  induction p generalizing q with
  | nil => cases q <;> simp
  | cons a p ih =>
    cases q with
    | nil => simp
    | cons b q =>
      have hinj : Utf8.encode a = Utf8.encode b ↔ a = b := by
        constructor
        · intro h
          rcases lt_trichotomy a b with hlt | heq | hgt
          · exact absurd ((Utf8.encode_lt_iff a b).2 hlt) (by rw [h]; exact List.lt_irrefl _)
          · exact heq
          · exact absurd ((Utf8.encode_lt_iff b a).2 hgt) (by rw [h]; exact List.lt_irrefl _)
        · exact congrArg _
      rw [List.map_cons, List.map_cons, List.cons_lt_cons_iff, List.cons_lt_cons_iff, Utf8.encode_lt_iff, hinj, ih]

theorem Before.ne {p q : Place} (h : p.Before q) : p ≠ q := by
  rintro rfl
  exact lt_irrefl p ((before_iff_lt p p).1 h)

/-- Of two places one comes first. -/
theorem before_trichotomy (p q : Place) : p.Before q ∨ p = q ∨ q.Before p := by
  rw [before_iff_lt, before_iff_lt]
  exact lt_trichotomy p q

theorem Before.asymm {p q : Place} (h : p.Before q) : ¬ q.Before p := by
  rw [before_iff_lt] at h ⊢
  exact lt_asymm h

end Place

namespace FileTree

/-- The order in which files are listed puts no place behind one that comes after it. -/
theorem Place.le_iff (p q : Place) : Place.le p q = true ↔ ¬ q.Before p := by
  rw [RecordSheets.Place.before_iff_lt]
  induction p generalizing q with
  | nil => exact iff_of_true rfl (List.not_lt_nil q)
  | cons a p ih =>
    cases q with
    | nil => exact iff_of_false Bool.false_ne_true (fun h => h (List.nil_lt_cons a p))
    | cons b q =>
      rw [Place.le, Bool.or_eq_true, Bool.and_eq_true, decide_eq_true_iff, beq_iff_eq, ih, List.cons_lt_cons_iff]
      rcases lt_trichotomy a b with hlt | rfl | hgt
      · exact iff_of_true (.inl hlt) (by rintro (h | ⟨rfl, -⟩); exacts [lt_asymm h hlt, lt_irrefl _ hlt])
      · simp
      · exact iff_of_false (by rintro (h | ⟨rfl, -⟩); exacts [lt_asymm h hgt, lt_irrefl _ hgt]) (fun h => h (.inl hgt))

end FileTree

/-! ## Walking through a tree -/

namespace Node

mutual

/-- The walk through a node comes to each place once. -/
theorem nodup_walk (n : Node) : (n.walk.map Prod.fst).Nodup := by
  match n with
  | .file content => exact List.nodup_nil
  | .folder children => exact nodup_walkChildren [] children

/-- The walk through the children of a folder comes to each place once. -/
theorem nodup_walkChildren (seen : List String) (children : List (String × Node)) :
    ((walkChildren seen children).map Prod.fst).Nodup := by
  match children with
  | [] => exact List.nodup_nil
  | (name, n) :: rest =>
    rw [walkChildren]
    split
    · exact nodup_walkChildren seen rest
    · rw [List.map_append, List.map_cons, List.map_map, List.nodup_append]
      refine ⟨?_, nodup_walkChildren (name :: seen) rest, ?_⟩
      · have hbelow : [name] ∉ n.walk.map (fun x => name :: x.1) := by
          intro h
          obtain ⟨x, hx, heq⟩ := List.mem_map.1 h
          exact ((mem_walk_iff n x.1 x.2).1 hx).1 (List.cons.inj heq).2
        have hinner : (n.walk.map fun x => name :: x.1).Nodup := by
          have hmap := (nodup_walk n).map (List.cons_injective (a := name))
          rwa [List.map_map] at hmap
        exact List.nodup_cons.2 ⟨hbelow, hinner⟩
      · intro p hp q hq heq
        obtain ⟨tail, rfl⟩ : ∃ tail, p = name :: tail := by
          rcases List.mem_cons.1 hp with rfl | hp
          · exact ⟨[], rfl⟩
          · obtain ⟨x, -, rfl⟩ := List.mem_map.1 hp
            exact ⟨x.1, rfl⟩
        obtain ⟨y, hy, rfl⟩ := List.mem_map.1 hq
        obtain ⟨r, e⟩ := y
        obtain rfl : name :: tail = r := heq
        exact ((mem_walkChildren_iff (name :: seen) rest name tail e).1 hy).1 List.mem_cons_self

end

end Node

namespace FileTree

/-- The files that are listed below a place are those that the tree shows below it. -/
theorem mem_filesBelow_iff {t : FileTree} {p q : Place} :
    q ∈ t.filesBelow p ↔ q ≠ [] ∧ ∃ content, t.look? (p ++ q) = some (.file content) := by
  rw [filesBelow, List.mem_mergeSort, List.mem_filterMap]
  constructor
  · rintro ⟨x, hx, hfile⟩
    obtain ⟨r, e⟩ := x
    obtain ⟨hne, hlook⟩ := mem_below_iff.1 hx
    cases e with
    | folder => simp at hfile
    | file content =>
      obtain rfl : r = q := by simpa using hfile
      exact ⟨hne, content, hlook⟩
  · rintro ⟨hne, content, hlook⟩
    exact ⟨(q, .file content), mem_below_iff.2 ⟨hne, hlook⟩, by simp⟩

/-- The files below a place are listed in order, each once. -/
theorem pairwise_filesBelow (t : FileTree) (p : Place) : (t.filesBelow p).Pairwise RecordSheets.Place.Before := by
  have hsorted : (t.filesBelow p).Pairwise fun a b => Place.le a b = true := by
    refine List.pairwise_mergeSort (fun a b c hab hbc => ?_) (fun a b => ?_) _
    · rw [Place.le_iff, RecordSheets.Place.before_iff_lt, not_lt] at hab hbc ⊢
      exact le_trans hab hbc
    · rw [Bool.or_eq_true, Place.le_iff, Place.le_iff, ← not_and_or]
      exact fun h => h.1.asymm h.2
  have hnodup : (t.filesBelow p).Nodup := by
    rw [filesBelow, (List.mergeSort_perm _ _).nodup_iff]
    have hbelow : ((t.below p).map Prod.fst).Nodup := by
      rw [below]
      cases t.at? p with
      | none => exact List.nodup_nil
      | some n => exact Node.nodup_walk n
    refine (List.pairwise_map.1 hbelow).filterMap _ fun x y hxy a ha b hb => ?_
    have hplace : ∀ {z : Place × Entry} {r : Place}, (if z.2 = .folder then none else some z.1) = some r → z.1 = r := by
      intro z r h
      split at h
      · cases h
      · exact Option.some.inj h
    rwa [← hplace ha, ← hplace hb]
  refine (hsorted.and hnodup).imp fun {a b} h => ?_
  obtain ⟨hle, hne⟩ := h
  rcases RecordSheets.Place.before_trichotomy a b with hbefore | heq | hbehind
  · exact hbefore
  · exact absurd heq hne
  · exact absurd hbehind ((Place.le_iff a b).1 hle)

end FileTree

end RecordSheets
