import RecordSheets.Proofs.Files.Resolve

/-!
# What a tree lists

The listing of what lies below a folder holds exactly what the tree shows there, each place with its entry (`FileTree.mem_below_iff`).
On a disk no name has a slash in it (`FileTree.SlashFree`); whether that is so can be decided by the listing of the root.
-/

namespace RecordSheets

namespace Node

/-- The walk through children starts with the name of one. -/
theorem ne_nil_of_mem_walkChildren {seen : List String} {children : List (String × Node)} {x : Place × Entry}
    (h : x ∈ walkChildren seen children) : x.1 ≠ [] := by
  induction children generalizing seen with
  | nil => simp [walkChildren] at h
  | cons first others ih =>
    obtain ⟨name, n⟩ := first
    rw [walkChildren] at h
    split at h
    · exact ih h
    · rw [List.cons_append, List.mem_cons, List.mem_append, List.mem_map] at h
      rcases h with rfl | ⟨y, -, rfl⟩ | h
      · simp
      · simp
      · exact ih h

mutual

/-- The walk through a node lists the places below it with what they hold. -/
theorem mem_walk_iff (n : Node) (q : Place) (e : Entry) :
    (q, e) ∈ n.walk ↔ q ≠ [] ∧ (n.at? q).map entry = some e := by
  match n with
  | .file content => cases q <;> simp [walk, at?]
  | .folder children =>
    cases q with
    | nil =>
      refine iff_of_false (fun h => ?_) (fun h => h.1 rfl)
      rw [walk] at h
      exact ne_nil_of_mem_walkChildren h rfl
    | cons name rest =>
      rw [walk, mem_walkChildren_iff, at?_folder_cons]
      simp

/-- The walk through the children of a folder lists what lies below the names that were not seen. -/
theorem mem_walkChildren_iff (seen : List String) (children : List (String × Node)) (name : String) (rest : Place)
    (e : Entry) :
    (name :: rest, e) ∈ walkChildren seen children ↔
      name ∉ seen ∧ ((children.lookup name).bind fun child => child.at? rest).map entry = some e := by
  match children with
  | [] => simp [walkChildren]
  | (first, n) :: others =>
    rw [walkChildren]
    split
    · rename_i hseen
      rw [mem_walkChildren_iff seen others]
      refine and_congr_right fun hname => ?_
      have hne : name ≠ first := fun h => hname (by simpa [h] using hseen)
      rw [List.lookup_cons, beq_false_of_ne hne]
    · rename_i hseen
      rw [List.cons_append, List.mem_cons, List.mem_append, List.mem_map, mem_walkChildren_iff (first :: seen) others,
        List.mem_cons, not_or]
      by_cases hname : name = first
      · subst hname
        have hwalk : (∃ x ∈ n.walk, (name :: x.1, x.2) = (name :: rest, e)) ↔ (rest, e) ∈ n.walk := by
          constructor
          · rintro ⟨x, hx, heq⟩
            cases heq
            exact hx
          · exact fun h => ⟨(rest, e), h, rfl⟩
        have hnew : name ∉ seen := by simpa using hseen
        rw [hwalk, mem_walk_iff n rest e, List.lookup_cons_self, Option.bind_some]
        cases rest with
        | nil => simp [at?, hnew, eq_comm]
        | cons next more => simp [hnew]
      · have hwalk : ¬∃ x ∈ n.walk, (first :: x.1, x.2) = (name :: rest, e) := by
          rintro ⟨x, -, heq⟩
          cases heq
          exact hname rfl
        have hhead : (name :: rest, e) ≠ ([first], n.entry) := by
          intro heq
          cases heq
          exact hname rfl
        rw [or_iff_right hhead, or_iff_right hwalk, and_iff_right hname, List.lookup_cons, beq_false_of_ne hname]

end

end Node

namespace FileTree

/-- What is listed below a place is what the tree shows below it. -/
theorem mem_below_iff {t : FileTree} {p q : Place} {e : Entry} :
    (q, e) ∈ t.below p ↔ q ≠ [] ∧ t.look? (p ++ q) = some e := by
  rw [below, look?, at?, at?, Node.at?_append]
  cases (Node.folder t.root).at? p with
  | none => simp
  | some n => simpa using Node.mem_walk_iff n q e

/-- No name in the tree has a slash in it. -/
def SlashFree (t : FileTree) : Prop := ∀ p e, t.look? p = some e → ∀ name ∈ p, '/' ∉ name.toList

/-- Whether names have slashes is seen by the listing of the root. -/
theorem slashFree_iff {t : FileTree} : t.SlashFree ↔ ∀ x ∈ t.below [], ∀ name ∈ x.1, '/' ∉ name.toList := by
  constructor
  · intro h x hx
    exact h x.1 x.2 (mem_below_iff.1 hx).2
  · intro h p e hp
    cases p with
    | nil => exact fun name hname => absurd hname List.not_mem_nil
    | cons first rest => exact h (first :: rest, e) (mem_below_iff.2 ⟨by simp, hp⟩)

instance (t : FileTree) : Decidable t.SlashFree := decidable_of_iff _ slashFree_iff.symm

end FileTree

end RecordSheets
