import RecordSheets.Proofs.Files.Joined

/-!
# Trees that grow

A tree keeps its places if every place that held something still holds something and every folder stays one (`KeepsPlaces`). Every way
that could be followed leads where it led (`KeepsPlaces.follow`).

A tree has grown if every place that held something holds it still (`Grows`). Putting a file where nothing was is such a change, and
any number of such changes is one. Such a tree keeps its places, and every file is read as before (`Grows.read`).
-/

namespace RecordSheets.FileTree

/-! ## Keeping places -/

/-- Every place of a tree that holds something holds something in another tree, and every folder stays one. -/
structure KeepsPlaces (t t' : FileTree) : Prop extends KeepsFolders t t' where
  /-- Where something is, something stays. -/
  isSome : ∀ q, (t.look? q).isSome = true → (t'.look? q).isSome = true

namespace KeepsPlaces

variable {t t' : FileTree} (h : KeepsPlaces t t')
include h

theorem step {p q : Place} {name : String} (hs : t.step p name = .ok q) : t'.step p name = .ok q :=
  step_of_shows hs (h.isFolder p (isFolder_of_step hs)) (h.isSome q)

theorem follow {p q : Place} {names : List String} (hf : t.follow p names = .ok q) : t'.follow p names = .ok q := by
  induction names generalizing p with
  | nil => exact hf
  | cons name rest ih =>
    rw [follow_cons] at hf ⊢
    cases hs : t.step p name with
    | error e => simp [hs, Except.bind] at hf
    | ok r =>
      rw [hs] at hf
      rw [h.step hs]
      exact ih hf

end KeepsPlaces

/-! ## Growing -/

/-- Every place of a tree that holds something holds the same in another tree, where relative paths start from the same folder. -/
structure Grows (t t' : FileTree) : Prop where
  /-- Relative paths start from the same folder. -/
  here : t.here = t'.here
  /-- What is there stays. -/
  look? : ∀ q e, t.look? q = some e → t'.look? q = some e

namespace Grows

theorem refl (t : FileTree) : Grows t t := ⟨rfl, fun _ _ h => h⟩

theorem trans {t t' t'' : FileTree} (h : Grows t t') (h' : Grows t' t'') : Grows t t'' :=
  ⟨h.here.trans h'.here, fun q e hq => h'.look? q e (h.look? q e hq)⟩

variable {t t' : FileTree} (h : Grows t t')
include h

theorem keepsPlaces : KeepsPlaces t t' := by
  refine ⟨⟨h.here, ?_⟩, ?_⟩
  · intro q hq
    rw [isFolder_iff] at hq ⊢
    exact h.look? q .folder hq
  · intro q hq
    obtain ⟨e, he⟩ := Option.isSome_iff_exists.1 hq
    rw [h.look? q e he, Option.isSome_some]

theorem keepsFolders : KeepsFolders t t' := h.keepsPlaces.toKeepsFolders

theorem step {p q : Place} {name : String} (hs : t.step p name = .ok q) : t'.step p name = .ok q := h.keepsPlaces.step hs

theorem follow {p q : Place} {names : List String} (hf : t.follow p names = .ok q) : t'.follow p names = .ok q :=
  h.keepsPlaces.follow hf

/-- A path that led to something leads to the same. -/
theorem find {path : String} {e : Entry} (hf : t.find path = .ok e) : t'.find path = .ok e := by
  unfold FileTree.find locate at hf ⊢
  cases hcheck : checkPath path with
  | error err => simp [hcheck, bind, Except.bind] at hf
  | ok u =>
    cases hway : t.follow (t.origin path) (Path.names path) with
    | error err => simp [hcheck, hway, bind, Except.bind] at hf
    | ok q =>
      simp only [hcheck, hway, bind, Except.bind] at hf
      rw [origin_eq h.here] at hway
      simp only [bind, Except.bind, h.follow hway]
      cases hq : t.look? q with
      | none => simp [hq] at hf
      | some e' =>
        rw [hq] at hf
        rwa [h.look? q e' hq]

/-- A file that could be read has the same content. -/
theorem read {path : String} {content : Bytes} (hr : t.read path = .ok content) : t'.read path = .ok content := by
  unfold FileTree.read at hr ⊢
  cases hf : t.find path with
  | error e => simp [hf, bind, Except.bind] at hr
  | ok e =>
    rw [hf] at hr
    rwa [h.find hf]

end Grows

/-- A tree grows when a file is put where nothing was. -/
theorem Free.grows {t : FileTree} {q : Place} (h : t.Free q) (hnone : t.look? q = none) (content : Bytes) :
    Grows t (t.put q (.file content)) := by
  refine ⟨rfl, fun p e hp => ?_⟩
  have hne : p ≠ q := by
    rintro rfl
    rw [hnone] at hp
    cases hp
  rwa [h.look?_put, if_neg hne]

end RecordSheets.FileTree
