import RecordSheets.Proofs.Files.Writing

/-!
# Trees of one shape

Two trees have one shape if they have files and folders at the same places (`SameShape`), whatever the files hold. A path is followed
alike in both, and a file can be put by it at the same place in both, or is refused for the same reason (`SameShape.slot`,
`SameShape.newSlot`). The trees still have one shape when files are put at one place (`SameShape.put`).
-/

namespace RecordSheets.FileTree

/-- Two trees have files and folders at the same places, and relative paths start from the same folder. -/
structure SameShape (t t' : FileTree) : Prop where
  /-- Relative paths start from the same folder. -/
  here : t.here = t'.here
  /-- There are the same folders. -/
  isFolder : ∀ q, t'.isFolder q = t.isFolder q
  /-- There is something at the same places. -/
  isSome : ∀ q, (t'.look? q).isSome = (t.look? q).isSome

namespace SameShape

theorem refl (t : FileTree) : SameShape t t := ⟨rfl, fun _ => rfl, fun _ => rfl⟩

variable {t t' : FileTree} (h : SameShape t t')
include h

/-- A place holds nothing in both trees, a folder in both, or a file in both. -/
theorem look?_cases (q : Place) :
    (t.look? q = none ∧ t'.look? q = none) ∨ (t.look? q = some .folder ∧ t'.look? q = some .folder) ∨
      ∃ content content', t.look? q = some (.file content) ∧ t'.look? q = some (.file content') := by
  have hfolder := h.isFolder q
  have hsome := h.isSome q
  unfold FileTree.isFolder at hfolder
  rcases hlook : t.look? q with _ | content | _ <;> rcases hlook' : t'.look? q with _ | content' | _ <;>
    simp [hlook, hlook'] at hfolder hsome ⊢

theorem step : t'.step = t.step := by
  funext p name
  rw [step_eq, step_eq, h.isSome]
  rcases h.look?_cases p with ⟨hp, hp'⟩ | ⟨hp, hp'⟩ | ⟨content, content', hp, hp'⟩ <;> rw [hp, hp']

theorem follow : t'.follow = t.follow := by
  funext p names
  rw [FileTree.follow, FileTree.follow, h.step]

theorem locate (path : String) : t'.locate path = t.locate path := by
  rw [FileTree.locate, FileTree.locate, h.follow, origin_eq h.here]

theorem site (path : String) : t'.site path = t.site path := by
  unfold FileTree.site
  rw [h.follow, origin_eq h.here]
  cases checkPath path with
  | error e => rfl
  | ok u =>
    cases hparent : t.follow (t'.origin path) (trimmedNames path).dropLast with
    | error e => simp only [hparent, bind, Except.bind]
    | ok parent =>
      simp only [hparent, bind, Except.bind]
      rcases h.look?_cases parent with ⟨hp, hp'⟩ | ⟨hp, hp'⟩ | ⟨content, content', hp, hp'⟩ <;> rw [hp, hp']

theorem slot (path : String) : t'.slot path = t.slot path := by
  simp only [FileTree.slot, h.site, h.isFolder]

theorem newSlot (path : String) : t'.newSlot path = t.newSlot path := by
  simp only [FileTree.newSlot, h.site, h.isSome]

theorem free {q : Place} (hq : t.Free q) : t'.Free q :=
  ⟨hq.ne_nil, (h.isFolder _).trans hq.inFolder, (h.isFolder q).trans hq.noFolder⟩

/-- Files put at one place leave the trees with one shape. -/
theorem put {q : Place} (hq : t.Free q) (content content' : Bytes) :
    SameShape (t.put q (.file content)) (t'.put q (.file content')) := by
  have hq' := h.free hq
  refine ⟨h.here, ?_, ?_⟩
  · intro p
    rw [hq'.isFolder_put, hq.isFolder_put, h.isFolder]
  · intro p
    rw [hq'.look?_put, hq.look?_put]
    split
    · rfl
    · exact h.isSome p

end SameShape

/-! ## Last names -/

/-- A path with a last name that moves leads to a place of this name. -/
theorem last_of_locate {t : FileTree} {path : String} {q : Place} (h : t.locate path = .ok q) {front : List String} {name : String}
    (hnames : Path.names path = front ++ [name]) (hmoves : Path.staysPut name = false) (hup : name ≠ "..") :
    ∃ d, q = d ++ [name] := by
  obtain ⟨-, hfollow⟩ := locate_eq_ok_iff.1 h
  rw [hnames, follow_append] at hfollow
  cases hd : t.follow (t.origin path) front with
  | error e =>
    rw [hd] at hfollow
    cases hfollow
  | ok d =>
    have hstep : t.step d name = .ok q := by
      rw [hd, Except.bind, follow_cons] at hfollow
      cases hstep : t.step d name with
      | error e =>
        rw [hstep] at hfollow
        cases hfollow
      | ok r =>
        rw [hstep] at hfollow
        exact hfollow
    have hfolder := isFolder_of_step hstep
    rw [step_moves hfolder hmoves hup] at hstep
    split at hstep
    · cases hstep
    · split at hstep
      · exact ⟨d, (Except.ok.inj hstep).symm⟩
      · cases hstep

/-- A file is put by a path under the last name of the path. -/
theorem last_of_slot {t : FileTree} {path : String} {q : Place} (h : t.slot path = .ok q) {front : List String} {name : String}
    (hnames : Path.names path = front ++ [name]) : ∃ d, q = d ++ [name] := by
  obtain ⟨s, hsite, hslashed, -, -, -, rfl⟩ := slot_eq_ok_iff.1 h
  obtain ⟨-, -, -, hname⟩ := site_eq_ok hsite
  refine ⟨s.parent, ?_⟩
  rw [Site.place, hname, ← names_of_not_slashed hsite hslashed, hnames, List.getLast?_concat, Option.getD_some]

end RecordSheets.FileTree
