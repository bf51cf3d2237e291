import RecordSheets.Proofs.Files.Making

/-!
# Trees that keep files

A tree may change and still keep the folders and the files of some kind that it had (`FileTree.KeepsFiles`): adding folders does so for
all files, and putting files of other kinds does so, too. Where files are kept they are read alike (`FileTree.KeepsFiles.read_join`).
Putting a file where it is changes nothing at all (`FileTree.put_file_self`).
-/

namespace RecordSheets

/-! ## Putting what is there -/

/-- A name keeps the node that it has. -/
theorem Node.setChild_lookup {name : String} {n : Node} {children : List (String × Node)} (h : children.lookup name = some n) :
    setChild name n children = children := by
  induction children with
  | nil => simp at h
  | cons x rest ih =>
    obtain ⟨other, m⟩ := x
    by_cases hname : other = name
    · subst hname
      rw [List.lookup_cons_self] at h
      rw [setChild, if_pos rfl, Option.some.inj h]
    · rw [List.lookup_cons, beq_false_of_ne (Ne.symm hname)] at h
      rw [setChild, if_neg hname, ih h]

/-- A node with a file put where the file is stays as it is. -/
theorem Node.put_file_self {n : Node} {q : Place} {content : Bytes} (h : n.at? q = some (.file content)) (hq : q ≠ []) :
    n.put (.file content) q = n := by
  induction q generalizing n with
  | nil => exact absurd rfl hq
  | cons name rest ih =>
    cases n with
    | file other => cases h
    | folder children =>
      rw [at?_folder_cons] at h
      obtain ⟨child, hchild, hrest⟩ := Option.bind_eq_some_iff.1 h
      cases rest with
      | nil =>
        obtain rfl : child = .file content := Option.some.inj hrest
        rw [put, ofEntry, setChild_lookup hchild]
      | cons next more =>
        simp only [put, hchild, ih hrest (List.cons_ne_nil next more), setChild_lookup hchild]

/-- A tree with a file put where the file is stays as it is. -/
theorem FileTree.put_file_self {t : FileTree} {q : Place} {content : Bytes} (h : t.look? q = some (.file content)) (hq : q ≠ []) :
    t.put q (.file content) = t := by
  have hat : (Node.folder t.root).at? q = some (.file content) := by
    rw [look?, at?] at h
    obtain ⟨n, hn, he⟩ := Option.map_eq_some_iff.1 h
    cases n with
    | file other =>
      cases he
      exact hn
    | folder children => cases he
  rw [put, Node.put_file_self hat hq]
  rfl

namespace FileTree

/-! ## Keeping files -/

/-- A tree keeps the folders of another one, and its files with names of some kind: it has no others of this kind. -/
structure KeepsFiles (kept : String → Prop) (t t' : FileTree) : Prop where
  /-- Every folder stays one. -/
  keepsFolders : KeepsFolders t t'
  /-- The files of the kind are the same ones. -/
  file : ∀ p name, kept name → ∀ content,
    t'.look? (p ++ [name]) = some (.file content) ↔ t.look? (p ++ [name]) = some (.file content)

theorem AddsFolders.keepsFiles {t t' : FileTree} (h : AddsFolders t t') (kept : String → Prop) : KeepsFiles kept t t' :=
  ⟨h.grows.keepsFolders, fun p name _ content => h.look?_file_iff (p ++ [name]) content⟩

/-- A path that leads to a folder leads to the same place where folders are kept. -/
theorem KeepsFolders.locate {t t' : FileTree} (h : KeepsFolders t t') {path : String} {d : Place}
    (hlocate : t.locate path = .ok d) (hd : t.isFolder d = true) : t'.locate path = .ok d := by
  rw [locate_eq_ok_iff] at hlocate ⊢
  rw [← origin_eq h.here]
  exact ⟨hlocate.1, h.follow hlocate.2 hd⟩

theorem KeepsFolders.hasFolder {t t' : FileTree} (h : KeepsFolders t t') {path : String} (hfolder : t.hasFolder path = true) :
    t'.hasFolder path = true := by
  obtain ⟨d, hlocate, hd⟩ := hasFolder_iff.1 hfolder
  exact hasFolder_iff.2 ⟨d, h.locate hlocate hd, h.isFolder d hd⟩

/-- A file is read if the path leads to one. -/
theorem read_eq_ok_iff {t : FileTree} {path : String} {content : Bytes} :
    t.read path = .ok content ↔ t.find path = .ok (.file content) := by
  unfold read
  cases t.find path with
  | error e => exact iff_of_false nofun nofun
  | ok e => cases e <;> simp [bind, Except.bind]

namespace KeepsFiles

variable {kept : String → Prop} {t t' t'' : FileTree}

theorem refl (kept : String → Prop) (t : FileTree) : KeepsFiles kept t t := ⟨⟨rfl, fun _ h => h⟩, fun _ _ _ _ => Iff.rfl⟩

theorem trans (h : KeepsFiles kept t t') (h' : KeepsFiles kept t' t'') : KeepsFiles kept t t'' :=
  ⟨⟨h.keepsFolders.here.trans h'.keepsFolders.here, fun p hp => h'.keepsFolders.isFolder p (h.keepsFolders.isFolder p hp)⟩,
    fun p name hname content => (h'.file p name hname content).trans (h.file p name hname content)⟩

/-- A file with a plain name of the kind that is kept is read alike. -/
theorem read_join (h : KeepsFiles kept t t') {name : String} (hkept : kept name) (hname : Path.Plain name) {dir : String}
    {content : Bytes} (hread : t.read (Path.join dir name) = .ok content) : t'.read (Path.join dir name) = .ok content := by
  rw [read_eq_ok_iff, find_join hname] at hread ⊢
  cases htarget : t.target dir name with
  | error e =>
    rw [htarget] at hread
    cases hread
  | ok q =>
    obtain ⟨d, hd, hfolder, rfl⟩ := target_eq_ok htarget
    rw [← h.keepsFolders.target hd hfolder name, htarget]
    rw [htarget] at hread
    cases hlook : t.look? (d ++ [name]) with
    | none => simp [Except.bind, entryAt, hlook] at hread
    | some e =>
      obtain rfl : e = .file content := by simpa [Except.bind, entryAt, hlook] using hread
      simp only [Except.bind, entryAt, (h.file d name hkept content).2 hlook]

end KeepsFiles

end FileTree

end RecordSheets
