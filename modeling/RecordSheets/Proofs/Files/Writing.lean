import RecordSheets.Proofs.Files.Making

/-!
# Writing files by path

A path lets a file be put at one place, or at none (`slot`, and `newSlot` where nothing may be there): a file is written there and
nowhere else (`write_eq`, `writeNew_eq`), and then the path leads to it (`locate_of_slot`). Which place it is depends on the folders of
the tree alone, so a path that is refused stays refused whatever files are written (`refuses_congr`).

`WritesOnly` is the frame of any number of writes: the folders are the same ones, nothing is lost, and whatever looks different lies
where one of the paths leads. It composes, so the frame of a run is put together from those of its steps.
-/

namespace RecordSheets.FileTree

/-! ## The place of a file to be written -/

/-- The place at which a path lets a file be put, perhaps instead of one that is there. -/
def slot (t : FileTree) (path : String) : Except SystemError Place :=
  (t.site path).bind fun s =>
    if s.slashed || s.isDots then .error .isDirectory
    else if nameLimit < s.name.utf8ByteSize then .error .nameTooLong
    else if t.isFolder s.place then .error .isDirectory
    else .ok s.place

/-- The place at which a path lets a file be put where nothing is. -/
def newSlot (t : FileTree) (path : String) : Except SystemError Place :=
  (t.site path).bind fun s =>
    if s.isDots then .error .alreadyThere
    else if s.slashed then .error .isDirectory
    else if nameLimit < s.name.utf8ByteSize then .error .nameTooLong
    else if (t.look? s.place).isSome then .error .alreadyThere
    else .ok s.place

/-- A file is written at the place that its path has for it. -/
theorem write_eq (t : FileTree) (path : String) (content : Bytes) :
    t.write path content = (t.slot path).map fun q => t.put q (.file content) := by
  unfold write slot
  cases t.site path with
  | error e => rfl
  | ok s =>
    simp only [bind, Except.bind]
    split
    · rfl
    · split
      · rfl
      · split <;> rfl

theorem writeNew_eq (t : FileTree) (path : String) (content : Bytes) :
    t.writeNew path content = (t.newSlot path).map fun q => t.put q (.file content) := by
  unfold writeNew newSlot
  cases t.site path with
  | error e => rfl
  | ok s =>
    simp only [bind, Except.bind]
    split
    · rfl
    · split
      · rfl
      · split
        · rfl
        · split <;> rfl

/-- A path has a place for a file if its site has a short name that is no dots and no folder, with no slash behind it. -/
theorem slot_eq_ok_iff {t : FileTree} {path : String} {q : Place} :
    t.slot path = .ok q ↔ ∃ s, t.site path = .ok s ∧ s.slashed = false ∧ s.isDots = false ∧
      s.name.utf8ByteSize ≤ nameLimit ∧ t.isFolder s.place = false ∧ s.place = q := by
  unfold slot
  cases hsite : t.site path with
  | error e => simp [Except.bind]
  | ok s =>
    simp only [Except.bind, Except.ok.injEq, exists_eq_left']
    split
    · rename_i hdots
      rcases Bool.or_eq_true_iff.1 hdots with h | h <;> simp [h]
    · rename_i hdots
      rw [Bool.or_eq_true, not_or, Bool.not_eq_true, Bool.not_eq_true] at hdots
      split
      · rename_i hlong
        simp [Nat.not_le.2 hlong]
      · rename_i hshort
        split
        · rename_i hfolder
          simp [hfolder]
        · rename_i hfolder
          simp [hdots, Nat.not_lt.1 hshort, hfolder]

/-- Where nothing is, a file may be put as well as instead of one. -/
theorem slot_of_newSlot {t : FileTree} {path : String} {q : Place} (h : t.newSlot path = .ok q) :
    t.slot path = .ok q ∧ t.look? q = none := by
  unfold newSlot at h
  cases hsite : t.site path with
  | error e => simp [hsite, Except.bind] at h
  | ok s =>
    simp only [hsite, Except.bind] at h
    split at h
    · cases h
    · rename_i hdots
      split at h
      · cases h
      · rename_i hslashed
        split at h
        · cases h
        · rename_i hshort
          split at h
          · cases h
          · rename_i hnone
            cases h
            have hlook : t.look? s.place = none := by simpa using hnone
            have hfolder : t.isFolder s.place = false := by simp [isFolder, hlook]
            refine ⟨slot_eq_ok_iff.2 ⟨s, hsite, ?_, ?_, Nat.not_lt.1 hshort, hfolder, rfl⟩, hlook⟩
            · simpa using hslashed
            · simpa using hdots

/-- The place of a file to be written is free for it. -/
theorem free_of_slot {t : FileTree} {path : String} {q : Place} (h : t.slot path = .ok q) : t.Free q := by
  obtain ⟨s, hsite, -, -, -, hno, rfl⟩ := slot_eq_ok_iff.1 h
  obtain ⟨-, -, hparent, -⟩ := site_eq_ok hsite
  refine ⟨by simp [Site.place], ?_, hno⟩
  rwa [Site.place, List.dropLast_concat]

/-- The place of a file by a joined path is that of the name, unless a folder is there. -/
theorem slot_join {name : String} (h : Path.Plain name) (t : FileTree) (dir : String) :
    t.slot (Path.join dir name) = (t.target dir name).bind fun q => if t.isFolder q then .error .isDirectory else .ok q := by
  refine site_bind h t dir ?_
  intro d
  rw [isDots_of_plain h, Bool.or_false, if_neg (by simp)]
  rfl

/-- The place of a new file by a joined path is that of the name, unless something is there. -/
theorem newSlot_join {name : String} (h : Path.Plain name) (t : FileTree) (dir : String) :
    t.newSlot (Path.join dir name) =
      (t.target dir name).bind fun q => if (t.look? q).isSome then .error .alreadyThere else .ok q := by
  refine site_bind h t dir ?_
  intro d
  rw [isDots_of_plain h, if_neg (by simp), if_neg (by simp)]
  rfl

/-- Where folders are kept, a path that had a place for a file leads there if there is something, and to nothing otherwise. -/
theorem locate_slot {t t' : FileTree} {path : String} {q : Place} (h : t.slot path = .ok q) (hkeeps : t.KeepsFolders t') :
    t'.locate path = if (t'.look? q).isSome then .ok q else .error .notFound := by
  obtain ⟨s, hsite, hslashed, hdots, hshort, -, rfl⟩ := slot_eq_ok_iff.1 h
  obtain ⟨hcheck, hparent, hfolder, -⟩ := site_eq_ok hsite
  obtain ⟨hlast, hmoves, hup⟩ := moves_of_site hsite hdots
  have hnames : Path.names path = trimmedNames path := names_of_not_slashed hsite hslashed
  have hstep : t'.step s.parent s.name = if (t'.look? s.place).isSome then .ok s.place else .error .notFound := by
    rw [step_moves (hkeeps.isFolder _ hfolder) hmoves hup, if_neg (Nat.not_lt.2 hshort)]
    rfl
  rw [locate, hcheck, hnames, hlast, ← origin_eq hkeeps.here]
  simp only [bind, Except.bind]
  rw [follow_append, hkeeps.follow hparent hfolder, Except.bind, follow_cons, hstep]
  split <;> rfl

/-- Where folders are kept, a path leads to the place of its file as soon as there is something. -/
theorem locate_of_slot {t t' : FileTree} {path : String} {q : Place} (h : t.slot path = .ok q) (hkeeps : t.KeepsFolders t')
    (hthere : (t'.look? q).isSome = true) : t'.locate path = .ok q := by
  rw [locate_slot h hkeeps, if_pos hthere]

/-- Where a new file may be put, the path leads to nothing yet. -/
theorem find_of_newSlot {t : FileTree} {path : String} {q : Place} (h : t.newSlot path = .ok q) :
    t.find path = .error .notFound := by
  obtain ⟨hslot, hnone⟩ := slot_of_newSlot h
  have hlocate : t.locate path = .error .notFound := by
    rw [locate_slot hslot ⟨rfl, fun _ hq => hq⟩, hnone]
    rfl
  rw [find, hlocate]
  rfl

/-- A file that was put at the place of its path is read by it. -/
theorem read_put {t : FileTree} {path : String} {q : Place} (h : t.slot path = .ok q) (content : Bytes) :
    (t.put q (.file content)).read path = .ok content := by
  have hfree := free_of_slot h
  have hlook : (t.put q (.file content)).look? q = some (.file content) := by rw [hfree.look?_put, if_pos rfl]
  have hlocate := locate_of_slot h (hfree.keepsFolders content) (by rw [hlook, Option.isSome_some])
  rw [read, find, hlocate]
  simp only [bind, Except.bind, hlook]

/-- Where folders are kept, a path has the place that it had for a file, unless a folder is there. -/
theorem KeepsFolders.slot {t t' : FileTree} (h : t.KeepsFolders t') {path : String} {q : Place} (hslot : t.slot path = .ok q)
    (hno : t'.isFolder q = false) : t'.slot path = .ok q := by
  obtain ⟨s, hsite, hslashed, hdots, hshort, -, rfl⟩ := slot_eq_ok_iff.1 hslot
  obtain ⟨hcheck, hparent, hfolder, hname⟩ := site_eq_ok_iff.1 hsite
  have hsite' : t'.site path = .ok s := by
    rw [site_eq_ok_iff, ← origin_eq h.here]
    exact ⟨hcheck, h.follow hparent hfolder, h.isFolder _ hfolder, hname⟩
  exact slot_eq_ok_iff.2 ⟨s, hsite', hslashed, hdots, hshort, hno, rfl⟩

/-! ## Paths that are refused -/

/-- No file can be written by a path, whatever its content. -/
def Refuses (t : FileTree) (path : String) : Prop := ∃ e, ∀ content, t.write path content = .error e

/-- A path that is refused has no place for a file. -/
theorem refuses_iff {t : FileTree} {path : String} : t.Refuses path ↔ ∀ q, t.slot path ≠ .ok q := by
  unfold Refuses
  simp only [write_eq]
  cases t.slot path with
  | error e => exact iff_of_true ⟨e, fun _ => rfl⟩ nofun
  | ok q =>
    refine iff_of_false ?_ fun h => h q rfl
    rintro ⟨e, he⟩
    cases he []

/-- A file is written by a path, or the path is refused. -/
theorem write_cases (t : FileTree) (path : String) (content : Bytes) :
    (∃ e, t.write path content = .error e ∧ t.Refuses path) ∨
      ∃ q, t.write path content = .ok (t.put q (.file content)) ∧ t.slot path = .ok q ∧ ¬t.Refuses path := by
  rw [refuses_iff, write_eq]
  cases t.slot path with
  | error e => exact .inl ⟨e, rfl, nofun⟩
  | ok q => exact .inr ⟨q, rfl, rfl, fun h => h q rfl⟩

/-- In trees with the same folders a path has the same place for a file. -/
theorem slot_of_folders {t t' : FileTree} (h : t.KeepsFolders t') (hback : t'.KeepsFolders t) {path : String} {q : Place}
    (hslot : t.slot path = .ok q) : t'.slot path = .ok q := by
  refine h.slot hslot ?_
  cases hfolder : t'.isFolder q with
  | false => rfl
  | true => rw [← (free_of_slot hslot).noFolder, hback.isFolder q hfolder]

/-- Which paths are refused depends on the folders alone. -/
theorem refuses_congr {t t' : FileTree} (h : t.KeepsFolders t') (hback : t'.KeepsFolders t) (path : String) :
    t'.Refuses path ↔ t.Refuses path := by
  rw [refuses_iff, refuses_iff]
  constructor
  · intro hno q hq
    exact hno q (slot_of_folders h hback hq)
  · intro hno q hq
    exact hno q (slot_of_folders hback h hq)

/-! ## The frame of writes -/

/-- A tree is another one after files were written by some paths: it has the same folders and everything that was there, and where it
looks different one of the paths leads. -/
structure WritesOnly (paths : String → Prop) (t t' : FileTree) : Prop extends KeepsPlaces t t' where
  /-- There are no new folders. -/
  noFolder : ∀ q, t'.isFolder q = true → t.isFolder q = true
  /-- What looks different lies where a path leads. -/
  changed : ∀ q, t'.look? q ≠ t.look? q → ∃ path, paths path ∧ t'.locate path = .ok q

theorem KeepsPlaces.locate {t t' : FileTree} (h : t.KeepsPlaces t') {path : String} {q : Place} (hlocate : t.locate path = .ok q) :
    t'.locate path = .ok q := by
  rw [locate_eq_ok_iff] at hlocate ⊢
  rw [← origin_eq h.here]
  exact ⟨hlocate.1, h.follow hlocate.2⟩

namespace WritesOnly

variable {paths paths' : String → Prop} {t t' t'' : FileTree}

theorem refl (paths : String → Prop) (t : FileTree) : WritesOnly paths t t :=
  ⟨⟨⟨rfl, fun _ h => h⟩, fun _ h => h⟩, fun _ h => h, fun _ h => absurd rfl h⟩

theorem mono (h : WritesOnly paths t t') (hpaths : ∀ path, paths path → paths' path) : WritesOnly paths' t t' := by
  refine ⟨h.toKeepsPlaces, h.noFolder, ?_⟩
  intro q hq
  obtain ⟨path, hpath, hlocate⟩ := h.changed q hq
  exact ⟨path, hpaths path hpath, hlocate⟩

/-- Writes after writes are writes. A path that led to a file still leads to it after the later ones. -/
theorem trans (h : WritesOnly paths t t') (h' : WritesOnly paths t' t'') : WritesOnly paths t t'' := by
  refine ⟨⟨⟨h.here.trans h'.here, ?_⟩, ?_⟩, ?_, ?_⟩
  · intro q hq
    exact h'.isFolder q (h.isFolder q hq)
  · intro q hq
    exact h'.isSome q (h.isSome q hq)
  · intro q hq
    exact h.noFolder q (h'.noFolder q hq)
  · intro q hq
    by_cases hlater : t''.look? q = t'.look? q
    · rw [hlater] at hq
      obtain ⟨path, hpath, hlocate⟩ := h.changed q hq
      exact ⟨path, hpath, h'.toKeepsPlaces.locate hlocate⟩
    · exact h'.changed q hlater

/-- A file put at the place that a path has for it is a write by this path. -/
theorem of_slot {path : String} {q : Place} (h : t.slot path = .ok q) (hpath : paths path) (content : Bytes) :
    WritesOnly paths t (t.put q (.file content)) := by
  have hfree := free_of_slot h
  refine ⟨⟨hfree.keepsFolders content, ?_⟩, ?_, ?_⟩
  · intro p hp
    rw [hfree.look?_put]
    split
    · rfl
    · exact hp
  · intro p hp
    rwa [hfree.isFolder_put] at hp
  · intro p hp
    rw [hfree.look?_put] at hp
    by_cases heq : p = q
    · subst heq
      refine ⟨path, hpath, locate_of_slot h (hfree.keepsFolders content) ?_⟩
      rw [hfree.look?_put, if_pos rfl, Option.isSome_some]
    · rw [if_neg heq] at hp
      exact absurd rfl hp

theorem keepsFolders_back (h : WritesOnly paths t t') : t'.KeepsFolders t := ⟨h.here.symm, h.noFolder⟩

/-- Writes change nothing about which paths are refused. -/
theorem refuses_iff (h : WritesOnly paths t t') (path : String) : t'.Refuses path ↔ t.Refuses path :=
  refuses_congr h.toKeepsFolders h.keepsFolders_back path

/-- A file stays one. -/
theorem file (h : WritesOnly paths t t') {q : Place} {content : Bytes} (hq : t.look? q = some (.file content)) :
    ∃ content', t'.look? q = some (.file content') := by
  obtain ⟨e, he⟩ := Option.isSome_iff_exists.1 (h.isSome q (by rw [hq, Option.isSome_some]))
  cases e with
  | file content' => exact ⟨content', he⟩
  | folder =>
    have hfolder := h.noFolder q (isFolder_iff.2 he)
    rw [isFolder_iff, hq] at hfolder
    cases hfolder

end WritesOnly

/-- A file that is written changes nothing about which paths are refused. -/
theorem refuses_of_write {t written : FileTree} {path : String} {content : Bytes} (h : t.write path content = .ok written)
    (other : String) : written.Refuses other ↔ t.Refuses other := by
  rcases t.write_cases path content with ⟨e, herror, -⟩ | ⟨q, hput, hslot, -⟩
  · rw [herror] at h
    cases h
  · obtain rfl : t.put q (.file content) = written := Except.ok.inj (hput.symm.trans h)
    have hwrites : WritesOnly (fun _ => True) t (t.put q (.file content)) := .of_slot hslot trivial content
    exact hwrites.refuses_iff other

end RecordSheets.FileTree
