import RecordSheets.Files.Access

/-!
# Following names in a changed tree

Where a name leads is said by what the tree shows (`step_eq`), so trees that show the same are followed alike (`Same`), and a
way through folders stays one in every tree that still has these folders (`follow_of_folders`).

A file is put at a place that is free for it (`Free`): a place in a folder that holds no folder itself. Such a change shows at
that place alone, and every folder stays one.
-/

namespace RecordSheets

theorem Node.at?_append (n : Node) (p q : Place) : n.at? (p ++ q) = (n.at? p).bind fun m => m.at? q := by
  induction p generalizing n with
  | nil => rfl
  | cons name rest ih =>
    cases n with
    | file content => rfl
    | folder children =>
      rw [List.cons_append, at?_folder_cons, at?_folder_cons]
      cases children.lookup name with
      | none => rfl
      | some child => exact ih child

namespace FileTree

/-- A place is a folder if that is what the tree shows there. -/
theorem isFolder_iff {t : FileTree} {p : Place} : t.isFolder p = true ↔ t.look? p = some .folder := by
  simp [isFolder]

/-! ## Steps -/

/-- A name is in a folder if the tree shows something there. -/
theorem isSome_lookup_iff {t : FileTree} {p : Place} {children : List (String × Node)}
    (h : t.at? p = some (.folder children)) (name : String) :
    (children.lookup name).isSome = (t.look? (p ++ [name])).isSome := by
  have hat : t.at? (p ++ [name]) = children.lookup name := by
    rw [at?, Node.at?_append, ← at?, h, Option.bind_some, Node.at?_folder_cons]
    cases children.lookup name <;> rfl
  rw [look?, hat, Option.isSome_map]

/-- Where a name leads depends on what the tree shows at the place and at the name in it. -/
theorem step_eq (t : FileTree) (p : Place) (name : String) :
    t.step p name =
      match t.look? p with
      | none => .error .notFound
      | some (.file _) => .error .notDirectory
      | some .folder =>
        if Path.staysPut name then .ok p
        else if name = ".." then .ok p.dropLast
        else if nameLimit < name.utf8ByteSize then .error .nameTooLong
        else if (t.look? (p ++ [name])).isSome then .ok (p ++ [name])
        else .error .notFound := by
  unfold step
  cases h : t.at? p with
  | none => simp [look?, h]
  | some n =>
    cases n with
    | file content => simp [look?, h, Node.entry]
    | folder children =>
      rw [look?, h]
      simp only [Option.map_some, Node.entry, isSome_lookup_iff h name]

/-- Only a folder has a way out of it. -/
theorem isFolder_of_step {t : FileTree} {p q : Place} {name : String} (h : t.step p name = .ok q) :
    t.isFolder p = true := by
  rw [step_eq] at h
  rw [isFolder_iff]
  cases hp : t.look? p with
  | none => simp [hp] at h
  | some e =>
    cases e with
    | file content => simp [hp] at h
    | folder => rfl

/-- A step leads where it leads in another tree, if the other tree shows a folder at its start and, where the first tree shows
something at its end, something there, too. -/
theorem step_of_shows {t t' : FileTree} {p q : Place} {name : String} (hs : t.step p name = .ok q)
    (hp : t'.isFolder p = true) (hq : (t.look? q).isSome = true → (t'.look? q).isSome = true) :
    t'.step p name = .ok q := by
  have hfolder := isFolder_iff.1 (isFolder_of_step hs)
  rw [step_eq, hfolder] at hs
  rw [step_eq, isFolder_iff.1 hp]
  simp only at hs ⊢
  by_cases hstay : Path.staysPut name = true
  · rwa [if_pos hstay] at hs ⊢
  · rw [if_neg hstay] at hs ⊢
    by_cases hup : name = ".."
    · rwa [if_pos hup] at hs ⊢
    · rw [if_neg hup] at hs ⊢
      split at hs
      · cases hs
      · rename_i hlong
        rw [if_neg hlong]
        split at hs
        · rename_i hchild
          cases hs
          rw [if_pos (hq hchild)]
        · cases hs

theorem follow_cons (t : FileTree) (p : Place) (name : String) (rest : List String) :
    t.follow p (name :: rest) = (t.step p name).bind fun q => t.follow q rest := by
  simp only [follow, List.foldlM_cons]
  rfl

/-- A way that ends in a folder starts in one. -/
theorem isFolder_of_follow {t : FileTree} {p q : Place} {names : List String} (h : t.follow p names = .ok q)
    (hq : t.isFolder q = true) : t.isFolder p = true := by
  cases names with
  | nil =>
    cases h
    exact hq
  | cons name rest =>
    rw [follow_cons] at h
    cases hs : t.step p name with
    | error e => simp [hs, Except.bind] at h
    | ok r => exact isFolder_of_step hs

theorem origin_eq {t t' : FileTree} (h : t.here = t'.here) (path : String) : t.origin path = t'.origin path := by
  rw [origin, origin, h]

/-! ## Trees that show the same -/

/-- Two trees show the same at every place, and relative paths start from the same folder. -/
structure Same (t t' : FileTree) : Prop where
  /-- Relative paths start from the same folder. -/
  here : t.here = t'.here
  /-- Every place shows the same. -/
  look? : ∀ p, t.look? p = t'.look? p

namespace Same

theorem refl (t : FileTree) : Same t t := ⟨rfl, fun _ => rfl⟩

theorem symm {t t' : FileTree} (h : Same t t') : Same t' t := ⟨h.here.symm, fun p => (h.look? p).symm⟩

theorem trans {t t' t'' : FileTree} (h : Same t t') (h' : Same t' t'') : Same t t'' :=
  ⟨h.here.trans h'.here, fun p => (h.look? p).trans (h'.look? p)⟩

theorem isFolder {t t' : FileTree} (h : Same t t') (p : Place) : t.isFolder p = t'.isFolder p := by
  rw [FileTree.isFolder, FileTree.isFolder, h.look? p]

theorem follow {t t' : FileTree} (h : Same t t') : t.follow = t'.follow := by
  have hstep : t.step = t'.step := by
    funext p name
    rw [step_eq, step_eq, h.look? p, h.look? (p ++ [name])]
  funext p names
  rw [FileTree.follow, FileTree.follow, hstep]

theorem find {t t' : FileTree} (h : Same t t') (path : String) : t.find path = t'.find path := by
  simp only [FileTree.find, locate, h.follow, origin_eq h.here, h.look?]

theorem read {t t' : FileTree} (h : Same t t') (path : String) : t.read path = t'.read path := by
  rw [FileTree.read, FileTree.read, h.find]

end Same

/-! ## Trees that keep folders -/

/-- Every folder of a tree is a folder of another tree with the same start for relative paths. -/
structure KeepsFolders (t t' : FileTree) : Prop where
  /-- Relative paths start from the same folder. -/
  here : t.here = t'.here
  /-- Every folder stays one. -/
  isFolder : ∀ p, t.isFolder p = true → t'.isFolder p = true

theorem KeepsFolders.step {t t' : FileTree} (h : KeepsFolders t t') {p q : Place} {name : String}
    (hs : t.step p name = .ok q) (hq : t.isFolder q = true) : t'.step p name = .ok q := by
  refine step_of_shows hs (h.isFolder p (isFolder_of_step hs)) fun _ => ?_
  rw [isFolder_iff.1 (h.isFolder q hq), Option.isSome_some]

theorem KeepsFolders.follow {t t' : FileTree} (h : KeepsFolders t t') {p q : Place} {names : List String}
    (hf : t.follow p names = .ok q) (hq : t.isFolder q = true) : t'.follow p names = .ok q := by
  induction names generalizing p with
  | nil => exact hf
  | cons name rest ih =>
    rw [follow_cons] at hf ⊢
    cases hs : t.step p name with
    | error e => simp [hs, Except.bind] at hf
    | ok r =>
      rw [hs] at hf
      rw [h.step hs (isFolder_of_follow hf hq)]
      exact ih hf

/-! ## Putting a file -/

/-- A place that is free for a file: it lies in a folder and is none itself. -/
structure Free (t : FileTree) (q : Place) : Prop where
  /-- The root is never free. -/
  ne_nil : q ≠ []
  /-- The place lies in a folder. -/
  inFolder : t.isFolder q.dropLast = true
  /-- The place holds no folder. -/
  noFolder : t.isFolder q = false

namespace Free

/-- A file that is put shows at its place alone. -/
theorem look?_put {t : FileTree} {q : Place} (h : t.Free q) (content : Bytes) (p : Place) :
    (t.put q (.file content)).look? p = if p = q then some (.file content) else t.look? p := by
  split
  · rename_i hp
    rw [hp]
    exact look?_put_self _ h.ne_nil h.inFolder
  · rename_i hp
    exact look?_put_of_ne hp (.inr h.noFolder)

/-- A file that is put neither makes nor takes a folder. -/
theorem isFolder_put {t : FileTree} {q : Place} (h : t.Free q) (content : Bytes) (p : Place) :
    (t.put q (.file content)).isFolder p = t.isFolder p := by
  by_cases hp : p = q
  · rw [hp, h.noFolder, isFolder, h.look?_put, if_pos rfl]
    rfl
  · rw [isFolder, h.look?_put, if_neg hp]
    rfl

theorem keepsFolders {t : FileTree} {q : Place} (h : t.Free q) (content : Bytes) :
    KeepsFolders t (t.put q (.file content)) :=
  ⟨rfl, fun p hp => (h.isFolder_put content p).trans hp⟩

/-- A place stays free when a file is put. -/
theorem put {t : FileTree} {q r : Place} (h : t.Free q) (hr : t.Free r) (content : Bytes) :
    (t.put q (.file content)).Free r :=
  ⟨hr.ne_nil, (h.isFolder_put content _).trans hr.inFolder, (h.isFolder_put content r).trans hr.noFolder⟩

/-- Files at two places can be put in either order. -/
theorem put_comm {t : FileTree} {q r : Place} (hq : t.Free q) (hr : t.Free r) (hne : q ≠ r) (content content' : Bytes) :
    Same ((t.put q (.file content)).put r (.file content')) ((t.put r (.file content')).put q (.file content)) := by
  refine ⟨rfl, fun p => ?_⟩
  rw [(hq.put hr content).look?_put, hq.look?_put, (hr.put hq content').look?_put, hr.look?_put]
  by_cases hpq : p = q
  · rw [hpq, if_neg hne, if_pos rfl, if_pos rfl]
  · rw [if_neg hpq, if_neg hpq]

theorem of_same {t t' : FileTree} {q : Place} (h : t.Free q) (hs : Same t t') : t'.Free q :=
  ⟨h.ne_nil, (hs.isFolder _).symm.trans h.inFolder, (hs.isFolder q).symm.trans h.noFolder⟩

/-- The same file put in trees that show the same makes trees that show the same. -/
theorem put_same {t t' : FileTree} {q : Place} (h : t.Free q) (hs : Same t t') (content : Bytes) :
    Same (t.put q (.file content)) (t'.put q (.file content)) := by
  refine ⟨hs.here, fun p => ?_⟩
  rw [h.look?_put, (h.of_same hs).look?_put, hs.look? p]

end Free

end FileTree

end RecordSheets
