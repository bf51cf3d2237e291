import Mathlib.Data.List.Basic
import Mathlib.Tactic.ByContra
import RecordSheets.Proofs.Files.Below
import RecordSheets.Proofs.Files.Growth

/-!
# Making folders

Making the folders of a path adds folders and nothing else (`AddsFolders`). If it succeeds, the path leads to a folder
(`hasFolder_makeFolders`). If it fails, something stands in the way that making folders does not remove (`Stuck`), or the last name can
not be made: the path leads to no folder, and trying again changes nothing (`makeFolders_of_error`).
-/

namespace RecordSheets.FileTree

/-! ## Trees with more folders -/

/-- A tree shows what another one showed, and perhaps folders where that one showed nothing. -/
structure AddsFolders (t t' : FileTree) : Prop where
  /-- Relative paths start from the same folder. -/
  here : t.here = t'.here
  /-- What is there stays. -/
  retains : ∀ q e, t.look? q = some e → t'.look? q = some e
  /-- What is new is a folder. -/
  introduced : ∀ q e, t.look? q = none → t'.look? q = some e → e = .folder

namespace AddsFolders

theorem refl (t : FileTree) : AddsFolders t t := by
  refine ⟨rfl, fun _ _ h => h, fun q e hnone hsome => ?_⟩
  rw [hnone] at hsome
  cases hsome

theorem trans {t t' t'' : FileTree} (h : AddsFolders t t') (h' : AddsFolders t' t'') : AddsFolders t t'' := by
  refine ⟨h.here.trans h'.here, fun q e hq => h'.retains q e (h.retains q e hq), fun q e hnone hsome => ?_⟩
  cases hmiddle : t'.look? q with
  | none => exact h'.introduced q e hmiddle hsome
  | some m =>
    obtain rfl := h.introduced q m hnone hmiddle
    rw [h'.retains q .folder hmiddle] at hsome
    exact (Option.some.inj hsome).symm

theorem grows {t t' : FileTree} (h : AddsFolders t t') : Grows t t' := ⟨h.here, h.retains⟩

/-- The files are the same ones. -/
theorem look?_file_iff {t t' : FileTree} (h : AddsFolders t t') (q : Place) (content : Bytes) :
    t'.look? q = some (.file content) ↔ t.look? q = some (.file content) := by
  refine ⟨fun hq => ?_, h.retains q _⟩
  cases hold : t.look? q with
  | none => cases h.introduced q _ hold hq
  | some e =>
    rw [h.retains q e hold] at hq
    exact hq

/-- A folder put where nothing was is a folder more. -/
theorem put {t : FileTree} {p : Place} {name : String} (hp : t.isFolder p = true) (hnone : t.look? (p ++ [name]) = none) :
    AddsFolders t (t.put (p ++ [name]) .folder) ∧ (t.put (p ++ [name]) .folder).isFolder (p ++ [name]) = true := by
  have hself : (t.put (p ++ [name]) .folder).look? (p ++ [name]) = some .folder :=
    look?_put_self .folder (by simp) (by rwa [List.dropLast_concat])
  have hother : ∀ q, q ≠ p ++ [name] → (t.put (p ++ [name]) .folder).look? q = t.look? q :=
    fun q hq => look?_put_of_ne hq (.inl rfl)
  refine ⟨⟨rfl, fun q e hq => ?_, fun q e hq hsome => ?_⟩, isFolder_iff.2 hself⟩
  · rwa [hother q (fun heq => by rw [heq, hnone] at hq; cases hq)]
  · by_cases heq : q = p ++ [name]
    · rw [heq, hself] at hsome
      exact (Option.some.inj hsome).symm
    · rw [hother q heq, hq] at hsome
      cases hsome

end AddsFolders

/-! ## Ways that are stuck -/

/-- A way on which something stands that making folders does not remove: a step that is refused otherwise than for a folder that could
be made, or one to a file. -/
inductive Stuck (t : FileTree) : Place → List String → Prop where
  | refused {p : Place} {name : String} {rest : List String} {e : SystemError} :
      t.step p name = .error e → ¬(e = .notFound ∧ t.isFolder p = true) → Stuck t p (name :: rest)
  | file {p q : Place} {name : String} {rest : List String} :
      t.step p name = .ok q → t.isFolder q = false → Stuck t p (name :: rest)
  | next {p q : Place} {name : String} {rest : List String} :
      t.step p name = .ok q → Stuck t q rest → Stuck t p (name :: rest)

namespace Stuck

variable {t : FileTree} {p : Place} {names : List String}

/-- A way stays stuck with further names behind it. -/
theorem append (h : Stuck t p names) (more : List String) : Stuck t p (names ++ more) := by
  induction h with
  | refused hstep hnot => exact .refused hstep hnot
  | file hstep hfile => exact .file hstep hfile
  | next hstep _ ih => exact .next hstep ih

/-- A way that is stuck leads to no folder. -/
theorem not_folder (h : Stuck t p names) {q : Place} (hf : t.follow p names = .ok q) : t.isFolder q = false := by
  induction h with
  | refused hstep hnot =>
    rw [follow_cons, hstep] at hf
    cases hf
  | file hstep hfile =>
    rw [follow_cons, hstep] at hf
    cases hq : t.isFolder q with
    | false => rfl
    | true =>
      rw [isFolder_of_follow hf hq] at hfile
      cases hfile
  | next hstep _ ih =>
    rw [follow_cons, hstep] at hf
    exact ih hf

/-- On a way that is stuck no folder is made. -/
theorem followMaking (h : Stuck t p names) : (t.followMaking p names).1 = t := by
  induction h with
  | refused hstep hnot => rw [FileTree.followMaking, hstep]; exact congrArg Prod.fst (if_neg hnot)
  | file hstep hfile =>
    rename_i p q name rest
    rw [FileTree.followMaking, hstep]
    cases rest with
    | nil => rfl
    | cons next more =>
      simp only [FileTree.followMaking]
      cases hnext : t.step q next with
      | ok r =>
        rw [isFolder_of_step hnext] at hfile
        cases hfile
      | error e => simp [hfile]
  | next hstep _ ih =>
    rw [FileTree.followMaking, hstep]
    exact ih

end Stuck

/-! ## Making the folders on a way -/

/-- A name that is missing in a folder is not there, and leads to its place in a tree that has it. -/
theorem missing_of_step {t : FileTree} {p : Place} {name : String} (hp : t.isFolder p = true)
    (h : t.step p name = .error .notFound) :
    t.look? (p ++ [name]) = none ∧
      ∀ t' : FileTree, t'.isFolder p = true → t'.isFolder (p ++ [name]) = true → t'.step p name = .ok (p ++ [name]) := by
  have hmoves : Path.staysPut name = false := by
    by_contra hstays
    rw [step_eq, isFolder_iff.1 hp] at h
    simp [hstays] at h
  have hup : name ≠ ".." := by
    rintro rfl
    rw [step_eq, isFolder_iff.1 hp] at h
    simp [hmoves] at h
  rw [step_moves hp hmoves hup] at h
  split at h
  · cases h
  · rename_i hshort
    split at h
    · cases h
    · rename_i hnone
      refine ⟨by simpa using hnone, fun t' hp' hchild => ?_⟩
      rw [step_moves hp' hmoves hup, if_neg hshort, isFolder_iff.1 hchild, Option.isSome_some, if_pos rfl]

/-- What making the folders on a way does: it adds folders, and the way leads to the place that was reached or is stuck. -/
structure Made (t : FileTree) (p : Place) (names : List String) (x : FileTree × Except SystemError Place) : Prop where
  /-- Folders are added and nothing else. -/
  adds : AddsFolders t x.1
  /-- The way leads where it was followed to. -/
  reached : ∀ q, x.2 = .ok q → x.1.follow p names = .ok q
  /-- A way that was not followed to its end is stuck. -/
  stuck : ∀ e, x.2 = .error e → Stuck x.1 p names

/-- After a step that leads to the same place at the end, folders are made on the rest of the way. -/
theorem Made.next {t t' : FileTree} {p q : Place} {name : String} {rest : List String}
    {x : FileTree × Except SystemError Place} (h : Made t' q rest x) (hadds : AddsFolders t t')
    (hstep : t'.step p name = .ok q) : Made t p (name :: rest) x := by
  have hstep' : x.1.step p name = .ok q := h.adds.grows.step hstep
  refine ⟨hadds.trans h.adds, fun r hr => ?_, fun e he => .next hstep' (h.stuck e he)⟩
  rw [follow_cons, hstep']
  exact h.reached r hr

/-- Folders are made on a way that starts in a folder. -/
theorem made_makeOn {t : FileTree} {p : Place} (hp : t.isFolder p = true) (names : List String) :
    Made t p names (t.makeOn p names) := by
  induction names generalizing t p with
  | nil => exact ⟨.refl t, fun q hq => hq, fun e he => nomatch he⟩
  | cons name rest ih =>
    rw [makeOn]
    cases hstep : t.step p name with
    | ok q =>
      simp only
      cases hq : t.isFolder q with
      | true => exact (ih hq).next (.refl t) hstep
      | false => exact ⟨.refl t, nofun, fun e _ => .file hstep hq⟩
    | error e =>
      by_cases he : e = .notFound
      · subst he
        obtain ⟨hnone, hthere⟩ := missing_of_step hp hstep
        obtain ⟨hadds, hfolder⟩ := AddsFolders.put hp hnone
        exact (ih hfolder).next hadds (hthere _ (hadds.grows.keepsFolders.isFolder p hp) hfolder)
      · have hstuck : Stuck t p (name :: rest) := .refused hstep fun h => he h.1
        split
        · rename_i heq
          cases heq
        · rename_i heq
          exact absurd (Except.error.inj heq) he
        · exact ⟨.refl t, nofun, fun _ _ => hstuck⟩

/-- Folders are made on a way from wherever it starts. -/
theorem made_followMaking (t : FileTree) (p : Place) (names : List String) : Made t p names (t.followMaking p names) := by
  induction names generalizing p with
  | nil => exact ⟨.refl t, fun q hq => hq, nofun⟩
  | cons name rest ih =>
    rw [followMaking]
    cases hstep : t.step p name with
    | ok q => exact (ih q).next (.refl t) hstep
    | error e =>
      simp only
      split
      · rename_i h
        exact made_makeOn h.2 (name :: rest)
      · rename_i h
        exact ⟨.refl t, nofun, fun _ _ => .refused hstep h⟩

/-- A way that can be followed needs no folders. -/
theorem followMaking_of_follow {t : FileTree} {p q : Place} {names : List String} (h : t.follow p names = .ok q) :
    t.followMaking p names = (t, .ok q) := by
  induction names generalizing p with
  | nil =>
    cases h
    rfl
  | cons name rest ih =>
    rw [follow_cons] at h
    rw [followMaking]
    cases hstep : t.step p name with
    | error e =>
      rw [hstep] at h
      cases h
    | ok r =>
      rw [hstep] at h
      exact ih h

/-! ## The last name -/

/-- The names above a path are the first ones of its names. -/
theorem namesAbove_prefix (path : String) : Path.namesAbove path <+: Path.names path := by
  rw [← List.reverse_suffix, Path.namesAbove, List.reverse_reverse]
  exact (List.drop_suffix 1 _).trans (List.dropWhile_suffix _)

/-- The names above a path are the first ones of those that lead to its site. -/
theorem namesAbove_prefix_dropLast (path : String) : Path.namesAbove path <+: (trimmedNames path).dropLast := by
  have hsuffix : ∀ l : List String, l.dropWhile Path.staysPut <:+ l.dropWhile (· == "") := by
    intro l
    induction l with
    | nil => exact List.suffix_refl _
    | cons name rest ih =>
      by_cases hempty : name = ""
      · subst hempty
        exact ih
      · rw [List.dropWhile_cons_of_neg (p := (· == "")) (by simpa using hempty)]
        exact List.dropWhile_suffix _
  have hdrop : ∀ {l l' : List String}, l <:+ l' → l.drop 1 <:+ l'.drop 1 := by
    intro l l' h
    cases l' with
    | nil =>
      obtain rfl := List.suffix_nil.1 h
      exact List.suffix_refl _
    | cons name rest =>
      rcases List.suffix_cons_iff.1 h with rfl | h
      · exact List.suffix_refl _
      · exact (List.drop_suffix 1 l).trans h
  rw [← List.reverse_suffix, Path.namesAbove, List.reverse_reverse, trimmedNames, List.dropLast_reverse,
    List.reverse_reverse, ← List.drop_one]
  exact hdrop (hsuffix _)

/-- Behind the names that lead to a site there are only empty ones. -/
theorem names_eq_trimmed_append (path : String) :
    ∃ blanks, Path.names path = trimmedNames path ++ blanks ∧ (∀ name ∈ blanks, name = "") ∧
      (trimmedNames path).getLast? ≠ some "" := by
  refine ⟨((Path.names path).reverse.takeWhile (· == "")).reverse, ?_, fun name hname => ?_, ?_⟩
  · rw [trimmedNames, ← List.reverse_append, List.takeWhile_append_dropWhile, List.reverse_reverse]
  · have hall := List.all_takeWhile (p := (· == "")) (l := (Path.names path).reverse)
    simpa using List.all_eq_true.1 hall name (List.mem_reverse.1 hname)
  · rw [trimmedNames, List.getLast?_reverse]
    intro h
    have hhead := List.head?_dropWhile_not (· == "") (Path.names path).reverse
    rw [h] at hhead
    simp at hhead

/-- Empty names stay at a folder. -/
theorem follow_blanks {t : FileTree} {p : Place} (hp : t.isFolder p = true) {blanks : List String}
    (h : ∀ name ∈ blanks, name = "") : t.follow p blanks = .ok p := by
  induction blanks with
  | nil => rfl
  | cons name rest ih =>
    rw [List.forall_mem_cons] at h
    obtain ⟨rfl, hrest⟩ := h
    rw [follow_cons, step_eq, isFolder_iff.1 hp]
    exact ih hrest

/-- A path has a site if the names before its last one lead to a folder. -/
theorem site_eq_ok_iff {t : FileTree} {path : String} {s : Site} :
    t.site path = .ok s ↔ checkPath path = .ok () ∧ t.follow (t.origin path) (trimmedNames path).dropLast = .ok s.parent ∧
      t.isFolder s.parent = true ∧ s.name = (trimmedNames path).getLast?.getD "." ∧
      s.slashed = decide ((trimmedNames path).length < (Path.names path).length) := by
  obtain ⟨d, name, slashed⟩ := s
  unfold site
  cases checkPath path with
  | error e => simp [bind, Except.bind]
  | ok u =>
    cases hfollow : t.follow (t.origin path) (trimmedNames path).dropLast with
    | error e => simp [hfollow, bind, Except.bind]
    | ok parent =>
      simp only [hfollow, bind, Except.bind, true_and, Except.ok.injEq]
      cases hparent : t.look? parent with
      | none =>
        refine iff_of_false nofun ?_
        rintro ⟨rfl, hfolder, -⟩
        rw [isFolder_iff, hparent] at hfolder
        cases hfolder
      | some e =>
        cases e with
        | file content =>
          refine iff_of_false nofun ?_
          rintro ⟨rfl, hfolder, -⟩
          rw [isFolder_iff, hparent] at hfolder
          cases hfolder
        | folder =>
          simp only [Except.ok.injEq, Site.mk.injEq]
          constructor
          · rintro ⟨rfl, rfl, rfl⟩
            exact ⟨rfl, isFolder_iff.2 hparent, rfl, rfl⟩
          · rintro ⟨rfl, -, rfl, rfl⟩
            exact ⟨rfl, rfl, rfl⟩

/-- A site is a name in a folder to which the names before it lead. -/
theorem site_eq_ok {t : FileTree} {path : String} {s : Site} (h : t.site path = .ok s) :
    checkPath path = .ok () ∧ t.follow (t.origin path) (trimmedNames path).dropLast = .ok s.parent ∧
      t.isFolder s.parent = true ∧ s.name = (trimmedNames path).getLast?.getD "." := by
  obtain ⟨hcheck, hparent, hfolder, hname, -⟩ := site_eq_ok_iff.1 h
  exact ⟨hcheck, hparent, hfolder, hname⟩

/-- A site without a slash behind it has all names of its path. -/
theorem names_of_not_slashed {t : FileTree} {path : String} {s : Site} (h : t.site path = .ok s) (hslashed : s.slashed = false) :
    Path.names path = trimmedNames path := by
  obtain ⟨-, -, -, -, hlength⟩ := site_eq_ok_iff.1 h
  obtain ⟨blanks, hnames, -, -⟩ := names_eq_trimmed_append path
  rw [hslashed, eq_comm, decide_eq_false_iff_not, hnames, List.length_append] at hlength
  have hblanks : blanks = [] := by
    rw [← List.length_eq_zero_iff]
    omega
  rw [hnames, hblanks, List.append_nil]

/-- A site that is no site of dots has a name that stands for a place of its own. -/
theorem moves_of_site {t : FileTree} {path : String} {s : Site} (h : t.site path = .ok s) (hdots : s.isDots = false) :
    trimmedNames path = (trimmedNames path).dropLast ++ [s.name] ∧ Path.staysPut s.name = false ∧ s.name ≠ ".." := by
  obtain ⟨-, -, -, hname⟩ := site_eq_ok h
  obtain ⟨blanks, -, -, hlast⟩ := names_eq_trimmed_append path
  rw [Site.isDots, Bool.or_eq_false_iff] at hdots
  cases hnames : (trimmedNames path).getLast? with
  | none =>
    rw [hnames] at hname
    rw [hname] at hdots
    cases hdots.1
  | some name =>
    obtain rfl : s.name = name := by rw [hname, hnames, Option.getD_some]
    rw [hnames] at hlast
    refine ⟨(List.dropLast_append_getLast? s.name hnames).symm, ?_, by simpa using hdots.2⟩
    rw [Path.staysPut, hdots.1, Bool.or_false]
    simpa using hlast

/-- A folder that was made is added, and its path leads to it. -/
theorem makeFolder_eq_ok {t made : FileTree} {path : String} (h : t.makeFolder path = .ok made) :
    AddsFolders t made ∧ made.hasFolder path = true := by
  unfold makeFolder at h
  cases hsite : t.site path with
  | error e => simp [hsite, bind, Except.bind] at h
  | ok s =>
    obtain ⟨hcheck, hparent, hfolder, -⟩ := site_eq_ok hsite
    simp only [hsite, bind, Except.bind] at h
    split at h
    · cases h
    · rename_i hdots
      split at h
      · cases h
      · rename_i hshort
        split at h
        · cases h
        · rename_i hnone
          cases h
          obtain ⟨hlast, hmoves, hup⟩ := moves_of_site hsite (by simpa using hdots)
          obtain ⟨hadds, hmade⟩ : AddsFolders t (t.put s.place .folder) ∧ (t.put s.place .folder).isFolder s.place = true :=
            AddsFolders.put hfolder (by simpa [Site.place] using hnone)
          refine ⟨hadds, hasFolder_iff.2 ⟨s.place, locate_eq_ok_iff.2 ⟨hcheck, ?_⟩, hmade⟩⟩
          obtain ⟨blanks, hnames, hblanks, -⟩ := names_eq_trimmed_append path
          have hparent' := hadds.grows.follow hparent
          have hstep : (t.put s.place .folder).step s.parent s.name = .ok s.place := by
            rw [step_moves (hadds.grows.keepsFolders.isFolder _ hfolder) hmoves hup, if_neg hshort, ← Site.place,
              isFolder_iff.1 hmade, Option.isSome_some, if_pos rfl]
          rw [origin_eq hadds.here] at hparent'
          rw [hnames, hlast, follow_append, follow_append, hparent', Except.bind, follow_cons, hstep]
          exact follow_blanks hmade hblanks

/-- The first part of a way to a folder leads to a folder. -/
theorem follow_split {t : FileTree} {p q : Place} {names more : List String} (h : t.follow p (names ++ more) = .ok q)
    (hq : t.isFolder q = true) : ∃ r, t.follow p names = .ok r ∧ t.isFolder r = true ∧ t.follow r more = .ok q := by
  rw [follow_append] at h
  cases hr : t.follow p names with
  | error e =>
    rw [hr] at h
    cases h
  | ok r =>
    rw [hr] at h
    exact ⟨r, rfl, isFolder_of_follow h hq, h⟩

/-- No folder is made where one is. -/
theorem makeFolder_of_hasFolder {t : FileTree} {path : String} (h : t.hasFolder path = true) :
    t.makeFolder path = .error .alreadyThere := by
  obtain ⟨d, hlocate, hd⟩ := hasFolder_iff.1 h
  obtain ⟨hcheck, hfollow⟩ := locate_eq_ok_iff.1 hlocate
  obtain ⟨blanks, hnames, -, -⟩ := names_eq_trimmed_append path
  rw [hnames] at hfollow
  obtain ⟨m, htrimmed, hm, -⟩ := follow_split hfollow hd
  obtain ⟨more, hmore⟩ := List.dropLast_prefix (trimmedNames path)
  rw [← hmore] at htrimmed
  obtain ⟨parent, hparent, hfolder, -⟩ := follow_split htrimmed hm
  obtain ⟨s, hsite⟩ : ∃ s, t.site path = .ok s := by
    simp [site, hcheck, hparent, isFolder_iff.1 hfolder, bind, Except.bind]
  obtain ⟨-, hparent', hfolder', -⟩ := site_eq_ok hsite
  unfold makeFolder
  simp only [hsite, bind, Except.bind]
  split
  · rfl
  · rename_i hdots
    obtain ⟨hlast, hmoves, hup⟩ := moves_of_site hsite (by simpa using hdots)
    rw [hmore, hlast, follow_append, hparent', Except.bind, follow_cons, step_moves hfolder' hmoves hup] at htrimmed
    split at htrimmed
    · cases htrimmed
    · rename_i hshort
      rw [if_neg hshort]
      split at htrimmed
      · rename_i hsome
        exact if_pos hsome
      · cases htrimmed

/-! ## All folders of a path -/

/-- A path to whose site a way leads that is stuck has no folder, and making its folders changes nothing. -/
theorem makeFolders_of_stuck {t : FileTree} {path : String} (h : Stuck t (t.origin path) (Path.namesAbove path)) :
    t.hasFolder path = false ∧ (t.makeFolders path).1 = t := by
  constructor
  · by_contra hfolder
    obtain ⟨d, hlocate, hd⟩ := hasFolder_iff.1 (by simpa using hfolder)
    obtain ⟨more, hmore⟩ := namesAbove_prefix path
    have hfollow := (locate_eq_ok_iff.1 hlocate).2
    rw [← hmore] at hfollow
    rw [(h.append more).not_folder hfollow] at hd
    cases hd
  · obtain ⟨more, hmore⟩ := namesAbove_prefix_dropLast path
    have hsite : ∀ s, t.site path ≠ .ok s := by
      intro s hs
      obtain ⟨-, hfollow, hparent, -⟩ := site_eq_ok hs
      rw [← hmore] at hfollow
      rw [(h.append more).not_folder hfollow] at hparent
      cases hparent
    have hmake : ∀ made, t.makeFolder path ≠ .ok made := by
      intro made hmade
      unfold makeFolder at hmade
      cases hs : t.site path with
      | error e => simp [hs, bind, Except.bind] at hmade
      | ok s => exact hsite s hs
    have htree := h.followMaking
    unfold makeFolders
    cases hcheck : checkPath path with
    | error e => rfl
    | ok u =>
      cases hx : t.followMaking (t.origin path) (Path.namesAbove path) with
      | mk t' r =>
        rw [hx] at htree
        obtain rfl : t' = t := htree
        cases r with
        | error e => rfl
        | ok q =>
          cases hmade : t'.makeFolder path with
          | ok made => exact absurd hmade (hmake made)
          | error e => simp [hmade]

/-- Making folders adds folders. If no error comes, there is a folder then, and otherwise there is none and making folders once more
changes nothing. -/
theorem makeFolders_spec (t : FileTree) (path : String) :
    AddsFolders t (t.makeFolders path).1 ∧
      ((t.makeFolders path).2 = none → (t.makeFolders path).1.hasFolder path = true) ∧
      ∀ e, (t.makeFolders path).2 = some e → (t.makeFolders path).1.hasFolder path = false ∧
        ((t.makeFolders path).1.makeFolders path).1 = (t.makeFolders path).1 := by
  cases hcheck : checkPath path with
  | error err =>
    have hmake : ∀ t : FileTree, t.makeFolders path = (t, some err) := fun t => by rw [makeFolders, hcheck]
    rw [hmake]
    refine ⟨.refl t, by rintro ⟨⟩, fun e _ => ⟨?_, by rw [hmake]⟩⟩
    rw [hasFolder, find, locate, hcheck]
    rfl
  | ok u =>
    have hmade := made_followMaking t (t.origin path) (Path.namesAbove path)
    cases hx : t.followMaking (t.origin path) (Path.namesAbove path) with
    | mk t' r =>
      rw [hx] at hmade
      cases r with
      | error err =>
        have hmake : t.makeFolders path = (t', some err) := by rw [makeFolders, hcheck, hx]
        have hstuck := hmade.stuck err rfl
        rw [origin_eq hmade.adds.here] at hstuck
        rw [hmake]
        exact ⟨hmade.adds, by rintro ⟨⟩, fun e _ => makeFolders_of_stuck hstuck⟩
      | ok q =>
        have hreached := hmade.reached q rfl
        rw [origin_eq hmade.adds.here] at hreached
        cases hlast : t'.makeFolder path with
        | ok made =>
          have hmake : t.makeFolders path = (made, none) := by rw [makeFolders, hcheck, hx]; simp only [hlast]
          obtain ⟨hadds, hfolder⟩ := makeFolder_eq_ok hlast
          rw [hmake]
          exact ⟨hmade.adds.trans hadds, fun _ => hfolder, by rintro _ ⟨⟩⟩
        | error err =>
          have hmake : ∀ {t₀ : FileTree}, t₀.followMaking (t₀.origin path) (Path.namesAbove path) = (t', .ok q) →
              t₀.makeFolders path = (t', if err = .alreadyThere ∧ t'.hasFolder path = true then none else some err) := by
            intro t₀ h₀
            rw [makeFolders, hcheck, h₀]
            simp only [hlast]
          have hagain := hmake (followMaking_of_follow hreached)
          rw [hmake hx, hagain]
          refine ⟨hmade.adds, fun hnone => ?_, fun e hsome => ⟨?_, rfl⟩⟩
          · by_contra hfolder
            simp [hfolder] at hnone
          · by_contra hfolder
            have hthere : t'.hasFolder path = true := by simpa using hfolder
            obtain rfl : err = .alreadyThere := Except.error.inj (hlast.symm.trans (makeFolder_of_hasFolder hthere))
            simp [hthere] at hsome

end RecordSheets.FileTree
