import RecordSheets.Proofs.Files.Joined
import RecordSheets.Proofs.Files.Walk

/-!
# Files below a folder, by their paths

On a disk every name can be stored (`Path.Storable`): it stands for a place of its own in its folder, and the system takes it. A
folder's path with such names behind it leads from the folder down these names, so it finds what the tree shows there, as long as it is
not too long as a whole (`FileTree.find_below_iff`).
-/

namespace RecordSheets

namespace Path

/-- A name that a disk can hold. -/
structure Storable (name : String) : Prop extends Plain name where
  /-- The name has no NUL in it. -/
  noNul : Char.ofNat 0 ∉ name.toList
  /-- The name is not too long. -/
  short : name.utf8ByteSize ≤ FileTree.nameLimit

instance (name : String) : Decidable (Storable name) :=
  decidable_of_iff
    (('/' ∉ name.toList ∧ staysPut name = false ∧ name ≠ "..") ∧ Char.ofNat 0 ∉ name.toList ∧
      name.utf8ByteSize ≤ FileTree.nameLimit)
    ⟨fun h => ⟨⟨h.1.1, h.1.2.1, h.1.2.2⟩, h.2.1, h.2.2⟩, fun h => ⟨⟨h.noSlash, h.moves, h.notUp⟩, h.noNul, h.short⟩⟩

/-! ## Joined paths of several names -/

/-- A text starts at the root if its first part does, unless that part is empty. -/
theorem isAbsolute_append {a : String} (h : a ≠ "") (b : String) : isAbsolute (a ++ b) = isAbsolute a := by
  obtain ⟨c, cs, hcs⟩ := List.exists_cons_of_ne_nil (fun hnil => h (String.toList_eq_nil_iff.1 hnil))
  simp [isAbsolute, hcs]

/-- What is joined with a folder's path may be put together before or after. -/
theorem join_append (dir : String) {a : String} (hne : a ≠ "") (hrel : isAbsolute a = false) (b : String) :
    join dir (a ++ b) = join dir a ++ b := by
  unfold join
  rw [isAbsolute_append hne, hrel, if_neg Bool.false_ne_true, if_neg Bool.false_ne_true]
  split
  · rw [String.append_assoc]
  · rw [String.append_assoc, String.append_assoc, String.append_assoc]

/-- The names of a text with a slash in it are those before the slash and those behind it. -/
theorem names_append_slash (a b : String) : names (a ++ "/" ++ b) = names a ++ names b := by
  simp only [names, Text.cut, String.toList_append]
  rw [List.append_assoc]
  exact (congrArg (List.map String.ofList) (Text.pieces_append_cons '/' a.toList b.toList)).trans List.map_append

/-- The names that lead into a folder are among those of its path. -/
theorem mem_names_of_mem_namesInto {dir name : String} (h : name ∈ namesInto dir) : name ∈ names dir := by
  unfold namesInto join at h
  rw [if_neg (by simp [isAbsolute])] at h
  split at h
  · rw [String.append_empty] at h
    exact List.dropLast_subset _ h
  · have hnames : names (dir ++ "/" ++ "") = names dir ++ [""] := names_append_slash dir ""
    rwa [hnames, List.dropLast_concat] at h

theorem join_ne_empty (dir : String) {name : String} (h : Plain name) : join dir name ≠ "" := by
  intro hempty
  have hnames := names_join dir h.noSlash
  rw [hempty] at hnames
  have hlast := congrArg List.getLast? hnames
  rw [List.getLast?_concat] at hlast
  exact absurd (Option.some.inj hlast).symm (by simpa using h.isNoBlank)

/-- Names with slashes between them are the names of the text. -/
theorem names_intercalate {q : List String} (hne : q ≠ []) (hq : ∀ name ∈ q, '/' ∉ name.toList) :
    names (String.intercalate "/" q) = q := by
  have hpieces : Text.pieces '/' (List.intercalate ['/'] (q.map String.toList)) = q.map String.toList :=
    Text.pieces_intercalate (by simpa using hne) (by simpa using hq)
  rw [names, Text.cut, String.toList_intercalate]
  exact (congrArg (List.map String.ofList) hpieces).trans (by simp [Function.comp_def])

/-- A path of plain names behind a folder's path is that of the first name with the others behind it. -/
theorem join_intercalate_cons_cons (dir : String) {name : String} (h : Plain name) (next : String) (more : List String) :
    join dir (String.intercalate "/" (name :: next :: more)) =
      join dir name ++ "/" ++ String.intercalate "/" (next :: more) := by
  rw [String.intercalate_cons_cons, String.append_assoc, String.append_assoc]
  exact join_append dir (by simpa using h.isNoBlank) (isAbsolute_of_noSlash h.noSlash) _

section

variable {q : List String} (hne : q ≠ []) (hq : ∀ name ∈ q, Plain name)
include hne hq

/-- A path of plain names behind a folder's path leads into the folder and then down the names. -/
theorem names_join_intercalate (dir : String) : names (join dir (String.intercalate "/" q)) = namesInto dir ++ q := by
  obtain ⟨name, rest, rfl⟩ := List.exists_cons_of_ne_nil hne
  have hname := hq name List.mem_cons_self
  cases rest with
  | nil => rw [String.intercalate_singleton, names_join dir hname.noSlash]
  | cons next more =>
    have hrest : ∀ n ∈ next :: more, '/' ∉ n.toList := fun n hn => (hq n (List.mem_cons_of_mem _ hn)).noSlash
    rw [join_intercalate_cons_cons dir hname, names_append_slash, names_join dir hname.noSlash,
      names_intercalate (by simp) hrest, List.append_assoc, List.singleton_append]

/-- A path of plain names behind a folder's path starts where the folder's path starts. -/
theorem isAbsolute_join_intercalate (dir : String) :
    isAbsolute (join dir (String.intercalate "/" q)) = isAbsolute dir := by
  obtain ⟨name, rest, rfl⟩ := List.exists_cons_of_ne_nil hne
  have hname := hq name List.mem_cons_self
  cases rest with
  | nil => rw [String.intercalate_singleton, isAbsolute_join dir hname.noSlash]
  | cons next more =>
    rw [join_intercalate_cons_cons dir hname, String.append_assoc, isAbsolute_append (join_ne_empty dir hname),
      isAbsolute_join dir hname.noSlash]

theorem join_intercalate_ne_empty (dir : String) : join dir (String.intercalate "/" q) ≠ "" := by
  obtain ⟨name, rest, rfl⟩ := List.exists_cons_of_ne_nil hne
  have hname := hq name List.mem_cons_self
  cases rest with
  | nil => rw [String.intercalate_singleton]; exact join_ne_empty dir hname
  | cons next more =>
    rw [join_intercalate_cons_cons dir hname, String.append_assoc]
    intro h
    exact join_ne_empty dir hname (String.append_eq_empty_iff.1 h).1

end

/-- A joined path has the characters of its parts and perhaps a slash. -/
theorem mem_join {dir part : String} {c : Char} (h : c ∈ (join dir part).toList) :
    c ∈ dir.toList ∨ c = '/' ∨ c ∈ part.toList := by
  unfold join at h
  split at h
  · exact .inr (.inr h)
  · split at h
    · rw [String.toList_append, List.mem_append] at h
      exact h.imp_right .inr
    · rw [String.toList_append, String.toList_append, List.mem_append, List.mem_append] at h
      rcases h with (h | h) | h
      · exact .inl h
      · exact .inr (.inl (by simpa using h))
      · exact .inr (.inr h)

end Path

namespace FileTree

/-! ## Down a way of names -/

theorem follow_append (t : FileTree) (p : Place) (names more : List String) :
    t.follow p (names ++ more) = (t.follow p names).bind fun q => t.follow q more := by
  rw [follow, List.foldlM_append]
  rfl

/-- A name that stays at its place leads nowhere else. -/
theorem eq_of_step_staysPut {t : FileTree} {p q : Place} {name : String} (hname : Path.staysPut name = true)
    (h : t.step p name = .ok q) : p = q := by
  have hfolder := isFolder_iff.1 (isFolder_of_step h)
  rw [step_eq, hfolder] at h
  simpa [hname] using h

/-- What lies at a place in a tree lies in folders: every part of the way that is not the whole is a folder. -/
theorem isFolder_of_look? {t : FileTree} {p q : Place} (hq : q ≠ []) (h : (t.look? (p ++ q)).isSome = true) :
    t.isFolder p = true := by
  rw [look?, Option.isSome_map, at?, Node.at?_append, ← at?] at h
  rw [isFolder_iff, look?]
  cases hp : t.at? p with
  | none => simp [hp] at h
  | some n =>
    cases n with
    | folder children => rfl
    | file content =>
      obtain ⟨name, rest, rfl⟩ := List.exists_cons_of_ne_nil hq
      simp [hp, Node.at?] at h

/-- From a folder a name that moves leads to what lies there under this name, if it is not too long. -/
theorem step_moves {t : FileTree} {p : Place} (hp : t.isFolder p = true) {name : String} (hmoves : Path.staysPut name = false)
    (hup : name ≠ "..") :
    t.step p name =
      if nameLimit < name.utf8ByteSize then .error .nameTooLong
      else if (t.look? (p ++ [name])).isSome then .ok (p ++ [name])
      else .error .notFound := by
  rw [step_eq, isFolder_iff.1 hp]
  simp only [hmoves, if_neg hup, Bool.false_eq_true, if_false]

/-- A name that a disk can hold leads from a folder to what lies there under this name. -/
theorem step_storable {t : FileTree} {d r : Place} (hd : t.isFolder d = true) {name : String} (h : Path.Storable name) :
    t.step d name = .ok r ↔ (t.look? (d ++ [name])).isSome = true ∧ d ++ [name] = r := by
  rw [step_moves hd h.moves h.notUp, if_neg (Nat.not_lt.2 h.short)]
  split
  · rename_i hsome
    simp [hsome]
  · rename_i hnone
    simp [hnone]

/-- Names that a disk can hold lead from a folder to what lies there on the way of these names. -/
theorem follow_storable {t : FileTree} {d r : Place} {q : List String} (hd : t.isFolder d = true) (hne : q ≠ [])
    (hq : ∀ name ∈ q, Path.Storable name) :
    t.follow d q = .ok r ↔ (t.look? (d ++ q)).isSome = true ∧ d ++ q = r := by
  induction q generalizing d with
  | nil => exact absurd rfl hne
  | cons name rest ih =>
    rw [List.forall_mem_cons] at hq
    rw [follow_cons]
    have hsplit : d ++ name :: rest = (d ++ [name]) ++ rest := by simp
    rw [hsplit]
    by_cases hrest : rest = []
    · subst hrest
      rw [List.append_nil, ← step_storable hd hq.1]
      cases t.step d name <;> rfl
    · cases hs : t.step d name with
      | error e =>
        refine iff_of_false nofun fun h => ?_
        have hchild := isFolder_iff.1 (isFolder_of_look? hrest h.1)
        have hok := (step_storable hd hq.1).2 ⟨by rw [hchild, Option.isSome_some], rfl⟩
        rw [hs] at hok
        cases hok
      | ok m =>
        obtain ⟨-, rfl⟩ := (step_storable hd hq.1).1 hs
        by_cases hchild : t.isFolder (d ++ [name]) = true
        · exact ih hchild hrest hq.2
        · obtain ⟨next, more, rfl⟩ := List.exists_cons_of_ne_nil hrest
          refine iff_of_false (fun h => ?_) fun h => hchild (isFolder_of_look? hrest h.1)
          rw [Except.bind, follow_cons] at h
          cases hnext : t.step (d ++ [name]) next with
          | error e => simp [hnext, Except.bind] at h
          | ok m => exact hchild (isFolder_of_step hnext)

/-! ## Below a folder -/

/-- A path is one if it is not empty, has no NUL in it and is not too long. -/
theorem checkPath_eq_ok {path : String} :
    checkPath path = .ok () ↔ Char.ofNat 0 ∉ path.toList ∧ path ≠ "" ∧ path.utf8ByteSize ≤ pathLimit := by
  unfold checkPath
  split
  · rename_i hnul
    exact iff_of_false nofun fun h => h.1 (by simpa using hnul)
  · rename_i hnul
    split
    · rename_i hempty
      exact iff_of_false nofun fun h => h.2.1 (by simpa using hempty)
    · rename_i hempty
      split
      · rename_i hlong
        exact iff_of_false nofun fun h => absurd h.2.2 (Nat.not_le.2 hlong)
      · rename_i hshort
        exact iff_of_true rfl ⟨by simpa using hnul, by simpa using hempty, Nat.not_lt.1 hshort⟩

/-- A path leads to a place if it is one and its names lead there. -/
theorem locate_eq_ok_iff {t : FileTree} {path : String} {d : Place} :
    t.locate path = .ok d ↔ checkPath path = .ok () ∧ t.follow (t.origin path) (Path.names path) = .ok d := by
  unfold locate
  cases hcheck : checkPath path with
  | error e => exact iff_of_false nofun fun h => nomatch h.1
  | ok u => exact ⟨fun h => ⟨rfl, h⟩, fun h => h.2⟩

/-- A path that leads to a file leads to no folder. -/
theorem not_hasFolder_of_hasFile {t : FileTree} {path : String} (h : t.hasFile path = true) : t.hasFolder path = false := by
  unfold hasFile at h
  unfold hasFolder
  split at h
  · rename_i content hfind
    rw [hfind]
  · cases h

/-- A path leads to a folder if it leads to a place that is one. -/
theorem hasFolder_iff {t : FileTree} {path : String} :
    t.hasFolder path = true ↔ ∃ d, t.locate path = .ok d ∧ t.isFolder d = true := by
  unfold hasFolder find
  cases hlocate : t.locate path with
  | error e =>
    refine iff_of_false nofun ?_
    rintro ⟨d, hd, -⟩
    cases hd
  | ok d =>
    have hone : (∃ d', (Except.ok d : Except SystemError Place) = .ok d' ∧ t.isFolder d' = true) ↔ t.isFolder d = true := by
      constructor
      · rintro ⟨d', hd, hfolder⟩
        cases hd
        exact hfolder
      · exact fun h => ⟨d, rfl, h⟩
    rw [hone, isFolder_iff]
    cases hlook : t.look? d with
    | none => simp [hlook, bind, Except.bind]
    | some e => cases e <;> simp [hlook, bind, Except.bind]

theorem folder_of_locate {t : FileTree} {dir : String} {d : Place} (h : t.locate dir = .ok d) :
    t.folder dir = .ok d := by
  obtain ⟨hcheck, hfollow⟩ := locate_eq_ok_iff.1 h
  have hempty : dir ≠ "" := (checkPath_eq_ok.1 hcheck).2.1
  unfold folder Path.namesInto Path.join
  rw [if_neg (by simp [Path.isAbsolute])]
  split
  · rename_i hslash
    have hlast : dir.toList.getLast? = some '/' := by simpa [hempty] using hslash
    obtain ⟨front, hfront⟩ := List.getLast?_eq_some_iff.1 hlast
    have hnames : Path.names dir = Path.names (String.ofList front) ++ [""] := by
      rw [Path.names, Path.names, Text.cut, Text.cut, hfront, Text.pieces_append_cons, List.map_append, String.toList_ofList]
      rfl
    rw [String.append_empty, hnames, List.dropLast_concat]
    rw [hnames, follow_append] at hfollow
    cases hfront : t.follow (t.origin dir) (Path.names (String.ofList front)) with
    | error e => simp [hfront, Except.bind] at hfollow
    | ok r =>
      rw [hfront, Except.bind, follow_cons] at hfollow
      cases hstep : t.step r "" with
      | error e => simp [hstep, Except.bind] at hfollow
      | ok m =>
        obtain rfl := eq_of_step_staysPut rfl hstep
        rw [hstep] at hfollow
        exact hfollow
  · have hnames : Path.names (dir ++ "/" ++ "") = Path.names dir ++ [""] := Path.names_append_slash dir ""
    rw [hnames, List.dropLast_concat, hfollow]

/-- A path of names that a disk can hold, behind a path that can be followed, can be followed unless it is too long. -/
theorem checkPath_below_iff {dir : String} (hdir : checkPath dir = .ok ()) {q : List String} (hne : q ≠ [])
    (hq : ∀ name ∈ q, Path.Storable name) :
    checkPath (Path.join dir (String.intercalate "/" q)) = .ok () ↔
      (Path.join dir (String.intercalate "/" q)).utf8ByteSize ≤ pathLimit := by
  have hplain : ∀ name ∈ q, Path.Plain name := fun name hname => (hq name hname).toPlain
  rw [checkPath_eq_ok]
  refine ⟨fun h => h.2.2, fun h => ⟨fun hnul => ?_, fun hempty => ?_, h⟩⟩
  · rcases Path.mem_join hnul with hnul | hslash | hnul
    · exact (checkPath_eq_ok.1 hdir).1 hnul
    · exact absurd hslash (by decide)
    · rw [String.toList_intercalate] at hnul
      rcases Text.mem_intercalate hnul with hslash | ⟨cs, hcs, hc⟩
      · exact absurd hslash (by decide)
      · obtain ⟨name, hname, rfl⟩ := List.mem_map.1 hcs
        exact (hq name hname).noNul hc
  · exact Path.join_intercalate_ne_empty hne hplain dir hempty

/-- A path of names that a disk can hold, behind the path of a folder, finds what lies in the folder on the way of these names,
unless it is too long. -/
theorem find_below_iff {t : FileTree} {dir : String} {d : Place} (hlocate : t.locate dir = .ok d)
    (hd : t.isFolder d = true) {q : List String} (hne : q ≠ []) (hq : ∀ name ∈ q, Path.Storable name) (e : Entry) :
    t.find (Path.join dir (String.intercalate "/" q)) = .ok e ↔
      (Path.join dir (String.intercalate "/" q)).utf8ByteSize ≤ pathLimit ∧ t.look? (d ++ q) = some e := by
  have hplain : ∀ name ∈ q, Path.Plain name := fun name hname => (hq name hname).toPlain
  have hnames := Path.names_join_intercalate hne hplain dir
  have horigin : t.origin (Path.join dir (String.intercalate "/" q)) = t.origin dir := by
    rw [origin, origin, Path.isAbsolute_join_intercalate hne hplain]
  have hfolder : t.follow (t.origin dir) (Path.namesInto dir) = .ok d := folder_of_locate hlocate
  rw [find, locate, hnames, horigin, follow_append, hfolder, ← checkPath_below_iff (locate_eq_ok_iff.1 hlocate).1 hne hq]
  cases checkPath (Path.join dir (String.intercalate "/" q)) with
  | error err => exact iff_of_false (by rintro ⟨⟩) (by rintro ⟨⟨⟩, -⟩)
  | ok u =>
    have hway := follow_storable (r := d ++ q) hd hne hq
    simp only [bind, Except.bind]
    cases hf : t.follow d q with
    | error err =>
      refine iff_of_false (by rintro ⟨⟩) fun h => ?_
      have hok := hway.2 ⟨by rw [h.2, Option.isSome_some], rfl⟩
      rw [hf] at hok
      cases hok
    | ok r =>
      obtain ⟨-, rfl⟩ := (follow_storable hd hne hq).1 hf
      cases hlook : t.look? (d ++ q) with
      | none => simp [hlook]
      | some e' => simp [hlook]

/-! ## Trees on a disk -/

/-- Every name in the tree is one that a disk can hold. -/
def OnDisk (t : FileTree) : Prop := ∀ p e, t.look? p = some e → ∀ name ∈ p, Path.Storable name

/-- Whether a disk can hold the names is seen by the listing of the root. -/
theorem onDisk_iff {t : FileTree} : t.OnDisk ↔ ∀ x ∈ t.below [], ∀ name ∈ x.1, Path.Storable name := by
  constructor
  · intro h x hx
    exact h x.1 x.2 (mem_below_iff.1 hx).2
  · intro h p e hp
    cases p with
    | nil => exact fun name hname => absurd hname List.not_mem_nil
    | cons first rest => exact h (first :: rest, e) (mem_below_iff.2 ⟨by simp, hp⟩)

instance (t : FileTree) : Decidable t.OnDisk := decidable_of_iff _ onDisk_iff.symm

theorem OnDisk.slashFree {t : FileTree} (h : t.OnDisk) : t.SlashFree :=
  fun p e hp name hname => (h p e hp name hname).noSlash

end FileTree

end RecordSheets
