import RecordSheets.Proofs.Files.Resolve

/-!
# Files in a folder, by joined paths

A folder's path joined with a plain name leads to that name in the folder, and to nothing else: the way to the folder is the same
for all names (`Path.names_join`, `FileTree.folder`). What is found, written or refused at such a path is said by the one place
that it stands for (`FileTree.target`), so two names in a folder never stand for one place.
-/

namespace RecordSheets

namespace Path

/-- A name that stands for a place of its own in a folder. -/
structure Plain (name : String) : Prop where
  /-- The name has no slash in it. -/
  noSlash : '/' ∉ name.toList
  /-- The name does not stay at the folder. -/
  moves : staysPut name = false
  /-- The name does not go up. -/
  notUp : name ≠ ".."

theorem Plain.isNoBlank {name : String} (h : Plain name) : (name == "") = false := by
  have hmoves := h.moves
  rw [staysPut, Bool.or_eq_false_iff] at hmoves
  exact hmoves.1

theorem Plain.isNoDot {name : String} (h : Plain name) : (name == ".") = false := by
  have hmoves := h.moves
  rw [staysPut, Bool.or_eq_false_iff] at hmoves
  exact hmoves.2

/-- A text with a longer ending neither stays at its place nor goes up. -/
theorem moves_append (text : String) {ending : String} (hlong : 2 < ending.length) :
    staysPut (text ++ ending) = false ∧ text ++ ending ≠ ".." := by
  have hlength : (text ++ ending).length = text.length + ending.length := String.length_append text ending
  have hne : ∀ short : String, short.length ≤ 2 → text ++ ending ≠ short := by
    intro short hshort h
    rw [h] at hlength
    omega
  exact ⟨by simp [staysPut, hne "" (by decide), hne "." (by decide)], hne ".." (by decide)⟩

/-- A text without slashes and a longer ending without slashes are a plain name. -/
theorem Plain.append {text ending : String} (htext : '/' ∉ text.toList) (hending : '/' ∉ ending.toList)
    (hlong : 2 < ending.length) : Plain (text ++ ending) := by
  obtain ⟨hmoves, hup⟩ := moves_append text hlong
  refine ⟨?_, hmoves, hup⟩
  rw [String.toList_append, List.mem_append]
  exact not_or.2 ⟨htext, hending⟩

theorem isAbsolute_of_noSlash {name : String} (h : '/' ∉ name.toList) : isAbsolute name = false := by
  unfold isAbsolute
  cases hl : name.toList with
  | nil => rfl
  | cons c rest =>
    have hc : c ≠ '/' := by
      rintro rfl
      exact h (by simp [hl])
    simpa using hc

/-- A joined path is the name itself, or the name behind a slash and a text that depends on the folder's path alone. -/
theorem toList_join (dir : String) :
    (∀ name : String, '/' ∉ name.toList → join dir name = name ∧ isAbsolute dir = false) ∨
      ∃ before : List Char, ∀ name : String, '/' ∉ name.toList →
        (join dir name).toList = before ++ '/' :: name.toList ∧ isAbsolute (join dir name) = isAbsolute dir := by
  by_cases hempty : dir = ""
  · subst hempty
    left
    intro name h
    simp [join, isAbsolute]
  · right
    obtain ⟨c, cs, hcs⟩ := List.exists_cons_of_ne_nil (fun h => hempty (String.toList_eq_nil_iff.1 h))
    by_cases hlast : dir.toList.getLast? = some '/'
    · refine ⟨dir.toList.dropLast, fun name h => ?_⟩
      have hjoin : join dir name = dir ++ name := by
        simp [join, isAbsolute_of_noSlash h, hlast]
      obtain ⟨front, hfront⟩ := List.getLast?_eq_some_iff.1 hlast
      constructor
      · rw [hjoin, String.toList_append, hfront]
        simp
      · simp [hjoin, isAbsolute, hcs]
    · refine ⟨dir.toList, fun name h => ?_⟩
      have hjoin : join dir name = dir ++ "/" ++ name := by
        simp [join, isAbsolute_of_noSlash h, hlast, hempty]
      constructor
      · rw [hjoin, String.toList_append, String.toList_append]
        simp
      · simp [hjoin, isAbsolute, hcs]

/-- The names that lead into a folder by its path. -/
def namesInto (dir : String) : List String := (names (join dir "")).dropLast

/-- A joined path leads into the folder and then to the name. -/
theorem names_join (dir : String) {name : String} (h : '/' ∉ name.toList) :
    names (join dir name) = namesInto dir ++ [name] := by
  have hone : ∀ s : String, '/' ∉ s.toList → (Text.pieces '/' s.toList).map String.ofList = [s] := by
    intro s hs
    rw [Text.pieces_of_not_mem hs]
    simp
  rcases toList_join dir with hplain | ⟨before, hbehind⟩
  · rw [namesInto, (hplain name h).1, (hplain "" (by simp)).1, names, names, Text.cut, Text.cut, hone name h,
      hone "" (by simp)]
    rfl
  · rw [namesInto, names, names, Text.cut, Text.cut, (hbehind name h).1, (hbehind "" (by simp)).1,
      Text.pieces_append_cons, Text.pieces_append_cons, List.map_append, List.map_append, hone name h, hone "" (by simp),
      List.dropLast_concat]

/-- The last name of a joined path ends as the part that was joined ends, whatever slashes stand before. -/
theorem names_join_append (dir text : String) {ending : String} (h : '/' ∉ ending.toList) :
    ∃ front stem, names (join dir (text ++ ending)) = front ++ [stem ++ ending] := by
  obtain ⟨before, hjoin⟩ : ∃ before, join dir (text ++ ending) = before ++ ending := by
    unfold join
    split
    · exact ⟨text, rfl⟩
    · split
      · exact ⟨dir ++ text, (String.append_assoc ..).symm⟩
      · exact ⟨dir ++ "/" ++ text, (String.append_assoc ..).symm⟩
  obtain ⟨front, last, hpieces⟩ := Text.pieces_append_of_not_mem h before.toList
  refine ⟨front.map String.ofList, String.ofList last, ?_⟩
  rw [hjoin, names, Text.cut, String.toList_append, hpieces, List.map_append, List.map_singleton, String.ofList_append,
    String.ofList_toList]

/-- Different names in a folder have different paths. -/
theorem join_ne (dir : String) {name other : String} (h : '/' ∉ name.toList) (h' : '/' ∉ other.toList) (hne : name ≠ other) :
    join dir name ≠ join dir other := by
  intro heq
  have hnames := congrArg names heq
  rw [names_join dir h, names_join dir h'] at hnames
  exact hne (List.singleton_inj.1 (List.append_cancel_left hnames))

theorem isAbsolute_join (dir : String) {name : String} (h : '/' ∉ name.toList) :
    isAbsolute (join dir name) = isAbsolute dir := by
  rcases toList_join dir with hplain | ⟨before, hbehind⟩
  · rw [(hplain name h).1, (hplain name h).2, isAbsolute_of_noSlash h]
  · exact (hbehind name h).2

end Path

namespace FileTree

/-- The folder that a path leads into. -/
def folder (t : FileTree) (dir : String) : Except SystemError Place := t.follow (t.origin dir) (Path.namesInto dir)

/-- The place of a name in a folder, whether or not something is there. -/
def placeIn (t : FileTree) (d : Place) (name : String) : Except SystemError Place :=
  match t.look? d with
  | none => .error .notFound
  | some (.file _) => .error .notDirectory
  | some .folder => if nameLimit < name.utf8ByteSize then .error .nameTooLong else .ok (d ++ [name])

/-- The place that a name in the folder of a path stands for, whether or not something is there. -/
def target (t : FileTree) (dir name : String) : Except SystemError Place := do
  checkPath (Path.join dir name)
  let d ← t.folder dir
  t.placeIn d name

/-- Different names never stand for one place, whatever the folders. -/
theorem place_ne {name other : String} (h : name ≠ other) (d d' : Place) : d ++ [name] ≠ d' ++ [other] := by
  intro heq
  exact h (List.singleton_inj.1 (List.append_inj_right' heq rfl))

/-- A name in a folder has the place of that name. -/
theorem placeIn_eq_ok {t : FileTree} {d q : Place} {name : String} (h : t.placeIn d name = .ok q) :
    t.isFolder d = true ∧ q = d ++ [name] := by
  unfold placeIn at h
  split at h
  · cases h
  · cases h
  · rename_i hd
    split at h
    · cases h
    · cases h
      exact ⟨isFolder_iff.2 hd, rfl⟩

/-- The place that a name stands for lies in the folder, with that name. -/
theorem target_eq_ok {t : FileTree} {dir name : String} {q : Place} (h : t.target dir name = .ok q) :
    ∃ d, t.folder dir = .ok d ∧ t.isFolder d = true ∧ q = d ++ [name] := by
  unfold target at h
  cases hcheck : checkPath (Path.join dir name) with
  | error e => simp [hcheck, bind, Except.bind] at h
  | ok u =>
    cases hfolder : t.folder dir with
    | error e => simp [hcheck, hfolder, bind, Except.bind] at h
    | ok d =>
      simp only [hcheck, hfolder, bind, Except.bind] at h
      exact ⟨d, rfl, placeIn_eq_ok h⟩

theorem Same.target {t t' : FileTree} (h : Same t t') (dir name : String) : t.target dir name = t'.target dir name := by
  simp only [FileTree.target, folder, placeIn, origin_eq h.here, h.follow, h.look?]

/-- Names in a folder keep their places where folders are kept. -/
theorem KeepsFolders.target {t t' : FileTree} (h : KeepsFolders t t') {dir : String} {d : Place}
    (hd : t.folder dir = .ok d) (hfolder : t.isFolder d = true) (name : String) :
    t.target dir name = t'.target dir name := by
  have hd' : t'.folder dir = .ok d := by
    rw [folder, ← origin_eq h.here]
    exact h.follow hd hfolder
  have hplace : t'.placeIn d name = t.placeIn d name := by
    rw [placeIn, placeIn, isFolder_iff.1 hfolder, isFolder_iff.1 (h.isFolder d hfolder)]
  simp only [FileTree.target, hd, hd', bind, Except.bind, hplace]

/-! ## Reading and writing -/

/-- What a place holds. -/
def entryAt (t : FileTree) (q : Place) : Except SystemError Entry :=
  match t.look? q with
  | some e => .ok e
  | none => .error .notFound

/-- A step to a plain name leads to what the place of that name holds. -/
theorem step_bind_entryAt {name : String} (h : Path.Plain name) (t : FileTree) (d : Place) :
    (t.step d name).bind t.entryAt = (t.placeIn d name).bind t.entryAt := by
  rw [step_eq, placeIn]
  cases t.look? d with
  | none => rfl
  | some e =>
    cases e with
    | file content => rfl
    | folder =>
      simp only [h.moves, if_neg h.notUp, Bool.false_eq_true, if_false]
      by_cases hlong : nameLimit < name.utf8ByteSize
      · rw [if_pos hlong, if_pos hlong]
      · rw [if_neg hlong, if_neg hlong]
        cases hl : t.look? (d ++ [name]) with
        | none => simp [Except.bind, entryAt, hl]
        | some e => simp [Except.bind, entryAt, hl]

theorem origin_join {name : String} (h : Path.Plain name) (t : FileTree) (dir : String) :
    t.origin (Path.join dir name) = t.origin dir := by
  rw [origin, origin, Path.isAbsolute_join dir h.noSlash]

/-- What a joined path leads to is what the place of the name holds. -/
theorem find_join {name : String} (h : Path.Plain name) (t : FileTree) (dir : String) :
    t.find (Path.join dir name) = (t.target dir name).bind t.entryAt := by
  have hfollow : t.follow (t.origin dir) (Path.namesInto dir ++ [name]) = (t.folder dir).bind fun d => t.step d name := by
    simp only [follow, folder, List.foldlM_append, List.foldlM_cons, List.foldlM_nil, bind_pure]
    rfl
  rw [find, locate, target, Path.names_join dir h.noSlash, origin_join h, hfollow]
  cases checkPath (Path.join dir name) with
  | error e => rfl
  | ok u =>
    cases t.folder dir with
    | error e => rfl
    | ok d => exact step_bind_entryAt h t d

/-- The names of a joined path without empty ones at the end are all its names. -/
theorem trimmedNames_join {name : String} (h : Path.Plain name) (dir : String) :
    trimmedNames (Path.join dir name) = Path.namesInto dir ++ [name] := by
  rw [trimmedNames, Path.names_join dir h.noSlash, List.reverse_append, List.reverse_singleton, List.singleton_append,
    List.dropWhile_cons, h.isNoBlank, if_neg (by simp), List.reverse_cons, List.reverse_reverse]

/-- The site of a name in a folder. -/
def siteIn (t : FileTree) (d : Place) (name : String) : Except SystemError Site :=
  match t.look? d with
  | none => .error .notFound
  | some (.file _) => .error .notDirectory
  | some .folder => .ok ⟨d, name, false⟩

/-- The site of a joined path is the name in the folder. -/
theorem site_join {name : String} (h : Path.Plain name) (t : FileTree) (dir : String) :
    t.site (Path.join dir name) = (do
      checkPath (Path.join dir name)
      let d ← t.folder dir
      t.siteIn d name) := by
  simp only [site, trimmedNames_join h, Path.names_join dir h.noSlash, origin_join h, folder, List.dropLast_concat,
    List.getLast?_concat, Option.getD_some, Nat.lt_irrefl, decide_false]
  rfl

theorem isDots_of_plain {name : String} (h : Path.Plain name) (d : Place) : Site.isDots ⟨d, name, false⟩ = false := by
  rw [Site.isDots, h.isNoDot, beq_false_of_ne h.notUp]
  rfl

/-- What is done at the site of a joined path, once the name is found to be short enough, is done at the place of the name. -/
theorem site_bind {name : String} (h : Path.Plain name) (t : FileTree) (dir : String) {α : Type}
    {f : Site → Except SystemError α} {g : Place → Except SystemError α}
    (hfg : ∀ d, f ⟨d, name, false⟩ =
      if nameLimit < name.utf8ByteSize then .error .nameTooLong else g (d ++ [name])) :
    (t.site (Path.join dir name)).bind f = (t.target dir name).bind g := by
  rw [site_join h, target]
  cases checkPath (Path.join dir name) with
  | error e => rfl
  | ok u =>
    cases t.folder dir with
    | error e => rfl
    | ok d =>
      simp only [bind, Except.bind, placeIn, siteIn]
      cases t.look? d with
      | none => rfl
      | some e =>
        cases e with
        | file content => rfl
        | folder =>
          simp only [hfg]
          by_cases hlong : nameLimit < name.utf8ByteSize
          · rw [if_pos hlong, if_pos hlong]
          · rw [if_neg hlong, if_neg hlong]

/-- A file that is put at another place does not change what a name in a folder leads to. -/
theorem Free.find_join {t : FileTree} {q : Place} (hq : t.Free q) (content : Bytes) {dir name : String} {d : Place}
    (h : Path.Plain name) (hd : t.folder dir = .ok d) (hfolder : t.isFolder d = true) (hne : d ++ [name] ≠ q) :
    (t.put q (.file content)).find (Path.join dir name) = t.find (Path.join dir name) := by
  rw [FileTree.find_join h, FileTree.find_join h, ← (hq.keepsFolders content).target hd hfolder]
  cases htarget : t.target dir name with
  | error e => rfl
  | ok r =>
    obtain ⟨d', hd', -, rfl⟩ := target_eq_ok htarget
    obtain rfl : d' = d := by
      rw [hd] at hd'
      cases hd'
      rfl
    simp only [Except.bind, entryAt, hq.look?_put, if_neg hne]

end FileTree

end RecordSheets
