import RecordSheets.Proofs.Files.Writing
import RecordSheets.Proofs.Sheet.Columns
import RecordSheets.Publisher

/-!
# What publishing does

Publishing a category is said by two things: what there is to write (`Publisher.draft`), which comes from the mapping, the presets
and the records, and where it may be written (`Publisher.landing`), which comes from the folder of the sheets. The outcome is a
function of these two (`publish_eq`), and so is the change of the desk: the presets are read if the mapping could be had, and at
most one file is put, at the place of the category's sheet (`deposit`). For a category of which nothing is known the place is that
which the path of its sheet has for a file (`Publisher.spot`, `publish_eq_spot`). In which ways it may end, and with
which outcome and desk, is told once (`Publisher.Ends`), by the mapping, the records and this place.
-/

namespace RecordSheets

/-- Presets that were read once are not read again. -/
theorem PresetStore.get_get (s : PresetStore) (t t' : FileTree) : (s.get t).2.get t' = s.get t := by
  cases h : s.loaded with
  | none => simp [get, h]
  | some presets => simp [get, h]

/-- The mapping of a category depends on the file at its path alone. -/
theorem MappingFolder.load_congr (m : MappingFolder) {t t' : FileTree} {category : String}
    (h : t'.find (m.pathFor category) = t.find (m.pathFor category)) : m.load t' category = m.load t category := by
  have hread : t'.read (m.pathFor category) = t.read (m.pathFor category) := by
    rw [FileTree.read, FileTree.read, h]
  unfold load
  simp only [hread]

theorem MappingFolder.plain_name {category : String} (h : '/' ∉ category.toList) :
    Path.Plain (category ++ Mapping.fileEnding) :=
  Path.Plain.append h (show '/' ∉ Mapping.fileEnding.toList by decide) (by decide)

/-- A mapping that was had was read from a folder. -/
theorem MappingFolder.folder_of_load {m : MappingFolder} {t : FileTree} {category : String} {mapping : Mapping}
    (hc : '/' ∉ category.toList) (h : m.load t category = .ok mapping) :
    ∃ d, t.folder m.dir = .ok d ∧ t.isFolder d = true := by
  have hfind : t.find (m.pathFor category) = (t.target m.dir (category ++ Mapping.fileEnding)).bind t.entryAt :=
    FileTree.find_join (plain_name hc) t m.dir
  cases htarget : t.target m.dir (category ++ Mapping.fileEnding) with
  | error e =>
    have hread : t.read (m.pathFor category) = .error e := by
      rw [FileTree.read, hfind, htarget]
      rfl
    unfold load at h
    simp only [hread] at h
    cases e <;> cases h
  | ok q =>
    obtain ⟨d, hd, hfolder, -⟩ := FileTree.target_eq_ok htarget
    exact ⟨d, hd, hfolder⟩

/-- The desk once the presets were wanted. -/
def Desk.ready (desk : Desk) : Desk := { desk with presets := (desk.presets.get desk.tree).2 }

namespace Publisher

/-! ## Where a sheet may be written -/

/-- The name of a category's sheet in its folder. -/
def sheetName (category : String) : String := category ++ ".csv"

theorem plain_sheetName {category : String} (h : '/' ∉ category.toList) : Path.Plain (sheetName category) :=
  Path.Plain.append h (by decide) (by decide)

/-- The failure that a refusal of the system to write a file is. -/
def refusal (mode : WriteMode) (path : String) (e : SystemError) : Failure :=
  match mode, e with
  | .error, .alreadyThere => .outputExists path
  | _, e => .outputNotWritten path e

/-- The place at which the file of a path may be put. -/
def spot (mode : WriteMode) (t : FileTree) (path : String) : Except SystemError Place :=
  match mode with
  | .overwrite => t.slot path
  | .error => t.newSlot path

/-- A file is saved at the place where it may be put. -/
theorem save_eq (mode : WriteMode) (t : FileTree) (path : String) (content : Bytes) :
    save mode t path content =
      match spot mode t path with
      | .ok q => .ok (t.put q (.file content))
      | .error e => .error (refusal mode path e) := by
  unfold save spot
  cases mode with
  | overwrite =>
    simp only [FileTree.write_eq]
    cases t.slot path with
    | error e => cases e <;> rfl
    | ok q => rfl
  | error =>
    simp only [FileTree.writeNew_eq]
    cases t.newSlot path with
    | error e => cases e <;> rfl
    | ok q => rfl

/-- Where a file may be put, it may be put in place of one that is there. -/
theorem slot_of_spot {mode : WriteMode} {t : FileTree} {path : String} {q : Place} (h : spot mode t path = .ok q) :
    t.slot path = .ok q := by
  cases mode with
  | overwrite => exact h
  | error => exact (FileTree.slot_of_newSlot h).1

/-- The place at which the file of a name in a folder may be put. -/
def landing (mode : WriteMode) (t : FileTree) (dir name : String) : Except SystemError Place :=
  (t.target dir name).bind fun q =>
    match mode with
    | .overwrite => if t.isFolder q then .error .isDirectory else .ok q
    | .error => if (t.look? q).isSome then .error .alreadyThere else .ok q

/-- By a joined path the file of the name may be put. -/
theorem spot_join {name : String} (h : Path.Plain name) (mode : WriteMode) (t : FileTree) (dir : String) :
    spot mode t (Path.join dir name) = landing mode t dir name := by
  cases mode with
  | overwrite => exact FileTree.slot_join h t dir
  | error => exact FileTree.newSlot_join h t dir

/-- A file may be put at the place that its name stands for if no folder is there, and without overwriting if nothing is. -/
theorem landing_eq_ok_iff {mode : WriteMode} {t : FileTree} {dir name : String} {q : Place} :
    landing mode t dir name = .ok q ↔
      t.target dir name = .ok q ∧ t.isFolder q = false ∧ (mode = .error → t.look? q = none) := by
  unfold landing
  cases t.target dir name with
  | error e => simp [Except.bind]
  | ok r =>
    cases mode with
    | overwrite =>
      dsimp only [Except.bind]
      constructor
      · intro h
        split at h
        · cases h
        · rename_i hno
          cases h
          exact ⟨rfl, by simpa using hno, by rintro ⟨⟩⟩
      · rintro ⟨heq, hno, -⟩
        cases heq
        rw [hno]
        rfl
    | error =>
      dsimp only [Except.bind]
      constructor
      · intro h
        split at h
        · cases h
        · rename_i hnone
          cases h
          rw [Option.not_isSome_iff_eq_none] at hnone
          exact ⟨rfl, by simp [FileTree.isFolder, hnone], fun _ => hnone⟩
      · rintro ⟨heq, -, hnone⟩
        cases heq
        rw [hnone rfl]
        rfl

/-- A file may be put at the place of its name only, which is free for it. -/
theorem landing_eq_ok {mode : WriteMode} {t : FileTree} {dir name : String} {q : Place}
    (h : landing mode t dir name = .ok q) :
    t.Free q ∧ ∃ d, t.folder dir = .ok d ∧ t.isFolder d = true ∧ q = d ++ [name] := by
  obtain ⟨htarget, hno, -⟩ := landing_eq_ok_iff.1 h
  obtain ⟨d, hd, hfolder, rfl⟩ := FileTree.target_eq_ok htarget
  exact ⟨⟨by simp, by rwa [List.dropLast_concat], hno⟩, d, hd, hfolder, rfl⟩

/-! ## Publishing a category -/

variable (p : Publisher)

/-- What there is to write for a category: the number of rows and the content of the sheet's file. -/
def draft (desk : Desk) (category : String) (records : List Json) : Except Failure (Option (Nat × Bytes)) :=
  match p.mappings.load desk.tree category with
  | .error e => .error e
  | .ok mapping =>
    let rows := mapping.sheet (desk.presets.get desk.tree).1 p.localization records
    let csv := Csv.encode rows mapping.columnNames
    .ok (if csv.isEmpty then none else some (rows.length, p.content csv))

/-- The outcome of a category and the desk after it, said by what there is to write and where it may be written. -/
theorem publish_eq_spot (desk : Desk) (category : String) (records : List Json) :
    p.publish desk category records =
      match p.draft desk category records with
      | .error e => (.failed e.message, desk)
      | .ok none => (.empty, desk.ready)
      | .ok (some (rows, content)) =>
        match spot p.mode desk.tree (p.outputPath category) with
        | .ok q =>
          (.written (p.outputPath category) rows content.length,
            { desk.ready with tree := desk.tree.put q (.file content) })
        | .error e => (.failed (refusal p.mode (p.outputPath category) e).message, desk.ready) := by
  unfold publish draft
  cases p.mappings.load desk.tree category with
  | error e => rfl
  | ok mapping =>
    simp only [Csv.write_eq_ok]
    split
    · rfl
    · rw [save_eq]
      cases spot p.mode desk.tree (p.outputPath category) <;> rfl

/-- The same for a category without slashes, whose sheet stands for a name in the folder of the sheets. -/
theorem publish_eq {category : String} (hc : '/' ∉ category.toList) (desk : Desk) (records : List Json) :
    p.publish desk category records =
      match p.draft desk category records with
      | .error e => (.failed e.message, desk)
      | .ok none => (.empty, desk.ready)
      | .ok (some (rows, content)) =>
        match landing p.mode desk.tree p.outputDir (sheetName category) with
        | .ok q =>
          (.written (p.outputPath category) rows content.length,
            { desk.ready with tree := desk.tree.put q (.file content) })
        | .error e => (.failed (refusal p.mode (p.outputPath category) e).message, desk.ready) := by
  have hspot : spot p.mode desk.tree (p.outputPath category) = landing p.mode desk.tree p.outputDir (sheetName category) :=
    spot_join (plain_sheetName hc) p.mode desk.tree p.outputDir
  rw [p.publish_eq_spot, hspot]

/-! ## The ways in which publishing ends -/

/-- A category whose mapping cannot be had fails for this reason, and nothing changes. -/
theorem publish_of_load_error (desk : Desk) {category : String} {failure : Failure}
    (h : p.mappings.load desk.tree category = .error failure) (records : List Json) :
    p.publish desk category records = (.failed failure.message, desk) := by
  unfold publish
  rw [h]

/-- The content of the file with the sheet of some records. -/
def sheetContent (presets : Presets) (mapping : Mapping) (records : List Json) : Bytes :=
  p.content (Csv.encode (mapping.sheet presets p.localization records) mapping.columnNames)

/-- With a mapping at hand, there is something to write as soon as there are records. -/
theorem draft_of_load {desk : Desk} {category : String} {mapping : Mapping}
    (h : p.mappings.load desk.tree category = .ok mapping) (records : List Json) :
    p.draft desk category records =
      .ok (if records = [] then none
        else some (records.length, p.sheetContent (desk.presets.get desk.tree).1 mapping records)) := by
  unfold draft sheetContent
  simp only [h, Csv.isEmpty_encode, Mapping.sheet_eq_map, List.isEmpty_map, List.length_map, List.isEmpty_iff]

/-- With a mapping at hand, a category has nothing to write or its sheet is written or refused. -/
theorem publish_of_load {desk : Desk} {category : String} {mapping : Mapping}
    (h : p.mappings.load desk.tree category = .ok mapping) (records : List Json) :
    p.publish desk category records =
      if records = [] then (.empty, desk.ready)
      else
        match spot p.mode desk.tree (p.outputPath category) with
        | .ok q =>
          (.written (p.outputPath category) records.length
              (p.sheetContent (desk.presets.get desk.tree).1 mapping records).length,
            { desk.ready with
              tree := desk.tree.put q (.file (p.sheetContent (desk.presets.get desk.tree).1 mapping records)) })
        | .error e => (.failed (refusal p.mode (p.outputPath category) e).message, desk.ready) := by
  rw [p.publish_eq_spot, p.draft_of_load h]
  by_cases hnil : records = []
  · rw [if_pos hnil, if_pos hnil]
  · cases spot p.mode desk.tree (p.outputPath category) <;> rw [if_neg hnil, if_neg hnil]

/-- How publishing a category may end: with an outcome and the desk after it. -/
inductive Ends (desk : Desk) (category : String) (records : List Json) : Outcome × Desk → Prop
  /-- The mapping cannot be had. -/
  | unmapped {failure : Failure} : p.mappings.load desk.tree category = .error failure →
    Ends desk category records (.failed failure.message, desk)
  /-- There are no records. -/
  | nothing {mapping : Mapping} : p.mappings.load desk.tree category = .ok mapping → records = [] →
    Ends desk category records (.empty, desk.ready)
  /-- The path of the sheet is no place for a file. -/
  | refused {mapping : Mapping} {e : SystemError} : p.mappings.load desk.tree category = .ok mapping → records ≠ [] →
    spot p.mode desk.tree (p.outputPath category) = .error e →
    Ends desk category records (.failed (refusal p.mode (p.outputPath category) e).message, desk.ready)
  /-- The sheet is put at the place that its path has for it. -/
  | written {mapping : Mapping} {q : Place} : p.mappings.load desk.tree category = .ok mapping → records ≠ [] →
    spot p.mode desk.tree (p.outputPath category) = .ok q →
    Ends desk category records
      (.written (p.outputPath category) records.length
          (p.sheetContent (desk.presets.get desk.tree).1 mapping records).length,
        { desk.ready with
          tree := desk.tree.put q (.file (p.sheetContent (desk.presets.get desk.tree).1 mapping records)) })

/-- Publishing a category ends in one of these ways. -/
theorem ends_publish (desk : Desk) (category : String) (records : List Json) :
    p.Ends desk category records (p.publish desk category records) := by
  cases hload : p.mappings.load desk.tree category with
  | error failure =>
    rw [p.publish_of_load_error desk hload]
    exact .unmapped hload
  | ok mapping =>
    rw [p.publish_of_load hload]
    by_cases hnil : records = []
    · rw [if_pos hnil]
      exact .nothing hload hnil
    · rw [if_neg hnil]
      cases hspot : spot p.mode desk.tree (p.outputPath category) with
      | error e => exact .refused hload hnil hspot
      | ok q => exact .written hload hnil hspot

/-! ## What publishing changes -/

/-- Publishing a category reads the presets if its mapping can be had. -/
theorem presets_publish (desk : Desk) (category : String) (records : List Json) :
    (p.publish desk category records).2.presets =
      match p.draft desk category records with
      | .ok _ => desk.ready.presets
      | .error _ => desk.presets := by
  rw [p.publish_eq_spot]
  rcases p.draft desk category records with e | _ | ⟨rows, content⟩
  · rfl
  · rfl
  · cases spot p.mode desk.tree (p.outputPath category) <;> rfl

/-- Publishing a category leaves the tree as it is, or puts a file by the path of the category's sheet. -/
theorem tree_publish_spot (desk : Desk) (category : String) (records : List Json) :
    (p.publish desk category records).2.tree = desk.tree ∨
      ∃ q content, spot p.mode desk.tree (p.outputPath category) = .ok q ∧
        (p.publish desk category records).2.tree = desk.tree.put q (.file content) := by
  have hends := p.ends_publish desk category records
  generalize p.publish desk category records = result at hends ⊢
  cases hends with
  | unmapped hload => exact .inl rfl
  | nothing hload hnil => exact .inl rfl
  | refused hload hne hspot => exact .inl rfl
  | written hload hne hspot => exact .inr ⟨_, _, hspot, rfl⟩

/-- Publishing a category writes at most a file by the path of the category's sheet. -/
theorem writesOnly_publish (desk : Desk) (category : String) (records : List Json) :
    FileTree.WritesOnly (fun path => path = p.outputPath category) desk.tree (p.publish desk category records).2.tree := by
  rcases p.tree_publish_spot desk category records with htree | ⟨q, content, hspot, htree⟩
  · rw [htree]
    exact .refl _ _
  · rw [htree]
    refine .of_slot (slot_of_spot hspot) ?_ content
    rfl

/-- The file that publishing a category puts, if any, with its place. -/
def deposit (desk : Desk) (category : String) (records : List Json) : Option (Place × Bytes) :=
  match p.draft desk category records, landing p.mode desk.tree p.outputDir (sheetName category) with
  | .ok (some (_, content)), .ok q => some (q, content)
  | _, _ => none

/-- Publishing a category puts at most one file. -/
theorem tree_publish {category : String} (hc : '/' ∉ category.toList) (desk : Desk) (records : List Json) :
    (p.publish desk category records).2.tree =
      match p.deposit desk category records with
      | some (q, content) => desk.tree.put q (.file content)
      | none => desk.tree := by
  rw [p.publish_eq hc]
  unfold deposit
  rcases p.draft desk category records with e | _ | ⟨rows, content⟩
  · rfl
  · rfl
  · cases landing p.mode desk.tree p.outputDir (sheetName category) <;> rfl

/-- A place at which publishing a category may put a file, in a tree where the mappings lie in a folder. -/
structure SheetPlace (t : FileTree) (category : String) (q : Place) : Prop where
  /-- The place is free for a file. -/
  free : t.Free q
  /-- The place is that of the category's sheet. -/
  sheets : ∃ d, t.folder p.outputDir = .ok d ∧ t.isFolder d = true ∧ q = d ++ [sheetName category]
  /-- The mappings lie in a folder. -/
  mappings : ∃ d, t.folder p.mappings.dir = .ok d ∧ t.isFolder d = true

/-- A file is put at the place of the category's sheet only. -/
theorem sheetPlace_of_deposit {category : String} (hc : '/' ∉ category.toList) {desk : Desk} {records : List Json}
    {q : Place} {content : Bytes} (h : p.deposit desk category records = some (q, content)) :
    p.SheetPlace desk.tree category q := by
  unfold deposit at h
  split at h
  · rename_i rows content' place hdraft hlanding
    cases h
    obtain ⟨hfree, hsheets⟩ := landing_eq_ok hlanding
    refine ⟨hfree, hsheets, ?_⟩
    unfold draft at hdraft
    cases hload : p.mappings.load desk.tree category with
    | error e => simp [hload] at hdraft
    | ok mapping => exact MappingFolder.folder_of_load hc hload
  · cases h

/-- Publishing a category leaves the tree as it is, or puts a file at the place of the category's sheet. -/
theorem tree_publish_cases {category : String} (hc : '/' ∉ category.toList) (desk : Desk) (records : List Json) :
    (p.publish desk category records).2.tree = desk.tree ∨
      ∃ q content, p.SheetPlace desk.tree category q ∧
        (p.publish desk category records).2.tree = desk.tree.put q (.file content) := by
  rw [p.tree_publish hc]
  cases h : p.deposit desk category records with
  | none => exact .inl rfl
  | some x => exact .inr ⟨x.1, x.2, p.sheetPlace_of_deposit hc h, rfl⟩

end Publisher

end RecordSheets
