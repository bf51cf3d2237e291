import RecordSheets.Proofs.Publishing.Exclusive

/-!
# Outcomes that tell the truth

What the outcome of a category says about the files is so. Publishing ends in one of four ways (`Publisher.Ends`), and each of them
has its own outcome and its own files: a sheet that is said to be written is read back at its path, byte for byte
(`Publisher.Wrote`), and an outcome that tells of no sheet leaves the files as they were. The names of a category are not restricted:
with a slash in it the path of its sheet leads to another folder, or to none.
-/

namespace RecordSheets.Publisher

variable (p : Publisher)

/-! ## What the outcomes say -/

/-- What has to be so once a sheet is said to be written to a path, with a number of rows and of bytes. -/
structure Wrote (before after : Desk) (category : String) (records : List Json) (path : String) (rows bytes : Nat) :
    Prop where
  /-- The path is that of the category's sheet. -/
  path_eq : path = p.outputPath category
  /-- Each record has a row. -/
  rows_eq : rows = records.length
  /-- The file at the path holds the CSV text of the sheet, behind a byte order mark where one is wanted, and nothing else. These are
  the bytes that are counted. -/
  content : ∃ mapping csv content, p.mappings.load before.tree category = .ok mapping ∧
    Csv.write (mapping.sheet (before.presets.get before.tree).1 p.localization records) mapping.columnNames = .ok csv ∧
    content = Utf8.encode ((if p.mark then "\uFEFF" else "") ++ csv) ∧
    after.tree.read path = .ok content ∧ bytes = content.length
  /-- Only the place where the path leads looks different. -/
  others : ∃ place, after.tree.locate path = .ok place ∧
    ∀ other, other ≠ place → after.tree.look? other = before.tree.look? other
  /-- Without overwriting, the path led to nothing before. -/
  fresh : p.mode = .error → before.tree.find path = .error .notFound

/-- The content of a sheet's file is its text, behind a byte order mark where one is wanted. -/
theorem content_eq (csv : String) : p.content csv = Utf8.encode ((if p.mark then "\uFEFF" else "") ++ csv) := by
  have hmark : Csv.byteOrderMark = "\uFEFF" := by decide
  unfold content Csv.withMark
  rw [hmark]
  split
  · rfl
  · rw [String.empty_append]

/-- A sheet that is put where its path has a place for it has been written. -/
theorem wrote_put {desk : Desk} {category : String} {mapping : Mapping}
    (hload : p.mappings.load desk.tree category = .ok mapping) (records : List Json) {q : Place}
    (hspot : spot p.mode desk.tree (p.outputPath category) = .ok q) :
    p.Wrote desk
      { desk.ready with tree := desk.tree.put q (.file (p.sheetContent (desk.presets.get desk.tree).1 mapping records)) }
      category records (p.outputPath category) records.length
      (p.sheetContent (desk.presets.get desk.tree).1 mapping records).length := by
  have hslot := slot_of_spot hspot
  have hfree := FileTree.free_of_slot hslot
  refine ⟨rfl, rfl, ?_, ⟨q, ?_, ?_⟩, ?_⟩
  · exact ⟨mapping, _, _, hload, Csv.write_eq_ok _ _, p.content_eq _, FileTree.read_put hslot _, rfl⟩
  · refine FileTree.locate_of_slot hslot (hfree.keepsFolders _) ?_
    rw [hfree.look?_put, if_pos rfl, Option.isSome_some]
  · intro other hne
    rw [hfree.look?_put, if_neg hne]
  · intro hmode
    rw [hmode] at hspot
    exact FileTree.find_of_newSlot hspot

variable {p} {desk : Desk} {category : String} {records : List Json}

/-- What is said to be written is. -/
theorem Ends.wrote {result : Outcome × Desk} (h : p.Ends desk category records result) {path : String} {rows bytes : Nat}
    (hwritten : result.1 = .written path rows bytes) : p.Wrote desk result.2 category records path rows bytes := by
  cases h with
  | unmapped hload => cases hwritten
  | nothing hload hnil => cases hwritten
  | refused hload hne hspot => cases hwritten
  | written hload hne hspot =>
    cases hwritten
    exact p.wrote_put hload records hspot

/-- There is nothing to write if and only if there are no records for a mapping that can be had. -/
theorem Ends.empty_iff {result : Outcome × Desk} (h : p.Ends desk category records result) :
    result.1 = .empty ↔ (∃ mapping, p.mappings.load desk.tree category = .ok mapping) ∧ records = [] := by
  cases h with
  | unmapped hload => simp [hload]
  | nothing hload hnil => simp [hload, hnil]
  | refused hload hne hspot => simp [hne]
  | written hload hne hspot => simp [hne]

/-- Where nothing is said to be written, the files are as they were. -/
theorem Ends.tree_eq {result : Outcome × Desk} (h : p.Ends desk category records result)
    (hnot : ∀ path rows bytes, result.1 ≠ .written path rows bytes) : result.2.tree = desk.tree := by
  cases h with
  | unmapped hload => rfl
  | nothing hload hnil => rfl
  | refused hload hne hspot => rfl
  | written hload hne hspot => exact absurd rfl (hnot _ _ _)

/-- The outcome of a category tells the truth about the files. A sheet is said to be written only if the file at its path holds the
text of the sheet and nothing else, as many bytes as are told, and all other files are as they were; without overwriting, there was
nothing at the path before. There is said to be nothing to write if and only if the mapping can be had and there are no records. And
if no sheet is said to be written, for whatever reason, no file has changed. -/
theorem publish_truthful (p : Publisher) (desk : Desk) (category : String) (records : List Json) :
    (∀ path rows bytes, (p.publish desk category records).1 = .written path rows bytes →
        p.Wrote desk (p.publish desk category records).2 category records path rows bytes) ∧
      ((p.publish desk category records).1 = .empty ↔
        (∃ mapping, p.mappings.load desk.tree category = .ok mapping) ∧ records = []) ∧
      ((p.publish desk category records).1 = .empty ∨ (∃ reason, (p.publish desk category records).1 = .failed reason) →
        (p.publish desk category records).2.tree = desk.tree) := by
  have hends := p.ends_publish desk category records
  refine ⟨fun path rows bytes hwritten => hends.wrote hwritten, hends.empty_iff, ?_⟩
  intro hnone
  refine hends.tree_eq ?_
  intro path rows bytes hwritten
  rw [hwritten] at hnone
  simp at hnone

def ship : List Json := [.obj [("n", .int 3)]]

/-- The theorem where a sheet is written and then, as it is there, refused. -/
theorem publish_truthful_twice :
    (careful.publish oneMappingDesk "船" ship).1 = .written "data/船.csv" 1 7 ∧
      careful.Wrote oneMappingDesk (careful.publish oneMappingDesk "船" ship).2 "船" ship "data/船.csv" 1 7 ∧
      (careful.publish (careful.publish oneMappingDesk "船" ship).2 "船" ship).1 =
        .failed "출력 파일이 이미 존재합니다: data/船.csv" ∧
      (careful.publish (careful.publish oneMappingDesk "船" ship).2 "船" ship).2.tree =
        (careful.publish oneMappingDesk "船" ship).2.tree := by
  have hwritten : (careful.publish oneMappingDesk "船" ship).1 = .written "data/船.csv" 1 7 := by decide +kernel
  have hrefused : (careful.publish (careful.publish oneMappingDesk "船" ship).2 "船" ship).1 =
      .failed "출력 파일이 이미 존재합니다: data/船.csv" := by decide +kernel
  have hfirst := publish_truthful careful oneMappingDesk "船" ship
  have hsecond := publish_truthful careful (careful.publish oneMappingDesk "船" ship).2 "船" ship
  exact ⟨hwritten, hfirst.1 _ _ _ hwritten, hrefused, hsecond.2.2 (.inr ⟨_, hrefused⟩)⟩

end RecordSheets.Publisher
