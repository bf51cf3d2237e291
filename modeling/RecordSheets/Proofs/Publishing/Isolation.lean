import RecordSheets.Proofs.Publishing.Effect

/-!
# The categories of a batch do not meet

What publishing a category sees of a desk is its draft and its landing (`Publisher.Sees`). Publishing another category changes
neither: the file that it puts bears another name, and it loses no folder (`sees_publish`). So the outcomes of a batch are those that
each of its categories has alone, two categories can change places (`publish_comm`), and the files do not depend on the order.
-/

namespace RecordSheets

/-- Two desks with the same presets, whose trees show the same. -/
structure Desk.Same (desk desk' : Desk) : Prop where
  /-- The trees show the same. -/
  tree : FileTree.Same desk.tree desk'.tree
  /-- The presets are the same, and read as far. -/
  presets : desk.presets = desk'.presets

namespace Desk.Same

theorem refl (desk : Desk) : Same desk desk := ⟨.refl desk.tree, rfl⟩

theorem symm {desk desk' : Desk} (h : Same desk desk') : Same desk' desk := ⟨h.tree.symm, h.presets.symm⟩

theorem trans {desk desk' desk'' : Desk} (h : Same desk desk') (h' : Same desk' desk'') : Same desk desk'' :=
  ⟨h.tree.trans h'.tree, h.presets.trans h'.presets⟩

theorem get {desk desk' : Desk} (h : Same desk desk') :
    desk'.presets.get desk'.tree = desk.presets.get desk.tree := by
  have hload : ∀ dir, Presets.load desk'.tree dir = Presets.load desk.tree dir := by
    intro dir
    simp only [Presets.load, FileTree.readTable?, h.tree.read]
  rw [← h.presets, PresetStore.get, PresetStore.get]
  cases desk.presets.loaded with
  | none => simp only [hload]
  | some presets => rfl

theorem ready {desk desk' : Desk} (h : Same desk desk') : desk'.ready.presets = desk.ready.presets := by
  rw [Desk.ready, Desk.ready, h.get]

end Desk.Same

namespace Publisher

theorem sheetName_ne {category other : String} (h : category ≠ other) : sheetName category ≠ sheetName other := by
  intro heq
  have hlist := congrArg String.toList heq
  rw [sheetName, sheetName, String.toList_append, String.toList_append] at hlist
  exact h (String.toList_inj.1 (List.append_cancel_right hlist))

/-- No sheet has the name of a mapping. -/
theorem mappingName_ne_sheetName (category other : String) : other ++ Mapping.fileEnding ≠ sheetName category := by
  intro heq
  have hlast := congrArg (fun s => s.toList.getLast?) heq
  simp [sheetName, Mapping.fileEnding] at hlast

variable (p : Publisher)

/-- Different categories without slashes have sheets of different paths. -/
theorem outputPath_ne {category other : String} (hc : '/' ∉ category.toList) (ho : '/' ∉ other.toList)
    (hne : category ≠ other) : p.outputPath category ≠ p.outputPath other :=
  Path.join_ne p.outputDir (plain_sheetName hc).noSlash (plain_sheetName ho).noSlash (sheetName_ne hne)

/-! ## What publishing a category sees -/

/-- Publishing a category sees the same at two desks: the same draft, and the same place for the sheet or the same refusal. -/
structure Sees (category : String) (desk desk' : Desk) : Prop where
  /-- There is the same to write. -/
  draft : ∀ records, p.draft desk' category records = p.draft desk category records
  /-- It may be written to the same place, or to none for the same reason. -/
  landing : Publisher.landing p.mode desk'.tree p.outputDir (sheetName category) =
    Publisher.landing p.mode desk.tree p.outputDir (sheetName category)

namespace Sees

variable {p} {category : String} {desk desk' desk'' : Desk}

theorem refl (category : String) (desk : Desk) : p.Sees category desk desk := ⟨fun _ => rfl, rfl⟩

theorem trans (h : p.Sees category desk desk') (h' : p.Sees category desk' desk'') : p.Sees category desk desk'' :=
  ⟨fun records => (h'.draft records).trans (h.draft records), h'.landing.trans h.landing⟩

/-- A category for which the desks look the same has the same outcome at both. -/
theorem outcome (h : p.Sees category desk desk') (hc : '/' ∉ category.toList) (records : List Json) :
    (p.publish desk' category records).1 = (p.publish desk category records).1 := by
  rw [p.publish_eq hc, p.publish_eq hc, h.draft, h.landing]
  rcases p.draft desk category records with e | _ | ⟨rows, content⟩
  · rfl
  · rfl
  · cases Publisher.landing p.mode desk.tree p.outputDir (sheetName category) <;> rfl

/-- A category for which the desks look the same puts the same file at both. -/
theorem deposit (h : p.Sees category desk desk') (records : List Json) :
    p.deposit desk' category records = p.deposit desk category records := by
  unfold Publisher.deposit
  rw [h.draft, h.landing]

end Sees

/-- A mapping and presets that are had alike give the same draft. -/
theorem draft_congr {category : String} {desk desk' : Desk}
    (hfind : desk'.tree.find (p.mappings.pathFor category) = desk.tree.find (p.mappings.pathFor category))
    (hpresets : (desk'.presets.get desk'.tree).1 = (desk.presets.get desk.tree).1) (records : List Json) :
    p.draft desk' category records = p.draft desk category records := by
  unfold draft
  rw [MappingFolder.load_congr p.mappings hfind, hpresets]

theorem sees_of_same {desk desk' : Desk} (h : Desk.Same desk desk') (category : String) : p.Sees category desk desk' := by
  refine ⟨fun records => p.draft_congr (h.tree.find _).symm (by rw [h.get]) records, ?_⟩
  simp only [Publisher.landing, h.tree.target, h.tree.isFolder, h.tree.look?]

/-! ## What publishing another category leaves alone -/

/-- A sheet that is written changes no mapping. -/
theorem find_mapping_publish {category other : String} (hc : '/' ∉ category.toList) (ho : '/' ∉ other.toList) (desk : Desk)
    (records : List Json) :
    (p.publish desk category records).2.tree.find (p.mappings.pathFor other) =
      desk.tree.find (p.mappings.pathFor other) := by
  rcases p.tree_publish_cases hc desk records with htree | ⟨q, content, hq, htree⟩
  · rw [htree]
  · rw [htree]
    obtain ⟨d, hd, hfolder⟩ := hq.mappings
    obtain ⟨d', -, -, rfl⟩ := hq.sheets
    exact hq.free.find_join content (MappingFolder.plain_name ho) hd hfolder
      (FileTree.place_ne (mappingName_ne_sheetName category other) d d')

/-- The presets that are had do not change when a category is published. -/
theorem get_publish {category : String} (hc : '/' ∉ category.toList) (desk : Desk) (records : List Json) :
    (p.publish desk category records).2.presets.get (p.publish desk category records).2.tree =
      desk.presets.get desk.tree := by
  have hpresets := p.presets_publish desk category records
  cases hdraft : p.draft desk category records with
  | ok there =>
    rw [hdraft] at hpresets
    rw [hpresets, Desk.ready, PresetStore.get_get]
  | error e =>
    have htree : (p.publish desk category records).2.tree = desk.tree := by
      have hnone : p.deposit desk category records = none := by
        unfold deposit
        rw [hdraft]
      rw [p.tree_publish hc, hnone]
    rw [hdraft] at hpresets
    rw [hpresets, htree]

/-- What there is to write does not change when a category is published, be it the same one. -/
theorem draft_publish {category other : String} (hc : '/' ∉ category.toList) (ho : '/' ∉ other.toList) (desk : Desk)
    (records records' : List Json) :
    p.draft (p.publish desk category records).2 other records' = p.draft desk other records' :=
  p.draft_congr (p.find_mapping_publish hc ho desk records) (by rw [p.get_publish hc]) records'

/-- A sheet that is written leaves the sheets of the other categories the places that they had. -/
theorem landing_publish {category other : String} (hc : '/' ∉ category.toList) (hne : category ≠ other) (desk : Desk)
    (records : List Json) :
    landing p.mode (p.publish desk category records).2.tree p.outputDir (sheetName other) =
      landing p.mode desk.tree p.outputDir (sheetName other) := by
  rcases p.tree_publish_cases hc desk records with htree | ⟨q, content, hq, htree⟩
  · rw [htree]
  · obtain ⟨d, hd, hfolder, rfl⟩ := hq.sheets
    have htarget := (hq.free.keepsFolders content).target hd hfolder (sheetName other)
    rw [htree, landing, landing, ← htarget]
    cases hplace : desk.tree.target p.outputDir (sheetName other) with
    | error e => rfl
    | ok r =>
      obtain ⟨d', -, -, rfl⟩ := FileTree.target_eq_ok hplace
      have hother := FileTree.place_ne (sheetName_ne hne.symm) d' d
      simp only [Except.bind, hq.free.isFolder_put, hq.free.look?_put, if_neg hother]

/-- A category sees nothing of another one that is published. -/
theorem sees_publish {category other : String} (hc : '/' ∉ category.toList) (ho : '/' ∉ other.toList)
    (hne : category ≠ other) (desk : Desk) (records : List Json) :
    p.Sees other desk (p.publish desk category records).2 := by
  refine ⟨fun records' => ?_, p.landing_publish hc hne desk records⟩
  exact p.draft_publish hc ho desk records records'

/-- A sheet that is written leaves the sheets of the other categories as they were. -/
theorem find_outputPath_publish {category other : String} (hc : '/' ∉ category.toList) (ho : '/' ∉ other.toList)
    (hne : category ≠ other) (desk : Desk) (records : List Json) :
    (p.publish desk category records).2.tree.find (p.outputPath other) = desk.tree.find (p.outputPath other) := by
  rcases p.tree_publish_cases hc desk records with htree | ⟨q, content, hq, htree⟩
  · rw [htree]
  · rw [htree]
    obtain ⟨d, hd, hfolder, rfl⟩ := hq.sheets
    exact hq.free.find_join content (plain_sheetName ho) hd hfolder (FileTree.place_ne (sheetName_ne hne.symm) d d)

end Publisher

end RecordSheets
