import RecordSheets.Proofs.Files.Shape
import RecordSheets.Proofs.Publishing.Exclusive

/-!
# What presets and localization make no difference to

Presets and localization go into the cells of a sheet, and nothing else is made of the cells but the content of the sheet's file. No later
decision looks into such a file: mappings are other files, and where a sheet can be written depends on the shape of the tree. So two
publications with different presets and localizations have trees that are alike for publishing (`Publisher.Alike`) after every category if
they had before (`Publisher.Abreast.publish`), and the same outcomes but for the sizes of the files (`Publisher.publishAll_indifferent`).
-/

namespace RecordSheets

/-! ## Outcomes without sizes -/

/-- An outcome without the size of the file. -/
def Outcome.sizeless : Outcome → Outcome
  | .written path rows _ => .written path rows 0
  | .empty => .empty
  | .failed reason => .failed reason

/-- A report does not say how large the files are. -/
theorem Report.record_sizeless (r : Report) (category : String) (outcome : Outcome) :
    r.record category outcome.sizeless = r.record category outcome := by
  cases outcome <;> rfl

/-- The report on a batch does not depend on the sizes of the files. -/
theorem Report.ofBatch_sizeless (batch : List CategoryRecords) (outcomes : List Outcome) :
    ofBatch batch (outcomes.map Outcome.sizeless) = ofBatch batch outcomes := by
  unfold ofBatch
  rw [List.zip_map_right, List.foldl_map]
  simp only [Prod.map_fst, Prod.map_snd, id_eq, record_sizeless]

namespace Publisher

/-! ## Trees that are alike for publishing -/

/-- Two trees have one shape and the same mappings. -/
structure Alike (t t' : FileTree) : Prop extends FileTree.SameShape t t' where
  /-- The files with names of mappings are the same. -/
  mapping : ∀ p stem, t'.look? (p ++ [stem ++ Mapping.fileEnding]) = t.look? (p ++ [stem ++ Mapping.fileEnding])

namespace Alike

theorem refl (t : FileTree) : Alike t t := ⟨.refl t, fun _ _ => rfl⟩

variable {t t' : FileTree} (h : Alike t t')
include h

theorem load (m : MappingFolder) (category : String) : m.load t' category = m.load t category := by
  refine m.load_congr ?_
  unfold FileTree.find
  rw [h.locate]
  cases hlocate : t.locate (m.pathFor category) with
  | error e => rfl
  | ok q =>
    have hending : '/' ∉ Mapping.fileEnding.toList := by decide
    obtain ⟨front, stem, hnames⟩ := Path.names_join_append m.dir category hending
    obtain ⟨hmoves, hup⟩ := Path.moves_append stem (show 2 < Mapping.fileEnding.length by decide)
    obtain ⟨d, rfl⟩ := FileTree.last_of_locate hlocate hnames hmoves hup
    simp only [bind, Except.bind, h.mapping]

theorem spot (mode : WriteMode) (path : String) : Publisher.spot mode t' path = Publisher.spot mode t path := by
  cases mode with
  | overwrite => exact h.slot path
  | error => exact h.newSlot path

/-- Sheets put at the place of one path leave the trees alike. -/
theorem put {p : Publisher} {category : String} {q : Place} (hspot : Publisher.spot p.mode t (p.outputPath category) = .ok q)
    (content content' : Bytes) : Alike (t.put q (.file content)) (t'.put q (.file content')) := by
  have hslot := slot_of_spot hspot
  have hfree := FileTree.free_of_slot hslot
  refine ⟨h.toSameShape.put hfree content content', ?_⟩
  intro d stem
  have hending : '/' ∉ ".csv".toList := by decide
  obtain ⟨front, sheet, hnames⟩ := Path.names_join_append p.outputDir category hending
  obtain ⟨d', rfl⟩ := FileTree.last_of_slot hslot hnames
  have hne := FileTree.place_ne (mappingName_ne_sheetName sheet stem) d d'
  rw [(h.free hfree).look?_put, hfree.look?_put, ← sheetName, if_neg hne, if_neg hne]
  exact h.mapping d stem

end Alike

/-- Another content of a file that is no mapping leaves a tree alike. -/
theorem alike_put {t : FileTree} {q : Place} (hfree : t.Free q) (hthere : (t.look? q).isSome = true)
    (hname : ∀ d stem, d ++ [stem ++ Mapping.fileEnding] ≠ q) (content : Bytes) : Alike t (t.put q (.file content)) := by
  refine ⟨⟨rfl, hfree.isFolder_put content, ?_⟩, ?_⟩
  · intro p
    rw [hfree.look?_put]
    split
    · rename_i hp
      rw [hp, hthere, Option.isSome_some]
    · rfl
  · intro d stem
    rw [hfree.look?_put, if_neg (hname d stem)]

/-! ## Two publishers -/

/-- Two publishers read the same mappings and write to the same paths in the same way. The contents of their files may differ. -/
structure Abreast (p p' : Publisher) : Prop where
  /-- The mappings lie in the same folder. -/
  mappings : p'.mappings = p.mappings
  /-- The sheets go to the same folder. -/
  outputDir : p'.outputDir = p.outputDir
  /-- Files that are there are treated alike. -/
  mode : p'.mode = p.mode

namespace Abreast

variable {p p' : Publisher} (hp : Abreast p p')
include hp

/-- Two such publishers give a category the same outcome but for the size of its file, and leave the trees alike. -/
theorem publish {desk desk' : Desk} (h : Alike desk.tree desk'.tree) (category : String) (records : List Json) :
    (p'.publish desk' category records).1.sizeless = (p.publish desk category records).1.sizeless ∧
      Alike (p.publish desk category records).2.tree (p'.publish desk' category records).2.tree := by
  have hload : p'.mappings.load desk'.tree category = p.mappings.load desk.tree category := by
    rw [hp.mappings, h.load]
  have hpath : p'.outputPath category = p.outputPath category := by
    rw [outputPath, outputPath, hp.outputDir]
  cases hmapping : p.mappings.load desk.tree category with
  | error e =>
    rw [p.publish_of_load_error desk hmapping, p'.publish_of_load_error desk' (hload.trans hmapping)]
    exact ⟨rfl, h⟩
  | ok mapping =>
    rw [p.publish_of_load hmapping, p'.publish_of_load (hload.trans hmapping), hp.mode, hpath, h.spot]
    by_cases hnil : records = []
    · rw [if_pos hnil, if_pos hnil]
      exact ⟨rfl, h⟩
    · rw [if_neg hnil, if_neg hnil]
      cases hspot : spot p.mode desk.tree (p.outputPath category) with
      | error e => exact ⟨rfl, h⟩
      | ok q => exact ⟨rfl, h.put hspot _ _⟩

/-- Two such publishers give a batch the same outcomes but for the sizes of the files, and leave the trees alike. -/
theorem publishAll {desk desk' : Desk} (h : Alike desk.tree desk'.tree) (batch : List CategoryRecords) :
    (p'.publishAll desk' batch).1.map Outcome.sizeless = (p.publishAll desk batch).1.map Outcome.sizeless ∧
      Alike (p.publishAll desk batch).2.tree (p'.publishAll desk' batch).2.tree := by
  induction batch generalizing desk desk' with
  | nil => exact ⟨rfl, h⟩
  | cons entry rest ih =>
    obtain ⟨hfirst, halike⟩ := hp.publish h entry.category entry.records
    obtain ⟨hrest, hend⟩ := ih halike
    rw [publishAll_cons, publishAll_cons, List.map_cons, List.map_cons, hfirst, hrest]
    exact ⟨rfl, hend⟩

end Abreast

/-- Whatever the presets hold and however far localization goes, a batch has the same report, and each of its entries the same outcome but
for the size of its file. In the end there are files and folders at the same places, and the same mappings. -/
theorem publishAll_indifferent (p : Publisher) (opts opts' : Localization) {t t' : FileTree} (h : Alike t t')
    (store store' : PresetStore) (batch : List CategoryRecords) :
    Report.ofBatch batch (publishAll { p with localization := opts' } ⟨t', store'⟩ batch).1 =
        Report.ofBatch batch (publishAll { p with localization := opts } ⟨t, store⟩ batch).1 ∧
      (publishAll { p with localization := opts' } ⟨t', store'⟩ batch).1.map Outcome.sizeless =
        (publishAll { p with localization := opts } ⟨t, store⟩ batch).1.map Outcome.sizeless ∧
      Alike (publishAll { p with localization := opts } ⟨t, store⟩ batch).2.tree
        (publishAll { p with localization := opts' } ⟨t', store'⟩ batch).2.tree := by
  have hp : Abreast { p with localization := opts } { p with localization := opts' } := ⟨rfl, rfl, rfl⟩
  have hdesks : Alike (Desk.mk t store).tree (Desk.mk t' store').tree := h
  obtain ⟨houtcomes, halike⟩ := hp.publishAll hdesks batch
  refine ⟨?_, houtcomes, halike⟩
  rw [← Report.ofBatch_sizeless, houtcomes, Report.ofBatch_sizeless]

/-- A tree with a mapping, a folder for sheets and a file of names. -/
def withNames : FileTree :=
  ⟨[("mapping", .folder [("船" ++ Mapping.fileEnding, .file (Utf8.encode "\x7b\"n\":\".n\"\x7d"))]), ("data", .folder []),
    ("preset", .folder [("name.json", .file (Utf8.encode "\x7b\"iowa\":\x7b\"zh\":\"衣阿华\"\x7d\x7d"))])], []⟩

/-- The same tree with a file of names that is no JSON document. -/
def withBrokenNames : FileTree := withNames.put ["preset", "name.json"] (.file (Utf8.encode "\x7b"))

/-- A batch of one ship with a name. -/
def oneShip : List CategoryRecords := [⟨"船", [.obj [("n", .str "iowa")]]⟩]

/-- The theorem at these trees and at one of them twice: the sheet is always written, and only its size may differ. -/
theorem publishAll_indifferent_brokenNames :
    Alike withNames withBrokenNames ∧ Alike withNames withNames ∧
      (publishAll ⟨⟨"mapping"⟩, "data", .error, true, {}⟩ ⟨withNames, .ofFolder "preset"⟩ oneShip).1 =
        [.written "data/船.csv" 1 15] ∧
      (publishAll ⟨⟨"mapping"⟩, "data", .error, true, { strict := true }⟩ ⟨withBrokenNames, .ofFolder "preset"⟩
        oneShip).1.map Outcome.sizeless = [.written "data/船.csv" 1 0] ∧
      (publishAll ⟨⟨"mapping"⟩, "data", .error, true, {}⟩ ⟨withNames, .ofPresets .empty⟩ oneShip).1.map Outcome.sizeless =
        [.written "data/船.csv" 1 0] := by
  have halike : Alike withNames withBrokenNames := by
    refine alike_put ⟨by decide, by decide +kernel, by decide +kernel⟩ (by decide +kernel) ?_ _
    intro d stem
    have hne : stem ++ Mapping.fileEnding ≠ "name.json" := by
      intro heq
      have hlength := congrArg String.length heq
      rw [String.length_append] at hlength
      have hlong : Mapping.fileEnding.length = 12 := by decide
      have hshort : "name.json".length = 9 := by decide
      omega
    exact FileTree.place_ne hne d ["preset"]
  have hfirst : (publishAll ⟨⟨"mapping"⟩, "data", .error, true, {}⟩ ⟨withNames, .ofFolder "preset"⟩ oneShip).1 =
      [.written "data/船.csv" 1 15] := by decide +kernel
  have hbroken := (publishAll_indifferent ⟨⟨"mapping"⟩, "data", .error, true, {}⟩ {} { strict := true } halike
    (.ofFolder "preset") (.ofFolder "preset") oneShip).2.1
  have hgiven := (publishAll_indifferent ⟨⟨"mapping"⟩, "data", .error, true, {}⟩ {} {} (.refl withNames)
    (.ofFolder "preset") (.ofPresets .empty) oneShip).2.1
  refine ⟨halike, .refl withNames, hfirst, hbroken.trans ?_, hgiven.trans ?_⟩ <;> rw [hfirst] <;> rfl

end Publisher

end RecordSheets
