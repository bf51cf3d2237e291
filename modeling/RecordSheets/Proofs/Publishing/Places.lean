import Mathlib.Data.List.Nodup
import RecordSheets.Proofs.Catalogue.Categories
import RecordSheets.Proofs.Publishing.Batch

/-!
# Where the sheets of a catalogue lie

The paths of a category's sheet and mapping stand for one name in their folder (`Path.InFolder`): they go neither up nor down nor
elsewhere. Categories of one catalogue differ, and so do these paths, so no sheet of a run takes the place of another
(`Publisher.apart_of_scan`).
-/

namespace RecordSheets

namespace Path

/-- A path that stands for a name in a folder. -/
structure InFolder (path dir name : String) : Prop where
  /-- The name is one name, not empty and no dots. -/
  plain : Plain name
  /-- The name alone does not start at the root. -/
  relative : isAbsolute name = false
  /-- The name stands behind the folder's path, with a slash between them if there has to be one. -/
  text : path = dir ++ name ∧ (dir = "" ∨ dir.toList.getLast? = some '/') ∨ path = dir ++ "/" ++ name
  /-- The path leads into the folder and from there to the name. -/
  names : Path.names path = namesInto dir ++ [name]

/-- Joining a folder's path with a plain name gives a path that stands for the name in the folder. -/
theorem inFolder_join (dir : String) {name : String} (h : Plain name) : InFolder (join dir name) dir name := by
  have hrelative := isAbsolute_of_noSlash h.noSlash
  refine ⟨h, hrelative, ?_, names_join dir h.noSlash⟩
  unfold join
  rw [if_neg (by simp [hrelative])]
  split
  · rename_i hopen
    exact .inl ⟨rfl, by simpa using hopen⟩
  · exact .inr rfl

end Path

theorem MappingFolder.name_ne {category other : String} (h : category ≠ other) :
    category ++ Mapping.fileEnding ≠ other ++ Mapping.fileEnding := by
  intro heq
  have hlist := congrArg String.toList heq
  rw [String.toList_append, String.toList_append] at hlist
  exact h (String.toList_inj.1 (List.append_cancel_right hlist))

namespace Publisher

variable (p : Publisher)

/-- The sheets and the mappings of some categories lie apart, each under a name of its own in its folder. -/
structure Apart (categories : List String) : Prop where
  /-- The path of a sheet stands for a name in the folder for the sheets. -/
  sheet : ∀ category ∈ categories, Path.InFolder (p.outputPath category) p.outputDir (category ++ ".csv")
  /-- The path of a mapping stands for a name in the folder with the mappings. -/
  mapping : ∀ category ∈ categories,
    Path.InFolder (p.mappings.pathFor category) p.mappings.dir (category ++ Mapping.fileEnding)
  /-- Different categories have sheets of different paths. -/
  sheets : (categories.map p.outputPath).Nodup
  /-- Different categories have mappings of different paths. -/
  mappings : (categories.map p.mappings.pathFor).Nodup
  /-- Publishing a category puts a file only in the folder for the sheets, under the name of the category's sheet. -/
  inside : ∀ category ∈ categories, ∀ desk records,
    (p.publish desk category records).2.tree = desk.tree ∨
      ∃ d content, desk.tree.folder p.outputDir = .ok d ∧ desk.tree.isFolder d = true ∧
        (p.publish desk category records).2.tree = desk.tree.put (d ++ [category ++ ".csv"]) (.file content)
  /-- In a run each category has the sheet at its path that publishing it alone puts there. -/
  kept : ∀ batch : List CategoryRecords, (∀ entry ∈ batch, entry.category ∈ categories) →
    (batch.map CategoryRecords.category).Nodup → ∀ desk, ∀ entry ∈ batch,
      (p.publishAll desk batch).2.tree.find (p.outputPath entry.category) =
        (p.publish desk entry.category entry.records).2.tree.find (p.outputPath entry.category)

/-- Different categories without slashes lie apart. -/
theorem apart_of_nodup {categories : List String} (hdistinct : categories.Nodup)
    (hnames : ∀ category ∈ categories, '/' ∉ category.toList) : p.Apart categories := by
  constructor
  case sheet => exact fun category hc => Path.inFolder_join p.outputDir (plain_sheetName (hnames category hc))
  case mapping => exact fun category hc => Path.inFolder_join p.mappings.dir (MappingFolder.plain_name (hnames category hc))
  case sheets =>
    refine hdistinct.map_on fun category hc other ho heq => by_contra fun hne => ?_
    exact p.outputPath_ne (hnames category hc) (hnames other ho) hne heq
  case mappings =>
    refine hdistinct.map_on fun category hc other ho heq => by_contra fun hne => ?_
    exact Path.join_ne p.mappings.dir (MappingFolder.plain_name (hnames category hc)).noSlash
      (MappingFolder.plain_name (hnames other ho)).noSlash (MappingFolder.name_ne hne) heq
  case inside =>
    intro category hc desk records
    refine (p.tree_publish_cases (hnames category hc) desk records).imp_right ?_
    rintro ⟨q, content, hq, htree⟩
    obtain ⟨d, hd, hfolder, rfl⟩ := hq.sheets
    exact ⟨d, content, hd, hfolder, htree⟩
  case kept =>
    intro batch hmem hbatch desk entry hentry
    exact p.sheet_publishAll (fun e he => hnames e.category (hmem e he)) hbatch desk hentry

/-- The categories of a scan lie apart, wherever the sheets and the mappings lie. -/
theorem apart_of_scan {t : FileTree} (hslash : t.SlashFree) {dir : String} {maxDepth : Option Nat} {filter : CategoryFilter}
    {c : Catalogue} (hscan : Catalogue.scan t dir maxDepth filter = .ok c) (p : Publisher) : p.Apart c.categories :=
  p.apart_of_nodup (Catalogue.nodup_categories hscan) fun _ hc => Catalogue.noSlash_of_scan hscan hslash hc

/-- A tree with record files of which one is named by dots. -/
def dottedFolder : FileTree :=
  ⟨[("in", .folder [("...json", .file (Utf8.encode "[]")), ("hull.json", .file (Utf8.encode "[]"))])], []⟩

/-- The theorem at a category that is two dots, whose sheet and mapping still lie in their folders. -/
theorem apart_of_scan_dotted :
    dottedFolder.SlashFree ∧
      Catalogue.scan dottedFolder "in" none .all =
        .ok { entries := [("..", "in/...json"), ("船体", "in/hull.json")] } ∧
      Path.InFolder "out/...csv" "out" "...csv" ∧ Path.InFolder "out/..mapping.json" "out" "..mapping.json" := by
  have hslash : dottedFolder.SlashFree := by decide +kernel
  have hscan : Catalogue.scan dottedFolder "in" none .all =
      .ok { entries := [("..", "in/...json"), ("船体", "in/hull.json")] } := by
    have hlocate : dottedFolder.locate "in" = .ok ["in"] := rfl
    rw [Catalogue.scan_of_inOrder hlocate rfl rfl (by decide +kernel)]
    rfl
  have hapart := apart_of_scan hslash hscan ⟨⟨"out"⟩, "out", .overwrite, true, {}⟩
  have hmem : ".." ∈ ["..", "船体"] := by decide
  exact ⟨hslash, hscan, hapart.sheet ".." hmem, hapart.mapping ".." hmem⟩

end Publisher

end RecordSheets
