import RecordSheets.Proofs.Program.Arguments
import RecordSheets.Proofs.Program.Phases
import RecordSheets.Proofs.Publishing.Accounting
import RecordSheets.Proofs.Publishing.Again

/-!
# Running the program again

A run makes folders and writes sheets, and reads neither: a second run with the same arguments finds the same categories with the same
records, mappings and presets, and what it would write is there already. So it leaves the files as the first run left them
(`Program.run_again`), however the first run ended.
-/

namespace RecordSheets

/-- The categories of a batch that is loaded from the catalogue of a scan differ and have no slash in them. -/
theorem Catalogue.batch_of_scan {t : FileTree} (hslash : t.SlashFree) {dir : String} {maxDepth : Option Nat}
    {filter : CategoryFilter} {c : Catalogue} (hscan : scan t dir maxDepth filter = .ok c) (source : FileTree) :
    (∀ entry ∈ (c.loadBatch source c.categories).1, '/' ∉ entry.category.toList) ∧
      ((c.loadBatch source c.categories).1.map CategoryRecords.category).Nodup := by
  have hbatch := (c.categories_loadBatch source c.categories).1
  constructor
  · intro entry hentry
    have hmem := List.mem_map_of_mem (f := CategoryRecords.category) hentry
    rw [hbatch] at hmem
    exact noSlash_of_scan hscan hslash (List.mem_filter.1 hmem).1
  · rw [hbatch]
    exact (nodup_categories hscan).filter _

namespace Run

variable {o : Options} {t : FileTree} {c : Catalogue}

/-- A conversion keeps the folders and all files but sheets. -/
theorem keepsFiles_conversion (hdisk : t.OnDisk) (h : Finds o t c) (t' : FileTree) :
    t'.KeepsFiles Publisher.NoSheet (conversion o c t').tree := by
  obtain ⟨filter, -, hscan⟩ := h.scanned
  obtain ⟨hnames, -⟩ := Catalogue.batch_of_scan hdisk.slashFree hscan t'
  exact ((publisher o).keepsFiles_publishAll hnames ⟨t', .ofFolder o.presetDir⟩).1

/-- A run finds the same catalogue where the folders and all files but sheets are kept. -/
theorem Finds.of_keepsFiles (hdisk : t.OnDisk) (h : Finds o t c) {t' : FileTree}
    (hkeeps : t.KeepsFiles Publisher.NoSheet t') : Finds o t' c := by
  obtain ⟨filter, hfilter, hscan⟩ := h.scanned
  have hscan' := Catalogue.scan_of_keepsFiles Publisher.keepsRecordNames_noSheet hkeeps hdisk hscan
  exact ⟨hkeeps.keepsFolders.hasFolder h.input, ⟨filter, hfilter, hscan'⟩, h.categories⟩

/-- A conversion after a conversion leaves the files as they are. -/
theorem conversion_again (hdisk : t.OnDisk) (h : Finds o t c) {t' : FileTree} (hadds : t.AddsFolders t') :
    (conversion o c (conversion o c t').tree).tree = (conversion o c t').tree := by
  obtain ⟨filter, hfilter, hscan⟩ := h.scanned
  obtain ⟨hnames, hdistinct⟩ := Catalogue.batch_of_scan hdisk.slashFree hscan t'
  have hfirst := hadds.keepsFiles Publisher.NoSheet
  have hboth := hfirst.trans (keepsFiles_conversion hdisk h t')
  have hbatch : c.loadBatch (conversion o c t').tree c.categories = c.loadBatch t' c.categories := by
    refine Catalogue.loadBatch_congr (fun category => ?_) c.categories
    rw [Catalogue.fetch_of_keepsFiles Publisher.keepsRecordNames_noSheet hboth hdisk hscan,
      Catalogue.fetch_of_keepsFiles Publisher.keepsRecordNames_noSheet hfirst hdisk hscan]
  have htree : ∀ t : FileTree, (conversion o c t).tree =
      ((publisher o).publishAll ⟨t, .ofFolder o.presetDir⟩ (c.loadBatch t c.categories).1).2.tree := fun _ => rfl
  rw [htree (conversion o c t').tree, hbatch]
  exact (publisher o).publishAll_again hnames hdistinct t' o.presetDir

/-- A run without an error log and a report leaves the files as they are, or finds a catalogue and converts its categories if the
output folder is at hand. -/
theorem tree_ofOptions_cases (hlog : o.log = none) (hreport : o.report = none) (t : FileTree) :
    (∀ clock, (ofOptions o clock t).tree = t) ∨
      ∃ c, Finds o t c ∧
        ((∃ e, (prepared o t).2 = some e ∧ ∀ clock, (ofOptions o clock t).tree = (prepared o t).1) ∨
          (prepared o t).2 = none ∧ ∀ clock, (ofOptions o clock t).tree = (conversion o c (prepared o t).1).tree) := by
  by_cases hfinds : ∃ c, Finds o t c
  · obtain ⟨c, hc⟩ := hfinds
    simp only [ofOptions_of_finds hc, after]
    by_cases hdry : o.dryRun = true
    · exact .inl fun _ => by rw [if_pos hdry]; rfl
    · by_cases hcheck : o.validateOnly = true
      · exact .inl fun clock => by rw [if_neg hdry, if_pos hcheck, tree_validate_of_noFiles hlog]
      · simp only [if_neg hdry, if_neg hcheck]
        refine .inr ⟨c, hc, ?_⟩
        cases herror : (prepared o t).2 with
        | some e => exact .inl ⟨e, rfl, fun _ => by rw [withOutput_of_error herror, halt]⟩
        | none =>
          refine .inr ⟨rfl, fun clock => ?_⟩
          obtain ⟨line, hgoOn⟩ := withOutput_of_prepared herror (publish o clock c)
          rw [hgoOn]
          exact tree_publish_of_noFiles hlog hreport clock
  · exact .inl (tree_ofOptions_of_not_finds fun c hc => hfinds ⟨c, hc⟩)

/-- A second run with the same options leaves the files as the first run left them. -/
theorem tree_ofOptions_again (hdisk : t.OnDisk) (hlog : o.log = none) (hreport : o.report = none) (clock clock' : Clock) :
    (ofOptions o clock' (ofOptions o clock t).tree).tree = (ofOptions o clock t).tree := by
  rcases tree_ofOptions_cases hlog hreport t with hsame | ⟨c, hc, ⟨e, herror, htree⟩ | ⟨hready, htree⟩⟩
  · rw [hsame, hsame]
  · obtain ⟨hprepared, hfails⟩ := prepared_again herror
    rw [htree]
    rcases tree_ofOptions_cases hlog hreport (prepared o t).1 with hsame | ⟨c', -, ⟨e', -, htree'⟩ | ⟨hready, -⟩⟩
    · exact hsame clock'
    · rw [htree', hprepared]
    · exact absurd hready hfails
  · have hadds := addsFolders_prepared o t
    have hkeeps := (hadds.keepsFiles _).trans (keepsFiles_conversion hdisk hc (prepared o t).1)
    have hthere : prepared o (conversion o c (prepared o t).1).tree = ((conversion o c (prepared o t).1).tree, none) :=
      if_pos ((keepsFiles_conversion hdisk hc (prepared o t).1).keepsFolders.hasFolder (hasFolder_prepared hready))
    rw [htree]
    rcases tree_ofOptions_cases hlog hreport (conversion o c (prepared o t).1).tree with
      hsame | ⟨c', hc', ⟨e, -, htree'⟩ | ⟨-, htree'⟩⟩
    · exact hsame clock'
    · rw [htree', hthere]
    · obtain rfl := (hc.of_keepsFiles hdisk hkeeps).unique hc'
      rw [htree', hthere]
      exact conversion_again hdisk hc hadds

end Run

namespace Program

/-- Running the program again with arguments that ask for no error log and no report leaves every file and folder as the first run
left it. -/
theorem run_again {t : FileTree} (hdisk : t.OnDisk) {args : List String}
    (hargs : ∀ arg ∈ args, CommandLine.Without "log" arg ∧ CommandLine.Without "report" arg) (clock clock' : Clock) :
    (run clock' (run clock t args).tree args).tree = (run clock t args).tree := by
  cases hparse : CommandLine.parse args with
  | error e =>
    have htree : ∀ (clock : Clock) (t : FileTree), (run clock t args).tree = t := by
      intro clock t
      unfold run
      rw [hparse]
      cases e <;> rfl
    rw [htree, htree]
  | ok o =>
    have htree : ∀ (clock : Clock) (t : FileTree), (run clock t args).tree = (Run.ofOptions o clock t).tree := by
      intro clock t
      unfold run
      rw [hparse]
      dsimp only
      split <;> rfl
    obtain ⟨hlog, hreport⟩ := CommandLine.asksNothing_parse hargs hparse
    rw [htree, htree]
    exact Run.tree_ofOptions_again hdisk hlog hreport clock clock'

/-- A folder with the records of a category and with its mapping. -/
def together : FileTree :=
  ⟨[("d", .folder [("hull.json", .file (Utf8.encode "[\x7b\"n\":3\x7d]")),
    ("船体" ++ Mapping.fileEnding, .file (Utf8.encode "\x7b\"n\":\".n\"\x7d"))])], []⟩

/-- Arguments by which everything lies in this folder, the sheets in a further folder there. -/
def allInOne : List String := ["-i", "d", "-o", "d/out", "--mapping-dir=d", "--preset-dir", "d"]

/-- The first run with these arguments makes the folder and writes a sheet. -/
theorem hasFile_run_together : (run ⟨⟨0, 0⟩, 0⟩ together allInOne).tree.hasFile "d/out/船体.csv" = true := by
  have hscan : Catalogue.scan together "d" none .all =
      .ok { entries := [("船体", "d/hull.json"), ("船体mapping", "d/船体mapping.json")] } := by
    have hlocate : together.locate "d" = .ok ["d"] := rfl
    rw [Catalogue.scan_of_inOrder hlocate rfl rfl (by decide +kernel)]
    rfl
  have hparse : CommandLine.parse allInOne =
      .ok { input := "d", output := "d/out", mappingDir := "d", presetDir := "d" } := by decide +kernel
  unfold run
  rw [hparse]
  dsimp only
  rw [Run.ofOptions_of_finds ⟨by decide +kernel, ⟨.all, rfl, hscan⟩, by decide⟩]
  decide +kernel

/-- The theorem at these runs. -/
theorem run_again_together :
    together.OnDisk ∧ (∀ arg ∈ allInOne, CommandLine.Without "log" arg ∧ CommandLine.Without "report" arg) ∧
      (run ⟨⟨0, 0⟩, 0⟩ together allInOne).tree.hasFile "d/out/船体.csv" = true ∧
      (run ⟨⟨1, 5⟩, 2⟩ (run ⟨⟨0, 0⟩, 0⟩ together allInOne).tree allInOne).tree = (run ⟨⟨0, 0⟩, 0⟩ together allInOne).tree := by
  have hdisk : together.OnDisk := by decide +kernel
  have hargs : ∀ arg ∈ allInOne, CommandLine.Without "log" arg ∧ CommandLine.Without "report" arg := by decide
  exact ⟨hdisk, hargs, hasFile_run_together, run_again hdisk hargs _ _⟩

end Program

end RecordSheets
