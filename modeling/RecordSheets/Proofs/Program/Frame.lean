import RecordSheets.Proofs.Program.Phases
import RecordSheets.Proofs.Publishing.Accounting
import RecordSheets.Proofs.Publishing.Exclusive

/-!
# What a run may touch

A run makes the output folder, then writes sheets, then the error log and the report. Each of these has a frame of its own: folders are
added (`addsFolders_prepared`), sheets are written by the paths of the categories that were found (`writesOnly_conversion`), the others
by the paths that the options name (`writesOnly_publish`). Put together they confine every run, however it ends (`Run.Confined`,
`Program.run_confined`).
-/

namespace RecordSheets

namespace Run

variable {o : Options} {t t' : FileTree} {c : Catalogue}

/-! ## The frames of the phases -/

/-- A path by which a run may write a file: that of the sheet of a category that it finds, or one that its options name. -/
inductive Outlet (o : Options) (t : FileTree) : String → Prop
  | sheet {c : Catalogue} {category : String} :
    Finds o t c → category ∈ c.categories → Outlet o t ((publisher o).outputPath category)
  | log {path : String} : o.log = some path → Outlet o t path
  | report {path : String} : o.report = some path → Outlet o t path

/-- A path that the options name for the error log or for the report. -/
def Named (o : Options) (path : String) : Prop := o.log = some path ∨ o.report = some path

/-- A conversion writes sheets of the categories found and nothing else. -/
theorem writesOnly_conversion (h : Finds o t c) (source : FileTree) :
    FileTree.WritesOnly (Outlet o t) source (conversion o c source).tree := by
  refine ((publisher o).writesOnly_publishAll ⟨source, .ofFolder o.presetDir⟩ (c.loadBatch source c.categories).1).mono ?_
  rintro path ⟨entry, hentry, rfl⟩
  have hmem := List.mem_map_of_mem (f := CategoryRecords.category) hentry
  rw [(c.categories_loadBatch source c.categories).1, List.mem_filter] at hmem
  exact .sheet h hmem.1

/-- Without overwriting, a conversion changes nothing that is there. -/
theorem grows_conversion (hmode : o.mode = .error) (c : Catalogue) (source : FileTree) :
    source.Grows (conversion o c source).tree :=
  Publisher.grows_publishAll (p := publisher o) hmode ⟨source, .ofFolder o.presetDir⟩ (c.loadBatch source c.categories).1

/-- After its conversion a run writes the error log and the report, and nothing else. -/
theorem writesOnly_publish (o : Options) (clock : Clock) (c : Catalogue) (source : FileTree) :
    FileTree.WritesOnly (Named o) (conversion o c source).tree (publish o clock c source).tree := by
  refine (filed_withLog o clock _ _ _).writesOnly ?_ ?_
  · intro path hpath
    exact .inl hpath
  · intro logged
    refine (filed_withReport o _ logged _).writesOnly ?_ ?_
    · intro path hpath
      exact .inr hpath
    · intro reported
      exact .refl _ _

/-- A check writes the error log and nothing else. -/
theorem writesOnly_validate (o : Options) (clock : Clock) (t : FileTree) (categories : List String) :
    FileTree.WritesOnly (fun path => o.log = some path) t (validate o clock t categories).tree := by
  refine (filed_withLog o clock _ t _).writesOnly ?_ ?_
  · intro path hpath
    exact hpath
  · intro logged
    exact .refl _ _

/-! ## The frame of a run -/

/-- The runs that have nothing to do with files: the input or the pattern is no good, there are no categories, or nothing is to be done
with them. -/
inductive Idle (o : Options) (t : FileTree) : Prop
  | barred : Barred o t → Idle o t
  | noCategories {filter : CategoryFilter} {c : Catalogue} : CategoryFilter.ofPattern o.pattern = .ok filter →
    Catalogue.scan t o.input o.maxDepth filter = .ok c → c.categories = [] → Idle o t
  | dryRun : o.dryRun = true → Idle o t

/-- A run that finds categories is idle only if it is a dry run. -/
theorem Idle.dryRun_of_finds (h : Idle o t) (hfinds : Finds o t c) : o.dryRun = true := by
  cases h with
  | barred hbarred => exact absurd hfinds (hbarred.not_finds c)
  | noCategories hfilter hscan hnone =>
    obtain ⟨filter, hfilter', hscan'⟩ := hfinds.scanned
    obtain rfl := Except.ok.inj (hfilter.symm.trans hfilter')
    obtain rfl := Except.ok.inj (hscan.symm.trans hscan')
    exact absurd hnone hfinds.categories
  | dryRun hdry => exact hdry

/-- What becomes of the files in a run: they are confined to what the run may touch. -/
structure Confined (o : Options) (t t' : FileTree) : Prop where
  /-- Relative paths start from the same folder. -/
  here : t.here = t'.here
  /-- Every folder stays one. -/
  folder : ∀ q, t.isFolder q = true → t'.isFolder q = true
  /-- Every file stays one. -/
  file : ∀ q content, t.look? q = some (.file content) → ∃ content', t'.look? q = some (.file content')
  /-- A file that is new or has another content lies where the path of a sheet, of the error log or of the report leads. -/
  outlet : ∀ q content, t'.look? q = some (.file content) → t.look? q ≠ some (.file content) →
    ∃ path, Outlet o t path ∧ t'.locate path = .ok q
  /-- A folder that is new was made for the output folder. -/
  made : ∀ q, t'.isFolder q = true → t.isFolder q = true ∨ (prepared o t).1.isFolder q = true
  /-- An idle run touches nothing. -/
  idle : Idle o t → t' = t
  /-- A check writes at most the error log, and makes no folder. -/
  check : o.validateOnly = true → FileTree.WritesOnly (fun path => o.log = some path) t t'
  /-- Without overwriting, a file keeps its content unless the error log or the report is written by its path. -/
  careful : o.mode = .error → ∀ q content, t.look? q = some (.file content) →
    (∀ path, Named o path → t'.locate path ≠ .ok q) → t'.look? q = some (.file content)

namespace Confined

theorem refl (o : Options) (t : FileTree) : Confined o t t where
  here := rfl
  folder := fun _ h => h
  file := fun _ content h => ⟨content, h⟩
  outlet := fun _ _ h hnot => absurd h hnot
  made := fun _ h => .inl h
  idle := fun _ => rfl
  check := fun _ => .refl _ t
  careful := fun _ _ _ h _ => h

/-- A check that writes the error log only is confined. -/
theorem of_check (hidle : ¬Idle o t) (h : FileTree.WritesOnly (fun path => o.log = some path) t t') : Confined o t t' where
  here := h.here
  folder := h.isFolder
  file := fun _ _ hq => h.file hq
  outlet := by
    intro q content hq hnot
    obtain ⟨path, hpath, hlocate⟩ := h.changed q fun hsame => hnot (hsame ▸ hq)
    exact ⟨path, .log hpath, hlocate⟩
  made := fun q hq => .inl (h.noFolder q hq)
  idle := fun hno => absurd hno hidle
  check := fun _ => h
  careful := by
    intro _ q content hq hnot
    by_contra hchanged
    obtain ⟨path, hpath, hlocate⟩ := h.changed q fun hsame => hchanged (hsame.trans hq)
    exact hnot path (.inl hpath) hlocate

/-- A conversion is confined that makes the output folder, writes sheets, and then the error log and the report. -/
theorem of_conversion (hidle : ¬Idle o t) (hcheck : o.validateOnly = false) {sheets : FileTree}
    (hsheets : FileTree.WritesOnly (Outlet o t) (prepared o t).1 sheets)
    (hgrows : o.mode = .error → (prepared o t).1.Grows sheets) (hnamed : FileTree.WritesOnly (Named o) sheets t') :
    Confined o t t' := by
  have hadds := addsFolders_prepared o t
  have hwrites : FileTree.WritesOnly (Outlet o t) (prepared o t).1 t' := by
    refine hsheets.trans (hnamed.mono ?_)
    rintro path (hlog | hreport)
    · exact .log hlog
    · exact .report hreport
  refine ⟨hadds.here.trans hwrites.here, ?_, ?_, ?_, ?_, ?_, ?_, ?_⟩
  · intro q hq
    exact hwrites.isFolder q (hadds.grows.keepsFolders.isFolder q hq)
  · intro q content hq
    exact hwrites.file ((hadds.look?_file_iff q content).2 hq)
  · intro q content hq hnot
    refine hwrites.changed q fun hsame => hnot ((hadds.look?_file_iff q content).1 ?_)
    rw [← hsame, hq]
  · intro q hq
    exact .inr (hwrites.noFolder q hq)
  · intro hno
    exact absurd hno hidle
  · intro hvalidate
    rw [hcheck] at hvalidate
    cases hvalidate
  · intro hmode q content hq hnot
    have hsheet := (hgrows hmode).look? q _ ((hadds.look?_file_iff q content).2 hq)
    by_contra hchanged
    obtain ⟨path, hpath, hlocate⟩ := hnamed.changed q fun hsame => hchanged (hsame.trans hsheet)
    exact hnot path hpath hlocate

end Confined

/-- Every run of options is confined. -/
theorem confined_ofOptions (o : Options) (clock : Clock) (t : FileTree) : Confined o t (ofOptions o clock t).tree := by
  by_cases hfinds : ∃ c, Finds o t c
  · obtain ⟨c, hc⟩ := hfinds
    simp only [ofOptions_of_finds hc, after]
    by_cases hdry : o.dryRun = true
    · rw [if_pos hdry]
      exact .refl o t
    · have hidle : ¬Idle o t := fun h => hdry (h.dryRun_of_finds hc)
      rw [if_neg hdry]
      by_cases hcheck : o.validateOnly = true
      · rw [if_pos hcheck]
        exact .of_check hidle (writesOnly_validate o clock t c.categories)
      · rw [if_neg hcheck]
        rw [Bool.not_eq_true] at hcheck
        cases herror : (prepared o t).2 with
        | some e =>
          rw [withOutput_of_error herror]
          exact .of_conversion hidle hcheck (.refl _ _) (fun _ => .refl _) (.refl _ _)
        | none =>
          obtain ⟨line, hgoOn⟩ := withOutput_of_prepared herror (publish o clock c)
          rw [hgoOn]
          exact .of_conversion hidle hcheck (writesOnly_conversion hc _) (fun hmode => grows_conversion hmode c _)
            (writesOnly_publish o clock c _)
  · rw [tree_ofOptions_of_not_finds fun c hc => hfinds ⟨c, hc⟩]
    exact .refl o t

end Run

namespace Program

/-- The program touches only what it may: with arguments that give no options it leaves the files as they are, and otherwise it keeps
every file and folder, writes only sheets of the categories that it finds and the files that its options name, and makes only the output
folder. -/
theorem run_confined (clock : Clock) (t : FileTree) (args : List String) :
    (∀ e, CommandLine.parse args = .error e → (run clock t args).tree = t) ∧
      ∀ o, CommandLine.parse args = .ok o → Run.Confined o t (run clock t args).tree := by
  constructor
  · intro e hparse
    exact tree_run_of_parse_error hparse clock t
  · intro o hparse
    rw [(run_of_parse hparse clock t).1]
    exact Run.confined_ofOptions o clock t

/-- Arguments by which the sheets are written to a folder that is there. -/
def intoData : List String := ["-i", "in", "-o", "data"]

/-- The theorem at a run that writes one sheet. -/
theorem run_confined_intoData :
    CommandLine.parse intoData = .ok { input := "in", output := "data" } ∧
      Run.Finds { input := "in", output := "data" } Publisher.mixedFolder Publisher.mixedCatalogue ∧
      (run ⟨⟨0, 0⟩, 0⟩ Publisher.mixedFolder intoData).tree.look? ["data", "船体.csv"] =
        some (.file (Utf8.encode (Csv.withMark "n\n3\n"))) ∧
      ∃ path, Run.Outlet { input := "in", output := "data" } Publisher.mixedFolder path ∧
        (run ⟨⟨0, 0⟩, 0⟩ Publisher.mixedFolder intoData).tree.locate path = .ok ["data", "船体.csv"] := by
  have hparse : CommandLine.parse intoData = .ok { input := "in", output := "data" } := by decide +kernel
  have hfinds : Run.Finds { input := "in", output := "data" } Publisher.mixedFolder Publisher.mixedCatalogue :=
    ⟨by decide +kernel, ⟨.all, rfl, Publisher.scan_mixedFolder⟩, by decide⟩
  have hwritten : (run ⟨⟨0, 0⟩, 0⟩ Publisher.mixedFolder intoData).tree.look? ["data", "船体.csv"] =
      some (.file (Utf8.encode (Csv.withMark "n\n3\n"))) := by
    rw [(run_of_parse hparse _ _).1, Run.ofOptions_of_finds hfinds]
    decide +kernel
  have hconfined := (run_confined ⟨⟨0, 0⟩, 0⟩ Publisher.mixedFolder intoData).2 _ hparse
  exact ⟨hparse, hfinds, hwritten, hconfined.outlet _ _ hwritten (by decide +kernel)⟩

end Program

end RecordSheets
