import RecordSheets.Proofs.Files.Kept
import RecordSheets.Proofs.Program.Frame

/-!
# How a run ends

A run that has options ends well, or early for one of few reasons (`Run.Hindered`): its input, its pattern, its output folder, its error
log, its report. Which paths are refused for the last two is settled by the folders alone, and sheets make no folders, so what becomes
of the categories makes no difference (`Program.status_run_iff`).
-/

namespace RecordSheets

namespace Run

variable {o : Options} {t t' : FileTree} {c : Catalogue}

@[simp]
theorem stop_after (lines : List String) (r : Run) : (after lines r).stop = r.stop := rfl

@[simp]
theorem stop_done (t : FileTree) (lines : List String) : (done t lines).stop = none := rfl

@[simp]
theorem stop_halt (t : FileTree) (stop : Stop) : (halt t stop).stop = some stop := rfl

/-! ## Why a run ends early -/

/-- A run checks the mappings of the categories that it finds. -/
structure Checks (o : Options) (t : FileTree) (c : Catalogue) : Prop extends Finds o t c where
  /-- It is no dry run. -/
  dryRun : o.dryRun = false
  /-- It only checks. -/
  validateOnly : o.validateOnly = true

/-- A run converts the records of the categories that it finds. -/
structure Converts (o : Options) (t : FileTree) (c : Catalogue) : Prop extends Finds o t c where
  /-- It is no dry run. -/
  dryRun : o.dryRun = false
  /-- It does not only check. -/
  validateOnly : o.validateOnly = false

/-- The reasons for a run to end early. -/
inductive Hindered (o : Options) (t : FileTree) : Prop
  /-- The input is no folder or the pattern no glob. -/
  | barred : Barred o t → Hindered o t
  /-- A conversion cannot make its output folder. -/
  | noOutput {c : Catalogue} {e : SystemError} : Converts o t c → (prepared o t).2 = some e → Hindered o t
  /-- The path of a conversion's error log is refused. -/
  | noLog {c : Catalogue} {path : String} :
    Converts o t c → o.log = some path → (prepared o t).1.Refuses path → Hindered o t
  /-- The path of a conversion's report is refused. -/
  | noReport {c : Catalogue} {path : String} :
    Converts o t c → o.report = some path → (prepared o t).1.Refuses path → Hindered o t
  /-- The path of a check's error log is refused. -/
  | noCheckLog {c : Catalogue} {path : String} : Checks o t c → o.log = some path → t.Refuses path → Hindered o t

/-! ## The endings of the phases -/

/-- A conversion changes nothing about which paths are refused. -/
theorem refuses_conversion (o : Options) (c : Catalogue) (source : FileTree) (path : String) :
    (conversion o c source).tree.Refuses path ↔ source.Refuses path :=
  ((publisher o).writesOnly_publishAll ⟨source, .ofFolder o.presetDir⟩ (c.loadBatch source c.categories).1).refuses_iff path

/-- With the output folder at hand, a run ends early if the path of its error log or that of its report is refused. -/
theorem stop_publish_iff (o : Options) (clock : Clock) (c : Catalogue) (source : FileTree) :
    (publish o clock c source).stop.isSome = true ↔
      (∃ path, o.log = some path ∧ source.Refuses path) ∨ ∃ path, o.report = some path ∧ source.Refuses path := by
  simp only [← refuses_conversion o c source]
  refine (filed_withLog o clock _ (conversion o c source).tree _).stops_iff ?_
  intro logged hkeeps hback
  simp only [← FileTree.refuses_congr hkeeps hback]
  exact (filed_withReport o _ logged _).stops_iff_of_last fun _ => rfl

/-- A check ends early if the path of its error log is refused. -/
theorem stop_validate_iff (o : Options) (clock : Clock) (t : FileTree) (categories : List String) :
    (validate o clock t categories).stop.isSome = true ↔ ∃ path, o.log = some path ∧ t.Refuses path :=
  (filed_withLog o clock _ t _).stops_iff_of_last fun _ => rfl

/-- A run that finds no categories ends early if its input is no folder or its pattern no glob. -/
theorem stop_of_not_finds (h : ∀ c, ¬Finds o t c) (clock : Clock) :
    (ofOptions o clock t).stop.isSome = true ↔ Barred o t := by
  unfold ofOptions
  split
  · rename_i hpath
    exact iff_of_true rfl (.noInput (by simpa using hpath))
  · split
    · rename_i hfolder
      exact iff_of_true rfl (.noFolder (by simpa using hfolder))
    · rename_i hpath hfolder
      rw [Bool.not_eq_true', Bool.not_eq_false] at hpath hfolder
      rw [stop_after, search]
      cases hpattern : CategoryFilter.ofPattern o.pattern with
      | error e =>
        obtain ⟨text, htext, hglob⟩ := CategoryFilter.ofPattern_eq_error_iff.1 ⟨e, hpattern⟩
        exact iff_of_true rfl (.badPattern htext hglob)
      | ok filter =>
        obtain ⟨c, hscan⟩ := Catalogue.exists_scan hfolder o.maxDepth filter
        have hnone : c.categories.isEmpty = true := by
          by_contra hsome
          exact h c ⟨hfolder, ⟨filter, hpattern, hscan⟩, by simpa using hsome⟩
        simp only [hscan, withCatalogue, hnone, if_true, stop_done]
        refine iff_of_false Bool.false_ne_true ?_
        rintro (hno | hno | ⟨htext, hglob⟩)
        · rw [hpath] at hno
          cases hno
        · rw [hfolder] at hno
          cases hno
        · obtain ⟨e, herror⟩ := CategoryFilter.ofPattern_eq_error_iff.2 ⟨_, htext, hglob⟩
          rw [hpattern] at herror
          cases herror

/-- A check ends early if the path of its error log is refused. -/
theorem Checks.stop_iff (h : Checks o t c) (clock : Clock) :
    (ofOptions o clock t).stop.isSome = true ↔ ∃ path, o.log = some path ∧ t.Refuses path := by
  rw [ofOptions_of_finds h.toFinds, stop_after, stop_after, if_neg (by simp [h.dryRun]), if_pos h.validateOnly]
  exact stop_validate_iff o clock t c.categories

/-- A conversion ends early if its output folder cannot be made, or the path of its error log or that of its report is refused. -/
theorem Converts.stop_iff (h : Converts o t c) (clock : Clock) :
    (ofOptions o clock t).stop.isSome = true ↔
      (∃ e, (prepared o t).2 = some e) ∨ (∃ path, o.log = some path ∧ (prepared o t).1.Refuses path) ∨
        ∃ path, o.report = some path ∧ (prepared o t).1.Refuses path := by
  rw [ofOptions_of_finds h.toFinds, stop_after, stop_after, if_neg (by simp [h.dryRun]), if_neg (by simp [h.validateOnly])]
  cases herror : (prepared o t).2 with
  | some e =>
    rw [withOutput_of_error herror]
    exact iff_of_true rfl (.inl ⟨e, rfl⟩)
  | none =>
    obtain ⟨line, hgoOn⟩ := withOutput_of_prepared herror (publish o clock c)
    have hready : ¬∃ e, (none : Option SystemError) = some e := by simp
    rw [hgoOn, stop_after, stop_publish_iff, or_iff_right hready]

/-! ## The endings of runs -/

/-- A run ends early exactly if it is hindered. -/
theorem stop_ofOptions_iff (o : Options) (clock : Clock) (t : FileTree) :
    (ofOptions o clock t).stop.isSome = true ↔ Hindered o t := by
  constructor
  · intro hstop
    by_cases hfinds : ∃ c, Finds o t c
    · obtain ⟨c, hc⟩ := hfinds
      cases hdry : o.dryRun with
      | true => simp [ofOptions_of_finds hc, hdry] at hstop
      | false =>
        cases hcheck : o.validateOnly with
        | true =>
          have hchecks : Checks o t c := ⟨hc, hdry, hcheck⟩
          obtain ⟨path, hlog, hrefuses⟩ := (hchecks.stop_iff clock).1 hstop
          exact .noCheckLog hchecks hlog hrefuses
        | false =>
          have hconverts : Converts o t c := ⟨hc, hdry, hcheck⟩
          rcases (hconverts.stop_iff clock).1 hstop with ⟨e, herror⟩ | ⟨path, hlog, hrefuses⟩ | ⟨path, hreport, hrefuses⟩
          · exact .noOutput hconverts herror
          · exact .noLog hconverts hlog hrefuses
          · exact .noReport hconverts hreport hrefuses
    · exact .barred ((stop_of_not_finds (fun c hc => hfinds ⟨c, hc⟩) clock).1 hstop)
  · intro h
    cases h with
    | barred hbarred => exact (stop_of_not_finds hbarred.not_finds clock).2 hbarred
    | noOutput hc herror => exact (hc.stop_iff clock).2 (.inl ⟨_, herror⟩)
    | noLog hc hlog hrefuses => exact (hc.stop_iff clock).2 (.inr (.inl ⟨_, hlog, hrefuses⟩))
    | noReport hc hreport hrefuses => exact (hc.stop_iff clock).2 (.inr (.inr ⟨_, hreport, hrefuses⟩))
    | noCheckLog hc hlog hrefuses => exact (hc.stop_iff clock).2 ⟨_, hlog, hrefuses⟩

/-! ## What makes no difference -/

/-- With the output folder there, a run is hindered or not whatever the files are, as long as there are the same folders and categories. -/
theorem Hindered.of_folders (h : Hindered o t) (hkeeps : t.KeepsFolders t') (hback : t'.KeepsFolders t)
    (hready : t.hasFolder o.output = true) (hfinds : ∃ c, Finds o t c) (hfinds' : ∃ c, Finds o t' c) : Hindered o t' := by
  obtain ⟨c, hc⟩ := hfinds
  obtain ⟨c', hc'⟩ := hfinds'
  have hprepared : prepared o t = (t, none) := if_pos hready
  have hprepared' : prepared o t' = (t', none) := if_pos (hkeeps.hasFolder hready)
  cases h with
  | barred hbarred => exact absurd hc (hbarred.not_finds c)
  | noOutput hconverts herror =>
    rw [hprepared] at herror
    cases herror
  | noLog hconverts hlog hrefuses =>
    refine .noLog ⟨hc', hconverts.dryRun, hconverts.validateOnly⟩ hlog ?_
    rw [hprepared] at hrefuses
    rwa [hprepared', FileTree.refuses_congr hkeeps hback]
  | noReport hconverts hreport hrefuses =>
    refine .noReport ⟨hc', hconverts.dryRun, hconverts.validateOnly⟩ hreport ?_
    rw [hprepared] at hrefuses
    rwa [hprepared', FileTree.refuses_congr hkeeps hback]
  | noCheckLog hchecks hlog hrefuses =>
    refine .noCheckLog ⟨hc', hchecks.dryRun, hchecks.validateOnly⟩ hlog ?_
    rwa [FileTree.refuses_congr hkeeps hback]

end Run

namespace Program

/-- With arguments that give options the program ends with status 0 or 1, and with 1 exactly if its run is hindered. Whether the error log
and the report can be written is the same before the categories are converted and after it, and so the status is the same whatever the
files hold in which records, mappings, presets and sheets lie. -/
theorem status_run_iff {args : List String} {o : Options} (hparse : CommandLine.parse args = .ok o) (clock : Clock) (t : FileTree) :
    ((run clock t args).status = 0 ∨ (run clock t args).status = 1) ∧
      ((run clock t args).status = 1 ↔ Run.Hindered o t) ∧
      (∀ c path, (Run.conversion o c (Run.prepared o t).1).tree.Refuses path ↔ (Run.prepared o t).1.Refuses path) ∧
      (∀ c logged path content, (Run.conversion o c (Run.prepared o t).1).tree.write path content = .ok logged →
        ∀ other, logged.Refuses other ↔ (Run.prepared o t).1.Refuses other) ∧
      ∀ t', t.KeepsFolders t' → t'.KeepsFolders t → t.hasFolder o.output = true →
        (∃ c, Run.Finds o t c) → (∃ c, Run.Finds o t' c) → ∀ clock', (run clock' t' args).status = (run clock t args).status := by
  have hstatus := (run_of_parse hparse clock t).2
  refine ⟨?_, ?_, ?_, ?_, ?_⟩
  · rw [hstatus]
    split
    · exact .inr rfl
    · exact .inl rfl
  · rw [hstatus, ← Run.stop_ofOptions_iff o clock t]
    split
    · rename_i hstop
      exact iff_of_true rfl hstop
    · rename_i hstop
      exact iff_of_false Nat.zero_ne_one hstop
  · intro c path
    exact Run.refuses_conversion o c _ path
  · intro c logged path content hwrite other
    rw [FileTree.refuses_of_write hwrite, Run.refuses_conversion]
  · intro t' hkeeps hback hready hfinds hfinds' clock'
    have hready' := hkeeps.hasFolder hready
    have hstop : (Run.ofOptions o clock' t').stop.isSome = (Run.ofOptions o clock t).stop.isSome := by
      rw [Bool.eq_iff_iff, Run.stop_ofOptions_iff, Run.stop_ofOptions_iff]
      exact ⟨fun h => h.of_folders hback hkeeps hready' hfinds' hfinds, fun h => h.of_folders hkeeps hback hready hfinds hfinds'⟩
    rw [hstatus, (run_of_parse hparse clock' t').2, hstop]

/-- Arguments that name a folder for the error log. -/
def folderAsLog : List String := ["-i", "in", "-o", "data", "--log", "data"]

/-- The theorem at these arguments: the sheets are written, and then the program ends early. -/
theorem status_run_iff_folderAsLog :
    CommandLine.parse folderAsLog = .ok { input := "in", output := "data", log := some "data" } ∧
      (run ⟨⟨0, 0⟩, 0⟩ Publisher.mixedFolder folderAsLog).status = 1 := by
  have hparse : CommandLine.parse folderAsLog = .ok { input := "in", output := "data", log := some "data" } := by decide +kernel
  refine ⟨hparse, (status_run_iff hparse _ _).2.1.2 ?_⟩
  have hfinds : Run.Finds { input := "in", output := "data", log := some "data" } Publisher.mixedFolder Publisher.mixedCatalogue :=
    ⟨by decide +kernel, ⟨.all, rfl, Publisher.scan_mixedFolder⟩, by decide⟩
  exact .noLog ⟨hfinds, rfl, rfl⟩ rfl ⟨.isDirectory, fun _ => rfl⟩

end Program

end RecordSheets
