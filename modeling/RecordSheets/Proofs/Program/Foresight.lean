import RecordSheets.Proofs.Files.Added
import RecordSheets.Proofs.Program.Rerun

/-!
# What a check of the mappings foretells

A check reads the mappings before anything is made, a conversion reads each of them when its turn comes. Sheets that are written
change no mapping; only the output folder, which a conversion makes first, may come to lie where a mapping was missing
(`MappingFolder.Overbuilt`). So a conversion fails those categories for their mappings that the check reports, for the same
reasons unless that happens, and the others only for their sheets' files (`Run.foretells`).
-/

namespace RecordSheets

/-! ## Wordings -/

namespace Failure

/-- The failures to have a mapping. -/
inductive OfMapping : Failure → Prop
  | notFound (category path : String) : OfMapping (.mappingNotFound category path)
  | unreadable (path : String) (obstacle : Obstacle) : OfMapping (.mappingUnreadable path obstacle)
  | flawed (category : String) (flaw : MappingFlaw) : OfMapping (.mappingFlawed category flaw)

/-- The failures to write a sheet's file. -/
inductive OfSheet (path : String) : Failure → Prop
  | there : OfSheet path (.outputExists path)
  | notWritten (e : SystemError) : OfSheet path (.outputNotWritten path e)

/-- A text that begins with a text begins with its first character. -/
theorem head?_toList_append {a b : String} {c : Char} (h : a.toList.head? = some c) : (a ++ b).toList.head? = some c := by
  rw [String.toList_append, List.head?_append, h, Option.some_or]

theorem OfMapping.head? {failure : Failure} (h : failure.OfMapping) :
    failure.message.toList.head? = some '매' ∨ failure.message.toList.head? = some '잘' := by
  cases h with
  | notFound category path =>
    left
    iterate 3 refine head?_toList_append ?_
    decide +kernel
  | unreadable path obstacle =>
    left
    iterate 3 refine head?_toList_append ?_
    decide +kernel
  | flawed category flaw =>
    right
    iterate 3 refine head?_toList_append ?_
    decide +kernel

theorem OfSheet.head? {path : String} {failure : Failure} (h : failure.OfSheet path) :
    failure.message.toList.head? = some '출' ∨ failure.message.toList.head? = some '파' := by
  cases h with
  | there =>
    left
    refine head?_toList_append ?_
    decide +kernel
  | notWritten e =>
    right
    iterate 3 refine head?_toList_append ?_
    decide +kernel

theorem head?_misfit (m : Csv.Misfit) : m.message.toList.head? = some 'C' := by
  unfold Csv.Misfit.message
  iterate 4 refine head?_toList_append ?_
  decide +kernel

/-- A sheet's file that could not be written is worded unlike a mapping that could not be had. -/
theorem OfSheet.message_ne {path : String} {failure other : Failure} (h : failure.OfSheet path) (hother : other.OfMapping) :
    other.message ≠ failure.message := by
  intro heq
  have hhead := hother.head?
  rw [heq] at hhead
  rcases h.head? with hfirst | hfirst <;> rw [hfirst] at hhead <;> revert hhead <;> decide

/-- A sheet's file that could not be written is worded unlike a misfit. -/
theorem OfSheet.message_ne_misfit {path : String} {failure : Failure} (h : failure.OfSheet path) (m : Csv.Misfit) :
    m.message ≠ failure.message := by
  intro heq
  have hhead := head?_misfit m
  rw [heq] at hhead
  rcases h.head? with hfirst | hfirst <;> rw [hfirst] at hhead <;> revert hhead <;> decide

end Failure

/-! ## Mappings in a tree with more folders -/

namespace MappingFolder

variable (m : MappingFolder) {t t' : FileTree} {category : String}

/-- A mapping was missing in a tree, and in a later one its path leads to a folder or comes to a name that is too long. -/
def Overbuilt (t t' : FileTree) (category : String) : Prop :=
  t.find (m.pathFor category) = .error .notFound ∧
    (t'.find (m.pathFor category) = .ok .folder ∨ t'.find (m.pathFor category) = .error .nameTooLong)

/-- A content that is no mapping fails in one of these ways. -/
theorem ofMapping_of_ofContent {path : String} {content : Bytes} {failure : Failure}
    (h : ofContent category path content = .error failure) : failure.OfMapping := by
  unfold ofContent at h
  split at h
  · cases h
    exact .unreadable _ _
  · split at h
    · unfold Mapping.ofJson at h
      split at h
      · split at h
        · cases h
        · cases h
          exact .flawed _ _
      · cases h
        exact .flawed _ _
    · cases h
      exact .unreadable _ _

/-- A mapping that cannot be had fails in one of these ways. -/
theorem ofMapping_of_load {failure : Failure} (h : m.load t category = .error failure) : failure.OfMapping := by
  unfold load at h
  cases hread : t.read (m.pathFor category) with
  | ok content =>
    simp only [hread] at h
    exact ofMapping_of_ofContent h
  | error e =>
    simp only [hread] at h
    cases e <;> cases h <;> constructor

/-- Where a path leads to nothing, there is no mapping. -/
theorem load_of_find_error {e : SystemError} (h : t.find (m.pathFor category) = .error e) :
    ∃ failure, m.load t category = .error failure := by
  have hread : t.read (m.pathFor category) = .error e := by
    rw [FileTree.read, h]
    rfl
  unfold load
  simp only [hread]
  cases e <;> exact ⟨_, rfl⟩

/-- Where a path leads to a folder, there is no mapping. -/
theorem load_of_find_folder (h : t.find (m.pathFor category) = .ok .folder) : ∃ failure, m.load t category = .error failure := by
  have hread : t.read (m.pathFor category) = .error .isDirectory := by
    rw [FileTree.read, h]
    rfl
  unfold load
  simp only [hread]
  exact ⟨_, rfl⟩

/-- With more folders a mapping is had as before, or a folder was made where it was missing. -/
theorem load_of_addsFolders (hadds : t.AddsFolders t') (hc : '/' ∉ category.toList) (hup : ".." ∉ Path.names m.dir) :
    m.load t' category = m.load t category ∨ m.Overbuilt t t' category := by
  have hpath : ".." ∉ Path.names (m.pathFor category) := by
    rw [pathFor, Path.names_join _ (plain_name hc).noSlash, List.mem_append, List.mem_singleton, not_or]
    exact ⟨fun h => hup (Path.mem_names_of_mem_namesInto h), (plain_name hc).notUp.symm⟩
  exact (hadds.find_cases hpath).imp_left m.load_congr

/-- Where a folder was made in the place of a mapping, it could not be had before and cannot be had now. -/
theorem Overbuilt.load {m : MappingFolder} (h : m.Overbuilt t t' category) :
    (∃ failure, m.load t category = .error failure) ∧ ∃ failure, m.load t' category = .error failure :=
  ⟨m.load_of_find_error h.1, h.2.elim m.load_of_find_folder m.load_of_find_error⟩

end MappingFolder

/-! ## Failures of a conversion -/

namespace Publisher

variable (p : Publisher)

/-- Publishing a batch changes no mapping. -/
theorem load_publishAll {batch : List CategoryRecords} (hnames : ∀ entry ∈ batch, '/' ∉ entry.category.toList)
    {category : String} (hc : '/' ∉ category.toList) (desk : Desk) :
    p.mappings.load (p.publishAll desk batch).2.tree category = p.mappings.load desk.tree category := by
  induction batch generalizing desk with
  | nil => rfl
  | cons entry rest ih =>
    rw [List.forall_mem_cons] at hnames
    rw [publishAll_cons, ih hnames.2]
    exact p.mappings.load_congr (p.find_mapping_publish hnames.1 hc desk entry.records)

/-- When the turn of a category of a batch comes, its mapping cannot be had, and the category fails for this reason. -/
def FailsOnMapping (desk : Desk) (batch : List CategoryRecords) (category reason : String) : Prop :=
  ∃ before entry behind failure, batch = before ++ entry :: behind ∧ entry.category = category ∧
    p.mappings.load (p.publishAll desk before).2.tree category = .error failure ∧ failure.message = reason ∧
    (p.publishAll desk batch).1[before.length]? = some (.failed reason)

/-- A category of a batch fails on its mapping exactly if the mapping cannot be had before the batch. -/
theorem failsOnMapping_iff {desk : Desk} {batch : List CategoryRecords}
    (hnames : ∀ entry ∈ batch, '/' ∉ entry.category.toList) {category reason : String}
    (hmem : category ∈ batch.map CategoryRecords.category) :
    p.FailsOnMapping desk batch category reason ↔
      ∃ failure, p.mappings.load desk.tree category = .error failure ∧ failure.message = reason := by
  constructor
  · rintro ⟨before, entry, behind, failure, rfl, rfl, hload, hreason, -⟩
    rw [p.load_publishAll (fun e he => hnames e (List.mem_append_left _ he)) (hnames entry (by simp))] at hload
    exact ⟨failure, hload, hreason⟩
  · rintro ⟨failure, hload, rfl⟩
    obtain ⟨entry, hentry, rfl⟩ := List.mem_map.1 hmem
    obtain ⟨before, behind, rfl⟩ := List.append_of_mem hentry
    have hturn := p.load_publishAll (fun e he => hnames e (List.mem_append_left _ he)) (hnames entry hentry) desk
    rw [hload] at hturn
    refine ⟨before, entry, behind, failure, rfl, rfl, hturn, rfl, ?_⟩
    rw [p.getElem?_publishAll, List.getElem?_append_right (Nat.le_refl _), Nat.sub_self, List.getElem?_cons_zero,
      Option.map_some, List.take_left, p.publish_of_load_error _ hturn]

/-- A refusal to write a sheet's file is that it is there already or that it cannot be written. -/
theorem ofSheet_refusal (mode : WriteMode) (path : String) (e : SystemError) : (refusal mode path e).OfSheet path := by
  cases mode <;> cases e <;> constructor

/-- A category with a mapping fails only because its sheet's file is there or cannot be written. -/
theorem reason_of_load (desk : Desk) {category : String} {mapping : Mapping}
    (hload : p.mappings.load desk.tree category = .ok mapping) {records : List Json} {reason : String}
    (hfailed : (p.publish desk category records).1 = .failed reason) :
    ∃ failure : Failure, failure.OfSheet (p.outputPath category) ∧ failure.message = reason := by
  have hends := p.ends_publish desk category records
  generalize p.publish desk category records = result at hends hfailed
  cases hends with
  | unmapped hnot =>
    rw [hload] at hnot
    cases hnot
  | nothing hload' hnil => cases hfailed
  | refused hload' hne hspot =>
    cases hfailed
    exact ⟨_, ofSheet_refusal p.mode _ _, rfl⟩
  | written hload' hne hspot => cases hfailed

/-- The report of a conversion lists the categories of the batch that fail, with the reasons for which each fails alone. -/
theorem mem_failures_convert_iff {c : Catalogue} {source : FileTree}
    (hnames : ∀ entry ∈ (c.loadBatch source c.categories).1, '/' ∉ entry.category.toList)
    (hdistinct : ((c.loadBatch source c.categories).1.map CategoryRecords.category).Nodup) (desk : Desk)
    (category reason : String) :
    (category, reason) ∈ (p.convert c source desk).report.failures ↔
      ∃ entry ∈ (c.loadBatch source c.categories).1, entry.category = category ∧
        (p.publish desk entry.category entry.records).1 = .failed reason := by
  have hresults : (p.convert c source desk).results = (c.loadBatch source c.categories).1.map fun entry =>
      (entry, (p.publish desk entry.category entry.records).1) := by
    have houtcomes : (p.convert c source desk).outcomes = (c.loadBatch source c.categories).1.map fun entry =>
        (p.publish desk entry.category entry.records).1 := p.outcomes_publishAll hnames hdistinct desk
    rw [Conversion.results, houtcomes]
    exact List.map_prod_left_eq_zip.symm
  rw [report_convert]
  dsimp only
  rw [Report.failuresOf, hresults, List.filterMap_map, List.mem_filterMap]
  refine exists_congr fun entry => and_congr_right fun _ => ?_
  dsimp only [Function.comp_apply]
  cases (p.publish desk entry.category entry.records).1 <;> simp [Outcome.reason?]

end Publisher

namespace Run

/-- The categories that a check reports are those whose mappings cannot be had, with the reasons. -/
theorem mem_mappingErrors_iff {o : Options} {t : FileTree} {categories : List String} {category reason : String} :
    (category, reason) ∈ mappingErrors o t categories ↔
      category ∈ categories ∧ ∃ failure, (mappings o).load t category = .error failure ∧ failure.message = reason := by
  rw [mappingErrors, List.mem_filterMap]
  constructor
  · rintro ⟨other, hother, hfound⟩
    split at hfound
    · cases hfound
    · rename_i failure hload
      cases hfound
      exact ⟨hother, failure, hload, rfl⟩
  · rintro ⟨hcategory, failure, hload, rfl⟩
    exact ⟨category, hcategory, by rw [hload]⟩

variable {o : Options} {t : FileTree} {c : Catalogue}

/-- In a conversion, which loads and publishes its batch with the output folder at hand, a category fails on its mapping. -/
def FailsOnMapping (o : Options) (t : FileTree) (c : Catalogue) (category reason : String) : Prop :=
  (publisher o).FailsOnMapping ⟨(prepared o t).1, .ofFolder o.presetDir⟩ (conversion o c (prepared o t).1).batch category reason

/-- What a check of the mappings foretells of a conversion from the same files, about a category with records. -/
structure Foretells (o : Options) (t : FileTree) (c : Catalogue) (category : String) : Prop where
  /-- The category is reported exactly if it fails on its mapping. -/
  fails_iff : (∃ reason, (category, reason) ∈ mappingErrors o t c.categories) ↔ ∃ reason, FailsOnMapping o t c category reason
  /-- The reasons are the same, unless the output folder was made where the mapping was missing. -/
  reason_iff : ¬(mappings o).Overbuilt t (prepared o t).1 category → ∀ reason,
    (category, reason) ∈ mappingErrors o t c.categories ↔ FailsOnMapping o t c category reason
  /-- A category that fails on its mapping is listed as failed, with the reason. -/
  listed : ∀ reason, FailsOnMapping o t c category reason →
    (category, reason) ∈ (conversion o c (prepared o t).1).report.failures
  /-- A category that is not reported fails only because its sheet's file is there or cannot be written. -/
  accepted : (∀ reason, (category, reason) ∉ mappingErrors o t c.categories) → ∀ reason,
    (category, reason) ∈ (conversion o c (prepared o t).1).report.failures →
      ∃ failure : Failure, failure.OfSheet ((publisher o).outputPath category) ∧ failure.message = reason
  /-- Its reason is not worded like one of its mapping or of the CSV text. -/
  unlike : (∀ reason, (category, reason) ∉ mappingErrors o t c.categories) → ∀ reason,
    (category, reason) ∈ (conversion o c (prepared o t).1).report.failures →
      (∀ failure : Failure, failure.OfMapping → failure.message ≠ reason) ∧ ∀ misfit : Csv.Misfit, misfit.message ≠ reason

section

variable (hdisk : t.OnDisk) (h : Finds o t c) {category : String}
include hdisk h

/-- A conversion lists the categories of its batch that fail, with the reasons for which each fails alone. -/
theorem mem_failures_conversion_iff {reason : String} :
    (category, reason) ∈ (conversion o c (prepared o t).1).report.failures ↔
      ∃ entry ∈ (conversion o c (prepared o t).1).batch, entry.category = category ∧
        ((publisher o).publish ⟨(prepared o t).1, .ofFolder o.presetDir⟩ entry.category entry.records).1 = .failed reason := by
  obtain ⟨filter, -, hscan⟩ := h.scanned
  obtain ⟨hnames, hdistinct⟩ := Catalogue.batch_of_scan hdisk.slashFree hscan (prepared o t).1
  rw [conversion]
  exact (publisher o).mem_failures_convert_iff hnames hdistinct _ category reason

/-- A category with a mapping that fails does so because its sheet's file is there or cannot be written. -/
theorem ofSheet_of_mem_failures {mapping : Mapping} (hload : (mappings o).load (prepared o t).1 category = .ok mapping)
    {reason : String} (hfailed : (category, reason) ∈ (conversion o c (prepared o t).1).report.failures) :
    ∃ failure : Failure, failure.OfSheet ((publisher o).outputPath category) ∧ failure.message = reason := by
  obtain ⟨entry, -, hsame, houtcome⟩ := (mem_failures_conversion_iff hdisk h).1 hfailed
  rw [hsame] at houtcome
  exact (publisher o).reason_of_load ⟨(prepared o t).1, .ofFolder o.presetDir⟩ hload houtcome

variable {records : List Json} (hfetch : c.fetch t category = .ok (some records))
include hfetch

/-- A category with records is in the batch of a conversion. -/
theorem mem_batch_of_fetch : category ∈ (conversion o c (prepared o t).1).batch.map CategoryRecords.category := by
  obtain ⟨filter, -, hscan⟩ := h.scanned
  have hkeeps := (addsFolders_prepared o t).keepsFiles Publisher.NoSheet
  have hsame := Catalogue.fetch_of_keepsFiles Publisher.keepsRecordNames_noSheet hkeeps hdisk hscan category
  have hbatch : (conversion o c (prepared o t).1).batch = (c.loadBatch (prepared o t).1 c.categories).1 := rfl
  rw [hbatch, (c.categories_loadBatch (prepared o t).1 c.categories).1, List.mem_filter]
  exact ⟨Catalogue.mem_categories_of_fetch hfetch, by rw [Catalogue.offers, hsame, hfetch]⟩

/-- A category with records fails on its mapping exactly if the mapping cannot be had with the output folder at hand. -/
theorem failsOnMapping_iff {reason : String} :
    FailsOnMapping o t c category reason ↔
      ∃ failure, (mappings o).load (prepared o t).1 category = .error failure ∧ failure.message = reason := by
  obtain ⟨filter, -, hscan⟩ := h.scanned
  obtain ⟨hnames, -⟩ := Catalogue.batch_of_scan hdisk.slashFree hscan (prepared o t).1
  exact (publisher o).failsOnMapping_iff hnames (mem_batch_of_fetch hdisk h hfetch)

/-- With the output folder at hand, a category with records has the mapping that it had, or the output folder lies where its mapping was
missing. -/
theorem load_prepared (hup : ".." ∉ Path.names o.mappingDir) :
    (mappings o).load (prepared o t).1 category = (mappings o).load t category ∨
      (mappings o).Overbuilt t (prepared o t).1 category := by
  obtain ⟨filter, -, hscan⟩ := h.scanned
  have hc := Catalogue.noSlash_of_scan hscan hdisk.slashFree (Catalogue.mem_categories_of_fetch hfetch)
  exact (mappings o).load_of_addsFolders (addsFolders_prepared o t) hc hup

/-- With the output folder at hand, a check foretells what a conversion makes of each category that has records. -/
theorem foretells_of_finds (hup : ".." ∉ Path.names o.mappingDir) : Foretells o t c category := by
  have hload := load_prepared hdisk h hfetch hup
  have hfails : ∀ reason, FailsOnMapping o t c category reason ↔
      ∃ failure, (mappings o).load (prepared o t).1 category = .error failure ∧ failure.message = reason :=
    fun _ => failsOnMapping_iff hdisk h hfetch
  have hreports : ∀ reason, (category, reason) ∈ mappingErrors o t c.categories ↔
      ∃ failure, (mappings o).load t category = .error failure ∧ failure.message = reason :=
    fun reason => mem_mappingErrors_iff.trans (and_iff_right (Catalogue.mem_categories_of_fetch hfetch))
  have haccepted : (∀ reason, (category, reason) ∉ mappingErrors o t c.categories) → ∀ reason,
      (category, reason) ∈ (conversion o c (prepared o t).1).report.failures →
        ∃ failure : Failure, failure.OfSheet ((publisher o).outputPath category) ∧ failure.message = reason := by
    intro hnone reason hfailed
    cases hbefore : (mappings o).load t category with
    | error failure => exact absurd ((hreports _).2 ⟨failure, hbefore, rfl⟩) (hnone _)
    | ok mapping =>
      rcases hload with hsame | hover
      · exact ofSheet_of_mem_failures hdisk h (hsame.trans hbefore) hfailed
      · obtain ⟨⟨failure, herror⟩, -⟩ := hover.load
        rw [herror] at hbefore
        cases hbefore
  constructor
  case fails_iff =>
    simp only [hreports, hfails]
    rcases hload with hsame | hover
    · rw [hsame]
    · obtain ⟨⟨failure, hbefore⟩, failure', hthen⟩ := hover.load
      exact iff_of_true ⟨_, failure, hbefore, rfl⟩ ⟨_, failure', hthen, rfl⟩
  case reason_iff =>
    intro hover reason
    rw [hreports, hfails, hload.resolve_right hover]
  case listed =>
    intro reason hfail
    obtain ⟨failure, herror, rfl⟩ := (hfails reason).1 hfail
    obtain ⟨entry, hentry, hsame⟩ := List.mem_map.1 (mem_batch_of_fetch hdisk h hfetch)
    refine (mem_failures_conversion_iff hdisk h).2 ⟨entry, hentry, hsame, ?_⟩
    rw [hsame, (publisher o).publish_of_load_error ⟨(prepared o t).1, .ofFolder o.presetDir⟩ herror]
  case accepted => exact haccepted
  case unlike =>
    intro hnone reason hfailed
    obtain ⟨failure, hsheet, rfl⟩ := haccepted hnone reason hfailed
    exact ⟨fun _ hother => hsheet.message_ne hother, hsheet.message_ne_misfit⟩

end

/-- A check and a conversion from the same files find the same catalogue and go on with its categories, the conversion if it can make
its output folder. The check foretells what the conversion makes of those with records: the reports agree on the categories that fail
for their mappings, on the reasons as well unless the output folder comes to lie where a mapping was missing. -/
theorem foretells (hdisk : t.OnDisk) (hdry : o.dryRun = false) (hup : ".." ∉ Path.names o.mappingDir)
    (hready : (prepared o t).2 = none) (clock : Clock) :
    (∀ c, Finds { o with validateOnly := true } t c ↔ Finds { o with validateOnly := false } t c) ∧
      ∀ c, Finds { o with validateOnly := true } t c →
        ofOptions { o with validateOnly := true } clock t =
            after (Console.header { o with validateOnly := true })
              (after (Console.found c.categories.length) (validate o clock t c.categories)) ∧
          (∃ line, ofOptions { o with validateOnly := false } clock t =
            after (Console.header { o with validateOnly := false })
              (after (Console.found c.categories.length) (after [line] (publish o clock c (prepared o t).1)))) ∧
          ∀ category records, c.fetch t category = .ok (some records) → Foretells o t c category := by
  have hcatalogue : ∀ c, Finds { o with validateOnly := true } t c ↔ Finds { o with validateOnly := false } t c :=
    fun _ => ⟨fun h => ⟨h.input, h.scanned, h.categories⟩, fun h => ⟨h.input, h.scanned, h.categories⟩⟩
  refine ⟨hcatalogue, fun c hcheck => ⟨?_, ?_, fun category records hfetch => ?_⟩⟩
  · rw [ofOptions_of_finds hcheck clock]
    simp only [hdry, Bool.false_eq_true, if_false, if_true]
    rfl
  · obtain ⟨line, hgoOn⟩ := withOutput_of_prepared hready (publish o clock c)
    refine ⟨line, ?_⟩
    rw [ofOptions_of_finds ((hcatalogue c).1 hcheck) clock, ← hgoOn]
    simp only [hdry, Bool.false_eq_true, if_false]
    rfl
  · have hfinds : Finds o t c := ⟨hcheck.input, hcheck.scanned, hcheck.categories⟩
    exact foretells_of_finds hdisk hfinds hfetch hup

def mixedOptions : Options := { input := "in", output := "out" }

/-- The theorem at these options, for the category with a mapping and for the one without. -/
theorem foretells_mixed :
    Publisher.mixedFolder.OnDisk ∧ mixedOptions.dryRun = false ∧ ".." ∉ Path.names mixedOptions.mappingDir ∧
      (prepared mixedOptions Publisher.mixedFolder).2 = none ∧
      Finds { mixedOptions with validateOnly := false } Publisher.mixedFolder Publisher.mixedCatalogue ∧
      Foretells mixedOptions Publisher.mixedFolder Publisher.mixedCatalogue "船体" ∧
      Foretells mixedOptions Publisher.mixedFolder Publisher.mixedCatalogue "皮" ∧
      mappingErrors mixedOptions Publisher.mixedFolder Publisher.mixedCatalogue.categories =
        [("反潜武器", "매핑 파일을 찾을 수 없습니다 (反潜武器): mapping/反潜武器mapping.json"),
          ("皮", "매핑 파일을 찾을 수 없습니다 (皮): mapping/皮mapping.json")] := by
  have hdisk : Publisher.mixedFolder.OnDisk := by decide +kernel
  have hup : ".." ∉ Path.names mixedOptions.mappingDir := by decide +kernel
  have hready : (prepared mixedOptions Publisher.mixedFolder).2 = none := by decide +kernel
  have hcheck : Finds { mixedOptions with validateOnly := true } Publisher.mixedFolder Publisher.mixedCatalogue :=
    ⟨by decide +kernel, ⟨.all, rfl, Publisher.scan_mixedFolder⟩, by decide⟩
  obtain ⟨hcatalogue, hforetells⟩ := foretells hdisk rfl hup hready ⟨⟨0, 0⟩, 0⟩
  obtain ⟨-, -, hcategories⟩ := hforetells Publisher.mixedCatalogue hcheck
  refine ⟨hdisk, rfl, hup, hready, (hcatalogue _).1 hcheck, hcategories "船体" _ rfl, hcategories "皮" _ rfl, ?_⟩
  decide +kernel

/-- Options by which the output folder is made where the mapping of the category without one is looked for. -/
def overlaid : Options := { input := "in", output := "mapping/皮" ++ Mapping.fileEnding }

/-- The reason that a check reports need not be the one for which a conversion fails: with these options the mapping is missing for the
check and a folder for the conversion. -/
theorem not_foretells_overlaid :
    Publisher.mixedFolder.OnDisk ∧ overlaid.dryRun = false ∧ ".." ∉ Path.names overlaid.mappingDir ∧
      (prepared overlaid Publisher.mixedFolder).2 = none ∧
      Finds { overlaid with validateOnly := true } Publisher.mixedFolder Publisher.mixedCatalogue ∧
      Publisher.mixedCatalogue.fetch Publisher.mixedFolder "皮" = .ok (some [.int 1]) ∧
      ("皮", "매핑 파일 파싱 실패 (mapping/皮mapping.json): Is a directory (os error 21)") ∈
        (conversion overlaid Publisher.mixedCatalogue (prepared overlaid Publisher.mixedFolder).1).report.failures ∧
      ¬∀ reason, ("皮", reason) ∈ mappingErrors overlaid Publisher.mixedFolder Publisher.mixedCatalogue.categories ↔
        FailsOnMapping overlaid Publisher.mixedFolder Publisher.mixedCatalogue "皮" reason := by
  refine ⟨by decide +kernel, rfl, by decide +kernel, by decide +kernel,
    ⟨by decide +kernel, ⟨.all, rfl, Publisher.scan_mixedFolder⟩, by decide⟩, rfl, by decide +kernel, fun hsame => ?_⟩
  have hreported : ("皮", "매핑 파일을 찾을 수 없습니다 (皮): mapping/皮mapping.json") ∈
      mappingErrors overlaid Publisher.mixedFolder Publisher.mixedCatalogue.categories := by decide +kernel
  have hfails := (hsame _).1 hreported
  rw [FailsOnMapping, (publisher overlaid).failsOnMapping_iff (by decide +kernel) (by decide +kernel)] at hfails
  obtain ⟨failure, hload, hmessage⟩ := hfails
  have hfolder : (mappings overlaid).load (prepared overlaid Publisher.mixedFolder).1 "皮" =
      .error (.mappingUnreadable "mapping/皮mapping.json" (.refused .isDirectory)) := rfl
  obtain rfl := Except.error.inj (hfolder.symm.trans hload)
  revert hmessage
  decide +kernel

end Run

end RecordSheets
