import Mathlib.Data.List.Perm.Basic
import RecordSheets.Conversion
import RecordSheets.Proofs.Catalogue.Categories
import RecordSheets.Proofs.Publishing.Counting
import RecordSheets.Proofs.Publishing.Isolation
import RecordSheets.Proofs.Sheet.Columns

/-!
# The account of a conversion

A conversion loads the records of all categories of a catalogue, publishes those that could be had, and counts what became of
them. Nothing is lost on the way (`Publisher.accounted_convert`): every category is loaded or unavailable, every loaded one has a
file or a failure, and the report and the statistics count the same.

Three facts carry this. Loading splits the categories by what is fetched (`Catalogue.categories_loadBatch`), and never yields an
empty list of records. A category with records is written or fails (`Publisher.settled_publish`). Recording appends each outcome to
the list of its kind, so a report on settled outcomes is the split of the batch into two (`Report.split_of_settled`).
-/

namespace RecordSheets

/-! ## Loading -/

namespace Catalogue

variable (c : Catalogue) (t : FileTree)

/-- Tells whether the records of a category can be had. -/
def offers (category : String) : Bool :=
  match c.fetch t category with
  | .ok (some _) => true
  | _ => false

theorem ne_nil_of_fetch {category : String} {records : List Json} (h : c.fetch t category = .ok (some records)) :
    records ≠ [] := by
  unfold fetch at h
  split at h
  · cases h
  · split at h
    · cases h
    · cases h
    · rename_i hne hdocument
      cases h
      exact hne
    · cases h

/-- The batch has the categories whose records can be had, in order, and the others are unavailable, in order. -/
theorem categories_loadBatch (categories : List String) :
    (c.loadBatch t categories).1.map CategoryRecords.category = categories.filter (c.offers t) ∧
      (c.loadBatch t categories).2.map Prod.fst = categories.filter fun category => !c.offers t category := by
  induction categories with
  | nil => exact ⟨rfl, rfl⟩
  | cons category rest ih =>
    obtain ⟨ihbatch, ihunavailable⟩ := ih
    unfold loadBatch
    dsimp only
    split
    · rename_i records hfetch
      have hoffers : c.offers t category = true := by rw [offers, hfetch]
      simp [hoffers, ihbatch, ihunavailable]
    · rename_i hfetch
      have hoffers : c.offers t category = false := by rw [offers, hfetch]
      simp [hoffers, ihbatch, ihunavailable]
    · rename_i e hfetch
      have hoffers : c.offers t category = false := by rw [offers, hfetch]
      simp [hoffers, ihbatch, ihunavailable]

/-- Every category of a batch has records. -/
theorem ne_nil_of_mem_loadBatch {categories : List String} {entry : CategoryRecords}
    (h : entry ∈ (c.loadBatch t categories).1) : entry.records ≠ [] := by
  induction categories with
  | nil => cases h
  | cons category rest ih =>
    unfold loadBatch at h
    dsimp only at h
    split at h
    · rename_i records hfetch
      rcases List.mem_cons.1 h with rfl | h
      · exact c.ne_nil_of_fetch t hfetch
      · exact ih h
    · exact ih h
    · exact ih h

end Catalogue

/-! ## Outcomes of categories with records -/

/-- An outcome that is a file of a path, or a failure. -/
def Outcome.Settled (path : String) (outcome : Outcome) : Prop :=
  (∃ rows bytes, outcome = .written path rows bytes) ∨ ∃ reason, outcome = .failed reason

namespace Publisher

variable (p : Publisher)

/-- A category with records is written to its own path or fails. -/
theorem settled_publish (desk : Desk) (category : String) {records : List Json} (h : records ≠ []) :
    (p.publish desk category records).1.Settled (p.outputPath category) := by
  have hends := p.ends_publish desk category records
  generalize p.publish desk category records = result at hends ⊢
  cases hends with
  | unmapped hload => exact .inr ⟨_, rfl⟩
  | nothing hload hnil => exact absurd hnil h
  | refused hload hne hspot => exact .inr ⟨_, rfl⟩
  | written hload hne hspot => exact .inl ⟨_, _, rfl⟩

/-- The outcomes of a batch in which every category has records are settled, one for each category. -/
theorem settled_publishAll {batch : List CategoryRecords} (h : ∀ entry ∈ batch, entry.records ≠ []) (desk : Desk) :
    List.Forall₂ (fun entry outcome => outcome.Settled (p.outputPath entry.category)) batch (p.publishAll desk batch).1 := by
  induction batch generalizing desk with
  | nil => exact .nil
  | cons entry rest ih =>
    rw [List.forall_mem_cons] at h
    exact .cons (p.settled_publish desk entry.category h.1) (ih h.2 _)

end Publisher

/-! ## Reports on settled outcomes -/

/-- The files, the failures and the rest of settled outcomes: the paths of the categories that were written, the others, none. -/
theorem Report.split_of_settled {path : String → String} {xs : List (CategoryRecords × Outcome)}
    (h : ∀ x ∈ xs, x.2.Settled (path x.1.category)) :
    (xs.filterMap fun x => x.2.path?) = ((xs.filter fun x => x.2.isWritten).map fun x => x.1.category).map path ∧
      (failuresOf xs).map Prod.fst = (xs.filter fun x => !x.2.isWritten).map (fun x => x.1.category) ∧
      emptiesOf xs = [] := by
  induction xs with
  | nil => exact ⟨rfl, rfl, rfl⟩
  | cons x rest ih =>
    obtain ⟨entry, outcome⟩ := x
    rw [List.forall_mem_cons] at h
    obtain ⟨ihfiles, ihfailures, ihempties⟩ := ih h.2
    rw [failuresOf] at ihfailures
    rw [emptiesOf] at ihempties
    have hx : outcome.Settled (path entry.category) := h.1
    rcases hx with ⟨rows, bytes, rfl⟩ | ⟨reason, rfl⟩
    · refine ⟨?_, ?_, ?_⟩
      · simpa [Outcome.isWritten, Outcome.path?] using ihfiles
      · simpa [failuresOf, Outcome.isWritten, Outcome.path?, Outcome.reason?] using ihfailures
      · simpa [emptiesOf, Outcome.isEmpty] using ihempties
    · refine ⟨?_, ?_, ?_⟩
      · simpa [Outcome.isWritten, Outcome.path?] using ihfiles
      · simpa [failuresOf, Outcome.isWritten, Outcome.path?, Outcome.reason?] using ihfailures
      · simpa [emptiesOf, Outcome.isEmpty] using ihempties

/-- What counting outcomes adds to the counters is what the report on them counts. -/
theorem Tick.total_outcomes (xs : List (CategoryRecords × Outcome)) :
    Tick.total .success (xs.flatMap fun x => x.2.ticks) = (xs.filterMap fun x => x.2.path?).length ∧
      Tick.total .error (xs.flatMap fun x => x.2.ticks) = (Report.failuresOf xs).length ∧
      Tick.total .empty (xs.flatMap fun x => x.2.ticks) = (Report.emptiesOf xs).length ∧
      Tick.total .unavailable (xs.flatMap fun x => x.2.ticks) = 0 := by
  induction xs with
  | nil => exact ⟨rfl, rfl, rfl, rfl⟩
  | cons x rest ih =>
    obtain ⟨entry, outcome⟩ := x
    obtain ⟨hsuccess, herror, hempty, hunavailable⟩ := ih
    simp only [List.flatMap_cons, Tick.total_append, hsuccess, herror, hempty, hunavailable]
    cases outcome <;>
      simp [Tick.total, Tick.amount, Outcome.ticks, Report.failuresOf, Report.emptiesOf, Outcome.path?, Outcome.reason?,
        Outcome.isEmpty, Nat.add_comm 1]

/-! ## Whole conversions -/

/-- The categories of the batch with their outcomes. -/
def Conversion.results (x : Conversion) : List (CategoryRecords × Outcome) := x.batch.zip x.outcomes

/-- The counters of the statistics, which have 64 bits, are the numbers of a report. -/
structure Statistics.Agrees (s : Statistics) (r : Report) : Prop where
  /-- As many successes. -/
  success : s.success = UInt64.ofNat r.success
  /-- As many failures. -/
  error : s.error = UInt64.ofNat r.failed
  /-- As many categories with nothing to write. -/
  empty : s.empty = UInt64.ofNat r.empty
  /-- As many unavailable categories. -/
  unavailable : s.unavailable = UInt64.ofNat r.unavailable.length

/-- Nothing is lost in a conversion of some categories to files of their paths. -/
structure Conversion.Accounted (x : Conversion) (categories : List String) (path : String → String) : Prop where
  /-- No category comes twice. -/
  distinct : categories.Nodup
  /-- Every category is in the batch or unavailable, once. -/
  once : (x.batch.map CategoryRecords.category ++ x.unavailable.map Prod.fst).Perm categories
  /-- The batch keeps the order of the categories. -/
  batchOrdered : (x.batch.map CategoryRecords.category).Sublist categories
  /-- The unavailable categories keep it, too. -/
  unavailableOrdered : (x.unavailable.map Prod.fst).Sublist categories
  /-- The categories of the batch are those with a file and those with a failure, each once and each kind in batch order. The files
  have the paths of their categories. -/
  settled : ∃ written : List String, x.report.files = written.map path ∧
    written.Sublist (x.batch.map CategoryRecords.category) ∧
    (x.report.failures.map Prod.fst).Sublist (x.batch.map CategoryRecords.category) ∧
    (written ++ x.report.failures.map Prod.fst).Perm (x.batch.map CategoryRecords.category)
  /-- No category of the batch had nothing to write. -/
  noEmpty : Outcome.empty ∉ x.outcomes ∧ x.report.empty = 0 ∧ x.report.emptyCategories = []
  /-- The report lists the unavailable categories and counts the others as it lists them. -/
  listed : x.report.unavailable = x.unavailable ∧ x.report.success = x.report.files.length ∧
    x.report.failed = x.report.failures.length
  /-- The numbers add up to the number of categories. -/
  total : x.report.success + x.report.failed + x.unavailable.length = categories.length
  /-- The statistics agree with the report, in whatever order their steps come. -/
  counted : ∀ steps, steps.Perm x.steps → (Statistics.ticks { total := categories.length } steps).Agrees x.report

namespace Publisher

variable (p : Publisher)

/-- The results of a conversion are settled, one for each category of the batch, which they name in order. -/
theorem results_convert (c : Catalogue) (source : FileTree) (desk : Desk) :
    (∀ x ∈ (p.convert c source desk).results, x.2.Settled (p.outputPath x.1.category)) ∧
      ((p.convert c source desk).results.map fun x => x.1.category) =
        (p.convert c source desk).batch.map CategoryRecords.category ∧
      (p.convert c source desk).results.map Prod.snd = (p.convert c source desk).outcomes := by
  have hforall : List.Forall₂ (fun entry outcome => outcome.Settled (p.outputPath entry.category))
      (p.convert c source desk).batch (p.convert c source desk).outcomes :=
    p.settled_publishAll (fun entry h => c.ne_nil_of_mem_loadBatch source h) desk
  have hlength := hforall.length_eq
  refine ⟨fun x hx => (List.forall₂_iff_zip.1 hforall).2 hx, ?_, ?_⟩
  · have hmap : ((p.convert c source desk).results.map fun x => x.1.category) =
        ((p.convert c source desk).results.map Prod.fst).map CategoryRecords.category := by
      rw [List.map_map]
      rfl
    rw [hmap, Conversion.results, List.map_fst_zip (Nat.le_of_eq hlength)]
  · rw [Conversion.results, List.map_snd_zip (Nat.le_of_eq hlength.symm)]

/-- The report of a conversion splits its results, and lists the unavailable categories. -/
theorem report_convert (c : Catalogue) (source : FileTree) (desk : Desk) :
    (p.convert c source desk).report =
      { success := ((p.convert c source desk).results.filterMap fun x => x.2.path?).length
        failed := (Report.failuresOf (p.convert c source desk).results).length
        empty := (Report.emptiesOf (p.convert c source desk).results).length
        files := (p.convert c source desk).results.filterMap fun x => x.2.path?
        failures := Report.failuresOf (p.convert c source desk).results
        emptyCategories := Report.emptiesOf (p.convert c source desk).results
        unavailable := (p.convert c source desk).unavailable } := by
  unfold Conversion.results convert
  dsimp only
  rw [Report.foldl_recordUnavailable, Report.ofBatch_eq, List.nil_append]

/-- The statistics of a conversion agree with its report. -/
theorem agrees_convert (c : Catalogue) (source : FileTree) (desk : Desk) (total : Nat) {steps : List Tick}
    (h : steps.Perm (p.convert c source desk).steps) :
    (Statistics.ticks { total := total } steps).Agrees (p.convert c source desk).report := by
  have hsteps : (p.convert c source desk).steps =
      (p.convert c source desk).unavailable.map (fun _ => Tick.unavailable) ++
        (p.convert c source desk).results.flatMap fun x => x.2.ticks := by
    have hflat : (p.convert c source desk).results.flatMap (fun x => x.2.ticks) =
        ((p.convert c source desk).results.map Prod.snd).flatMap Outcome.ticks := by
      rw [List.flatMap_map]
    rw [hflat, (p.results_convert c source desk).2.2]
    rfl
  have hunavailable : ∀ k, Tick.total k ((p.convert c source desk).unavailable.map fun _ => Tick.unavailable) =
      (p.convert c source desk).unavailable.length * Tick.unavailable.amount k := by
    intro k
    rw [Tick.total, List.map_map]
    simp [Function.comp_def]
  have hcounter := fun k => Statistics.counter_ticks { total := total } steps k
  simp only [Tick.total_perm _ h, hsteps, Tick.total_append, hunavailable] at hcounter
  obtain ⟨hsuccess, herror, hempty, hnone⟩ := Tick.total_outcomes (p.convert c source desk).results
  rw [report_convert]
  refine ⟨?_, ?_, ?_, ?_⟩
  · simpa [Statistics.counter, Tick.amount, hsuccess] using hcounter .success
  · simpa [Statistics.counter, Tick.amount, herror] using hcounter .error
  · simpa [Statistics.counter, Tick.amount, hempty] using hcounter .empty
  · simpa [Statistics.counter, Tick.amount, hnone] using hcounter .unavailable

/-- The loaded and the unavailable categories of a conversion are those of the catalogue. -/
theorem categories_convert (c : Catalogue) (source : FileTree) (desk : Desk) :
    ((p.convert c source desk).batch.map CategoryRecords.category ++
        (p.convert c source desk).unavailable.map Prod.fst).Perm c.categories ∧
      ((p.convert c source desk).batch.map CategoryRecords.category).Sublist c.categories ∧
      ((p.convert c source desk).unavailable.map Prod.fst).Sublist c.categories := by
  have hbatch : (p.convert c source desk).batch.map CategoryRecords.category = c.categories.filter (c.offers source) :=
    (c.categories_loadBatch source c.categories).1
  have hunavailable : (p.convert c source desk).unavailable.map Prod.fst =
      c.categories.filter fun category => !c.offers source category :=
    (c.categories_loadBatch source c.categories).2
  rw [hbatch, hunavailable]
  exact ⟨List.filter_append_perm _ _, List.filter_sublist, List.filter_sublist⟩

/-- The categories of the batch of a conversion are those that were written and those that failed. -/
theorem partition_convert (c : Catalogue) (source : FileTree) (desk : Desk) :
    ∃ written : List String, (p.convert c source desk).report.files = written.map p.outputPath ∧
      written.Sublist ((p.convert c source desk).batch.map CategoryRecords.category) ∧
      ((p.convert c source desk).report.failures.map Prod.fst).Sublist
        ((p.convert c source desk).batch.map CategoryRecords.category) ∧
      (written ++ (p.convert c source desk).report.failures.map Prod.fst).Perm
        ((p.convert c source desk).batch.map CategoryRecords.category) := by
  obtain ⟨hsettled, hnames, -⟩ := p.results_convert c source desk
  obtain ⟨hfiles, hfailures, -⟩ := Report.split_of_settled hsettled
  rw [report_convert, ← hnames]
  dsimp only
  rw [hfiles, hfailures]
  refine ⟨_, rfl, List.filter_sublist.map _, List.filter_sublist.map _, ?_⟩
  rw [← List.map_append]
  exact (List.filter_append_perm _ _).map _

/-- The report of a conversion lists the unavailable categories, and counts the others as it lists them. -/
theorem listed_convert (c : Catalogue) (source : FileTree) (desk : Desk) :
    (p.convert c source desk).report.unavailable = (p.convert c source desk).unavailable ∧
      (p.convert c source desk).report.success = (p.convert c source desk).report.files.length ∧
      (p.convert c source desk).report.failed = (p.convert c source desk).report.failures.length := by
  rw [report_convert]
  exact ⟨rfl, rfl, rfl⟩

/-- In a conversion no category has nothing to write. -/
theorem noEmpty_convert (c : Catalogue) (source : FileTree) (desk : Desk) :
    Outcome.empty ∉ (p.convert c source desk).outcomes ∧ (p.convert c source desk).report.empty = 0 ∧
      (p.convert c source desk).report.emptyCategories = [] := by
  obtain ⟨hsettled, -, houtcomes⟩ := p.results_convert c source desk
  obtain ⟨-, -, hempties⟩ := Report.split_of_settled hsettled
  refine ⟨?_, ?_, ?_⟩
  · intro hmem
    rw [← houtcomes] at hmem
    obtain ⟨x, hx, hempty⟩ := List.mem_map.1 hmem
    rcases hsettled x hx with ⟨rows, bytes, hwritten⟩ | ⟨reason, hfailed⟩
    · rw [hempty] at hwritten
      cases hwritten
    · rw [hempty] at hfailed
      cases hfailed
  · rw [report_convert, hempties]
    rfl
  · rw [report_convert, hempties]

/-- The numbers of a conversion add up to the number of categories. -/
theorem total_convert (c : Catalogue) (source : FileTree) (desk : Desk) :
    (p.convert c source desk).report.success + (p.convert c source desk).report.failed +
      (p.convert c source desk).unavailable.length = c.categories.length := by
  obtain ⟨honce, -, -⟩ := p.categories_convert c source desk
  obtain ⟨written, hfiles, -, -, hpartition⟩ := p.partition_convert c source desk
  obtain ⟨-, hsuccess, hfailed⟩ := p.listed_convert c source desk
  have hcategories := honce.length_eq
  have hbatch := hpartition.length_eq
  rw [List.length_append, List.length_map, List.length_map] at hcategories hbatch
  rw [hsuccess, hfailed, hfiles, List.length_map]
  omega

/-- Where the categories of a catalogue differ and hold no slash, a category of the batch has its file in the report if and only if
it has no failure there. -/
theorem file_iff_convert {c : Catalogue} (hdistinct : c.categories.Nodup)
    (hnames : ∀ category ∈ c.categories, '/' ∉ category.toList) (source : FileTree) (desk : Desk) {category : String}
    (hcategory : category ∈ (p.convert c source desk).batch.map CategoryRecords.category) :
    p.outputPath category ∈ (p.convert c source desk).report.files ↔
      category ∉ (p.convert c source desk).report.failures.map Prod.fst := by
  obtain ⟨-, hbatch, -⟩ := p.categories_convert c source desk
  obtain ⟨written, hfiles, hwritten, -, hpartition⟩ := p.partition_convert c source desk
  have hapart := hpartition.nodup_iff.2 (hdistinct.sublist hbatch)
  rw [hfiles]
  constructor
  · intro hfile hfailed
    obtain ⟨other, hother, hpath⟩ := List.mem_map.1 hfile
    have hsame : other = category := by
      by_contra hne
      have hotherName := hnames other (hbatch.subset (hwritten.subset hother))
      exact p.outputPath_ne hotherName (hnames category (hbatch.subset hcategory)) hne hpath
    exact (List.nodup_append.1 hapart).2.2 other hother category hfailed hsame
  · intro hnot
    rcases List.mem_append.1 (hpartition.mem_iff.2 hcategory) with hmem | hmem
    · exact List.mem_map_of_mem hmem
    · exact absurd hmem hnot

/-- Converting the categories of a scan loses none of them, whatever the trees hold that the records and the mappings are read from
and the sheets are written to. On a disk, a category of the batch has its file in the report if and only if it has no failure
there. -/
theorem accounted_convert {t : FileTree} {dir : String} {maxDepth : Option Nat} {filter : CategoryFilter} {c : Catalogue}
    (hscan : Catalogue.scan t dir maxDepth filter = .ok c) (source : FileTree) (desk : Desk) :
    (p.convert c source desk).Accounted c.categories p.outputPath ∧
      (t.SlashFree → ∀ category ∈ (p.convert c source desk).batch.map CategoryRecords.category,
        (p.outputPath category ∈ (p.convert c source desk).report.files ↔
          category ∉ (p.convert c source desk).report.failures.map Prod.fst)) := by
  have hdistinct := Catalogue.nodup_categories hscan
  obtain ⟨honce, hbatch, hunavailable⟩ := p.categories_convert c source desk
  constructor
  · exact
      { distinct := hdistinct
        once := honce
        batchOrdered := hbatch
        unavailableOrdered := hunavailable
        settled := p.partition_convert c source desk
        noEmpty := p.noEmpty_convert c source desk
        listed := p.listed_convert c source desk
        total := p.total_convert c source desk
        counted := fun _ h => p.agrees_convert c source desk _ h }
  · intro hslash category hcategory
    have hnames : ∀ other ∈ c.categories, '/' ∉ other.toList := fun _ hother => Catalogue.noSlash_of_scan hscan hslash hother
    exact p.file_iff_convert hdistinct hnames source desk hcategory

/-- A tree with a category of no records, one with a mapping and one without. -/
def mixedFolder : FileTree :=
  ⟨[("data", .folder []),
    ("in", .folder [
      ("asw.json", .file (Utf8.encode "[]")),
      ("hull.json", .file (Utf8.encode "[\x7b\"n\":3\x7d]")),
      ("皮.json", .file (Utf8.encode "[1]"))]),
    ("mapping", .folder [("船体" ++ Mapping.fileEnding, .file (Utf8.encode "\x7b\"n\":\".n\"\x7d"))])], []⟩

/-- The categories of this tree. -/
def mixedCatalogue : Catalogue := ⟨[("反潜武器", "in/asw.json"), ("船体", "in/hull.json"), ("皮", "in/皮.json")], 10485760⟩

theorem scan_mixedFolder : Catalogue.scan mixedFolder "in" none .all = .ok mixedCatalogue := by
  have hlocate : mixedFolder.locate "in" = .ok ["in"] := rfl
  rw [Catalogue.scan_of_inOrder hlocate rfl rfl (by decide +kernel)]
  rfl

/-- The conversion of these categories, with the records, the mappings and the sheets in this tree. -/
def mixedConversion : Conversion :=
  convert ⟨⟨"mapping"⟩, "data", .error, true, {}⟩ mixedCatalogue mixedFolder ⟨mixedFolder, .ofFolder "preset"⟩

/-- The theorem at this conversion, in which each of the three categories ends in another way. -/
theorem accounted_convert_mixed :
    Catalogue.scan mixedFolder "in" none .all = .ok mixedCatalogue ∧ mixedFolder.SlashFree ∧
      mixedConversion.Accounted ["反潜武器", "船体", "皮"] (outputPath ⟨⟨"mapping"⟩, "data", .error, true, {}⟩) ∧
      "data/皮.csv" ∉ mixedConversion.report.files ∧
      mixedConversion.report =
        { success := 1, failed := 1, files := ["data/船体.csv"]
          failures := [("皮", "매핑 파일을 찾을 수 없습니다 (皮): mapping/皮mapping.json")]
          unavailable := [("反潜武器", "데이터 없음")] } := by
  have hslash : mixedFolder.SlashFree := by decide +kernel
  obtain ⟨haccounted, hfile⟩ := accounted_convert ⟨⟨"mapping"⟩, "data", .error, true, {}⟩ scan_mixedFolder mixedFolder
    ⟨mixedFolder, .ofFolder "preset"⟩
  refine ⟨scan_mixedFolder, hslash, haccounted, ?_, by decide +kernel⟩
  intro hmem
  exact (hfile hslash "皮" (by decide +kernel)).1 hmem (by decide +kernel)

end Publisher

end RecordSheets
