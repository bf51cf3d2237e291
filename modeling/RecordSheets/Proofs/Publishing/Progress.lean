import RecordSheets.Proofs.Publishing.Batch
import RecordSheets.Proofs.Publishing.Counting
import RecordSheets.Proofs.Publishing.Exclusive

/-!
# Batches in progress

The categories of a batch may be published at the same time, and an observer is told of each outcome. An entry of the batch takes two
turns: it is published, and later the observer is told (`Progress.turn`); the turns of the entries may come in any order. When all are
through, the outcomes are collected in batch order for the report.

Whatever has been published so far was published one after the other, in the order in which the turns came (`Progress.Sound`); this is
what a turn keeps. So at the end the observer has had one call for each entry, and the report is the split of the batch by its outcomes
(`Publisher.reports_run`). The counts of a report are the lengths of its lists from the beginning, and adding to it keeps them so
(`Report.Balanced`).
-/

namespace RecordSheets

/-! ## Reports that count what they list -/

namespace Report

/-- A report whose counts are the lengths of its lists. -/
structure Balanced (r : Report) : Prop where
  /-- Files are successes. -/
  success : r.success = r.files.length
  /-- Failures are counted. -/
  failed : r.failed = r.failures.length
  /-- Categories with nothing to write are counted. -/
  empty : r.empty = r.emptyCategories.length

/-- Something that is added to a report. -/
inductive Note where
  /-- The outcome of a category. -/
  | outcome (category : String) (o : Outcome)
  /-- A category whose records could not be had. -/
  | unavailable (category reason : String)

/-- A report with something added. -/
def add (r : Report) : Note → Report
  | .outcome category o => r.record category o
  | .unavailable category reason => r.recordUnavailable category reason

/-- Recording an outcome keeps a report balanced. -/
theorem Balanced.record {r : Report} (h : r.Balanced) (category : String) (o : Outcome) : (r.record category o).Balanced := by
  obtain ⟨hsuccess, hfailed, hempty⟩ := h
  cases o <;> constructor <;> simp [Report.record, hsuccess, hfailed, hempty]

theorem Balanced.recordUnavailable {r : Report} (h : r.Balanced) (category reason : String) :
    (r.recordUnavailable category reason).Balanced :=
  ⟨h.success, h.failed, h.empty⟩

/-- A report stays balanced whatever is added to it. -/
theorem Balanced.foldl_add {r : Report} (h : r.Balanced) (notes : List Note) : (notes.foldl add r).Balanced := by
  induction notes generalizing r with
  | nil => exact h
  | cons note rest ih =>
    cases note with
    | outcome category o => exact ih (h.record category o)
    | unavailable category reason => exact ih (h.recordUnavailable category reason)

/-- Every outcome is counted once. -/
theorem total_foldl_record (xs : List (CategoryRecords × Outcome)) (r : Report) :
    (xs.foldl (fun r x => r.record x.1.category x.2) r).total = r.total + xs.length := by
  induction xs generalizing r with
  | nil => rfl
  | cons x rest ih =>
    obtain ⟨entry, o⟩ := x
    have hrecord : (r.record entry.category o).total = r.total + 1 := by
      cases o <;> simp only [record, total] <;> omega
    rw [List.foldl_cons, ih, hrecord, List.length_cons]
    omega

end Report

/-! ## Turns -/

/-- How far an entry of a batch has come. -/
inductive Stage where
  /-- It has not been published. -/
  | waiting
  /-- It was published, and the observer does not know yet. -/
  | known (o : Outcome)
  /-- The observer was told of its outcome. -/
  | told (o : Outcome)
  deriving DecidableEq, Repr

namespace Stage

/-- The outcome of an entry that was published. -/
def outcome? : Stage → Option Outcome
  | .waiting => none
  | .known o => some o
  | .told o => some o

/-- The outcome of which the observer was told. -/
def told? : Stage → Option Outcome
  | .told o => some o
  | _ => none

end Stage

/-- How far the publishing of a batch has come. -/
structure Progress where
  /-- The desk as it is now. -/
  desk : Desk
  /-- The entries in batch order, each with how far it has come. -/
  entries : List (CategoryRecords × Stage)
  /-- The calls that the observer has had: categories with their outcomes. -/
  calls : List (String × Outcome)

namespace Progress

def start (desk : Desk) (batch : List CategoryRecords) : Progress := ⟨desk, batch.map fun entry => (entry, .waiting), []⟩

/-- The entry at a position takes its next turn, if it has one left. -/
def turn (p : Publisher) (s : Progress) (i : Nat) : Progress :=
  match s.entries[i]? with
  | some (entry, .waiting) =>
    let result := p.publish s.desk entry.category entry.records
    { s with desk := result.2, entries := s.entries.set i (entry, .known result.1) }
  | some (entry, .known o) =>
    { s with entries := s.entries.set i (entry, .told o), calls := s.calls ++ [(entry.category, o)] }
  | _ => s

def run (p : Publisher) (s : Progress) (turns : List Nat) : Progress := turns.foldl (turn p) s

/-- The entries with the outcomes that they have at a look, in batch order. -/
def taken (look : Stage → Option Outcome) (entries : List (CategoryRecords × Stage)) : List (CategoryRecords × Outcome) :=
  entries.filterMap fun x => (look x.2).map fun o => (x.1, o)

/-- The outcomes so far, in batch order. -/
def outcomes (s : Progress) : List Outcome := (taken Stage.outcome? s.entries).map Prod.snd

/-- The observer was told of every entry. -/
def Complete (s : Progress) : Prop := ∀ x ∈ s.entries, x.2.told?.isSome

instance (s : Progress) : Decidable s.Complete := inferInstanceAs (Decidable (∀ x ∈ s.entries, x.2.told?.isSome))

/-- The report that is made of the outcomes. -/
def report (s : Progress) : Report := Report.ofBatch (s.entries.map Prod.fst) s.outcomes

variable (p : Publisher)

/-- What a turn does: nothing, or an entry that waits is published, or the observer is told of an entry that was. -/
inductive Turned (s : Progress) : Progress → Prop
  | idle : Turned s s
  | publish {before behind : List (CategoryRecords × Stage)} {entry : CategoryRecords} :
    s.entries = before ++ (entry, .waiting) :: behind →
    Turned s ⟨(p.publish s.desk entry.category entry.records).2,
      before ++ (entry, .known (p.publish s.desk entry.category entry.records).1) :: behind, s.calls⟩
  | tell {before behind : List (CategoryRecords × Stage)} {entry : CategoryRecords} {o : Outcome} :
    s.entries = before ++ (entry, .known o) :: behind →
    Turned s ⟨s.desk, before ++ (entry, .told o) :: behind, s.calls ++ [(entry.category, o)]⟩

/-- A turn does one of these things. -/
theorem turned_turn (s : Progress) (i : Nat) : Turned p s (s.turn p i) := by
  unfold turn
  split
  · rename_i entry hi
    obtain ⟨before, behind, hsplit, hset⟩ := exists_split_set hi (entry, .known (p.publish s.desk entry.category entry.records).1)
    dsimp only
    rw [hset]
    exact .publish hsplit
  · rename_i entry o hi
    obtain ⟨before, behind, hsplit, hset⟩ := exists_split_set hi (entry, .told o)
    rw [hset]
    exact .tell hsplit
  · exact .idle

/-! ## What every turn keeps -/

theorem taken_of_some {look : Stage → Option Outcome} {stage : Stage} {o : Outcome} (h : look stage = some o)
    (before behind : List (CategoryRecords × Stage)) (entry : CategoryRecords) :
    taken look (before ++ (entry, stage) :: behind) = taken look before ++ (entry, o) :: taken look behind := by
  simp [taken, h]

theorem taken_of_none {look : Stage → Option Outcome} {stage : Stage} (h : look stage = none)
    (before behind : List (CategoryRecords × Stage)) (entry : CategoryRecords) :
    taken look (before ++ (entry, stage) :: behind) = taken look before ++ taken look behind := by
  simp [taken, h]

/-- What comes last in time may stand anywhere in a list that is kept in another order. -/
theorem perm_insert {α : Type} {xs before behind : List α} (h : xs.Perm (before ++ behind)) (x : α) :
    (xs ++ [x]).Perm (before ++ x :: behind) :=
  (List.perm_append_singleton x xs).trans ((h.cons x).trans List.perm_middle.symm)

/-- What is so all the while a batch is published at a desk. -/
structure Sound (p : Publisher) (desk : Desk) (batch : List CategoryRecords) (s : Progress) : Prop where
  /-- The entries are those of the batch. -/
  entries : s.entries.map Prod.fst = batch
  /-- The observer has had one call for each entry that it was told of, with the outcome of the entry. -/
  calls : s.calls.Perm ((taken Stage.told? s.entries).map fun x => (x.1.category, x.2))
  /-- What was published was published one after the other, in some order. -/
  order : ∃ order : List (CategoryRecords × Outcome), order.Perm (taken Stage.outcome? s.entries) ∧
    p.publishAll desk (order.map Prod.fst) = (order.map Prod.snd, s.desk)

variable {p : Publisher} {desk : Desk} {batch : List CategoryRecords} {s : Progress}

/-- Before the first turn nothing was published, and the observer has had no call. -/
theorem sound_start (p : Publisher) (desk : Desk) (batch : List CategoryRecords) : Sound p desk batch (start desk batch) := by
  have hnone : ∀ look : Stage → Option Outcome, look .waiting = none → taken look (start desk batch).entries = [] := by
    intro look hlook
    simp [taken, start, hlook]
  constructor
  case entries => simp [start, Function.comp_def]
  case calls =>
    rw [hnone Stage.told? rfl]
    exact .nil
  case order =>
    rw [hnone Stage.outcome? rfl]
    exact ⟨[], .nil, rfl⟩

/-- A turn keeps this: an entry that is published comes last in the order, and a call comes last among the calls. -/
theorem Sound.turn (h : Sound p desk batch s) (i : Nat) : Sound p desk batch (s.turn p i) := by
  obtain ⟨hentries, hcalls, order, hperm, horder⟩ := h
  have hturned := turned_turn p s i
  generalize s.turn p i = next at hturned ⊢
  cases hturned with
  | idle => exact ⟨hentries, hcalls, order, hperm, horder⟩
  | @publish before behind entry hsplit =>
    rw [hsplit] at hentries hcalls hperm
    rw [taken_of_none rfl] at hcalls hperm
    refine ⟨?_, ?_, order ++ [(entry, (p.publish s.desk entry.category entry.records).1)], ?_, ?_⟩
    · simpa using hentries
    · rwa [taken_of_none rfl]
    · rw [taken_of_some rfl]
      exact perm_insert hperm _
    · rw [List.map_append, Publisher.publishAll_append, horder, List.map_append]
      rfl
  | @tell before behind entry o hsplit =>
    rw [hsplit] at hentries hcalls hperm
    rw [taken_of_none rfl] at hcalls
    refine ⟨?_, ?_, order, ?_, horder⟩
    · simpa using hentries
    · rw [taken_of_some rfl, List.map_append, List.map_cons]
      rw [List.map_append] at hcalls
      exact perm_insert hcalls _
    · rwa [taken_of_some rfl] at hperm ⊢

theorem Sound.run (h : Sound p desk batch s) (turns : List Nat) : Sound p desk batch (s.run p turns) := by
  induction turns generalizing s with
  | nil => exact h
  | cons i rest ih => exact ih (h.turn i)

/-! ## When all are through -/

/-- If all entries have an outcome at a look, all are taken. -/
theorem map_fst_taken {look : Stage → Option Outcome} {entries : List (CategoryRecords × Stage)}
    (h : ∀ x ∈ entries, (look x.2).isSome) : (taken look entries).map Prod.fst = entries.map Prod.fst := by
  induction entries with
  | nil => rfl
  | cons x rest ih =>
    obtain ⟨o, ho⟩ := Option.isSome_iff_exists.1 (h x List.mem_cons_self)
    have hx : taken look (x :: rest) = (x.1, o) :: taken look rest := taken_of_some ho [] rest x.1
    rw [hx, List.map_cons, List.map_cons, ih fun y hy => h y (List.mem_cons_of_mem _ hy)]

/-- The observer is told of outcomes only. -/
theorem outcome_of_told {stage : Stage} (h : stage.told?.isSome) : stage.outcome? = stage.told? ∧ stage.outcome?.isSome := by
  cases stage with
  | waiting => simp [Stage.told?] at h
  | known o => simp [Stage.told?] at h
  | told o => exact ⟨rfl, rfl⟩

/-- When the observer was told of every entry, it was told of all outcomes that there are. -/
theorem Complete.taken_told (h : s.Complete) : taken Stage.told? s.entries = taken Stage.outcome? s.entries :=
  List.filterMap_congr fun x hx => by rw [(outcome_of_told (h x hx)).1]

theorem Complete.map_fst (h : s.Complete) : (taken Stage.outcome? s.entries).map Prod.fst = s.entries.map Prod.fst :=
  map_fst_taken fun x hx => (outcome_of_told (h x hx)).2

/-- What holds when a batch was published at a desk and the observer was told of every entry. -/
structure Reported (p : Publisher) (desk : Desk) (batch : List CategoryRecords) (s : Progress) : Prop where
  /-- Each entry has an outcome. -/
  length : s.outcomes.length = batch.length
  /-- In some order, the entries were published one after the other, each with its outcome. -/
  order : ∃ order : List (CategoryRecords × Outcome), order.Perm (batch.zip s.outcomes) ∧
    p.publishAll desk (order.map Prod.fst) = (order.map Prod.snd, s.desk)
  /-- The observer has had one call for each entry, with the outcome of the entry. -/
  calls : s.calls.Perm ((batch.zip s.outcomes).map fun x => (x.1.category, x.2))
  /-- The files of the report are those that were written, in batch order. -/
  files : s.report.files = (batch.zip s.outcomes).filterMap fun x => x.2.path?
  /-- Its failures are the categories that failed, with the reasons, in batch order. -/
  failures : s.report.failures = Report.failuresOf (batch.zip s.outcomes)
  /-- Its empty categories are those with nothing to write, in batch order. -/
  emptyCategories : s.report.emptyCategories = Report.emptiesOf (batch.zip s.outcomes)
  /-- No category is without records. -/
  unavailable : s.report.unavailable = []
  /-- It counts what it lists. -/
  balanced : s.report.Balanced
  /-- It counts every entry. -/
  total : s.report.total = batch.length

/-- When the observer was told of every entry, the report tells of every entry too. -/
theorem Sound.reported (h : Sound p desk batch s) (hcomplete : s.Complete) : Reported p desk batch s := by
  obtain ⟨hentries, hcalls, order, hperm, horder⟩ := h
  have hfst : (taken Stage.outcome? s.entries).map Prod.fst = batch := hcomplete.map_fst.trans hentries
  have hzip : taken Stage.outcome? s.entries = batch.zip s.outcomes := List.zip_of_prod hfst rfl
  have hlength : s.outcomes.length = batch.length := by
    rw [outcomes, List.length_map, ← List.length_map Prod.fst, hfst]
  have hreport : s.report = Report.ofBatch batch s.outcomes := by rw [report, hentries]
  have hsplit := Report.ofBatch_eq batch s.outcomes
  constructor
  case length => exact hlength
  case order => exact ⟨order, hzip ▸ hperm, horder⟩
  case calls => rwa [hcomplete.taken_told, hzip] at hcalls
  case files => rw [hreport, hsplit]
  case failures => rw [hreport, hsplit]
  case emptyCategories => rw [hreport, hsplit]
  case unavailable => rw [hreport, hsplit]
  case balanced =>
    rw [hreport, hsplit]
    exact ⟨rfl, rfl, rfl⟩
  case total =>
    have htotal : (Report.ofBatch batch s.outcomes).total = 0 + (batch.zip s.outcomes).length :=
      Report.total_foldl_record (batch.zip s.outcomes) {}
    rw [hreport, htotal, List.length_zip, hlength, Nat.min_self, Nat.zero_add]

/-! ## Entry by entry -/

/-- The turns that take the entries from one position on to another one by one, each through. -/
def inOrder (start count : Nat) : List Nat := (List.range' start count).flatMap fun i => [i, i]

/-- Both turns of an entry, one right after the other. -/
theorem turn_turn (desk : Desk) (before behind : List (CategoryRecords × Stage)) (entry : CategoryRecords)
    (calls : List (String × Outcome)) :
    let result := p.publish desk entry.category entry.records
    ((⟨desk, before ++ (entry, .waiting) :: behind, calls⟩ : Progress).turn p before.length).turn p before.length =
      ⟨result.2, before ++ (entry, .told result.1) :: behind, calls ++ [(entry.category, result.1)]⟩ := by
  simp [turn]

/-- Taking the entries that wait one by one is publishing them one after the other. -/
theorem run_inOrder (desk : Desk) (done : List (CategoryRecords × Stage)) (waiting : List CategoryRecords)
    (calls : List (String × Outcome)) :
    let result := p.publishAll desk waiting
    (⟨desk, done ++ waiting.map fun entry => (entry, .waiting), calls⟩ : Progress).run p (inOrder done.length waiting.length) =
      ⟨result.2, done ++ (waiting.zip result.1).map fun x => (x.1, .told x.2),
        calls ++ (waiting.zip result.1).map fun x => (x.1.category, x.2)⟩ := by
  induction waiting generalizing desk done calls with
  | nil => simp [inOrder, run, Publisher.publishAll]
  | cons entry rest ih =>
    have hturns : inOrder done.length (rest.length + 1) = done.length :: done.length :: inOrder (done.length + 1) rest.length := by
      rw [inOrder, List.range'_succ, List.flatMap_cons]
      rfl
    have hrest := ih (p.publish desk entry.category entry.records).2
      (done ++ [(entry, .told (p.publish desk entry.category entry.records).1)])
      (calls ++ [(entry.category, (p.publish desk entry.category entry.records).1)])
    simp only [List.length_append, List.length_singleton, List.append_assoc, List.singleton_append] at hrest
    dsimp only
    rw [List.length_cons, hturns, List.map_cons, run, List.foldl_cons, List.foldl_cons, turn_turn]
    rw [Publisher.publishAll_cons]
    exact hrest

/-- When the observer was told of all outcomes, these are taken. -/
theorem taken_told_all (xs : List (CategoryRecords × Outcome)) :
    taken Stage.outcome? (xs.map fun x => (x.1, .told x.2)) = xs := by
  induction xs with
  | nil => rfl
  | cons x rest ih =>
    have hx : taken Stage.outcome? ((x :: rest).map fun x => (x.1, .told x.2)) =
        x :: taken Stage.outcome? (rest.map fun x => (x.1, .told x.2)) := rfl
    rw [hx, ih]

/-- Taken one by one, all entries of a batch get through, and their outcomes are those of publishing them one after the other. -/
theorem exists_complete (p : Publisher) (desk : Desk) (batch : List CategoryRecords) :
    ∃ turns, ((start desk batch).run p turns).Complete ∧
      ((start desk batch).run p turns).outcomes = (p.publishAll desk batch).1 ∧
      ((start desk batch).run p turns).desk = (p.publishAll desk batch).2 := by
  have hrun : (start desk batch).run p (inOrder 0 batch.length) = _ := run_inOrder (p := p) desk [] batch []
  refine ⟨inOrder 0 batch.length, ?_, ?_, ?_⟩
  · intro x hx
    rw [hrun, List.nil_append] at hx
    obtain ⟨y, -, rfl⟩ := List.mem_map.1 hx
    rfl
  · rw [hrun, outcomes, List.nil_append, taken_told_all]
    exact List.map_snd_zip (Nat.le_of_eq (Publisher.length_publishAll p desk batch))
  · rw [hrun]

end Progress

/-- The entries of a batch can get through, with the outcomes of publishing them one after the other. However their turns come, when
all are through the observer has had one call for each entry, with its outcome, and the report splits the batch by the outcomes, in
batch order, and counts every entry. A report counts what it lists whatever is added to it later, and a category without records is
never among those that it counts. -/
theorem Publisher.reports_run (p : Publisher) (desk : Desk) (batch : List CategoryRecords) :
    (∃ turns, ((Progress.start desk batch).run p turns).Complete ∧
      ((Progress.start desk batch).run p turns).outcomes = (p.publishAll desk batch).1 ∧
      ((Progress.start desk batch).run p turns).desk = (p.publishAll desk batch).2) ∧
    (∀ turns, ((Progress.start desk batch).run p turns).Complete →
      Progress.Reported p desk batch ((Progress.start desk batch).run p turns)) ∧
    (∀ (r : Report) (notes : List Report.Note), r.Balanced → (notes.foldl Report.add r).Balanced) ∧
    ∀ (r : Report) (category reason : String), (r.recordUnavailable category reason).total = r.total := by
  refine ⟨Progress.exists_complete p desk batch, ?_, ?_, ?_⟩
  · exact fun turns hcomplete => ((Progress.sound_start p desk batch).run turns).reported hcomplete
  · exact fun r notes h => h.foldl_add notes
  · exact fun r category reason => rfl

namespace Publisher

/-- A batch that holds one category twice with records and once without, and another one that has no mapping. -/
def crossed : List CategoryRecords :=
  [⟨"船", [.obj [("n", .int 3)]]⟩, ⟨"皮", [.null]⟩, ⟨"船", [.obj [("n", .int 4)]]⟩, ⟨"船", []⟩]

/-- The batch when its entries have taken these turns, the third one first. -/
def crossedRun : Progress := (Progress.start oneMappingDesk crossed).run careful [2, 0, 1, 0, 3, 2, 3, 1]

/-- The theorem at this run, in which a later entry writes the file and an earlier one of the same category is refused. -/
theorem reports_run_crossed :
    crossedRun.Complete ∧ Progress.Reported careful oneMappingDesk crossed crossedRun ∧
      crossedRun.report =
        { success := 1
          failed := 2
          empty := 1
          files := ["data/船.csv"]
          failures := [("船", "출력 파일이 이미 존재합니다: data/船.csv"),
            ("皮", "매핑 파일을 찾을 수 없습니다 (皮): mapping/皮mapping.json")]
          emptyCategories := ["船"] } ∧
      crossedRun.report.total = 4 ∧ (crossedRun.report.recordUnavailable "炮" "x").Balanced := by
  have hcomplete : crossedRun.Complete := by decide +kernel
  obtain ⟨-, hreported, hkept, -⟩ := reports_run careful oneMappingDesk crossed
  have h := hreported _ hcomplete
  exact ⟨hcomplete, h, by decide +kernel, h.total, hkept _ [.unavailable "炮" "x"] h.balanced⟩

end Publisher

end RecordSheets
