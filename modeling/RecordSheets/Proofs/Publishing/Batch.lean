import Mathlib.Data.List.Perm.Basic
import RecordSheets.Proofs.Publishing.Isolation

/-!
# Batches of different categories

A batch whose categories differ publishes each of them as if it were alone, in every order. The outcomes come by induction on the
batch, since no category sees another one. The files come by induction on the reordering: two neighbours change places
(`publish_comm`), and what follows goes alike on desks that are the same (`publishAll_same`). What any batch may write, of whatever
categories, is put together from what its entries may write (`writesOnly_publishAll`).
-/

namespace RecordSheets

namespace Publisher

variable (p : Publisher)

/-! ## One category after another -/

/-- Desks that are the same are so after a category was published. -/
theorem publish_same {category : String} (hc : '/' ∉ category.toList) {desk desk' : Desk} (h : Desk.Same desk desk')
    (records : List Json) :
    Desk.Same (p.publish desk category records).2 (p.publish desk' category records).2 := by
  have hsees := p.sees_of_same h category
  constructor
  · rw [p.tree_publish hc, p.tree_publish hc, hsees.deposit]
    cases hdeposit : p.deposit desk category records with
    | none => exact h.tree
    | some x => exact (p.sheetPlace_of_deposit hc hdeposit).free.put_same h.tree x.2
  · rw [p.presets_publish, p.presets_publish, hsees.draft, h.ready]
    cases p.draft desk category records with
    | ok there => rfl
    | error e => exact h.presets

/-- The presets that are wanted after a category was published are those that were wanted before. -/
theorem ready_publish {category : String} (hc : '/' ∉ category.toList) (desk : Desk) (records : List Json) :
    (p.publish desk category records).2.ready.presets = desk.ready.presets := by
  rw [Desk.ready, Desk.ready, p.get_publish hc]

/-- Two categories can be published in either order. -/
theorem publish_comm {category other : String} (hc : '/' ∉ category.toList) (ho : '/' ∉ other.toList)
    (hne : category ≠ other) (desk : Desk) (records records' : List Json) :
    Desk.Same (p.publish (p.publish desk category records).2 other records').2
      (p.publish (p.publish desk other records').2 category records).2 := by
  have hother := p.sees_publish hc ho hne desk records
  have hcategory := p.sees_publish ho hc hne.symm desk records'
  constructor
  · rw [p.tree_publish ho (p.publish desk category records).2, p.tree_publish hc (p.publish desk other records').2,
      hother.deposit, hcategory.deposit, p.tree_publish hc desk, p.tree_publish ho desk]
    cases hdeposit : p.deposit desk category records with
    | none => exact .refl _
    | some x =>
      cases hdeposit' : p.deposit desk other records' with
      | none => exact .refl _
      | some y =>
        have hq := p.sheetPlace_of_deposit hc hdeposit
        have hr := p.sheetPlace_of_deposit ho hdeposit'
        refine hq.free.put_comm hr.free ?_ x.2 y.2
        obtain ⟨d, -, -, hd⟩ := hq.sheets
        obtain ⟨d', -, -, hd'⟩ := hr.sheets
        rw [hd, hd']
        exact FileTree.place_ne (sheetName_ne hne) d d'
  · rw [p.presets_publish (p.publish desk category records).2, p.presets_publish (p.publish desk other records').2,
      hother.draft, hcategory.draft, p.ready_publish hc, p.ready_publish ho, p.presets_publish desk category,
      p.presets_publish desk other]
    cases p.draft desk category records <;> cases p.draft desk other records' <;> rfl

/-! ## Whole batches -/

theorem publishAll_cons (desk : Desk) (entry : CategoryRecords) (rest : List CategoryRecords) :
    p.publishAll desk (entry :: rest) =
      ((p.publish desk entry.category entry.records).1 ::
          (p.publishAll (p.publish desk entry.category entry.records).2 rest).1,
        (p.publishAll (p.publish desk entry.category entry.records).2 rest).2) := by
  simp only [publishAll]

theorem publishAll_append (desk : Desk) (before behind : List CategoryRecords) :
    p.publishAll desk (before ++ behind) =
      ((p.publishAll desk before).1 ++ (p.publishAll (p.publishAll desk before).2 behind).1,
        (p.publishAll (p.publishAll desk before).2 behind).2) := by
  induction before generalizing desk with
  | nil => rfl
  | cons entry rest ih => rw [List.cons_append, publishAll_cons, publishAll_cons, ih, List.cons_append]

theorem length_publishAll (desk : Desk) (batch : List CategoryRecords) :
    (p.publishAll desk batch).1.length = batch.length := by
  induction batch generalizing desk with
  | nil => rfl
  | cons entry rest ih => rw [publishAll_cons, List.length_cons, List.length_cons, ih]

/-- Publishing a batch writes at most files by the paths of its sheets. -/
theorem writesOnly_publishAll (desk : Desk) (batch : List CategoryRecords) :
    FileTree.WritesOnly (fun path => ∃ entry ∈ batch, path = p.outputPath entry.category) desk.tree
      (p.publishAll desk batch).2.tree := by
  induction batch generalizing desk with
  | nil => exact .refl _ _
  | cons entry rest ih =>
    rw [publishAll_cons]
    refine .trans ?_ ((ih _).mono ?_)
    · refine (p.writesOnly_publish desk entry.category entry.records).mono ?_
      rintro path rfl
      exact ⟨entry, List.mem_cons_self, rfl⟩
    · rintro path ⟨other, hother, rfl⟩
      exact ⟨other, List.mem_cons_of_mem _ hother, rfl⟩

theorem publishAll_same {batch : List CategoryRecords} (hnames : ∀ entry ∈ batch, '/' ∉ entry.category.toList)
    {desk desk' : Desk} (h : Desk.Same desk desk') :
    Desk.Same (p.publishAll desk batch).2 (p.publishAll desk' batch).2 := by
  induction batch generalizing desk desk' with
  | nil => exact h
  | cons entry rest ih =>
    rw [List.forall_mem_cons] at hnames
    rw [publishAll_cons, publishAll_cons]
    exact ih hnames.2 (p.publish_same hnames.1 h entry.records)

/-- Each category of a batch has the outcome that it has alone. -/
theorem outcomes_publishAll {batch : List CategoryRecords} (hnames : ∀ entry ∈ batch, '/' ∉ entry.category.toList)
    (hdistinct : (batch.map CategoryRecords.category).Nodup) (desk : Desk) :
    (p.publishAll desk batch).1 = batch.map fun entry => (p.publish desk entry.category entry.records).1 := by
  induction batch generalizing desk with
  | nil => rfl
  | cons entry rest ih =>
    rw [List.forall_mem_cons] at hnames
    rw [List.map_cons, List.nodup_cons] at hdistinct
    rw [publishAll_cons, List.map_cons, ih hnames.2 hdistinct.2]
    refine congrArg (List.cons _) (List.map_congr_left fun other hother => ?_)
    have hne : entry.category ≠ other.category := by
      intro heq
      exact hdistinct.1 (heq ▸ List.mem_map_of_mem hother)
    exact (p.sees_publish hnames.1 (hnames.2 other hother) hne desk entry.records).outcome (hnames.2 other hother) _

/-- The files after a batch do not depend on its order. -/
theorem desk_publishAll_perm {batch other : List CategoryRecords}
    (hnames : ∀ entry ∈ batch, '/' ∉ entry.category.toList) (hdistinct : (batch.map CategoryRecords.category).Nodup)
    (hperm : other.Perm batch) (desk : Desk) :
    Desk.Same (p.publishAll desk other).2 (p.publishAll desk batch).2 := by
  induction hperm generalizing desk with
  | nil => exact .refl desk
  | cons entry hperm ih =>
    rw [List.forall_mem_cons] at hnames
    rw [List.map_cons, List.nodup_cons] at hdistinct
    rw [publishAll_cons, publishAll_cons]
    exact ih hnames.2 hdistinct.2 _
  | swap first second rest =>
    rw [List.forall_mem_cons, List.forall_mem_cons] at hnames
    obtain ⟨hfirst, hsecond, hrest⟩ := hnames
    have hne : second.category ≠ first.category := by
      intro heq
      rw [List.map_cons, List.map_cons, heq, List.nodup_cons] at hdistinct
      exact hdistinct.1 List.mem_cons_self
    simp only [publishAll_cons]
    exact p.publishAll_same hrest (p.publish_comm hsecond hfirst hne desk second.records first.records)
  | trans hleft hright ihleft ihright =>
    have hnames' := fun entry hentry => hnames entry (hright.mem_iff.1 hentry)
    have hdistinct' := (hright.map CategoryRecords.category).nodup_iff.2 hdistinct
    exact (ihleft hnames' hdistinct' desk).trans (ihright hnames hdistinct desk)

/-- A batch leaves the sheet of a category that it does not hold as it was. -/
theorem find_outputPath_publishAll {batch : List CategoryRecords} (hnames : ∀ entry ∈ batch, '/' ∉ entry.category.toList)
    {category : String} (hc : '/' ∉ category.toList) (hnot : category ∉ batch.map CategoryRecords.category) (desk : Desk) :
    (p.publishAll desk batch).2.tree.find (p.outputPath category) = desk.tree.find (p.outputPath category) := by
  induction batch generalizing desk with
  | nil => rfl
  | cons entry rest ih =>
    rw [List.forall_mem_cons] at hnames
    rw [List.map_cons, List.mem_cons, not_or] at hnot
    rw [publishAll_cons]
    calc (p.publishAll (p.publish desk entry.category entry.records).2 rest).2.tree.find (p.outputPath category)
        = (p.publish desk entry.category entry.records).2.tree.find (p.outputPath category) := ih hnames.2 hnot.2 _
      _ = desk.tree.find (p.outputPath category) :=
          p.find_outputPath_publish hnames.1 hc (Ne.symm hnot.1) desk entry.records

/-- The sheet of each category of a batch is the one that it has alone. -/
theorem sheet_publishAll {batch : List CategoryRecords} (hnames : ∀ entry ∈ batch, '/' ∉ entry.category.toList)
    (hdistinct : (batch.map CategoryRecords.category).Nodup) (desk : Desk) {entry : CategoryRecords} (hmem : entry ∈ batch) :
    (p.publishAll desk batch).2.tree.find (p.outputPath entry.category) =
      (p.publish desk entry.category entry.records).2.tree.find (p.outputPath entry.category) := by
  -- The order does not matter, so the entry may be taken to come first.
  obtain ⟨before, behind, rfl⟩ := List.append_of_mem hmem
  have hperm : (before ++ entry :: behind).Perm (entry :: (before ++ behind)) := List.perm_middle
  have hnames' : ∀ e ∈ entry :: (before ++ behind), '/' ∉ e.category.toList :=
    fun e he => hnames e (hperm.mem_iff.2 he)
  have hdistinct' := (hperm.map CategoryRecords.category).nodup_iff.1 hdistinct
  rw [(p.desk_publishAll_perm hnames' hdistinct' hperm desk).tree.find, publishAll_cons]
  rw [List.forall_mem_cons] at hnames'
  rw [List.map_cons, List.nodup_cons] at hdistinct'
  exact p.find_outputPath_publishAll hnames'.2 hnames'.1 hdistinct'.1 _

/-- The categories of a batch, which differ and hold no slash, are published as if each were alone, in every order: each has the
outcome and the sheet that publishing it alone gives, and the files at the end are the same for all orders. -/
theorem publishAll_isolated (desk : Desk) {batch other : List CategoryRecords}
    (hnames : ∀ entry ∈ batch, '/' ∉ entry.category.toList) (hdistinct : (batch.map CategoryRecords.category).Nodup)
    (hperm : other.Perm batch) :
    (p.publishAll desk other).1 = other.map (fun entry => (p.publish desk entry.category entry.records).1) ∧
      (∀ entry ∈ other, (p.publishAll desk other).2.tree.find (p.outputPath entry.category) =
        (p.publish desk entry.category entry.records).2.tree.find (p.outputPath entry.category)) ∧
      Desk.Same (p.publishAll desk other).2 (p.publishAll desk batch).2 := by
  have hnames' : ∀ entry ∈ other, '/' ∉ entry.category.toList := fun entry h => hnames entry (hperm.mem_iff.1 h)
  have hdistinct' := (hperm.map CategoryRecords.category).nodup_iff.2 hdistinct
  exact ⟨p.outcomes_publishAll hnames' hdistinct' desk, fun entry h => p.sheet_publishAll hnames' hdistinct' desk h,
    p.desk_publishAll_perm hnames hdistinct hperm desk⟩

/-- A tree with a folder for sheets and the mapping of one category. -/
def oneMapping : FileTree :=
  ⟨[("mapping", .folder [("船" ++ Mapping.fileEnding, .file (Utf8.encode "\x7b\"n\":\".n\"\x7d"))]), ("data", .folder [])], []⟩

/-- A batch of the category with a mapping and one without. -/
def oneMapped : List CategoryRecords := [⟨"船", [.obj [("n", .int 3)]]⟩, ⟨"皮", [.null]⟩]

/-- The theorem at a batch with a category that fails, which is published before the other here. -/
theorem publishAll_isolated_oneMapped :
    (∀ entry ∈ oneMapped, '/' ∉ entry.category.toList) ∧ (oneMapped.map CategoryRecords.category).Nodup ∧
      oneMapped.reverse.Perm oneMapped ∧
      (publishAll ⟨⟨"mapping"⟩, "data", .error, true, {}⟩ ⟨oneMapping, .ofFolder "preset"⟩ oneMapped.reverse).1 =
        [.failed "매핑 파일을 찾을 수 없습니다 (皮): mapping/皮mapping.json", .written "data/船.csv" 1 7] := by
  have hnames : ∀ entry ∈ oneMapped, '/' ∉ entry.category.toList := by decide
  have hdistinct : (oneMapped.map CategoryRecords.category).Nodup := by decide
  have hperm : oneMapped.reverse.Perm oneMapped := List.reverse_perm _
  refine ⟨hnames, hdistinct, hperm, ?_⟩
  rw [(publishAll_isolated ⟨⟨"mapping"⟩, "data", .error, true, {}⟩ ⟨oneMapping, .ofFolder "preset"⟩ hnames hdistinct
    hperm).1]
  decide +kernel

end Publisher

end RecordSheets
