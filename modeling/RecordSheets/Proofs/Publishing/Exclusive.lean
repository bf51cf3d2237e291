import RecordSheets.Proofs.Files.Growth
import RecordSheets.Proofs.Publishing.Batch
import RecordSheets.Proofs.Publishing.Counting
import RecordSheets.Proofs.Sheet.Columns

/-!
# Publishing without overwriting

In the mode that refuses to overwrite, a sheet is put only where nothing is. So the tree grows with every category
(`Publisher.grows_publish`), and no file changes that was there before. A batch may hold a category several times. Which of its
entries come first is up to the order; the first one that has a sheet to put takes the place, and the others are refused from then on.

The step lemma is `Publisher.deposit_publish`: publishing an entry changes what the others put in no way but one, that those of its
own category put nothing any more if it has put its sheet. By induction on the order, one entry of a category is written and the
others are refused (`Publisher.wonBy_publishAll`), and the categories that are written are the same for all orders
(`Publisher.writtenCategories_perm`).
-/

namespace RecordSheets

/-- Nothing is at a path, and a file can be made there. -/
def FileTree.Creatable (t : FileTree) (path : String) : Prop := ∃ made, t.writeNew path [] = .ok made

namespace Publisher

/-! ## One entry -/

/-- Where a file can be made, the sheet of the path may be put. -/
theorem landing_of_creatable {t : FileTree} {dir name : String} (hname : Path.Plain name)
    (h : t.Creatable (Path.join dir name)) : ∃ q, landing .error t dir name = .ok q := by
  obtain ⟨made, hmade⟩ := h
  have hsave : save .error t (Path.join dir name) [] = .ok made := by
    simp only [save, hmade]
  rw [save_eq, spot_join hname] at hsave
  cases hlanding : landing .error t dir name with
  | error e => simp [hlanding] at hsave
  | ok q => exact ⟨q, rfl⟩

variable (p : Publisher)

theorem deposit_nil (desk : Desk) (category : String) : p.deposit desk category [] = none := by
  unfold deposit
  cases hload : p.mappings.load desk.tree category with
  | error e =>
    have hdraft : p.draft desk category [] = .error e := by
      unfold draft
      simp only [hload]
    rw [hdraft]
  | ok mapping => rw [p.draft_of_load hload, if_pos rfl]

/-- A file is put if there is something to write and a place for it. -/
theorem deposit_eq_some_iff {desk : Desk} {category : String} {records : List Json} {q : Place} {content : Bytes} :
    p.deposit desk category records = some (q, content) ↔
      (∃ rows, p.draft desk category records = .ok (some (rows, content))) ∧
        landing p.mode desk.tree p.outputDir (sheetName category) = .ok q := by
  unfold deposit
  rcases p.draft desk category records with e | _ | ⟨rows, there⟩
  · simp
  · simp
  · cases landing p.mode desk.tree p.outputDir (sheetName category) <;> simp [and_comm]

/-- An entry is written if and only if it puts a file. -/
theorem isWritten_publish {category : String} (hc : '/' ∉ category.toList) (desk : Desk) (records : List Json) :
    (p.publish desk category records).1.isWritten = (p.deposit desk category records).isSome := by
  rw [p.publish_eq hc]
  unfold deposit
  rcases p.draft desk category records with e | _ | ⟨rows, content⟩
  · rfl
  · rfl
  · cases landing p.mode desk.tree p.outputDir (sheetName category) <;> rfl

/-- The place of a file that was put holds it, and is still the place of the category's sheet. -/
theorem target_publish {category : String} (hc : '/' ∉ category.toList) {desk : Desk} {records : List Json} {q : Place}
    {content : Bytes} (h : p.deposit desk category records = some (q, content)) :
    (p.publish desk category records).2.tree.target p.outputDir (sheetName category) = .ok q ∧
      (p.publish desk category records).2.tree.look? q = some (.file content) := by
  have hplace := p.sheetPlace_of_deposit hc h
  have htree := p.tree_publish hc desk records
  rw [h] at htree
  obtain ⟨d, hd, hfolder, -⟩ := hplace.sheets
  have htarget := (landing_eq_ok_iff.1 (p.deposit_eq_some_iff.1 h).2).1
  rw [htree]
  constructor
  · rw [← (hplace.free.keepsFolders content).target hd hfolder, htarget]
  · rw [hplace.free.look?_put, if_pos rfl]

/-- The file of a category has the content that was put. -/
theorem read_publish {category : String} (hc : '/' ∉ category.toList) {desk : Desk} {records : List Json} {q : Place}
    {content : Bytes} (h : p.deposit desk category records = some (q, content)) :
    (p.publish desk category records).2.tree.read (p.outputPath category) = .ok content := by
  obtain ⟨htarget, hlook⟩ := p.target_publish hc h
  have hfind : (p.publish desk category records).2.tree.find (p.outputPath category) = .ok (.file content) := by
    rw [outputPath, ← sheetName, FileTree.find_join (plain_sheetName hc), htarget]
    simp only [Except.bind, FileTree.entryAt, hlook]
  rw [FileTree.read, hfind]
  rfl

/-- An entry that leaves the tree as it is changes nothing that any category sees. -/
theorem sees_publish_of_tree {category : String} (hc : '/' ∉ category.toList) {desk : Desk} {records : List Json}
    (htree : (p.publish desk category records).2.tree = desk.tree) (other : String) :
    p.Sees other desk (p.publish desk category records).2 := by
  refine ⟨fun records' => p.draft_congr ?_ ?_ records', ?_⟩
  · rw [htree]
  · rw [p.get_publish hc]
  · rw [htree]

/-- An entry that puts no file changes nothing that any category sees. -/
theorem sees_publish_of_deposit_eq_none {category : String} (hc : '/' ∉ category.toList) {desk : Desk} {records : List Json}
    (h : p.deposit desk category records = none) (other : String) :
    p.Sees other desk (p.publish desk category records).2 := by
  refine p.sees_publish_of_tree hc ?_ other
  rw [p.tree_publish hc, h]

/-! ## Whole batches -/

/-- The outcome of an entry is the one that publishing it gives at the desk after the entries before it. -/
theorem getElem?_publishAll (desk : Desk) (order : List CategoryRecords) (i : Nat) :
    (p.publishAll desk order).1[i]? =
      order[i]?.map fun entry => (p.publish (p.publishAll desk (order.take i)).2 entry.category entry.records).1 := by
  induction order generalizing desk i with
  | nil => rfl
  | cons entry rest ih =>
    rw [publishAll_cons]
    cases i with
    | zero => rfl
    | succ i =>
      rw [List.getElem?_cons_succ, List.getElem?_cons_succ, ih, List.take_succ_cons, publishAll_cons]

/-- What there is to write does not change when a batch is published. -/
theorem draft_publishAll {order : List CategoryRecords} (hnames : ∀ entry ∈ order, '/' ∉ entry.category.toList)
    {category : String} (hc : '/' ∉ category.toList) (desk : Desk) (records : List Json) :
    p.draft (p.publishAll desk order).2 category records = p.draft desk category records := by
  induction order generalizing desk with
  | nil => rfl
  | cons entry rest ih =>
    rw [List.forall_mem_cons] at hnames
    rw [publishAll_cons, ih hnames.2, p.draft_publish hnames.1 hc]

/-- A batch that holds a category with no records only changes nothing that the category sees. -/
theorem sees_publishAll {order : List CategoryRecords} (hnames : ∀ entry ∈ order, '/' ∉ entry.category.toList)
    {category : String} (hc : '/' ∉ category.toList)
    (hnone : ∀ entry ∈ order, entry.category = category → entry.records = []) (desk : Desk) :
    p.Sees category desk (p.publishAll desk order).2 := by
  induction order generalizing desk with
  | nil => exact .refl category desk
  | cons entry rest ih =>
    rw [List.forall_mem_cons] at hnames hnone
    rw [publishAll_cons]
    refine Sees.trans ?_ (ih hnames.2 hnone.2 _)
    by_cases hsame : entry.category = category
    · have hdeposit : p.deposit desk entry.category entry.records = none := by
        rw [hnone.1 hsame]
        exact p.deposit_nil desk entry.category
      exact p.sees_publish_of_deposit_eq_none hnames.1 hdeposit category
    · exact p.sees_publish hnames.1 hc hsame desk entry.records

/-! ## Without overwriting -/

section

variable {p} (hmode : p.mode = .error)
include hmode

theorem grows_publish (desk : Desk) (category : String) (records : List Json) :
    desk.tree.Grows (p.publish desk category records).2.tree := by
  rcases p.tree_publish_spot desk category records with htree | ⟨q, content, hspot, htree⟩
  · rw [htree]
    exact .refl _
  · rw [hmode] at hspot
    obtain ⟨hslot, hnone⟩ := FileTree.slot_of_newSlot hspot
    rw [htree]
    exact (FileTree.free_of_slot hslot).grows hnone content

/-- An entry that puts a file takes the place of its category's sheet. -/
theorem landing_publish_self {category : String} (hc : '/' ∉ category.toList) {desk : Desk} {records : List Json}
    (h : (p.deposit desk category records).isSome = true) :
    landing p.mode (p.publish desk category records).2.tree p.outputDir (sheetName category) = .error .alreadyThere := by
  obtain ⟨⟨q, content⟩, hdeposit⟩ := Option.isSome_iff_exists.1 h
  obtain ⟨htarget, hlook⟩ := p.target_publish hc hdeposit
  unfold landing
  rw [htarget, hmode]
  simp [Except.bind, hlook]

/-- A place that is taken stays taken. -/
theorem landing_publish_of_taken {category other : String} (hc : '/' ∉ category.toList) {desk : Desk}
    (h : landing p.mode desk.tree p.outputDir (sheetName other) = .error .alreadyThere) (records : List Json) :
    landing p.mode (p.publish desk category records).2.tree p.outputDir (sheetName other) = .error .alreadyThere := by
  by_cases hsame : category = other
  · cases hdeposit : p.deposit desk category records with
    | none => rw [(p.sees_publish_of_deposit_eq_none hc hdeposit other).landing, h]
    | some x =>
      rw [← hsame]
      exact landing_publish_self hmode hc (by rw [hdeposit, Option.isSome_some])
  · rw [p.landing_publish hc hsame, h]

/-- Publishing an entry leaves the files that the other entries put, unless it puts one and they are of its own category: then
they put none. -/
theorem deposit_publish {category other : String} (hc : '/' ∉ category.toList) (ho : '/' ∉ other.toList) (desk : Desk)
    (records records' : List Json) :
    p.deposit (p.publish desk category records).2 other records' =
      if category = other ∧ (p.deposit desk category records).isSome then none else p.deposit desk other records' := by
  by_cases hsome : (p.deposit desk category records).isSome = true
  · by_cases hsame : category = other
    · subst hsame
      rw [if_pos ⟨rfl, hsome⟩]
      unfold deposit
      rw [landing_publish_self hmode hc hsome]
      rcases p.draft (p.publish desk category records).2 category records' with e | _ | there <;> rfl
    · rw [if_neg fun h => hsame h.1]
      exact (p.sees_publish hc ho hsame desk records).deposit records'
  · rw [if_neg fun h => hsome h.2]
    rw [Option.not_isSome_iff_eq_none] at hsome
    exact (p.sees_publish_of_deposit_eq_none hc hsome other).deposit records'

/-! ### Whole batches -/

theorem grows_publishAll (desk : Desk) (order : List CategoryRecords) :
    desk.tree.Grows (p.publishAll desk order).2.tree := by
  induction order generalizing desk with
  | nil => exact .refl _
  | cons entry rest ih =>
    rw [publishAll_cons]
    exact (grows_publish hmode desk entry.category entry.records).trans (ih _)

/-- A place that is taken stays taken in every batch. -/
theorem landing_publishAll_of_taken {order : List CategoryRecords} (hnames : ∀ entry ∈ order, '/' ∉ entry.category.toList)
    {category : String} {desk : Desk}
    (h : landing p.mode desk.tree p.outputDir (sheetName category) = .error .alreadyThere) :
    landing p.mode (p.publishAll desk order).2.tree p.outputDir (sheetName category) = .error .alreadyThere := by
  induction order generalizing desk with
  | nil => exact h
  | cons entry rest ih =>
    rw [List.forall_mem_cons] at hnames
    rw [publishAll_cons]
    exact ih hnames.2 (landing_publish_of_taken hmode hnames.1 h entry.records)

/-! ### The entries of one category -/

/-- An entry of a category wins: it is written, its sheet is the category's file in the end, and all other entries of the category
that have records are refused, since the file is there already. -/
structure WonBy (p : Publisher) (desk : Desk) (order : List CategoryRecords) (category : String) (mapping : Mapping)
    (i : Nat) (winner : CategoryRecords) : Prop where
  /-- The winner stands at a position of the order. -/
  position : order[i]? = some winner
  /-- The winner is an entry of the category. -/
  ofCategory : winner.category = category
  /-- The winner has records. -/
  hasRecords : winner.records ≠ []
  /-- The winner is written. -/
  written : (p.publishAll desk order).1[i]? = some (.written (p.outputPath category) winner.records.length
    (p.sheetContent (desk.presets.get desk.tree).1 mapping winner.records).length)
  /-- The file of the category has the winner's sheet in the end. -/
  content : (p.publishAll desk order).2.tree.read (p.outputPath category) =
    .ok (p.sheetContent (desk.presets.get desk.tree).1 mapping winner.records)
  /-- The others are refused. -/
  others : ∀ j other, j ≠ i → order[j]? = some other → other.category = category → other.records ≠ [] →
    (p.publishAll desk order).1[j]? = some (.failed (Failure.outputExists (p.outputPath category)).message)

omit hmode in
/-- Among the entries of a category that have records, one comes first. -/
theorem exists_first {order : List CategoryRecords} {category : String}
    (h : ∃ entry ∈ order, entry.category = category ∧ entry.records ≠ []) :
    ∃ before winner behind, order = before ++ winner :: behind ∧ winner.category = category ∧ winner.records ≠ [] ∧
      ∀ entry ∈ before, entry.category = category → entry.records = [] := by
  obtain ⟨entry, hentry, hcategory, hrecords⟩ := h
  have hsome : (order.find? fun e => e.category == category && !e.records.isEmpty).isSome = true := by
    rw [List.find?_isSome]
    exact ⟨entry, hentry, by simp [hcategory, hrecords]⟩
  obtain ⟨winner, hwinner⟩ := Option.isSome_iff_exists.1 hsome
  obtain ⟨hfits, before, behind, hsplit, hbefore⟩ := List.find?_eq_some_iff_append.1 hwinner
  simp only [Bool.and_eq_true, beq_iff_eq, Bool.not_eq_true', List.isEmpty_eq_false_iff] at hfits
  refine ⟨before, winner, behind, hsplit, hfits.1, hfits.2, fun e he hsame => ?_⟩
  have hnot := hbefore e he
  simpa [hsame] using hnot

/-- An entry with a sheet to write is refused when the place is taken. -/
theorem outcome_of_taken {category : String} (hc : '/' ∉ category.toList) {desk : Desk} {records : List Json} {rows : Nat}
    {content : Bytes} (hdraft : p.draft desk category records = .ok (some (rows, content)))
    (htaken : landing p.mode desk.tree p.outputDir (sheetName category) = .error .alreadyThere) :
    (p.publish desk category records).1 = .failed (Failure.outputExists (p.outputPath category)).message := by
  rw [p.publish_eq hc, hdraft, htaken, hmode]
  rfl

/-- The entries that come after one that was put are refused if they are of its category and have something to write. -/
theorem outcome_of_behind {order : List CategoryRecords} (hnames : ∀ entry ∈ order, '/' ∉ entry.category.toList)
    {category : String} (hc : '/' ∉ category.toList) {desk : Desk} {first records : List Json} {rows : Nat} {content : Bytes}
    (hfirst : (p.deposit desk category first).isSome = true)
    (hdraft : p.draft desk category records = .ok (some (rows, content))) :
    (p.publish (p.publishAll (p.publish desk category first).2 order).2 category records).1 =
      .failed (Failure.outputExists (p.outputPath category)).message := by
  have hdraft' : p.draft (p.publishAll (p.publish desk category first).2 order).2 category records =
      .ok (some (rows, content)) := by
    rw [p.draft_publishAll hnames hc, p.draft_publish hc hc, hdraft]
  exact outcome_of_taken hmode hc hdraft'
    (landing_publishAll_of_taken hmode hnames (landing_publish_self hmode hc hfirst))

/-- In every order, the first entry of a category that has records wins, if the mapping can be had and the file can be made. -/
theorem wonBy_publishAll {desk : Desk} {before behind : List CategoryRecords} {winner : CategoryRecords}
    (hnames : ∀ entry ∈ before ++ winner :: behind, '/' ∉ entry.category.toList) {mapping : Mapping}
    (hload : p.mappings.load desk.tree winner.category = .ok mapping)
    (hcreatable : desk.tree.Creatable (p.outputPath winner.category)) (hrecords : winner.records ≠ [])
    (hfirst : ∀ entry ∈ before, entry.category = winner.category → entry.records = []) :
    p.WonBy desk (before ++ winner :: behind) winner.category mapping before.length winner := by
  rw [List.forall_mem_append, List.forall_mem_cons] at hnames
  obtain ⟨hbefore, hc, hbehind⟩ := hnames
  -- At the winner's turn everything is for its category as it was at the start.
  have hsees := p.sees_publishAll hbefore hc hfirst desk
  have hdraft : ∀ records : List Json, records ≠ [] →
      p.draft (p.publishAll desk before).2 winner.category records =
        .ok (some (records.length, p.sheetContent (desk.presets.get desk.tree).1 mapping records)) := by
    intro records hne
    rw [hsees.draft, p.draft_of_load hload, if_neg hne]
  obtain ⟨q, hlanding⟩ : ∃ q, landing p.mode (p.publishAll desk before).2.tree p.outputDir (sheetName winner.category) =
      .ok q := by
    rw [hsees.landing, hmode]
    exact landing_of_creatable (plain_sheetName hc) hcreatable
  have hdeposit := p.deposit_eq_some_iff.2 ⟨⟨_, hdraft winner.records hrecords⟩, hlanding⟩
  refine ⟨?_, rfl, hrecords, ?_, ?_, ?_⟩
  · rw [List.getElem?_append_right (Nat.le_refl _), Nat.sub_self, List.getElem?_cons_zero]
  · rw [p.getElem?_publishAll, List.getElem?_append_right (Nat.le_refl _), Nat.sub_self, List.getElem?_cons_zero,
      List.take_left, Option.map_some, p.publish_eq hc, hdraft winner.records hrecords, hlanding]
  · rw [publishAll_append, publishAll_cons]
    exact (grows_publishAll hmode _ behind).read (p.read_publish hc hdeposit)
  · intro j other hj hother hsame hne
    rcases Nat.lt_or_gt_of_ne hj with hlt | hgt
    · rw [List.getElem?_append_left hlt] at hother
      exact absurd (hfirst other (List.mem_of_getElem? hother) hsame) hne
    · obtain ⟨k, rfl⟩ : ∃ k, j = before.length + (k + 1) := ⟨j - before.length - 1, by omega⟩
      rw [p.getElem?_publishAll, hother, Option.map_some, List.take_length_add_append, List.take_succ_cons,
        publishAll_append, publishAll_cons, hsame]
      have hbetween : ∀ entry ∈ behind.take k, '/' ∉ entry.category.toList :=
        fun entry h => hbehind entry (List.mem_of_mem_take h)
      have hput : (p.deposit (p.publishAll desk before).2 winner.category winner.records).isSome = true := by
        rw [hdeposit, Option.isSome_some]
      exact congrArg some (outcome_of_behind hmode hbetween hc hput (hdraft other.records hne))

/-! ### The categories that are written -/

/-- The categories of the entries that are written, in order. -/
def writtenCategories (p : Publisher) (desk : Desk) (order : List CategoryRecords) : List String :=
  ((order.zip (p.publishAll desk order).1).filter fun x => x.2.isWritten).map fun x => x.1.category

omit hmode in
/-- The categories that are written are those of the entries that put files, one after the other. -/
theorem writtenCategories_cons {entry : CategoryRecords} (hc : '/' ∉ entry.category.toList) (desk : Desk)
    (rest : List CategoryRecords) :
    p.writtenCategories desk (entry :: rest) =
      (if (p.deposit desk entry.category entry.records).isSome then [entry.category] else []) ++
        p.writtenCategories (p.publish desk entry.category entry.records).2 rest := by
  unfold writtenCategories
  rw [publishAll_cons, List.zip_cons_cons, List.filter_cons, p.isWritten_publish hc]
  split <;> rfl

/-- An entry that comes after another one puts a file if it would put one in its stead, unless the other has put that of their
category. -/
theorem isSome_deposit_publish {category other : String} (hc : '/' ∉ category.toList) (ho : '/' ∉ other.toList)
    (desk : Desk) (records records' : List Json) :
    (p.deposit (p.publish desk category records).2 other records').isSome = true ↔
      (p.deposit desk other records').isSome = true ∧
        ¬ (category = other ∧ (p.deposit desk category records).isSome = true) := by
  rw [deposit_publish hmode hc ho]
  by_cases htaken : category = other ∧ (p.deposit desk category records).isSome = true
  · rw [if_pos htaken]
    exact ⟨fun h => absurd h (by simp), fun h => absurd htaken h.2⟩
  · rw [if_neg htaken]
    exact ⟨fun h => ⟨h, htaken⟩, fun h => h.1⟩

/-- A category is written if and only if one of its entries would put a file if it came first. -/
theorem mem_writtenCategories_iff {order : List CategoryRecords} (hnames : ∀ entry ∈ order, '/' ∉ entry.category.toList)
    (desk : Desk) (category : String) :
    category ∈ p.writtenCategories desk order ↔
      ∃ entry ∈ order, entry.category = category ∧ (p.deposit desk entry.category entry.records).isSome = true := by
  induction order generalizing desk with
  | nil => simp [writtenCategories]
  | cons entry rest ih =>
    rw [List.forall_mem_cons] at hnames
    obtain ⟨hc, hrest⟩ := hnames
    rw [writtenCategories_cons hc, List.mem_append, ih hrest]
    constructor
    · rintro (hfirst | ⟨other, hother, hcategory, hsome⟩)
      · split at hfirst
        · rename_i hsome
          exact ⟨entry, List.mem_cons_self, (List.mem_singleton.1 hfirst).symm, hsome⟩
        · cases hfirst
      · have hstart := ((isSome_deposit_publish hmode hc (hrest other hother) _ _ _).1 hsome).1
        exact ⟨other, List.mem_cons_of_mem _ hother, hcategory, hstart⟩
    · rintro ⟨other, hother, hcategory, hsome⟩
      rcases List.mem_cons.1 hother with rfl | hother
      · left
        rw [if_pos hsome, hcategory]
        exact List.mem_singleton.2 rfl
      · by_cases htaken : entry.category = other.category ∧ (p.deposit desk entry.category entry.records).isSome = true
        · left
          rw [if_pos htaken.2, htaken.1, hcategory]
          exact List.mem_singleton.2 rfl
        · right
          exact ⟨other, hother, hcategory, (isSome_deposit_publish hmode hc (hrest other hother) _ _ _).2 ⟨hsome, htaken⟩⟩

/-- No category is written twice. -/
theorem nodup_writtenCategories {order : List CategoryRecords} (hnames : ∀ entry ∈ order, '/' ∉ entry.category.toList)
    (desk : Desk) : (p.writtenCategories desk order).Nodup := by
  induction order generalizing desk with
  | nil => exact List.nodup_nil
  | cons entry rest ih =>
    rw [List.forall_mem_cons] at hnames
    obtain ⟨hc, hrest⟩ := hnames
    rw [writtenCategories_cons hc]
    split
    · rename_i hsome
      rw [List.singleton_append, List.nodup_cons]
      refine ⟨?_, ih hrest _⟩
      intro hmem
      obtain ⟨other, hother, hcategory, hagain⟩ := (mem_writtenCategories_iff hmode hrest _ _).1 hmem
      exact ((isSome_deposit_publish hmode hc (hrest other hother) _ _ _).1 hagain).2 ⟨hcategory.symm, hsome⟩
    · rw [List.nil_append]
      exact ih hrest _

/-- The same categories are written in every order. -/
theorem writtenCategories_perm {batch order : List CategoryRecords} (hnames : ∀ entry ∈ batch, '/' ∉ entry.category.toList)
    (hperm : order.Perm batch) (desk : Desk) :
    (p.writtenCategories desk order).Perm (p.writtenCategories desk batch) := by
  have hnames' : ∀ entry ∈ order, '/' ∉ entry.category.toList := fun entry h => hnames entry (hperm.mem_iff.1 h)
  rw [List.perm_ext_iff_of_nodup (nodup_writtenCategories hmode hnames' desk) (nodup_writtenCategories hmode hnames desk)]
  intro category
  simp only [mem_writtenCategories_iff hmode hnames', mem_writtenCategories_iff hmode hnames, hperm.mem_iff]

omit hmode in
/-- The report counts the categories that are written. -/
theorem success_ofBatch (desk : Desk) (order : List CategoryRecords) :
    (Report.ofBatch order (p.publishAll desk order).1).success = (p.writtenCategories desk order).length := by
  rw [Report.ofBatch_eq, writtenCategories, List.length_map, ← List.countP_eq_length_filter]
  exact List.length_filterMap_eq_countP

end

/-! ## All orders -/

/-- Without overwriting, a batch of categories that hold no slash can be published in any order: what was there before stays, every
file with its content; of each category whose mapping can be had and whose file can be made one entry with records is written and
the others are refused; and as many entries are written as in any other order. -/
theorem publishAll_exclusive (hmode : p.mode = .error) (desk : Desk) {batch order : List CategoryRecords}
    (hnames : ∀ entry ∈ batch, '/' ∉ entry.category.toList) (hperm : order.Perm batch) :
    desk.tree.Grows (p.publishAll desk order).2.tree ∧
      (∀ path content, desk.tree.read path = .ok content → (p.publishAll desk order).2.tree.read path = .ok content) ∧
      (∀ category mapping, p.mappings.load desk.tree category = .ok mapping →
        desk.tree.Creatable (p.outputPath category) →
        (∃ entry ∈ batch, entry.category = category ∧ entry.records ≠ []) →
        ∃ i winner, p.WonBy desk order category mapping i winner) ∧
      (Report.ofBatch order (p.publishAll desk order).1).success =
        (Report.ofBatch batch (p.publishAll desk batch).1).success := by
  have hnames' : ∀ entry ∈ order, '/' ∉ entry.category.toList := fun entry h => hnames entry (hperm.mem_iff.1 h)
  have hgrows := grows_publishAll hmode desk order
  refine ⟨hgrows, fun path content h => hgrows.read h, ?_, ?_⟩
  · rintro category mapping hload hcreatable ⟨entry, hentry, hsame, hrecords⟩
    obtain ⟨before, winner, behind, rfl, rfl, hwinner, hfirst⟩ :=
      exists_first ⟨entry, hperm.mem_iff.2 hentry, hsame, hrecords⟩
    exact ⟨before.length, winner, wonBy_publishAll hmode hnames' hload hcreatable hwinner hfirst⟩
  · rw [success_ofBatch, success_ofBatch, (writtenCategories_perm hmode hnames hperm desk).length_eq]

/-- A publisher that does not overwrite. -/
def careful : Publisher := ⟨⟨"mapping"⟩, "data", .error, true, {}⟩

/-- A desk with a folder for sheets and the mapping of one category. -/
def oneMappingDesk : Desk := ⟨oneMapping, .ofFolder "preset"⟩

/-- A batch that holds this category three times, once without records. -/
def thrice : List CategoryRecords := [⟨"船", [.obj [("n", .int 3)]]⟩, ⟨"船", []⟩, ⟨"船", [.obj [("n", .int 4)]]⟩]

/-- The theorem at this batch in reverse order, in which the last entry wins. -/
theorem publishAll_exclusive_thrice :
    careful.mode = .error ∧ (∀ entry ∈ thrice, '/' ∉ entry.category.toList) ∧ thrice.reverse.Perm thrice ∧
      careful.mappings.load oneMapping "船" = .ok ⟨"船", [⟨"n", .ok (.plain "n")⟩], none⟩ ∧
      oneMapping.Creatable (careful.outputPath "船") ∧
      (∃ i winner, careful.WonBy oneMappingDesk thrice.reverse "船" ⟨"船", [⟨"n", .ok (.plain "n")⟩], none⟩ i winner) ∧
      (careful.publishAll oneMappingDesk thrice.reverse).1 =
        [.written "data/船.csv" 1 7, .empty, .failed "출력 파일이 이미 존재합니다: data/船.csv"] ∧
      (Report.ofBatch thrice (careful.publishAll oneMappingDesk thrice).1).success = 1 := by
  have hmode : careful.mode = .error := rfl
  have hnames : ∀ entry ∈ thrice, '/' ∉ entry.category.toList := by decide
  have hperm : thrice.reverse.Perm thrice := List.reverse_perm _
  have hload : careful.mappings.load oneMapping "船" = .ok ⟨"船", [⟨"n", .ok (.plain "n")⟩], none⟩ := rfl
  have hcreatable : oneMapping.Creatable (careful.outputPath "船") := ⟨_, rfl⟩
  obtain ⟨-, -, hwon, hsuccess⟩ := publishAll_exclusive careful hmode oneMappingDesk hnames hperm
  refine ⟨hmode, hnames, hperm, hload, hcreatable, ?_, by decide +kernel, ?_⟩
  · exact hwon "船" _ hload hcreatable ⟨_, List.mem_cons_self, rfl, by simp⟩
  · rw [← hsuccess]
    decide +kernel

end Publisher

end RecordSheets
