import RecordSheets.Proofs.Catalogue.Stable
import RecordSheets.Proofs.Publishing.Exclusive

/-!
# Publishing a batch again

Publishing changes nothing but sheets (`Publisher.keepsFiles_publishAll`), so afterwards there are the same mappings, the same presets
and the same records. What a second publication of the batch would put is there already (`Publisher.atRest_publishAll`), and putting a
file where it is leaves the tree as it is: the second publication changes nothing (`Publisher.publishAll_again`).
-/

namespace RecordSheets

/-- A place holds what the tree shows there. -/
theorem FileTree.entryAt_eq_ok_iff {t : FileTree} {q : Place} {e : Entry} : t.entryAt q = .ok e ↔ t.look? q = some e := by
  unfold entryAt
  cases t.look? q <;> simp

/-- The table in a file depends on the content of the file alone. -/
theorem FileTree.readTable?_congr {t t' : FileTree} {path : String}
    (h : ∀ content, t'.read path = .ok content ↔ t.read path = .ok content) : t'.readTable? path = t.readTable? path := by
  unfold readTable?
  cases hread : t.read path with
  | ok content => rw [(h content).2 hread]
  | error e =>
    cases hread' : t'.read path with
    | ok content =>
      rw [(h content).1 hread'] at hread
      cases hread
    | error e' => rfl

namespace Publisher

/-- A name that no sheet has. -/
def NoSheet (name : String) : Prop := ∀ category, name ≠ sheetName category

variable (p : Publisher)

/-- Publishing a category changes no folder and no file but sheets. -/
theorem keepsFiles_publish {category : String} (hc : '/' ∉ category.toList) (desk : Desk) (records : List Json) :
    desk.tree.KeepsFiles NoSheet (p.publish desk category records).2.tree ∧
      (p.publish desk category records).2.tree.KeepsFiles NoSheet desk.tree := by
  rcases p.tree_publish_cases hc desk records with htree | ⟨q, content, hq, htree⟩
  · rw [htree]
    exact ⟨.refl _ _, .refl _ _⟩
  · rw [htree]
    obtain ⟨d, -, -, rfl⟩ := hq.sheets
    have hfile : ∀ r name, NoSheet name → ∀ there,
        (desk.tree.put (d ++ [sheetName category]) (.file content)).look? (r ++ [name]) = some (.file there) ↔
          desk.tree.look? (r ++ [name]) = some (.file there) := by
      intro r name hname there
      rw [hq.free.look?_put, if_neg (FileTree.place_ne (hname category) r d)]
    have hback : (desk.tree.put (d ++ [sheetName category]) (.file content)).KeepsFolders desk.tree :=
      ⟨rfl, fun r hr => (hq.free.isFolder_put content r).symm.trans hr⟩
    exact ⟨⟨hq.free.keepsFolders content, hfile⟩, ⟨hback, fun r name hname there => (hfile r name hname there).symm⟩⟩

/-- Publishing a batch changes no folder and no file but sheets. -/
theorem keepsFiles_publishAll {batch : List CategoryRecords} (hnames : ∀ entry ∈ batch, '/' ∉ entry.category.toList)
    (desk : Desk) :
    desk.tree.KeepsFiles NoSheet (p.publishAll desk batch).2.tree ∧
      (p.publishAll desk batch).2.tree.KeepsFiles NoSheet desk.tree := by
  induction batch generalizing desk with
  | nil => exact ⟨.refl _ _, .refl _ _⟩
  | cons entry rest ih =>
    rw [List.forall_mem_cons] at hnames
    rw [publishAll_cons]
    obtain ⟨hfirst, hback⟩ := p.keepsFiles_publish hnames.1 desk entry.records
    obtain ⟨hrest, hback'⟩ := ih hnames.2 (p.publish desk entry.category entry.records).2
    exact ⟨hfirst.trans hrest, hback'.trans hback⟩

/-- No record file has the name of a sheet. -/
theorem keepsRecordNames_noSheet : Catalogue.KeepsRecordNames NoSheet := by
  intro stem ending hjson category heq
  have hlast := congrArg (fun name : String => (name.toList.map Char.toLower).getLast?) heq
  simp [sheetName, hjson] at hlast

theorem noSheet_json (text : String) : NoSheet (text ++ ".json") := by
  intro category heq
  have hlast := congrArg (fun name : String => name.toList.getLast?) heq
  simp [sheetName] at hlast

/-- The presets that a folder holds are the same after a batch. -/
theorem presets_publishAll {batch : List CategoryRecords} (hnames : ∀ entry ∈ batch, '/' ∉ entry.category.toList)
    (desk : Desk) (dir : String) : Presets.load (p.publishAll desk batch).2.tree dir = Presets.load desk.tree dir := by
  obtain ⟨hkeeps, hback⟩ := p.keepsFiles_publishAll hnames desk
  have htable : ∀ name, NoSheet name → Path.Plain name →
      (p.publishAll desk batch).2.tree.readTable? (Path.join dir name) = desk.tree.readTable? (Path.join dir name) :=
    fun name hname hplain =>
      FileTree.readTable?_congr fun content => ⟨hback.read_join hname hplain, hkeeps.read_join hname hplain⟩
  rw [Presets.load, Presets.load,
    htable Presets.nameFile (noSheet_json "name") ⟨by decide, by decide, by decide⟩,
    htable Presets.textFile (noSheet_json "i18n") ⟨by decide, by decide, by decide⟩]

/-- The presets that are had do not change when a batch is published. -/
theorem get_publishAll {batch : List CategoryRecords} (hnames : ∀ entry ∈ batch, '/' ∉ entry.category.toList)
    (desk : Desk) :
    (p.publishAll desk batch).2.presets.get (p.publishAll desk batch).2.tree = desk.presets.get desk.tree := by
  induction batch generalizing desk with
  | nil => rfl
  | cons entry rest ih =>
    rw [List.forall_mem_cons] at hnames
    rw [publishAll_cons, ih hnames.2, p.get_publish hnames.1]

/-! ## Batches that are at rest -/

/-- All that publishing the categories of a batch would put at a desk is there. -/
def AtRest (desk : Desk) (batch : List CategoryRecords) : Prop :=
  ∀ entry ∈ batch, ∀ q content, p.deposit desk entry.category entry.records = some (q, content) →
    desk.tree.look? q = some (.file content)

/-- Publishing a batch that is at rest leaves the files as they are. -/
theorem tree_publishAll_of_atRest {batch : List CategoryRecords} (hnames : ∀ entry ∈ batch, '/' ∉ entry.category.toList)
    {desk : Desk} (h : p.AtRest desk batch) : (p.publishAll desk batch).2.tree = desk.tree := by
  induction batch generalizing desk with
  | nil => rfl
  | cons entry rest ih =>
    rw [List.forall_mem_cons] at hnames
    have htree : (p.publish desk entry.category entry.records).2.tree = desk.tree := by
      rw [p.tree_publish hnames.1]
      cases hdeposit : p.deposit desk entry.category entry.records with
      | none => rfl
      | some x =>
        have hfree := (p.sheetPlace_of_deposit hnames.1 hdeposit).free
        exact FileTree.put_file_self (h entry List.mem_cons_self x.1 x.2 hdeposit) hfree.ne_nil
    have hrest : p.AtRest (p.publish desk entry.category entry.records).2 rest := by
      intro other hother q content hdeposit
      rw [(p.sees_publish_of_tree hnames.1 htree other.category).deposit] at hdeposit
      rw [htree]
      exact h other (List.mem_cons_of_mem _ hother) q content hdeposit
    rw [publishAll_cons, ih hnames.2 hrest, htree]

/-- Where a file may be put in a tree with the same folders, nothing but what is there can keep it from being put. -/
theorem landing_of_keeps {mode : WriteMode} {t t' : FileTree} (h : t.KeepsFolders t') (h' : t'.KeepsFolders t) {dir name : String}
    {q : Place} (hlanding : landing mode t' dir name = .ok q) :
    t.target dir name = .ok q ∧ (landing mode t dir name = .ok q ∨ mode = .error ∧ (t.look? q).isSome = true) := by
  obtain ⟨-, d, hd, hfolder, rfl⟩ := landing_eq_ok hlanding
  obtain ⟨hplace, hno, -⟩ := landing_eq_ok_iff.1 hlanding
  have htarget : t.target dir name = .ok (d ++ [name]) := (h'.target hd hfolder name).symm.trans hplace
  have hno' : t.isFolder (d ++ [name]) = false := by
    rw [← Bool.not_eq_true]
    intro hthere
    rw [h.isFolder _ hthere] at hno
    cases hno
  refine ⟨htarget, ?_⟩
  by_cases hsome : mode = .error ∧ (t.look? (d ++ [name])).isSome = true
  · exact .inr hsome
  · refine .inl (landing_eq_ok_iff.2 ⟨htarget, hno', ?_⟩)
    intro hmode
    rw [← Option.not_isSome_iff_eq_none]
    exact fun h => hsome ⟨hmode, h⟩

/-- After a batch the place of a sheet that was to be written holds the sheet, if a file may be put there still. -/
theorem look?_of_landing_publishAll {batch : List CategoryRecords} (hnames : ∀ entry ∈ batch, '/' ∉ entry.category.toList)
    (hdistinct : (batch.map CategoryRecords.category).Nodup) {desk : Desk} {entry : CategoryRecords} (hmem : entry ∈ batch)
    {rows : Nat} {content : Bytes} (hdraft : p.draft desk entry.category entry.records = .ok (some (rows, content))) {q : Place}
    (hlanding : landing p.mode (p.publishAll desk batch).2.tree p.outputDir (sheetName entry.category) = .ok q) :
    (p.publishAll desk batch).2.tree.look? q = some (.file content) := by
  have hc := hnames entry hmem
  obtain ⟨hkeeps, hback⟩ := p.keepsFiles_publishAll hnames desk
  have hfind : ∀ {t : FileTree}, t.target p.outputDir (sheetName entry.category) = .ok q →
      t.find (p.outputPath entry.category) = t.entryAt q := by
    intro t ht
    rw [outputPath, ← sheetName, FileTree.find_join (plain_sheetName hc), ht]
    rfl
  have hsheet := p.sheet_publishAll hnames hdistinct desk hmem
  rw [hfind (landing_eq_ok_iff.1 hlanding).1] at hsheet
  obtain ⟨htarget, hthen | ⟨hmode, hsome⟩⟩ := landing_of_keeps hkeeps.keepsFolders hback.keepsFolders hlanding
  · have hdeposit := p.deposit_eq_some_iff.2 ⟨⟨rows, hdraft⟩, hthen⟩
    obtain ⟨htarget', hlook⟩ := p.target_publish hc hdeposit
    rw [hfind htarget'] at hsheet
    exact FileTree.entryAt_eq_ok_iff.1 (hsheet.trans (FileTree.entryAt_eq_ok_iff.2 hlook))
  · -- What kept the sheet from being put is there still, and keeps it from being put again.
    exfalso
    obtain ⟨e, hlook⟩ := Option.isSome_iff_exists.1 hsome
    have htaken : landing p.mode desk.tree p.outputDir (sheetName entry.category) = .error .alreadyThere := by
      rw [landing, htarget, hmode]
      exact if_pos hsome
    have htree : (p.publish desk entry.category entry.records).2.tree = desk.tree := by
      have hnone : p.deposit desk entry.category entry.records = none := by
        unfold deposit
        rw [hdraft, htaken]
      rw [p.tree_publish hc, hnone]
    rw [htree, hfind htarget, FileTree.entryAt_eq_ok_iff.2 hlook, FileTree.entryAt_eq_ok_iff] at hsheet
    rw [hmode] at hlanding
    rw [(landing_eq_ok_iff.1 hlanding).2.2 rfl] at hsheet
    cases hsheet

/-- After a batch was published it is at rest. -/
theorem atRest_publishAll {batch : List CategoryRecords} (hnames : ∀ entry ∈ batch, '/' ∉ entry.category.toList)
    (hdistinct : (batch.map CategoryRecords.category).Nodup) (t : FileTree) (presetDir : String) :
    p.AtRest ⟨(p.publishAll ⟨t, .ofFolder presetDir⟩ batch).2.tree, .ofFolder presetDir⟩ batch := by
  intro entry hmem q content hdeposit
  obtain ⟨⟨rows, hdraft⟩, hlanding⟩ := p.deposit_eq_some_iff.1 hdeposit
  have hpresets := p.presets_publishAll hnames ⟨t, .ofFolder presetDir⟩ presetDir
  have hsame := p.draft_publishAll hnames (hnames entry hmem) ⟨t, .ofFolder presetDir⟩ entry.records
  have hbefore : p.draft ⟨t, .ofFolder presetDir⟩ entry.category entry.records = .ok (some (rows, content)) := by
    rw [← hsame, ← hdraft]
    refine p.draft_congr ?_ ?_ entry.records
    · rfl
    · rw [p.get_publishAll hnames]
      exact hpresets.symm
  exact p.look?_of_landing_publishAll hnames hdistinct hmem hbefore hlanding

/-- Publishing a batch again leaves the files as they are. -/
theorem publishAll_again {batch : List CategoryRecords} (hnames : ∀ entry ∈ batch, '/' ∉ entry.category.toList)
    (hdistinct : (batch.map CategoryRecords.category).Nodup) (t : FileTree) (presetDir : String) :
    (p.publishAll ⟨(p.publishAll ⟨t, .ofFolder presetDir⟩ batch).2.tree, .ofFolder presetDir⟩ batch).2.tree =
      (p.publishAll ⟨t, .ofFolder presetDir⟩ batch).2.tree :=
  p.tree_publishAll_of_atRest hnames (p.atRest_publishAll hnames hdistinct t presetDir)

end Publisher

end RecordSheets
