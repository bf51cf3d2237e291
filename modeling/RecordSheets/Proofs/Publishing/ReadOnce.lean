import RecordSheets.Proofs.Publishing.Exclusive

/-!
# Presets that are read once

A preset store may be shared by lookups and by publications, while the files change between them in any way (`Use`). Some uses want the
presets (`Use.Wants`). Before the first one that does (`Desk.FirstWant`) nothing is read. This one reads them from the files as they are
then; from there on the store does not change any more (`Desk.presets_after_of_loaded`), and everything goes as with these presets at hand
(`Desk.UsesOnly`, `PresetStore.read_once`).
-/

namespace RecordSheets

/-- What may happen around a preset store. -/
inductive Use where
  /-- The files change, from outside. -/
  | change (edit : FileTree → FileTree)
  /-- The presets are looked up. -/
  | lookup
  /-- A category is published. -/
  | publish (p : Publisher) (category : String) (records : List Json)

/-- A use wants the presets: it is a lookup, or the publication of a category whose mapping can be had, be there records or not. -/
def Use.Wants (desk : Desk) : Use → Prop
  | .change _ => False
  | .lookup => True
  | .publish p category _ => ∃ mapping, p.mappings.load desk.tree category = .ok mapping

namespace Desk

/-- The desk after a use. -/
def use (desk : Desk) : Use → Desk
  | .change edit => { desk with tree := edit desk.tree }
  | .lookup => desk.ready
  | .publish p category records => (p.publish desk category records).2

def after (desk : Desk) (uses : List Use) : Desk := uses.foldl use desk

@[simp]
theorem after_nil (desk : Desk) : desk.after [] = desk := rfl

@[simp]
theorem after_cons (desk : Desk) (u : Use) (rest : List Use) : desk.after (u :: rest) = (desk.use u).after rest := rfl

theorem after_append (desk : Desk) (before rest : List Use) : desk.after (before ++ rest) = (desk.after before).after rest :=
  List.foldl_append

/-! ## One use -/

/-- Once the presets were wanted, the store holds what a lookup gives. -/
theorem loaded_ready (desk : Desk) : desk.ready.presets.loaded = some (desk.presets.get desk.tree).1 := by
  unfold ready PresetStore.get
  cases hloaded : desk.presets.loaded with
  | none => rfl
  | some presets => exact hloaded

/-- A use that wants the presets has them read if they were not. -/
theorem presets_use_of_wants {desk : Desk} {u : Use} (h : u.Wants desk) : (desk.use u).presets = desk.ready.presets := by
  cases u with
  | change edit => exact h.elim
  | lookup => rfl
  | publish p category records =>
    obtain ⟨mapping, hload⟩ := h
    rw [use, p.presets_publish, p.draft_of_load hload]

/-- A use that does not want the presets leaves the store as it is. -/
theorem presets_use_of_not_wants {desk : Desk} {u : Use} (h : ¬u.Wants desk) : (desk.use u).presets = desk.presets := by
  cases u with
  | change edit => rfl
  | lookup => exact absurd trivial h
  | publish p category records =>
    cases hload : p.mappings.load desk.tree category with
    | error e => rw [use, p.publish_of_load_error desk hload]
    | ok mapping => exact absurd ⟨mapping, hload⟩ h

/-- A store that was read stays as it is in every use. -/
theorem presets_use_of_loaded {desk : Desk} {presets : Presets} (h : desk.presets.loaded = some presets) (u : Use) :
    (desk.use u).presets = desk.presets := by
  by_cases hwants : u.Wants desk
  · rw [presets_use_of_wants hwants, ready, PresetStore.get, h]
  · exact presets_use_of_not_wants hwants

/-- After a use the presets are read if they were before, or if the use wants them. -/
theorem isLoaded_use_iff (desk : Desk) (u : Use) :
    (desk.use u).presets.isLoaded = true ↔ desk.presets.isLoaded = true ∨ u.Wants desk := by
  by_cases hwants : u.Wants desk
  · refine iff_of_true ?_ (.inr hwants)
    rw [presets_use_of_wants hwants, PresetStore.isLoaded, loaded_ready, Option.isSome_some]
  · rw [presets_use_of_not_wants hwants, or_iff_left hwants]

/-! ## Many uses -/

/-- A store that was read stays as it is. -/
theorem presets_after_of_loaded {desk : Desk} {presets : Presets} (h : desk.presets.loaded = some presets) (uses : List Use) :
    (desk.after uses).presets = desk.presets := by
  induction uses generalizing desk with
  | nil => rfl
  | cons u rest ih =>
    have hsame := presets_use_of_loaded h u
    rw [after_cons, ih (hsame ▸ h), hsame]

/-- A use is the first one that wants the presets, after some that do not. -/
inductive FirstWant : Desk → List Use → Use → Prop
  | here {desk : Desk} {u : Use} : u.Wants desk → FirstWant desk [] u
  | later {desk : Desk} {w u : Use} {before : List Use} :
    ¬w.Wants desk → FirstWant (desk.use w) before u → FirstWant desk (w :: before) u

namespace FirstWant

variable {desk : Desk} {before : List Use} {u : Use} (h : FirstWant desk before u)
include h

/-- Before the first use that wants the presets the store stays as it is. -/
theorem presets_after : (desk.after before).presets = desk.presets := by
  induction h with
  | here hwants => rfl
  | later hnot _ ih => rw [after_cons, ih, presets_use_of_not_wants hnot]

theorem wants : u.Wants (desk.after before) := by
  induction h with
  | here hwants => exact hwants
  | later _ _ ih => exact ih

/-- From the first use that wants the presets on, the store holds what a lookup gives right before it. -/
theorem loaded (rest : List Use) :
    (desk.after (before ++ u :: rest)).presets.loaded =
      some ((desk.after before).presets.get (desk.after before).tree).1 := by
  have hfirst : ((desk.after before).use u).presets.loaded = some ((desk.after before).presets.get (desk.after before).tree).1 := by
    rw [presets_use_of_wants h.wants, loaded_ready]
  rw [after_append, after_cons, presets_after_of_loaded hfirst, hfirst]

end FirstWant

/-- The presets are read if they were before, or if one of the uses is the first that wants them. -/
theorem isLoaded_after_iff (desk : Desk) (uses : List Use) :
    (desk.after uses).presets.isLoaded = true ↔
      desk.presets.isLoaded = true ∨ ∃ before u rest, uses = before ++ u :: rest ∧ FirstWant desk before u := by
  induction uses generalizing desk with
  | nil => simp
  | cons w uses ih =>
    rw [after_cons, ih, isLoaded_use_iff, or_assoc]
    refine or_congr_right ?_
    constructor
    · rintro (hwants | ⟨before, u, rest, rfl, h⟩)
      · exact ⟨[], w, uses, rfl, .here hwants⟩
      · by_cases hwants : w.Wants desk
        · exact ⟨[], w, before ++ u :: rest, rfl, .here hwants⟩
        · exact ⟨w :: before, u, rest, rfl, .later hwants h⟩
    · rintro ⟨before, u, rest, heq, h⟩
      cases h with
      | here hwants =>
        obtain ⟨rfl, rfl⟩ := List.cons.inj heq
        exact .inl hwants
      | later hnot h =>
        obtain ⟨rfl, rfl⟩ := List.cons.inj heq
        exact .inr ⟨_, u, rest, rfl, h⟩

/-! ## The presets that are used -/

/-- At a desk certain presets are used and no others. -/
structure UsesOnly (desk : Desk) (presets : Presets) : Prop where
  /-- A lookup gives these presets. -/
  lookup : (desk.presets.get desk.tree).1 = presets
  /-- Publishing a category goes as with these presets at hand from the start. -/
  publish : ∀ (p : Publisher) category records,
    (p.publish desk category records).1 = (p.publish ⟨desk.tree, .ofPresets presets⟩ category records).1 ∧
      (p.publish desk category records).2.tree = (p.publish ⟨desk.tree, .ofPresets presets⟩ category records).2.tree
  /-- A sheet that is written is the one that the mapping makes of the records with these presets. -/
  sheet : ∀ (p : Publisher) category records mapping path rows bytes,
    p.mappings.load desk.tree category = .ok mapping → (p.publish desk category records).1 = .written path rows bytes →
      (p.publish desk category records).2.tree.read path = .ok (p.sheetContent presets mapping records)

/-- At a desk the presets are used that a lookup gives. -/
theorem usesOnly (desk : Desk) : desk.UsesOnly (desk.presets.get desk.tree).1 := by
  refine ⟨rfl, ?_, ?_⟩
  · intro p category records
    cases hload : p.mappings.load desk.tree category with
    | error e =>
      have hload' : p.mappings.load (Desk.mk desk.tree (.ofPresets (desk.presets.get desk.tree).1)).tree category = .error e := hload
      rw [p.publish_of_load_error desk hload, p.publish_of_load_error _ hload']
      exact ⟨rfl, rfl⟩
    | ok mapping =>
      have hload' : p.mappings.load (Desk.mk desk.tree (.ofPresets (desk.presets.get desk.tree).1)).tree category = .ok mapping := hload
      rw [p.publish_of_load hload, p.publish_of_load hload']
      split
      · exact ⟨rfl, rfl⟩
      · cases Publisher.spot p.mode desk.tree (p.outputPath category) <;> exact ⟨rfl, rfl⟩
  · intro p category records mapping path rows bytes hload hwritten
    have hends := p.ends_publish desk category records
    generalize p.publish desk category records = result at hends hwritten ⊢
    cases hends with
    | unmapped hnot => cases hwritten
    | nothing hload' hnil => cases hwritten
    | refused hload' hne hspot => cases hwritten
    | written hload' hne hspot =>
      obtain rfl := Except.ok.inj (hload'.symm.trans hload)
      cases hwritten
      exact FileTree.read_put (Publisher.slot_of_spot hspot) _

end Desk

/-- A preset store reads its files once. In every run of uses that starts with a fresh store, the presets are read as soon as a use wants
them, and not before. The first use that wants them and all that come after it use the presets of the files as they were right before
this use, whatever becomes of the files. -/
theorem PresetStore.read_once (t : FileTree) (dir : String) :
    (∀ uses, (Desk.after ⟨t, .ofFolder dir⟩ uses).presets.isLoaded = true ↔
        ∃ before u rest, uses = before ++ u :: rest ∧ Desk.FirstWant ⟨t, .ofFolder dir⟩ before u) ∧
      ∀ before u, Desk.FirstWant ⟨t, .ofFolder dir⟩ before u →
        (Desk.after ⟨t, .ofFolder dir⟩ before).UsesOnly (Presets.load (Desk.after ⟨t, .ofFolder dir⟩ before).tree dir) ∧
          ∀ rest, (Desk.after ⟨t, .ofFolder dir⟩ (before ++ u :: rest)).UsesOnly
            (Presets.load (Desk.after ⟨t, .ofFolder dir⟩ before).tree dir) := by
  constructor
  · intro uses
    rw [Desk.isLoaded_after_iff, or_iff_right]
    exact Bool.false_ne_true
  · intro before u h
    have hfresh : ((Desk.after ⟨t, .ofFolder dir⟩ before).presets.get (Desk.after ⟨t, .ofFolder dir⟩ before).tree).1 =
        Presets.load (Desk.after ⟨t, .ofFolder dir⟩ before).tree dir := by
      rw [h.presets_after]
      rfl
    rw [← hfresh]
    refine ⟨Desk.usesOnly _, ?_⟩
    intro rest
    have hget : ((Desk.after ⟨t, .ofFolder dir⟩ (before ++ u :: rest)).presets.get
        (Desk.after ⟨t, .ofFolder dir⟩ (before ++ u :: rest)).tree).1 =
          ((Desk.after ⟨t, .ofFolder dir⟩ before).presets.get (Desk.after ⟨t, .ofFolder dir⟩ before).tree).1 := by
      rw [get, h.loaded rest]
    rw [← hget]
    exact Desk.usesOnly _

namespace PresetStore

/-- A tree with folders for mappings, sheets and presets, all empty. -/
def noFiles : FileTree := ⟨[("mapping", .folder []), ("data", .folder []), ("preset", .folder [])], []⟩

def shipSheets : Publisher := ⟨⟨"mapping"⟩, "data", .overwrite, true, {}⟩

def shipMapping : Mapping := ⟨"船", [⟨"n", .ok (.plain "n")⟩], none⟩

/-- The publication of a category without records. -/
def publishNone : Use := .publish shipSheets "船" []

/-- The mapping of this category is written. -/
def addMapping : Use :=
  .change fun t => t.put ["mapping", "船" ++ Mapping.fileEnding] (.file (Utf8.encode "\x7b\"n\":\".n\"\x7d"))

def addNames : Use :=
  .change fun t => t.put ["preset", Presets.nameFile] (.file (Utf8.encode "\x7b\"iowa\":\x7b\"zh\":\"衣阿华\"\x7d\x7d"))

/-- The desk where a file of names is written after the presets were first wanted. -/
def namesTooLate : Desk := Desk.after ⟨noFiles, .ofFolder "preset"⟩ ([publishNone, addMapping] ++ publishNone :: [addNames])

/-- A record with a name that the file has. -/
def iowa : Json := .obj [("n", .str "Iowa")]

/-- The theorem where there are no preset files when the presets are first wanted: a file that is written later is not read, so a sheet
that is made after it keeps the name that the file has a text for. -/
theorem read_once_addNames :
    Desk.FirstWant ⟨noFiles, .ofFolder "preset"⟩ [publishNone, addMapping] publishNone ∧
      Presets.load namesTooLate.tree "preset" = ⟨⟨[("iowa", "衣阿华")]⟩, .empty⟩ ∧
      (namesTooLate.presets.get namesTooLate.tree).1 = Presets.empty ∧
      (shipSheets.publish namesTooLate "船" [iowa]).1 = .written "data/船.csv" 1 10 ∧
      (shipSheets.publish namesTooLate "船" [iowa]).2.tree.read "data/船.csv" =
        .ok (shipSheets.sheetContent Presets.empty shipMapping [iowa]) ∧
      shipSheets.sheetContent Presets.empty shipMapping [iowa] = Utf8.encode (Csv.withMark "n\nIowa\n") ∧
      shipSheets.sheetContent (Presets.load namesTooLate.tree "preset") shipMapping [iowa] =
        Utf8.encode (Csv.withMark "n\n衣阿华\n") := by
  have hfirst : Desk.FirstWant ⟨noFiles, .ofFolder "preset"⟩ [publishNone, addMapping] publishNone := by
    refine .later ?_ (.later not_false (.here ⟨shipMapping, rfl⟩))
    rintro ⟨mapping, hload⟩
    cases hload
  have hempty : Presets.load (Desk.after ⟨noFiles, .ofFolder "preset"⟩ [publishNone, addMapping]).tree "preset" = .empty := by
    decide +kernel
  have honce := ((read_once noFiles "preset").2 _ _ hfirst).2 [addNames]
  rw [hempty] at honce
  have hload : shipSheets.mappings.load namesTooLate.tree "船" = .ok shipMapping := rfl
  have hwritten : (shipSheets.publish namesTooLate "船" [iowa]).1 = .written "data/船.csv" 1 10 := by decide +kernel
  exact ⟨hfirst, by decide +kernel, honce.lookup, hwritten, honce.sheet _ _ _ _ _ _ _ hload hwritten, by decide +kernel,
    by decide +kernel⟩

end PresetStore

end RecordSheets
