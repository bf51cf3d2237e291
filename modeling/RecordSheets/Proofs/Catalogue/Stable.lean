import RecordSheets.Proofs.Catalogue.Search
import RecordSheets.Proofs.Files.Kept

/-!
# What a catalogue depends on

A search sees folders and record files only. So a tree that keeps the folders and the record files of another one, as one with further
folders or further files of other kinds does (`FileTree.KeepsFiles`), has the same catalogue (`Catalogue.scan_of_keepsFiles`) with
the same records (`Catalogue.fetch_of_keepsFiles`).
-/

namespace RecordSheets

/-! ## Sorted lists -/

/-- Two lists in order with the same places of interest give the same results. -/
theorem Place.filterMap_eq_of_before {α : Type} {f : Place → Option α} {qs qs' : List Place} (hqs : qs.Pairwise Place.Before)
    (hqs' : qs'.Pairwise Place.Before) (h : ∀ q, (f q).isSome = true → (q ∈ qs ↔ q ∈ qs')) :
    qs.filterMap f = qs'.filterMap f := by
  have hfilter : ∀ l : List Place, l.filterMap f = (l.filter fun q => (f q).isSome).filterMap f := by
    intro l
    induction l with
    | nil => rfl
    | cons q rest ih => cases hq : f q <;> simp [hq, ih]
  have hsub : ∀ {l : List Place}, l.Pairwise Place.Before → (l.filter fun q => (f q).isSome).Pairwise Place.Before :=
    fun hl => hl.filter _
  have hperm : (qs.filter fun q => (f q).isSome).Perm (qs'.filter fun q => (f q).isSome) := by
    refine (List.perm_ext_iff_of_nodup ((hsub hqs).imp Before.ne) ((hsub hqs').imp Before.ne)).2 fun q => ?_
    rw [List.mem_filter, List.mem_filter]
    exact and_congr_left (h q)
  rw [hfilter qs, hfilter qs']
  refine congrArg (List.filterMap f) ?_
  exact hperm.eq_of_pairwise (fun a b _ _ hab hba => absurd hba hab.asymm) (hsub hqs) (hsub hqs')

namespace Catalogue

/-- The names of record files are among those of a kind. -/
def KeepsRecordNames (kept : String → Prop) : Prop :=
  ∀ stem ending : String, ending.toList.map Char.toLower = ['j', 's', 'o', 'n'] → kept (stem ++ "." ++ ending)

variable {kept : String → Prop} {t t' : FileTree} {dir : String} {maxDepth : Option Nat} {filter : CategoryFilter}
  {c : Catalogue}

/-- A record file is a file of the kind that is kept. -/
theorem look?_record (hkept : KeepsRecordNames kept) (h : t.KeepsFiles kept t') (folder : Place) {q : Place}
    (hq : (entryOf? dir filter q).isSome = true) (content : Bytes) :
    t'.look? (folder ++ q) = some (.file content) ↔ t.look? (folder ++ q) = some (.file content) := by
  have hkind : (categoryAt? filter q).isSome = true := by rwa [entryOf?_eq, Option.isSome_map] at hq
  obtain ⟨category, hcategory⟩ := Option.isSome_iff_exists.1 hkind
  obtain ⟨stem, ending, hlast, -, hjson, -, -⟩ := categoryAt?_eq_some_iff.1 hcategory
  obtain ⟨above, rfl⟩ := List.getLast?_eq_some_iff.1 hlast
  rw [← List.append_assoc]
  exact h.file (folder ++ above) (stem ++ "." ++ ending) (hkept stem ending hjson) content

/-- A search finds the same catalogue in a tree that keeps the folders and the record files. -/
theorem scan_of_keepsFiles (hkept : KeepsRecordNames kept) (h : t.KeepsFiles kept t') (hdisk : t.OnDisk)
    (hscan : scan t dir maxDepth filter = .ok c) : scan t' dir maxDepth filter = .ok c := by
  obtain ⟨folder, hlocate, hfolder, rfl⟩ := scan_eq_ok_iff.1 hscan
  have hlocate' := h.keepsFolders.locate hlocate hfolder
  have hfolder' := h.keepsFolders.isFolder folder hfolder
  refine scan_eq_ok_iff.2 ⟨folder, hlocate', hfolder', ?_⟩
  have hentries : (places t' dir folder maxDepth).filterMap (entryOf? dir filter) =
      (places t dir folder maxDepth).filterMap (entryOf? dir filter) := by
    refine Place.filterMap_eq_of_before ((t'.pairwise_filesBelow folder).filter _) ((t.pairwise_filesBelow folder).filter _)
      fun q hq => ?_
    have hrecord := look?_record hkept h folder hq
    have hstorable := storable_below hdisk folder q
    rw [mem_places_iff hlocate hfolder hstorable,
      mem_places_iff hlocate' hfolder' fun content hlook => hstorable content ((hrecord content).1 hlook)]
    simp only [hrecord]
  rw [hentries]

theorem fetch_congr {category : String} (h : ∀ path, c.pathFor? category = some path → t'.find path = t.find path) :
    c.fetch t' category = c.fetch t category := by
  unfold fetch
  cases hpath : c.pathFor? category with
  | none => rfl
  | some path =>
    have hfind := h path hpath
    have hsize : sizeAt t' path = sizeAt t path := by rw [sizeAt, sizeAt, hfind]
    have hdocument : document t' path = document t path := by
      funext reading
      simp only [document, hfind]
    simp only [hsize, hdocument]

/-- A category whose records can be had is one of the catalogue. -/
theorem mem_categories_of_fetch {category : String} {records : List Json} (h : c.fetch t category = .ok (some records)) :
    category ∈ c.categories := by
  unfold fetch at h
  cases hpath : c.pathFor? category with
  | none => simp [hpath] at h
  | some path => exact List.mem_map_of_mem (f := Prod.fst) (mem_of_lookup hpath)

/-- A search leads to files: the path of a category finds the same file in a tree that keeps the folders and the record files. -/
theorem find_of_keepsFiles (hkept : KeepsRecordNames kept) (h : t.KeepsFiles kept t') (hdisk : t.OnDisk)
    (hscan : scan t dir maxDepth filter = .ok c) {category path : String} (hpath : c.pathFor? category = some path) :
    t'.find path = t.find path := by
  obtain ⟨folder, q, hlocate, hfolder, hq, hkind, rfl⟩ := exists_place_of_scan hscan hpath
  have hsome : (entryOf? dir filter q).isSome = true := by
    rw [entryOf?_eq, Option.isSome_map, hkind]
    rfl
  have hrecord := look?_record hkept h folder hsome
  obtain ⟨hne, ⟨content, hlook⟩, -, hshort⟩ := (mem_places_iff hlocate hfolder (storable_below hdisk folder q)).1 hq
  have hstorable := storable_below hdisk folder q content hlook
  have hfind := (FileTree.find_below_iff hlocate hfolder hne hstorable (.file content)).2 ⟨hshort, hlook⟩
  have hfind' := (FileTree.find_below_iff (h.keepsFolders.locate hlocate hfolder) (h.keepsFolders.isFolder folder hfolder)
    hne hstorable (.file content)).2 ⟨hshort, (hrecord content).2 hlook⟩
  rw [pathBelow, hfind, hfind']

/-- The categories have the same records in a tree that keeps the folders and the record files. -/
theorem fetch_of_keepsFiles (hkept : KeepsRecordNames kept) (h : t.KeepsFiles kept t') (hdisk : t.OnDisk)
    (hscan : scan t dir maxDepth filter = .ok c) (category : String) : c.fetch t' category = c.fetch t category :=
  fetch_congr fun _ hpath => find_of_keepsFiles hkept h hdisk hscan hpath

theorem loadBatch_congr (h : ∀ category, c.fetch t' category = c.fetch t category) (categories : List String) :
    c.loadBatch t' categories = c.loadBatch t categories := by
  induction categories with
  | nil => rfl
  | cons category rest ih => rw [loadBatch, loadBatch, h category, ih]

end Catalogue

end RecordSheets
