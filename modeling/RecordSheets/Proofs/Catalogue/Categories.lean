import RecordSheets.Catalogue
import RecordSheets.Proofs.Files.Walk

/-!
# The categories of a catalogue

A catalogue has each category once (`Catalogue.nodup_categories`). A category is the name of a record file without its ending, or one
of the known ones, so it has no slash in it where no file name has (`Catalogue.noSlash_of_scan`).
-/

namespace RecordSheets

theorem Path.mem_of_mem_stem {name stem ending : String} (h : splitExtension name = (stem, some ending)) {c : Char}
    (hc : c ∈ stem.toList) : c ∈ name.toList := by
  unfold splitExtension at h
  dsimp only at h
  split at h
  · cases h
  · cases h
  · rename_i dot back hlong hback
    cases h
    rw [String.toList_ofList, List.mem_reverse] at hc
    have hmem : c ∈ name.toList.reverse :=
      (List.dropWhile_sublist (· != '.')).subset (hback ▸ List.mem_cons_of_mem dot hc)
    exact List.mem_reverse.1 hmem

namespace Catalogue

/-! ## Each category once -/

theorem firsts_sublist (seen : List String) (entries : List (String × String)) :
    (firsts seen entries).Sublist entries := by
  induction entries generalizing seen with
  | nil => exact List.Sublist.refl _
  | cons x rest ih =>
    rw [firsts]
    split
    · exact (ih seen).cons x
    · exact (ih _).cons_cons x

/-- The first entries of categories belong to categories that were not seen. -/
theorem not_mem_seen_of_mem_firsts {seen : List String} {entries : List (String × String)} {x : String × String}
    (h : x ∈ firsts seen entries) : x.1 ∉ seen := by
  induction entries generalizing seen with
  | nil => simp [firsts] at h
  | cons y rest ih =>
    rw [firsts] at h
    split at h
    · exact ih h
    · rename_i hy
      rcases List.mem_cons.1 h with rfl | h
      · simpa using hy
      · exact fun hseen => ih h (List.mem_cons_of_mem _ hseen)

/-- The first entries of categories belong to different ones. -/
theorem nodup_firsts (seen : List String) (entries : List (String × String)) :
    ((firsts seen entries).map Prod.fst).Nodup := by
  induction entries generalizing seen with
  | nil => exact List.nodup_nil
  | cons x rest ih =>
    rw [firsts]
    split
    · exact ih seen
    · refine List.nodup_cons.2 ⟨fun hmem => ?_, ih _⟩
      obtain ⟨y, hy, heq⟩ := List.mem_map.1 hmem
      exact not_mem_seen_of_mem_firsts hy (heq ▸ List.mem_cons_self)

variable {t : FileTree} {dir : String} {maxDepth : Option Nat} {filter : CategoryFilter} {c : Catalogue}

/-- A scan finds the first entry of each category below a folder. -/
theorem entries_of_scan (h : scan t dir maxDepth filter = .ok c) :
    ∃ folder, t.locate dir = .ok folder ∧
      c.entries = firsts [] ((places t dir folder maxDepth).filterMap (entryOf? dir filter)) := by
  unfold scan at h
  split at h
  · cases h
  · rename_i folder hlocate
    split at h
    · cases h
      exact ⟨folder, hlocate, rfl⟩
    · cases h

/-- A scan finds each category once. -/
theorem nodup_categories (h : scan t dir maxDepth filter = .ok c) : c.categories.Nodup := by
  obtain ⟨folder, -, hentries⟩ := entries_of_scan h
  rw [categories, hentries]
  exact nodup_firsts [] _

/-- A scan of a tree that lists the files of the folder in order already finds the first ones of these files. Sorting does not
evaluate, this does. -/
theorem scan_of_inOrder {folder : Place} {files : List Place} (hlocate : t.locate dir = .ok folder)
    (hfolder : t.isFolder folder = true)
    (hfiles : ((t.below folder).filterMap fun x => if x.2 = .folder then none else some x.1) = files)
    (hsorted : files.Pairwise fun p q => FileTree.Place.le p q = true) :
    scan t dir maxDepth filter = .ok { entries := firsts [] <|
      (files.filter fun q => within maxDepth q && t.hasFile (pathBelow dir q)).filterMap (entryOf? dir filter) } := by
  rw [scan, hlocate]
  simp only [hfolder, if_true, places, FileTree.filesBelow, hfiles]
  rw [List.mergeSort_of_pairwise hsorted]

/-! ## Names of categories -/

/-- A category of a scan is that of a record file which the tree shows below the folder. -/
theorem exists_recordFile_of_scan (h : scan t dir maxDepth filter = .ok c) {category : String}
    (hmem : category ∈ c.categories) :
    ∃ place q e name, t.look? (place ++ q) = some e ∧ recordFile? q = some (category, name) := by
  obtain ⟨folder, -, hentries⟩ := entries_of_scan h
  obtain ⟨x, hx, rfl⟩ := List.mem_map.1 hmem
  rw [hentries] at hx
  obtain ⟨q, hq, hentry⟩ := List.mem_filterMap.1 ((firsts_sublist _ _).subset hx)
  have hfiles : q ∈ t.filesBelow folder := (List.mem_filter.1 hq).1
  rw [FileTree.filesBelow, List.mem_mergeSort] at hfiles
  obtain ⟨y, hy, hfile⟩ := List.mem_filterMap.1 hfiles
  obtain rfl : y.1 = q := by
    split at hfile
    · cases hfile
    · exact Option.some.inj hfile
  obtain ⟨z, hz, hfound⟩ := Option.bind_eq_some_iff.1 hentry
  dsimp only at hfound
  split at hfound
  · cases hfound
    exact ⟨folder, y.1, y.2, z.2, (FileTree.mem_below_iff.1 hy).2, hz⟩
  · cases hfound

/-- The known categories have no slash in them. -/
theorem noSlash_known {endpoint category : String} (h : categoryOf? endpoint = some category) : '/' ∉ category.toList := by
  have hall : ∀ x ∈ knownCategories, '/' ∉ x.1.toList := by decide
  obtain ⟨x, hx, rfl⟩ := Option.map_eq_some_iff.1 h
  exact hall x (List.mem_of_find?_eq_some hx)

/-- The category of a record file has no slash in it if the name of the file has none. -/
theorem noSlash_recordFile {q : Place} {category name : String} (h : recordFile? q = some (category, name))
    (hnames : ∀ name ∈ q, '/' ∉ name.toList) : '/' ∉ category.toList := by
  obtain ⟨last, hlast, hfile⟩ := Option.bind_eq_some_iff.1 h
  split at hfile
  · rename_i stem ending hsplit
    split at hfile
    · cases hfile
      cases hknown : categoryOf? stem with
      | some known => exact noSlash_known hknown
      | none => exact fun hc => hnames _ (List.mem_of_getLast? hlast) (Path.mem_of_mem_stem hsplit hc)
    · cases hfile
  · cases hfile

/-- The categories of a scan have no slash in them where no name in the tree has. -/
theorem noSlash_of_scan (h : scan t dir maxDepth filter = .ok c) (hslash : t.SlashFree) {category : String}
    (hmem : category ∈ c.categories) : '/' ∉ category.toList := by
  obtain ⟨place, q, e, name, hlook, hfile⟩ := exists_recordFile_of_scan h hmem
  exact noSlash_recordFile hfile fun n hn => hslash _ e hlook n (List.mem_append_right place hn)

end Catalogue

end RecordSheets
