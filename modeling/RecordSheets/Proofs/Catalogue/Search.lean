import Mathlib.Data.List.TakeWhile
import RecordSheets.Proofs.Catalogue.Categories
import RecordSheets.Proofs.Files.Below
import RecordSheets.Proofs.Files.Order

/-!
# What a search finds

A record file has a name with the ending of JSON files, belongs to the category of its stem and is taken by the filter
(`Catalogue.RecordFile`). A search lists every category that has such a file, once, with the first of its files, and lists them in
the order of the files (`Catalogue.Lists`). The files are those of the tree as long as their paths are not too long to be followed: a
file at the end of a longer path is left out (`Catalogue.not_lists_longPath`).
-/

namespace RecordSheets

/-! ## Stems and endings -/

/-- A file name without a dot has no ending. -/
theorem Path.splitExtension_of_noDot {name : String} (h : '.' ∉ name.toList) : splitExtension name = (name, none) := by
  have hdrop : name.toList.reverse.dropWhile (· != '.') = [] := by
    rw [List.dropWhile_eq_nil_iff]
    intro c hc
    rw [List.mem_reverse] at hc
    exact bne_iff_ne.2 (fun heq => h (heq ▸ hc))
  simp only [splitExtension, hdrop]

/-- A file name is cut at its last dot, unless nothing stands before it. -/
theorem Path.splitExtension_append (stem : String) {ending : String} (h : '.' ∉ ending.toList) :
    splitExtension (stem ++ "." ++ ending) =
      if stem = "" then (stem ++ "." ++ ending, none) else (stem, some ending) := by
  have hback : (stem ++ "." ++ ending).toList.reverse = ending.toList.reverse ++ '.' :: stem.toList.reverse := by
    simp [String.toList_append]
  have hall : ∀ c ∈ ending.toList.reverse, (c != '.') = true := by
    intro c hc
    rw [List.mem_reverse] at hc
    exact bne_iff_ne.2 (fun heq => h (heq ▸ hc))
  have htake : (ending.toList.reverse ++ '.' :: stem.toList.reverse).takeWhile (· != '.') = ending.toList.reverse := by
    rw [List.takeWhile_append_of_pos hall, List.takeWhile_cons_of_neg (by simp), List.append_nil]
  have hdrop : (ending.toList.reverse ++ '.' :: stem.toList.reverse).dropWhile (· != '.') = '.' :: stem.toList.reverse := by
    rw [List.dropWhile_append_of_pos hall, List.dropWhile_cons_of_neg (by simp)]
  simp only [splitExtension, hback, htake, hdrop]
  split
  · rename_i hnil
    cases hnil
  · rename_i hone
    have hempty : stem = "" := by simpa using (List.cons.inj hone).2
    rw [if_pos hempty]
  · rename_i stem' hlong heq
    cases heq
    rw [if_neg (fun hempty => hlong (by simp [hempty]))]
    simp

/-- A file name has a stem and an ending if they stand before and behind its last dot and the stem is not empty. -/
theorem Path.splitExtension_eq_some_iff {name stem ending : String} :
    splitExtension name = (stem, some ending) ↔
      name = stem ++ "." ++ ending ∧ stem ≠ "" ∧ '.' ∉ ending.toList := by
  constructor
  · intro h
    by_cases hdot : '.' ∈ name.toList
    · obtain ⟨back, front, hcut, hback⟩ := List.eq_append_cons_of_mem (List.mem_reverse.2 hdot)
      have hname : name = String.ofList front.reverse ++ "." ++ String.ofList back.reverse := by
        rw [← String.toList_inj, ← List.reverse_inj, hcut]
        simp [String.toList_append]
      have hending : '.' ∉ (String.ofList back.reverse).toList := by simpa using hback
      rw [hname, splitExtension_append _ hending] at h
      split at h
      · cases h
      · rename_i hstem
        cases h
        exact ⟨hname, hstem, hending⟩
    · rw [splitExtension_of_noDot hdot] at h
      cases h
  · rintro ⟨rfl, hstem, hending⟩
    rw [splitExtension_append stem hending, if_neg hstem]

/-- An ending that reads as that of JSON files has no dot in it. -/
theorem Path.noDot_of_json {ending : String} (h : ending.toList.map Char.toLower = ['j', 's', 'o', 'n']) :
    '.' ∉ ending.toList := by
  intro hdot
  have hmem := List.mem_map_of_mem (f := Char.toLower) hdot
  rw [h] at hmem
  exact absurd hmem (by decide)

namespace Catalogue

/-- A file below a folder that a search with a depth and a filter takes for a file of a category. -/
structure RecordFile (t : FileTree) (folder : Place) (maxDepth : Option Nat) (filter : CategoryFilter) (category : String)
    (q : Place) : Prop where
  /-- It is a file. -/
  isFile : ∃ content, t.look? (folder ++ q) = some (.file content)
  /-- It does not lie too deep. A file in the folder itself has depth 1. -/
  notTooDeep : ∀ depth, maxDepth = some depth → q.length ≤ depth
  /-- Its name has a stem and the ending of JSON files in small or capital letters, its category is that of the stem, and the
  filter takes the category or the name. -/
  named : ∃ stem ending, q.getLast? = some (stem ++ "." ++ ending) ∧ stem ≠ "" ∧
    ending.toList.map Char.toLower = ['j', 's', 'o', 'n'] ∧ category = (categoryOf? stem).getD stem ∧
    (filter.takes category = true ∨ filter.takes (stem ++ "." ++ ending) = true)

/-- A catalogue lists the categories of some files below a folder: it has each of them once, with the first of its files. -/
structure Lists (c : Catalogue) (dir : String) (files : String → Place → Prop) (sites : List (String × Place)) : Prop where
  /-- The entries are the categories with the paths of their files. -/
  entries : c.entries = sites.map fun site => (site.1, pathBelow dir site.2)
  /-- The entries stand in the order of the files. -/
  ordered : (sites.map Prod.snd).Pairwise Place.Before
  /-- No category is listed twice. -/
  distinct : c.categories.Nodup
  /-- A category is listed with a file exactly if this is its first file. -/
  first : ∀ category q, (category, q) ∈ sites ↔ files category q ∧ ∀ r, files category r → r = q ∨ q.Before r
  /-- No category that has a file is missing. -/
  complete : ∀ category q, files category q → category ∈ c.categories
  /-- The path of a category is that of its first file. -/
  pathFor? : ∀ category q, (category, q) ∈ sites → c.pathFor? category = some (pathBelow dir q)

/-! ## The first place of each category -/

/-- The first place of each category, for places with the categories that they may have, leaving out the categories in `seen`. -/
def firstPlaces (kind : Place → Option String) (seen : List String) : List Place → List (String × Place)
  | [] => []
  | q :: rest =>
    match kind q with
    | none => firstPlaces kind seen rest
    | some category =>
      if seen.contains category then firstPlaces kind seen rest
      else (category, q) :: firstPlaces kind (category :: seen) rest

/-- The first entries are those of the first places, if an entry is made from the category and the place. -/
theorem firsts_filterMap (kind : Place → Option String) (path : Place → String) (seen : List String) (qs : List Place) :
    firsts seen (qs.filterMap fun q => (kind q).map fun category => (category, path q)) =
      (firstPlaces kind seen qs).map fun site => (site.1, path site.2) := by
  induction qs generalizing seen with
  | nil => rfl
  | cons q rest ih =>
    cases hkind : kind q with
    | none => simpa [firstPlaces, hkind] using ih seen
    | some category =>
      simp only [firstPlaces, hkind, List.filterMap_cons, Option.map_some, firsts]
      split
      · exact ih seen
      · rw [List.map_cons, ih]

theorem firstPlaces_sublist (kind : Place → Option String) (seen : List String) (qs : List Place) :
    ((firstPlaces kind seen qs).map Prod.snd).Sublist qs := by
  induction qs generalizing seen with
  | nil => exact List.Sublist.refl _
  | cons q rest ih =>
    rw [firstPlaces]
    split
    · exact (ih seen).cons q
    · split
      · exact (ih seen).cons q
      · exact (ih _).cons_cons q

/-- Every category that a place has is listed, unless it was seen. -/
theorem mem_fst_firstPlaces {kind : Place → Option String} {seen : List String} {qs : List Place} {category : String}
    {q : Place} (hq : q ∈ qs) (hkind : kind q = some category) (hnew : category ∉ seen) :
    category ∈ (firstPlaces kind seen qs).map Prod.fst := by
  induction qs generalizing seen with
  | nil => cases hq
  | cons p rest ih =>
    rw [firstPlaces]
    rcases List.mem_cons.1 hq with rfl | hq
    · rw [hkind]
      simp [hnew]
    · split
      · exact ih hq hnew
      · rename_i first _
        split
        · exact ih hq hnew
        · rw [List.map_cons, List.mem_cons]
          by_cases hfirst : category = first
          · exact .inl hfirst
          · exact .inr (ih hq (by simp [hfirst, hnew]))

/-- A place is the first of those of some kind. -/
def IsFirst (files : Place → Prop) (q : Place) : Prop := files q ∧ ∀ r, files r → r = q ∨ q.Before r

section

variable {kind : Place → Option String} {category : String} {p : Place} {rest : List Place}

/-- A place that has another category does not count. -/
theorem isFirst_cons_of_ne (h : kind p ≠ some category) (q : Place) :
    IsFirst (fun r => r ∈ p :: rest ∧ kind r = some category) q ↔
      IsFirst (fun r => r ∈ rest ∧ kind r = some category) q := by
  have hmem : ∀ r, r ∈ p :: rest ∧ kind r = some category ↔ r ∈ rest ∧ kind r = some category := by
    intro r
    rw [List.mem_cons]
    refine ⟨fun hr => ⟨hr.1.resolve_left ?_, hr.2⟩, fun hr => ⟨.inr hr.1, hr.2⟩⟩
    rintro rfl
    exact h hr.2
  simp only [IsFirst, hmem]

/-- Of places in order, the front one is the first that has its category. -/
theorem isFirst_cons_self (hp : ∀ r ∈ rest, p.Before r) (h : kind p = some category) (q : Place) :
    IsFirst (fun r => r ∈ p :: rest ∧ kind r = some category) q ↔ q = p := by
  constructor
  · rintro ⟨⟨hq, -⟩, hfirst⟩
    rcases List.mem_cons.1 hq with rfl | hq
    · rfl
    · rcases hfirst p ⟨List.mem_cons_self, h⟩ with rfl | hbefore
      · rfl
      · exact absurd (hp q hq) hbefore.asymm
  · rintro rfl
    exact ⟨⟨List.mem_cons_self, h⟩, fun r hr => (List.mem_cons.1 hr.1).imp_right (hp r)⟩

end

/-- Of places in order, those that are listed are the first ones of their categories. -/
theorem mem_firstPlaces_iff {kind : Place → Option String} {seen : List String} {qs : List Place}
    (hqs : qs.Pairwise Place.Before) (category : String) (q : Place) :
    (category, q) ∈ firstPlaces kind seen qs ↔
      category ∉ seen ∧ IsFirst (fun r => r ∈ qs ∧ kind r = some category) q := by
  induction qs generalizing seen with
  | nil => simp [firstPlaces, IsFirst]
  | cons p rest ih =>
    obtain ⟨hp, hrest⟩ := List.pairwise_cons.1 hqs
    rw [firstPlaces]
    cases hkind : kind p with
    | none => rw [ih hrest, isFirst_cons_of_ne (by simp [hkind])]
    | some front =>
      dsimp only
      by_cases hcategory : front = category
      · subst hcategory
        rw [isFirst_cons_self hp hkind]
        by_cases hseen : front ∈ seen
        · rw [if_pos (by simpa using hseen), ih hrest]
          exact iff_of_false (fun h => h.1 hseen) (fun h => h.1 hseen)
        · -- The front place is listed; no other place of its category is, for from now on it was seen.
          rw [if_neg (by simpa using hseen), List.mem_cons, ih hrest]
          simp [hseen]
      · have hne : (category, q) ≠ (front, p) := fun h => hcategory (congrArg Prod.fst h).symm
        have hnot : category ≠ front := Ne.symm hcategory
        rw [isFirst_cons_of_ne (by simpa [hkind] using hcategory)]
        split
        · exact ih hrest
        · rw [List.mem_cons, ih hrest, List.mem_cons, not_or]
          simp [hne, hnot]

/-! ## Record files -/

/-- The category of the record file at a place, if there is one that the filter takes. -/
def categoryAt? (filter : CategoryFilter) (place : Place) : Option String :=
  (recordFile? place).bind fun x => if filter.takesCategory x.1 x.2 then some x.1 else none

/-- An entry is the category at a place with the path of the place. -/
theorem entryOf?_eq (dir : String) (filter : CategoryFilter) :
    entryOf? dir filter = fun q => (categoryAt? filter q).map fun category => (category, pathBelow dir q) := by
  funext q
  unfold entryOf? categoryAt?
  cases recordFile? q with
  | none => rfl
  | some x =>
    obtain ⟨category, name⟩ := x
    simp only [Option.bind_some]
    split <;> rfl

/-- The category at a place is that of the stem of a name with the ending of JSON files, if the filter takes it. -/
theorem categoryAt?_eq_some_iff {filter : CategoryFilter} {q : Place} {category : String} :
    categoryAt? filter q = some category ↔
      ∃ stem ending, q.getLast? = some (stem ++ "." ++ ending) ∧ stem ≠ "" ∧
        ending.toList.map Char.toLower = ['j', 's', 'o', 'n'] ∧ category = (categoryOf? stem).getD stem ∧
        (filter.takes category = true ∨ filter.takes (stem ++ "." ++ ending) = true) := by
  have htakes : ∀ stem name, filter.takesCategory ((categoryOf? stem).getD stem) name = true ↔
      filter.takes ((categoryOf? stem).getD stem) = true ∨ filter.takes name = true := by
    intro stem name
    rw [CategoryFilter.takesCategory, Bool.or_eq_true]
  constructor
  · intro h
    obtain ⟨x, hfile, hx⟩ := Option.bind_eq_some_iff.1 h
    obtain ⟨name, hlast, hkind⟩ := Option.bind_eq_some_iff.1 hfile
    split at hkind
    · rename_i stem ending hsplit
      obtain ⟨rfl, hstem, -⟩ := Path.splitExtension_eq_some_iff.1 hsplit
      split at hkind
      · rename_i hjson
        cases hkind
        split at hx
        · rename_i hfilter
          cases hx
          exact ⟨stem, ending, hlast, hstem, hjson, rfl, (htakes _ _).1 hfilter⟩
        · cases hx
      · cases hkind
    · cases hkind
  · rintro ⟨stem, ending, hlast, hstem, hjson, rfl, hfilter⟩
    have hsplit := Path.splitExtension_eq_some_iff.2 ⟨rfl, hstem, Path.noDot_of_json hjson⟩
    have hfile : recordFile? q = some ((categoryOf? stem).getD stem, stem ++ "." ++ ending) := by
      rw [recordFile?, hlast, Option.bind_some, hsplit]
      exact if_pos hjson
    rw [categoryAt?, hfile, Option.bind_some, if_pos ((htakes _ _).2 hfilter)]

variable {t : FileTree} {dir : String} {folder : Place}

/-- A scan finds a catalogue in a folder, and only there. -/
theorem scan_eq_ok_iff {maxDepth : Option Nat} {filter : CategoryFilter} {c : Catalogue} :
    scan t dir maxDepth filter = .ok c ↔
      ∃ folder, t.locate dir = .ok folder ∧ t.isFolder folder = true ∧
        { entries := firsts [] ((places t dir folder maxDepth).filterMap (entryOf? dir filter)) } = c := by
  unfold scan
  cases t.locate dir with
  | error e => exact iff_of_false nofun fun h => nomatch h
  | ok folder =>
    constructor
    · intro h
      dsimp only at h
      split at h
      · rename_i hfolder
        exact ⟨folder, rfl, hfolder, Except.ok.inj h⟩
      · cases h
    · rintro ⟨folder', hfound, hfolder, rfl⟩
      cases hfound
      exact if_pos hfolder

/-- The path of a category of a catalogue is that of a place which was searched and has the category. -/
theorem exists_place_of_scan {maxDepth : Option Nat} {filter : CategoryFilter} {c : Catalogue} {category path : String}
    (hscan : scan t dir maxDepth filter = .ok c) (hpath : c.pathFor? category = some path) :
    ∃ folder q, t.locate dir = .ok folder ∧ t.isFolder folder = true ∧ q ∈ places t dir folder maxDepth ∧
      categoryAt? filter q = some category ∧ pathBelow dir q = path := by
  obtain ⟨folder, hlocate, hfolder, rfl⟩ := scan_eq_ok_iff.1 hscan
  have hentry : (category, path) ∈ (places t dir folder maxDepth).filterMap (entryOf? dir filter) :=
    (firsts_sublist [] _).subset (mem_of_lookup hpath)
  obtain ⟨q, hq, hfound⟩ := List.mem_filterMap.1 hentry
  rw [entryOf?_eq] at hfound
  obtain ⟨category', hkind, hpair⟩ := Option.map_eq_some_iff.1 hfound
  obtain ⟨rfl, hbelow⟩ := Prod.mk.inj hpair
  exact ⟨folder, q, hlocate, hfolder, hq, hkind, hbelow⟩

/-- A place is searched for a record file if a file is there that does not lie too deep and can be reached by its path. -/
theorem mem_places_iff (hlocate : t.locate dir = .ok folder) (hfolder : t.isFolder folder = true) {maxDepth : Option Nat}
    {q : Place} (hstorable : ∀ content, t.look? (folder ++ q) = some (.file content) → ∀ name ∈ q, Path.Storable name) :
    q ∈ places t dir folder maxDepth ↔
      q ≠ [] ∧ (∃ content, t.look? (folder ++ q) = some (.file content)) ∧ within maxDepth q = true ∧
        (pathBelow dir q).utf8ByteSize ≤ FileTree.pathLimit := by
  rw [places, List.mem_filter, FileTree.mem_filesBelow_iff, Bool.and_eq_true, and_assoc]
  refine and_congr_right fun hne => and_congr_right fun hfile => and_congr_right fun _ => ?_
  obtain ⟨content, hlook⟩ := hfile
  have hfind := FileTree.find_below_iff hlocate hfolder hne (hstorable content hlook)
  constructor
  · intro h
    unfold FileTree.hasFile at h
    split at h
    · rename_i content' hfound
      exact ((hfind _).1 hfound).1
    · cases h
  · intro h
    have hfound := (hfind (.file content)).2 ⟨h, hlook⟩
    rw [FileTree.hasFile, pathBelow, hfound]

/-- On a disk the names of a file below a folder can be stored. -/
theorem storable_below (hdisk : t.OnDisk) (folder q : Place) (content : Bytes)
    (hlook : t.look? (folder ++ q) = some (.file content)) : ∀ name ∈ q, Path.Storable name :=
  fun name hname => hdisk _ _ hlook name (List.mem_append_right folder hname)

/-- The record files with paths that can be followed are the places that are searched and have the category. -/
theorem recordFile_iff (hdisk : t.OnDisk) (hlocate : t.locate dir = .ok folder) (hfolder : t.isFolder folder = true)
    {maxDepth : Option Nat} {filter : CategoryFilter} {category : String} {q : Place} :
    q ∈ places t dir folder maxDepth ∧ categoryAt? filter q = some category ↔
      RecordFile t folder maxDepth filter category q ∧ (pathBelow dir q).utf8ByteSize ≤ FileTree.pathLimit := by
  have hwithin : within maxDepth q = true ↔ ∀ depth, maxDepth = some depth → q.length ≤ depth := by
    cases maxDepth <;> simp [within]
  rw [mem_places_iff hlocate hfolder (storable_below hdisk folder q), categoryAt?_eq_some_iff, hwithin]
  constructor
  · rintro ⟨⟨-, hfile, hdepth, hshort⟩, hnamed⟩
    exact ⟨⟨hfile, hdepth, hnamed⟩, hshort⟩
  · rintro ⟨h, hshort⟩
    have hne : q ≠ [] := by
      rintro rfl
      obtain ⟨stem, ending, hlast, -⟩ := h.named
      cases hlast
    exact ⟨⟨hne, h.isFile, h.notTooDeep, hshort⟩, h.named⟩

/-- A catalogue of the first entries lists the files that the entries are made from. -/
theorem lists_of_firsts {kind : Place → Option String} {qs : List Place} (hqs : qs.Pairwise Place.Before) {c : Catalogue}
    (hc : c.entries = firsts [] (qs.filterMap fun q => (kind q).map fun category => (category, pathBelow dir q)))
    {files : String → Place → Prop} (hfiles : ∀ category q, q ∈ qs ∧ kind q = some category ↔ files category q) :
    c.Lists dir files (firstPlaces kind [] qs) := by
  have hdistinct : c.categories.Nodup := by
    rw [categories, hc]
    exact nodup_firsts [] _
  have hentries : c.entries = (firstPlaces kind [] qs).map fun site => (site.1, pathBelow dir site.2) := by
    rw [hc, firsts_filterMap]
  constructor
  case entries => exact hentries
  case ordered => exact hqs.sublist (firstPlaces_sublist kind [] qs)
  case distinct => exact hdistinct
  case first =>
    intro category q
    rw [mem_firstPlaces_iff hqs]
    simp only [IsFirst, hfiles, List.not_mem_nil, not_false_eq_true, true_and]
  case complete =>
    intro category q hfile
    obtain ⟨hq, hkind⟩ := (hfiles category q).2 hfile
    rw [categories, hentries, List.map_map]
    exact mem_fst_firstPlaces hq hkind List.not_mem_nil
  case pathFor? =>
    intro category q hsite
    have hentry : (category, pathBelow dir q) ∈ c.entries := by
      rw [hentries]
      exact List.mem_map_of_mem (f := fun site => (site.1, pathBelow dir site.2)) hsite
    exact lookup_of_nodup hdistinct hentry

/-- A scan of a folder lists the record files in it whose paths are not too long to be followed. -/
theorem scan_lists (hdisk : t.OnDisk) (hdir : t.hasFolder dir = true) (maxDepth : Option Nat) (filter : CategoryFilter) :
    ∃ folder c sites, t.locate dir = .ok folder ∧ scan t dir maxDepth filter = .ok c ∧
      c.Lists dir (fun category q => RecordFile t folder maxDepth filter category q ∧
        (pathBelow dir q).utf8ByteSize ≤ FileTree.pathLimit) sites := by
  obtain ⟨folder, hlocate, hfolder⟩ := FileTree.hasFolder_iff.1 hdir
  have hplaces : (places t dir folder maxDepth).Pairwise Place.Before := (t.pairwise_filesBelow folder).filter _
  refine ⟨folder, _, _, hlocate, scan_eq_ok_iff.2 ⟨folder, hlocate, hfolder, rfl⟩,
    lists_of_firsts hplaces ?_ fun category q => recordFile_iff hdisk hlocate hfolder⟩
  exact congrArg (fun entry => firsts [] ((places t dir folder maxDepth).filterMap entry)) (entryOf?_eq dir filter)

/-- A folder with two files of one category, in order, of which the second alone is named for an endpoint. -/
def aliased : FileTree :=
  ⟨[("in", .folder [("hull.json", .file []), ("a", .folder [("船体.json", .file [])])])], []⟩

/-- A file that the filter does not take leaves its category to a later one. -/
theorem scan_lists_aliased :
    aliased.OnDisk ∧ aliased.hasFolder "in" = true ∧
      ∃ c, scan aliased "in" none ⟨Glob.ofString? "hull*"⟩ = .ok c ∧ c.pathFor? "船体" = some "in/hull.json" := by
  have hdisk : aliased.OnDisk := by decide
  have hdir : aliased.hasFolder "in" = true := by decide
  obtain ⟨folder, c, sites, hlocate, hscan, hlists⟩ := scan_lists hdisk hdir none ⟨Glob.ofString? "hull*"⟩
  obtain rfl : ["in"] = folder := by
    have hin : aliased.locate "in" = .ok ["in"] := by rfl
    exact Except.ok.inj (hin.symm.trans hlocate)
  have hbelow : aliased.below ["in"] =
      [(["hull.json"], .file []), (["a"], .folder), (["a", "船体.json"], .file [])] := by rfl
  refine ⟨hdisk, hdir, c, hscan, hlists.pathFor? "船体" ["hull.json"] ?_⟩
  have hfile : RecordFile aliased ["in"] none ⟨Glob.ofString? "hull*"⟩ "船体" ["hull.json"] :=
    ⟨⟨[], by rfl⟩, by rintro _ ⟨⟩, "hull", "json", by rfl, by decide, by decide, by decide, .inr (by decide)⟩
  refine (hlists.first "船体" ["hull.json"]).2 ⟨⟨hfile, by decide⟩, fun r hr => ?_⟩
  obtain ⟨content, hlook⟩ := hr.1.isFile
  have hkind := categoryAt?_eq_some_iff.2 hr.1.named
  have hmem : (r, .file content) ∈ aliased.below ["in"] := by
    refine FileTree.mem_below_iff.2 ⟨?_, hlook⟩
    rintro rfl
    cases hkind
  rw [hbelow] at hmem
  rcases List.mem_cons.1 hmem with heq | hmem
  · cases heq
    exact .inl rfl
  · obtain ⟨rfl, -⟩ : r = ["a", "船体.json"] ∧ content = [] := by simpa using hmem
    exact absurd hkind (by decide)

/-! ## Long paths -/

/-- The path of the folder `in` with a number of single dots behind it. -/
def dotted : Nat → String
  | 0 => "in"
  | n + 1 => dotted n ++ "/" ++ "."

theorem utf8ByteSize_dotted (n : Nat) : (dotted n).utf8ByteSize = 2 + 2 * n := by
  induction n with
  | zero => rfl
  | succ n ih =>
    rw [dotted, String.utf8ByteSize_append, String.utf8ByteSize_append, ih]
    have hslash : ("/" : String).utf8ByteSize = 1 := rfl
    have hdot : ("." : String).utf8ByteSize = 1 := rfl
    omega

theorem join_dotted (n : Nat) {name : String} (h : '/' ∉ name.toList) :
    Path.join (dotted n) name = dotted n ++ "/" ++ name := by
  rw [Path.join, Path.isAbsolute_of_noSlash h, if_neg Bool.false_ne_true, if_neg]
  cases n <;> simp [dotted, String.toList_append]

theorem noNul_dotted (n : Nat) : Char.ofNat 0 ∉ (dotted n).toList := by
  induction n with
  | zero => decide
  | succ n ih =>
    rw [dotted, String.toList_append, String.toList_append, List.mem_append, List.mem_append]
    exact not_or.2 ⟨not_or.2 ⟨ih, by decide⟩, by decide⟩

/-- The names of the path lead to the folder, whatever the number of dots. -/
theorem follow_dotted {t : FileTree} {p q : Place} (hp : t.step p "in" = .ok q) (hq : t.isFolder q = true) (n : Nat) :
    t.follow p (Path.names (dotted n)) = .ok q := by
  induction n with
  | zero =>
    have hnames : Path.names (dotted 0) = ["in"] := by rfl
    rw [hnames, FileTree.follow_cons, hp]
    rfl
  | succ n ih =>
    have hnames : Path.names (dotted (n + 1)) = Path.names (dotted n) ++ ["."] := Path.names_append_slash (dotted n) "."
    rw [hnames, FileTree.follow_append, ih, Except.bind, FileTree.follow_cons, FileTree.step_eq, FileTree.isFolder_iff.1 hq]
    rfl

/-- A folder with one record file. -/
def single : FileTree := ⟨[("in", .folder [("hull.json", .file [0x5B, 0x5D])])], []⟩

/-- The path leads to the folder as long as it is not too long itself. -/
theorem locate_single {n : Nat} (hn : n ≤ 2046) : single.locate (dotted n) = .ok ["in"] := by
  have hsize := utf8ByteSize_dotted n
  have hcheck : FileTree.checkPath (dotted n) = .ok () := by
    refine FileTree.checkPath_eq_ok.2 ⟨noNul_dotted n, fun hempty => ?_, ?_⟩
    · rw [hempty] at hsize
      simp at hsize
      omega
    · rw [hsize, FileTree.pathLimit]
      omega
  have horigin : single.origin (dotted n) = [] := by
    rw [FileTree.origin]
    split <;> rfl
  have hfollow : single.follow [] (Path.names (dotted n)) = .ok ["in"] := follow_dotted (by rfl) (by decide) n
  rw [FileTree.locate, hcheck, horigin]
  exact hfollow

/-- A record file whose path has more bytes than a path may have is not listed. -/
theorem not_lists_longPath :
    single.OnDisk ∧ single.hasFolder (dotted 2046) = true ∧
      ¬∃ folder c sites, single.locate (dotted 2046) = .ok folder ∧ scan single (dotted 2046) none .all = .ok c ∧
        c.Lists (dotted 2046) (RecordFile single folder none .all) sites := by
  have hdisk : single.OnDisk := by decide
  have hlocate := locate_single (Nat.le_refl 2046)
  have hfind : single.find (dotted 2046) = .ok .folder := by
    rw [FileTree.find, hlocate]
    rfl
  refine ⟨hdisk, by rw [FileTree.hasFolder, hfind], ?_⟩
  rintro ⟨folder, c, sites, hfolder, hscan, hlists⟩
  obtain rfl : ["in"] = folder := Except.ok.inj (hlocate.symm.trans hfolder)
  have hfile : RecordFile single ["in"] none .all "船体" ["hull.json"] :=
    ⟨⟨_, by rfl⟩, by rintro _ ⟨⟩, "hull", "json", by rfl, by decide, by decide, by decide, .inl (by decide)⟩
  have hlisted := hlists.complete "船体" ["hull.json"] hfile
  have hnone : places single (dotted 2046) ["in"] none = [] := by
    refine List.eq_nil_iff_forall_not_mem.2 fun q hq => ?_
    obtain ⟨hne, ⟨content, hlook⟩, -, hshort⟩ := (mem_places_iff hlocate (by decide) (storable_below hdisk _ q)).1 hq
    have hmem := FileTree.mem_below_iff.2 ⟨hne, hlook⟩
    have hbelow : single.below ["in"] = [(["hull.json"], .file [0x5B, 0x5D])] := by rfl
    rw [hbelow] at hmem
    obtain ⟨rfl, -⟩ : q = ["hull.json"] ∧ content = [0x5B, 0x5D] := by simpa using hmem
    rw [pathBelow, String.intercalate_singleton, join_dotted 2046 (by decide), String.utf8ByteSize_append,
      String.utf8ByteSize_append, utf8ByteSize_dotted] at hshort
    exact absurd hshort (by decide)
  obtain ⟨folder, hfolder', hentries⟩ := entries_of_scan hscan
  obtain rfl : ["in"] = folder := Except.ok.inj (hlocate.symm.trans hfolder')
  rw [categories, hentries, hnone] at hlisted
  cases hlisted

end Catalogue

end RecordSheets
