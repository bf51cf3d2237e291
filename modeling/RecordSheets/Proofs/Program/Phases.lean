import RecordSheets.Program.Run
import RecordSheets.Proofs.Files.Writing

/-!
# The phases of a run

A run that finds categories (`Run.Finds`) goes on with them, all others leave the files as they are. A conversion first sees to the
output folder (`Run.prepared`): then there is one, or there can be none and seeing to it again changes nothing. The error log and the
report are files that a run writes if they are wanted (`Run.Filed`): it goes on with the file written, or ends where the path is refused.
-/

namespace RecordSheets

theorem FileTree.hasPath_of_hasFolder {t : FileTree} {path : String} (h : t.hasFolder path = true) : t.hasPath path = true := by
  unfold hasFolder at h
  unfold hasPath
  split at h
  · rename_i hfind
    rw [hfind]
  · cases h

/-- A pattern gives no filter exactly if it is no glob. -/
theorem CategoryFilter.ofPattern_eq_error_iff {pattern : Option String} :
    (∃ e, ofPattern pattern = .error e) ↔ ∃ text, pattern = some text ∧ Glob.ofString? text = none := by
  unfold ofPattern
  cases pattern with
  | none => simp
  | some text => cases hglob : Glob.ofString? text <;> simp [hglob]

/-- A folder can be searched. -/
theorem Catalogue.exists_scan {t : FileTree} {dir : String} (h : t.hasFolder dir = true) (maxDepth : Option Nat)
    (filter : CategoryFilter) : ∃ c, scan t dir maxDepth filter = .ok c := by
  obtain ⟨d, hlocate, hd⟩ := FileTree.hasFolder_iff.1 h
  unfold scan
  rw [hlocate]
  exact ⟨_, if_pos hd⟩

namespace Run

/-! ## The input -/

/-- A run finds a catalogue with categories to work on. -/
structure Finds (o : Options) (t : FileTree) (c : Catalogue) : Prop where
  /-- The input is a folder. -/
  input : t.hasFolder o.input = true
  /-- The catalogue is found in it, with the pattern of the options. -/
  scanned : ∃ filter, CategoryFilter.ofPattern o.pattern = .ok filter ∧ Catalogue.scan t o.input o.maxDepth filter = .ok c
  /-- There are categories. -/
  categories : c.categories ≠ []

variable {o : Options} {t : FileTree} {c : Catalogue}

theorem Finds.unique {c' : Catalogue} (h : Finds o t c) (h' : Finds o t c') : c = c' := by
  obtain ⟨filter, hfilter, hscan⟩ := h.scanned
  obtain ⟨filter', hfilter', hscan'⟩ := h'.scanned
  obtain rfl : filter = filter' := Except.ok.inj (hfilter.symm.trans hfilter')
  exact Except.ok.inj (hscan.symm.trans hscan')

/-- The input of a run is no folder or its pattern no glob. -/
inductive Barred (o : Options) (t : FileTree) : Prop
  /-- The path of the input leads to nothing. -/
  | noInput : t.hasPath o.input = false → Barred o t
  /-- The path of the input leads to no folder. -/
  | noFolder : t.hasFolder o.input = false → Barred o t
  /-- The pattern is no glob. -/
  | badPattern {text : String} : o.pattern = some text → Glob.ofString? text = none → Barred o t

/-- Only with a folder and a glob a run finds categories. -/
theorem Barred.not_finds (h : Barred o t) (c : Catalogue) : ¬Finds o t c := by
  intro hfinds
  cases h with
  | noInput hno =>
    rw [FileTree.hasPath_of_hasFolder hfinds.input] at hno
    cases hno
  | noFolder hno =>
    rw [hfinds.input] at hno
    cases hno
  | badPattern htext hglob =>
    obtain ⟨filter, hfilter, -⟩ := hfinds.scanned
    obtain ⟨e, herror⟩ := CategoryFilter.ofPattern_eq_error_iff.2 ⟨_, htext, hglob⟩
    rw [herror] at hfilter
    cases hfilter

/-- A run that finds a catalogue goes on with its categories. -/
theorem ofOptions_of_finds (h : Finds o t c) (clock : Clock) :
    ofOptions o clock t = after (Console.header o) (after (Console.found c.categories.length)
      (if o.dryRun then done t (Console.dryRun c)
      else if o.validateOnly then validate o clock t c.categories
      else withOutput o t (publish o clock c))) := by
  obtain ⟨filter, hfilter, hscan⟩ := h.scanned
  have hsome : c.categories.isEmpty ≠ true := by simpa using h.categories
  unfold ofOptions search
  rw [FileTree.hasPath_of_hasFolder h.input, h.input, hfilter]
  simp only [hscan, withCatalogue, if_neg hsome]
  rfl

/-- A run that finds no catalogue leaves the files as they are. -/
theorem tree_ofOptions_of_not_finds (h : ∀ c, ¬Finds o t c) (clock : Clock) : (ofOptions o clock t).tree = t := by
  unfold ofOptions
  split
  · rfl
  · split
    · rfl
    · rename_i hinput
      unfold search
      split
      · rfl
      · rename_i filter hfilter
        split
        · rfl
        · rename_i c hscan
          unfold withCatalogue
          split
          · rfl
          · rename_i hsome
            exact absurd ⟨by simpa using hinput, ⟨filter, hfilter, hscan⟩, by simpa using hsome⟩ (h c)

/-! ## The output folder -/

/-- The files with the output folder made if it is missing, and the error if it could not be made. -/
def prepared (o : Options) (t : FileTree) : FileTree × Option SystemError :=
  if t.hasFolder o.output then (t, none) else t.makeFolders o.output

/-- Seeing to the output folder adds folders. -/
theorem addsFolders_prepared (o : Options) (t : FileTree) : t.AddsFolders (prepared o t).1 := by
  unfold prepared
  split
  · exact .refl t
  · exact (t.makeFolders_spec o.output).1

/-- If no error comes, the output folder is there. -/
theorem hasFolder_prepared (h : (prepared o t).2 = none) : (prepared o t).1.hasFolder o.output = true := by
  unfold prepared at h ⊢
  split
  · assumption
  · rename_i hnot
    rw [if_neg hnot] at h
    exact (t.makeFolders_spec o.output).2.1 h

/-- If an error comes, it comes again, and the files stay as they are. -/
theorem prepared_again {e : SystemError} (h : (prepared o t).2 = some e) :
    (prepared o (prepared o t).1).1 = (prepared o t).1 ∧ (prepared o (prepared o t).1).2 ≠ none := by
  unfold prepared at h
  split at h
  · cases h
  · rename_i hnot
    obtain ⟨hmissing, hsame⟩ := (t.makeFolders_spec o.output).2.2 e h
    have hfirst : prepared o t = t.makeFolders o.output := if_neg hnot
    have hagain : prepared o (t.makeFolders o.output).1 = (t.makeFolders o.output).1.makeFolders o.output :=
      if_neg (by rw [hmissing]; exact Bool.false_ne_true)
    rw [hfirst, hagain]
    refine ⟨hsame, fun hnone => ?_⟩
    have hthere := ((t.makeFolders o.output).1.makeFolders_spec o.output).2.1 hnone
    rw [hsame, hmissing] at hthere
    cases hthere

/-- With the output folder at hand a run goes on, and says so in one line. -/
theorem withOutput_of_prepared (h : (prepared o t).2 = none) (goOn : FileTree → Run) :
    ∃ line, withOutput o t goOn = after [line] (goOn (prepared o t).1) := by
  unfold prepared at h ⊢
  unfold withOutput
  split
  · exact ⟨_, rfl⟩
  · rename_i hnot
    rw [if_neg hnot] at h
    cases hmake : t.makeFolders o.output with
    | mk made error =>
      rw [hmake] at h
      cases h
      exact ⟨_, rfl⟩

/-- Without an output folder a run ends with the folders that were made. -/
theorem withOutput_of_error {e : SystemError} (h : (prepared o t).2 = some e) (goOn : FileTree → Run) :
    withOutput o t goOn = halt (prepared o t).1 (.outputFolder o.output e) := by
  unfold prepared at h ⊢
  unfold withOutput
  split
  · rename_i hthere
    rw [if_pos hthere] at h
    cases h
  · rename_i hnot
    rw [if_neg hnot] at h
    cases hmake : t.makeFolders o.output with
    | mk made error =>
      rw [hmake] at h
      cases h
      rfl

/-! ## Files of its own -/

/-- What becomes of a run that writes a file by a path, if one is given, before it goes on. -/
inductive Filed (path? : Option String) (t : FileTree) (goOn : FileTree → Run) : Run → Prop
  /-- No file is wanted. -/
  | unwanted : path? = none → Filed path? t goOn (goOn t)
  /-- The file is written, and the run says so and goes on. -/
  | written {path : String} {q : Place} (content : Bytes) (lines : List String) :
    path? = some path → t.slot path = .ok q → Filed path? t goOn (after lines (goOn (t.put q (.file content))))
  /-- The path is refused, and the run ends. -/
  | refused {path : String} (stop : Stop) : path? = some path → t.Refuses path → Filed path? t goOn (halt t stop)

/-- A run writes its error log if one is wanted. -/
theorem filed_withLog (o : Options) (clock : Clock) (errors : List (String × String)) (t : FileTree) (goOn : FileTree → Run) :
    Filed o.log t goOn (withLog o clock errors t goOn) := by
  unfold withLog
  split
  · rename_i hnone
    exact .unwanted hnone
  · rename_i path hsome
    rcases t.write_cases path (Utf8.encode (Console.errorLog clock.unixSeconds errors)) with
      ⟨e, hwrite, hrefuses⟩ | ⟨q, hwrite, hslot, -⟩
    · rw [hwrite]
      exact .refused _ hsome hrefuses
    · rw [hwrite]
      exact .written _ _ hsome hslot

/-- A run writes its report if one is wanted. -/
theorem filed_withReport (o : Options) (report : Report) (t : FileTree) (goOn : FileTree → Run) :
    Filed o.report t goOn (withReport o report t goOn) := by
  unfold withReport
  split
  · rename_i hnone
    exact .unwanted hnone
  · rename_i path hsome
    rcases t.write_cases path (Utf8.encode report.toJson.pretty) with ⟨e, hwrite, hrefuses⟩ | ⟨q, hwrite, hslot, -⟩
    · rw [hwrite]
      exact .refused _ hsome hrefuses
    · rw [hwrite]
      exact .written _ _ hsome hslot

namespace Filed

variable {path? : Option String} {goOn : FileTree → Run} {r : Run} (h : Filed path? t goOn r)
include h

/-- Such a run writes what it writes later, and at most the file. -/
theorem writesOnly {paths : String → Prop} (hpath : ∀ path, path? = some path → paths path)
    (hlater : ∀ t', FileTree.WritesOnly paths t' (goOn t').tree) : FileTree.WritesOnly paths t r.tree := by
  cases h with
  | unwanted hnone => exact hlater t
  | written content lines hsome hslot => exact (FileTree.WritesOnly.of_slot hslot (hpath _ hsome) content).trans (hlater _)
  | refused stop hsome hrefuses => exact .refl paths t

/-- Such a run ends early if the path is refused, or later. -/
theorem stops_iff {later : Prop}
    (hlater : ∀ t' : FileTree, t.KeepsFolders t' → t'.KeepsFolders t → ((goOn t').stop.isSome = true ↔ later)) :
    r.stop.isSome = true ↔ (∃ path, path? = some path ∧ t.Refuses path) ∨ later := by
  cases h with
  | unwanted hnone =>
    rw [hlater t ⟨rfl, fun _ h => h⟩ ⟨rfl, fun _ h => h⟩, hnone]
    simp
  | written content lines hsome hslot =>
    have hgoes : ¬∃ path, path? = some path ∧ t.Refuses path := by
      rintro ⟨path, hpath, hrefuses⟩
      obtain rfl := Option.some.inj (hsome.symm.trans hpath)
      exact FileTree.refuses_iff.1 hrefuses _ hslot
    have hwrites : FileTree.WritesOnly (fun _ => True) t (t.put _ (.file content)) := .of_slot hslot trivial content
    rw [or_iff_right hgoes]
    exact hlater _ hwrites.toKeepsFolders hwrites.keepsFolders_back
  | refused stop hsome hrefuses => exact iff_of_true rfl (.inl ⟨_, hsome, hrefuses⟩)

/-- If all goes well later, such a run ends early exactly if the path is refused. -/
theorem stops_iff_of_last (hlast : ∀ t', (goOn t').stop = none) :
    r.stop.isSome = true ↔ ∃ path, path? = some path ∧ t.Refuses path := by
  rw [h.stops_iff fun t' _ _ => iff_of_false (by rw [hlast t']; exact Bool.false_ne_true) not_false, or_false]

end Filed

/-! ## Without files of its own -/

def conversion (o : Options) (c : Catalogue) (t : FileTree) : Conversion :=
  (publisher o).convert c t ⟨t, .ofFolder o.presetDir⟩

/-- A conversion without an error log and a report writes the sheets only. -/
theorem tree_publish_of_noFiles (hlog : o.log = none) (hreport : o.report = none) (clock : Clock) :
    (publish o clock c t).tree = (conversion o c t).tree := by
  simp only [publish, withLog, withReport, hlog, hreport, after, done]
  rfl

/-- A check without an error log writes nothing. -/
theorem tree_validate_of_noFiles (hlog : o.log = none) (clock : Clock) (categories : List String) :
    (validate o clock t categories).tree = t := by
  simp only [validate, withLog, hlog, after, done]

end Run

/-! ## The program -/

namespace Program

/-- Arguments that give no options leave the files as they are. -/
theorem tree_run_of_parse_error {args : List String} {e : UsageError} (h : CommandLine.parse args = .error e) (clock : Clock)
    (t : FileTree) : (run clock t args).tree = t := by
  unfold run
  rw [h]
  cases e <;> rfl

/-- The program leaves the files as the run of its options leaves them, and its status says whether this run ended early. -/
theorem run_of_parse {args : List String} {o : Options} (h : CommandLine.parse args = .ok o) (clock : Clock) (t : FileTree) :
    (run clock t args).tree = (Run.ofOptions o clock t).tree ∧
      (run clock t args).status = if (Run.ofOptions o clock t).stop.isSome then 1 else 0 := by
  unfold run
  rw [h]
  dsimp only
  cases (Run.ofOptions o clock t).stop <;> exact ⟨rfl, rfl⟩

end Program

end RecordSheets
