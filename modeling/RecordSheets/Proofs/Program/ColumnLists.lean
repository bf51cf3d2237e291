import Mathlib.Data.List.TakeWhile
import RecordSheets.CommandLine

/-!
# Lists of columns

The columns whose names are replaced are given as one text with commas. A text gives some names exactly if its entries, which stand
between the commas, are these names in order, with any blanks around each of them, and otherwise blank (`WrittenAs`): every way of writing
names is read back as these names, and every text there is is a way of writing the names that are read from it
(`Options.nameColumnList_writtenAs`).

Only the ends of a name matter for this. Blanks inside it stay, and so does everything else but a comma.
-/

namespace RecordSheets

namespace Text

/-! ## Blanks at the ends -/

/-- A text of blanks only. -/
def Blank (cs : List Char) : Prop := ∀ c ∈ cs, isBlank c = true

/-- A text that neither begins nor ends with a blank. -/
structure Trimmed (cs : List Char) : Prop where
  front : ∀ c, cs.head? = some c → isBlank c = false
  back : ∀ c, cs.getLast? = some c → isBlank c = false

theorem Blank.reverse {cs : List Char} (h : Blank cs) : Blank cs.reverse := fun c hc => h c (List.mem_reverse.1 hc)

theorem Blank.noComma {cs : List Char} (h : Blank cs) : ',' ∉ cs := by
  intro hmem
  cases h ',' hmem

/-- Nothing is dropped from a text that does not begin with a blank. -/
theorem dropWhile_isBlank_eq_self {cs : List Char} (h : ∀ c, cs.head? = some c → isBlank c = false) :
    cs.dropWhile isBlank = cs := by
  cases cs with
  | nil => rfl
  | cons c rest => rw [List.dropWhile_cons_of_neg (by simp [h c rfl])]

/-- What is left behind the blanks in front begins with none. -/
theorem isBlank_head_dropWhile {cs : List Char} {c : Char} (h : (cs.dropWhile isBlank).head? = some c) : isBlank c = false := by
  rw [← List.find?_not_eq_head?_dropWhile] at h
  simpa using List.find?_some h

/-- A blank text is stripped of everything. -/
theorem strip_of_blank {cs : List Char} (h : Blank cs) : strip cs = [] := by
  have hdrop : cs.dropWhile isBlank = [] := List.dropWhile_eq_nil_iff.2 h
  rw [strip, hdrop]
  rfl

/-- The blanks around a text that has none at its ends are stripped. -/
theorem strip_padded {before cs behind : List Char} (hbefore : Blank before) (hne : cs ≠ []) (h : Trimmed cs)
    (hbehind : Blank behind) : strip (before ++ cs ++ behind) = cs := by
  have hfront : (before ++ cs ++ behind).dropWhile isBlank = cs ++ behind := by
    rw [List.append_assoc, List.dropWhile_append_of_pos hbefore, dropWhile_isBlank_eq_self]
    obtain ⟨c, rest, rfl⟩ := List.exists_cons_of_ne_nil hne
    exact h.front
  have hback : (cs ++ behind).reverse.dropWhile isBlank = cs.reverse := by
    rw [List.reverse_append, List.dropWhile_append_of_pos hbehind.reverse, dropWhile_isBlank_eq_self]
    intro c hc
    rw [List.head?_reverse] at hc
    exact h.back c hc
  rw [strip, hfront, hback, List.reverse_reverse]

/-- A text is what is left after stripping it, with blanks around. -/
theorem exists_padded (cs : List Char) : ∃ before behind, Blank before ∧ Blank behind ∧ cs = before ++ strip cs ++ behind := by
  have hsplit (ds : List Char) : ds.takeWhile isBlank ++ ds.dropWhile isBlank = ds := List.takeWhile_append_dropWhile
  have hblank (ds : List Char) : Blank (ds.takeWhile isBlank) := fun c hc => List.mem_takeWhile_imp hc
  refine ⟨cs.takeWhile isBlank, ((cs.dropWhile isBlank).reverse.takeWhile isBlank).reverse, hblank cs, (hblank _).reverse, ?_⟩
  rw [strip, List.append_assoc, ← List.reverse_append, hsplit, List.reverse_reverse, hsplit]

/-- A stripped text neither begins nor ends with a blank. -/
theorem trimmed_strip (cs : List Char) : Trimmed (strip cs) := by
  constructor
  case front =>
    intro c hc
    obtain ⟨ending, hending⟩ := List.dropWhile_suffix isBlank (l := (cs.dropWhile isBlank).reverse)
    have hwhole : cs.dropWhile isBlank = strip cs ++ ending.reverse := by
      rw [strip, ← List.reverse_append, hending, List.reverse_reverse]
    have hhead : (cs.dropWhile isBlank).head? = some c := by
      rw [hwhole, List.head?_append, hc]
      rfl
    exact isBlank_head_dropWhile hhead
  case back =>
    intro c hc
    rw [strip, List.getLast?_reverse] at hc
    exact isBlank_head_dropWhile hc

end Text

/-! ## Names and their entries -/

/-- A name that can be written in a list. -/
structure Listable (name : String) : Prop where
  nonempty : name ≠ ""
  noComma : ',' ∉ name.toList
  trimmed : Text.Trimmed name.toList

/-- Entries of a list that write some names: the names in order, each with blanks around it, and blank entries between them, before and
behind them. -/
inductive WrittenAs : List String → List String → Prop where
  | nil : WrittenAs [] []
  | blank {names entries : List String} {entry : String} (hentry : Text.Blank entry.toList) (h : WrittenAs names entries) :
      WrittenAs names (entry :: entries)
  | name {names entries : List String} {before name behind : String} (hbefore : Text.Blank before.toList)
      (hname : Listable name) (hbehind : Text.Blank behind.toList) (h : WrittenAs names entries) :
      WrittenAs (name :: names) ((before ++ name ++ behind) :: entries)

/-- The names in some pieces of a text. -/
def namesIn (pieces : List (List Char)) : List String :=
  ((pieces.map Text.strip).filter fun name => !name.isEmpty).map String.ofList

/-- A piece has no name if nothing is left of it. -/
theorem namesIn_cons_of_strip_nil {piece : List Char} (h : Text.strip piece = []) (rest : List (List Char)) :
    namesIn (piece :: rest) = namesIn rest := by
  simp [namesIn, h]

/-- A piece has what is left of it as its name. -/
theorem namesIn_cons_of_strip {piece : List Char} (h : Text.strip piece ≠ []) (rest : List (List Char)) :
    namesIn (piece :: rest) = String.ofList (Text.strip piece) :: namesIn rest := by
  simp [namesIn, h]

namespace WrittenAs

theorem listable {names entries : List String} (h : WrittenAs names entries) : ∀ name ∈ names, Listable name := by
  induction h with
  | nil => simp
  | blank _ _ ih => exact ih
  | name _ hname _ _ ih => exact List.forall_mem_cons.2 ⟨hname, ih⟩

theorem noComma {names entries : List String} (h : WrittenAs names entries) : ∀ entry ∈ entries, ',' ∉ entry.toList := by
  induction h with
  | nil => simp
  | blank hentry _ ih => exact List.forall_mem_cons.2 ⟨hentry.noComma, ih⟩
  | name hbefore hname hbehind _ ih =>
    refine List.forall_mem_cons.2 ⟨?_, ih⟩
    simp only [String.toList_append, List.mem_append, not_or]
    exact ⟨⟨hbefore.noComma, hname.noComma⟩, hbehind.noComma⟩

/-- The names are found in their entries. -/
theorem namesIn_entries {names entries : List String} (h : WrittenAs names entries) :
    namesIn (entries.map String.toList) = names := by
  induction h with
  | nil => rfl
  | blank hentry _ ih => rw [List.map_cons, namesIn_cons_of_strip_nil (Text.strip_of_blank hentry), ih]
  | @name names entries before name behind hbefore hname hbehind _ ih =>
    have hne : name.toList ≠ [] := fun heq => hname.nonempty (String.toList_eq_nil_iff.1 heq)
    have hstrip : Text.strip (before ++ name ++ behind).toList = name.toList := by
      rw [String.toList_append, String.toList_append]
      exact Text.strip_padded hbefore hne hname.trimmed hbehind
    rw [List.map_cons, namesIn_cons_of_strip (hstrip ▸ hne), hstrip, String.ofList_toList, ih]

/-- A list of columns gives the names that its entries write. -/
theorem columnList_intercalate {names entries : List String} (h : WrittenAs names entries) :
    columnList (String.intercalate "," entries) = names := by
  have hread : columnList (String.intercalate "," entries) =
      namesIn (Text.pieces ',' (List.intercalate [','] (entries.map String.toList))) := by
    rw [columnList, String.toList_intercalate]
    rfl
  rw [hread]
  cases hentries : entries with
  | nil =>
    rw [hentries] at h
    exact h.namesIn_entries
  | cons first more =>
    have hno : ∀ piece ∈ entries.map String.toList, ',' ∉ piece := by
      intro piece hpiece
      obtain ⟨entry, hentry, rfl⟩ := List.mem_map.1 hpiece
      exact h.noComma entry hentry
    rw [← hentries, Text.pieces_intercalate (by simp [hentries]) hno, h.namesIn_entries]

/-- Pieces without commas are entries that write the names in them. -/
theorem ofPieces {pieces : List (List Char)} (h : ∀ piece ∈ pieces, ',' ∉ piece) :
    WrittenAs (namesIn pieces) (pieces.map String.ofList) := by
  induction pieces with
  | nil => exact .nil
  | cons piece rest ih =>
    obtain ⟨hpiece, hrest⟩ := List.forall_mem_cons.1 h
    obtain ⟨before, behind, hbefore, hbehind, hpadded⟩ := Text.exists_padded piece
    by_cases hnil : Text.strip piece = []
    · rw [namesIn_cons_of_strip_nil hnil]
      refine .blank ?_ (ih hrest)
      rw [String.toList_ofList, hpadded, hnil, List.append_nil]
      exact fun c hc => (List.mem_append.1 hc).elim (hbefore c) (hbehind c)
    · have hentry : String.ofList piece = String.ofList before ++ String.ofList (Text.strip piece) ++ String.ofList behind := by
        rw [← String.ofList_append, ← String.ofList_append, ← hpadded]
      have hname : Listable (String.ofList (Text.strip piece)) := by
        refine ⟨?_, ?_, ?_⟩
        · exact fun heq => hnil (by simpa using congrArg String.toList heq)
        · rw [String.toList_ofList]
          exact fun hmem => hpiece (hpadded ▸ List.mem_append_left _ (List.mem_append_right _ hmem))
        · rw [String.toList_ofList]
          exact Text.trimmed_strip piece
      rw [namesIn_cons_of_strip hnil, List.map_cons, hentry]
      exact .name (by rwa [String.toList_ofList]) hname (by rwa [String.toList_ofList]) (ih hrest)

/-- Every list of columns writes the names that it gives. -/
theorem exists_entries (text : String) : ∃ entries, WrittenAs (columnList text) entries ∧ text = String.intercalate "," entries := by
  refine ⟨Text.cut ',' text, ofPieces fun piece hpiece => Text.not_mem_of_mem_pieces hpiece, ?_⟩
  rw [← String.toList_inj, String.toList_intercalate, Text.cut, List.map_map]
  have hsame : (Text.pieces ',' text.toList).map (String.toList ∘ String.ofList) = Text.pieces ',' text.toList := by
    simp [Function.comp_def]
  rw [hsame]
  exact (Text.intercalate_pieces ',' text.toList).symm

end WrittenAs

/-- A text of the option gives some names exactly if it writes them: the names in order, each with blanks around it, and with blank entries
between commas anywhere. Every text writes names, each of which is not empty, holds no comma and has no blanks at its ends. -/
theorem Options.nameColumnList_writtenAs (o : Options) :
    (∀ names entries, WrittenAs names entries → o.nameColumns = some (String.intercalate "," entries) →
        o.nameColumnList = some names) ∧
      (∀ text, o.nameColumns = some text → ∃ names entries, o.nameColumnList = some names ∧
        (∀ name ∈ names, Listable name) ∧ WrittenAs names entries ∧ text = String.intercalate "," entries) ∧
      (o.nameColumns = none → o.nameColumnList = none) := by
  refine ⟨?_, ?_, ?_⟩
  · intro names entries h htext
    rw [nameColumnList, htext, Option.map_some, h.columnList_intercalate]
  · intro text htext
    obtain ⟨entries, hwrites, hentries⟩ := WrittenAs.exists_entries text
    refine ⟨columnList text, entries, ?_, hwrites.listable, hwrites, hentries⟩
    rw [nameColumnList, htext, Option.map_some]
  · intro hnone
    rw [nameColumnList, hnone, Option.map_none]

namespace ColumnListsWitness

/-- Entries with blanks of several kinds around two names, one of which has a blank inside, and with three blank entries. -/
def entries : List String := [" " ++ "名称" ++ "\u3000", "", "\t ", "" ++ "舰 船" ++ "\n", ""]

theorem writtenAs_entries : WrittenAs ["名称", "舰 船"] entries := by
  have hfirst : Listable "名称" := by
    refine ⟨by simp, by simp, ⟨?_, ?_⟩⟩ <;> simp [Text.isBlank]
  have hsecond : Listable "舰 船" := by
    refine ⟨by simp, by simp, ⟨?_, ?_⟩⟩ <;> simp [Text.isBlank]
  refine .name ?_ hfirst ?_ (.blank ?_ (.blank ?_ (.name ?_ hsecond ?_ (.blank ?_ .nil)))) <;> simp [Text.Blank, Text.isBlank]

end ColumnListsWitness

open ColumnListsWitness in
/-- The theorem at a text with two names and with blank entries between and behind them. -/
theorem Options.nameColumnList_writtenAs_blanks :
    WrittenAs ["名称", "舰 船"] entries ∧ " 名称\u3000,,\t ,舰 船\n," = String.intercalate "," entries ∧
      Options.nameColumnList { nameColumns := some " 名称\u3000,,\t ,舰 船\n," } = some ["名称", "舰 船"] := by
  have htext : " 名称\u3000,,\t ,舰 船\n," = String.intercalate "," entries := by decide
  exact ⟨writtenAs_entries, htext, (nameColumnList_writtenAs _).1 _ _ writtenAs_entries (congrArg some htext)⟩

end RecordSheets
