import RecordSheets.MappingFolder
import RecordSheets.Proofs.Files.Below
import RecordSheets.Proofs.PathExpr.Grammar
import RecordSheets.Proofs.Sheet.Columns

/-!
# Having a mapping

What comes of the file of a mapping, whatever it holds. There is no file (`mappingNotFound`); or something bars it from being read as
one document (`FileTree.Bars`); or the document is flawed as a mapping (`Json.Flawed`), which only its outermost form and the value of
the reserved key can bring about; or the mapping is had, and it is given by the members of the object (`Mapping.Given`). One of these is
so and no two (`MappingFolder.load_classified`).

Going through the members takes a turn at the reserved key only, wherever it stands: the members before it and behind it add their
columns and do nothing else (`Mapping.collect_append`). So a value that is no expression spoils its own column alone.
-/

namespace RecordSheets

/-! ## What stands in a file -/

/-- Why a value is no path expression. -/
inductive Json.NoExpression : Json → ExprError → Prop
  /-- It is no string. -/
  | notAString {value : Json} (other : value.string? = none) : NoExpression value (.notAString value)
  /-- It is a text in parentheses with nothing between any of them. -/
  | malformed {text : String} (outer : PathExpr.InParentheses text.toList) (empty : PathExpr.AllEmpty text.toList) :
    NoExpression (.str text) (.malformedConcat text)

/-- Why a document is no mapping. -/
inductive Json.Flawed : Json → MappingFlaw → Prop
  /-- It is no object. -/
  | notAnObject {document : Json} (other : document.fields? = none) : Flawed document .notAnObject
  /-- It is an object whose reserved key has a value that is neither null nor a string. -/
  | tokenPath {fields : Fields} {value : Json} (given : fields.get? Mapping.tokenKey = some value) (notNull : value ≠ .null)
    (other : value.string? = none) : Flawed (.obj fields) (.tokenPathNotAString value)

/-- Why the file that a path leads to is not read as a document. -/
inductive FileTree.Bars (t : FileTree) (path : String) : Obstacle → Prop
  /-- The path leads to something that is no file, or it leads to nothing because of something in its way. -/
  | refused {e : SystemError} (read : t.read path = .error e) (there : e ≠ .notFound) : Bars t path (.refused e)
  /-- The file is no UTF-8. -/
  | notText {content : Bytes} (read : t.read path = .ok content) (text : Utf8.decode? content = none) : Bars t path .notText
  /-- Reading the text as one document fails, for a cause at a place. -/
  | fault {content : Bytes} {fault : Json.Fault} (read : t.read path = .ok content) (text : (Utf8.decode? content).isSome)
    (document : Json.read content = .error fault) : Bars t path (fault.obstacle .mapped content)

/-- The file of a category's mapping holds a document. -/
def MappingFolder.Holds (m : MappingFolder) (t : FileTree) (category : String) (document : Json) : Prop :=
  ∃ content, t.read (m.pathFor category) = .ok content ∧ (Utf8.decode? content).isSome ∧ Json.read content = .ok document

/-- The value of the reserved key is null or a string, if there is one. -/
def Mapping.TokenPathFits (fields : Fields) : Prop :=
  ∀ value, fields.get? tokenKey = some value → value = .null ∨ ∃ path, value = .str path

/-- A mapping is that of a category which the members of an object give. -/
structure Mapping.Given (mapping : Mapping) (category : String) (fields : Fields) : Prop where
  /-- It is the mapping of the category. -/
  category : mapping.category = category
  /-- The reserved key has no other value than null or a string. -/
  fits : TokenPathFits fields
  /-- The path of the i18n tokens is that string. -/
  tokenPath : mapping.tokenPath = (fields.get? tokenKey).bind Json.string?
  /-- The headings are the other keys in the order of the document. -/
  columnNames : mapping.columnNames = fields.keys.filter (· != tokenKey)
  /-- Each heading is there once. -/
  nodup : mapping.columnNames.Nodup
  /-- A column has the expression of its key's value, or it has none because the value is no expression. -/
  expr : ∀ column ∈ mapping.columns, ∃ value, fields.get? column.name = some value ∧ column.expr = PathExpr.ofJson value ∧
    ∀ e, column.expr = .error e ↔ value.NoExpression e

/-- A value is refused as an expression for one of the reasons that there are. -/
theorem PathExpr.ofJson_eq_error_iff {value : Json} {e : ExprError} : ofJson value = .error e ↔ value.NoExpression e := by
  constructor
  · intro h
    cases value with
    | str text =>
      obtain ⟨rfl, outer, empty⟩ := parse_eq_error_iff.1 h
      exact .malformed outer empty
    | _ =>
      cases h
      exact .notAString rfl
  · intro h
    cases h with
    | notAString other =>
      cases value with
      | str text => cases other
      | _ => rfl
    | malformed outer empty => exact parse_eq_error_iff.2 ⟨rfl, outer, empty⟩

namespace FileTree

/-- A folder is barred. -/
theorem bars_of_folder {t : FileTree} {path : String} (h : t.find path = .ok .folder) : t.Bars path (.refused .isDirectory) := by
  have hread : t.read path = .error .isDirectory := by
    rw [read, h]
    rfl
  exact .refused hread (by decide)

/-- A path that goes on behind a file is barred. -/
theorem bars_of_file_above {t : FileTree} {path : String} {before behind : List String} {p : Place} {content : Bytes}
    (hcheck : checkPath path = .ok ()) (hnames : Path.names path = before ++ behind) (hne : behind ≠ [])
    (hbefore : t.follow (t.origin path) before = .ok p) (hfile : t.look? p = some (.file content)) :
    t.Bars path (.refused .notDirectory) := by
  obtain ⟨name, rest, rfl⟩ := List.exists_cons_of_ne_nil hne
  have hstep : t.step p name = .error .notDirectory := by rw [step_eq, hfile]
  have hread : t.read path = .error .notDirectory := by
    rw [read, find, locate, hcheck, hnames]
    simp only [follow_append, hbefore, follow_cons, hstep, bind, Except.bind]
  exact .refused hread (by decide)

end FileTree

namespace Mapping

/-! ## Going through the members -/

theorem columnsOf_append (before behind : Fields) : columnsOf (before ++ behind) = columnsOf before ++ columnsOf behind := by
  simp [columnsOf]

/-- A member with another key than the reserved one adds its column. -/
theorem collect_cons_of_ne {name : String} (h : name ≠ tokenKey) (value : Json) (columns : List Column) (path : Option String)
    (rest : Fields) :
    collect columns path ((name, value) :: rest) = collect (columns ++ [⟨name, PathExpr.ofJson value⟩]) path rest := by
  simp only [collect, if_neg h]

/-- Members without the reserved key add their columns and do nothing else. -/
theorem collect_append {before : Fields} (h : tokenKey ∉ before.keys) (columns : List Column) (path : Option String)
    (behind : Fields) : collect columns path (before ++ behind) = collect (columns ++ columnsOf before) path behind := by
  induction before generalizing columns with
  | nil => simp [columnsOf]
  | cons x rest ih =>
    obtain ⟨name, value⟩ := x
    rw [Fields.keys, List.map_cons, List.mem_cons, not_or] at h
    have hname : name ≠ tokenKey := Ne.symm h.1
    rw [List.cons_append, collect_cons_of_ne hname, ih h.2, columnsOf_cons, if_neg hname, List.append_assoc, List.singleton_append]

/-- If no member has the reserved key, there is nothing else to do. -/
theorem collect_of_not_mem {fields : Fields} (h : tokenKey ∉ fields.keys) (columns : List Column) (path : Option String) :
    collect columns path fields = .ok (columns ++ columnsOf fields, path) := by
  have happend := collect_append h columns path []
  rwa [List.append_nil] at happend

/-- Where the keys differ, the reserved key has one place. -/
theorem exists_split {fields : Fields} (hd : fields.keys.Nodup) {value : Json} (h : fields.get? tokenKey = some value) :
    ∃ before behind : Fields,
      fields = before ++ (tokenKey, value) :: behind ∧ tokenKey ∉ before.keys ∧ tokenKey ∉ behind.keys := by
  obtain ⟨before, behind, rfl, -⟩ := List.lookup_eq_some_iff.1 h
  rw [Fields.keys, List.map_append, List.map_cons, List.nodup_middle, List.nodup_cons, List.mem_append, not_or] at hd
  exact ⟨before, behind, rfl, hd.1⟩

/-- Up to the reserved key only columns are added, and so behind it if its value is taken. -/
theorem collect_eq {fields : Fields} (hd : fields.keys.Nodup) {value : Json} (h : fields.get? tokenKey = some value) :
    collect [] none fields =
      match value with
      | .str path => .ok (columnsOf fields, some path)
      | .null => .ok (columnsOf fields, none)
      | other => .error (.tokenPathNotAString other) := by
  obtain ⟨before, behind, rfl, hbefore, hbehind⟩ := exists_split hd h
  have hcolumns : columnsOf (before ++ (tokenKey, value) :: behind) = columnsOf before ++ columnsOf behind := by
    rw [columnsOf_append, columnsOf_cons, if_pos rfl]
  rw [collect_append hbefore, List.nil_append, hcolumns]
  cases value with
  | str path => exact collect_of_not_mem hbehind _ _
  | null => exact collect_of_not_mem hbehind _ _
  | _ => rfl

/-- If the value of the reserved key is null or a string or is missing, the members give their columns. -/
theorem collect_of_fits {fields : Fields} (hd : fields.keys.Nodup) (h : TokenPathFits fields) :
    collect [] none fields = .ok (columnsOf fields, (fields.get? tokenKey).bind Json.string?) := by
  cases hvalue : fields.get? tokenKey with
  | none =>
    have hmem : tokenKey ∉ fields.keys := by
      intro hmem
      obtain ⟨x, hx, hkey⟩ := List.mem_map.1 hmem
      have hne := List.lookup_eq_none_iff.1 hvalue x hx
      simp [hkey] at hne
    exact collect_of_not_mem hmem _ _
  | some value =>
    rw [collect_eq hd hvalue]
    obtain rfl | ⟨path, rfl⟩ := h value hvalue
    · rfl
    · rfl

/-! ## The mapping of a document -/

variable {category : String} {document : Json} {fields : Fields} {mapping : Mapping}

/-- A flawed document is refused for its flaw. -/
theorem ofJson_of_flawed (hdistinct : document.Distinct) {flaw : MappingFlaw} (h : document.Flawed flaw) :
    ofJson category document = .error (.mappingFlawed category flaw) := by
  cases h with
  | notAnObject other =>
    cases document with
    | obj fields => cases other
    | _ => rfl
  | @tokenPath fields value given notNull other =>
    cases hdistinct with
    | obj hd _ =>
      rw [ofJson, collect_eq hd given]
      cases value with
      | null => exact absurd rfl notNull
      | str path => cases other
      | _ => rfl

/-- A document is flawed, or it is an object in which the value of the reserved key fits. -/
theorem flawed_or_fits (document : Json) :
    (∃ flaw, document.Flawed flaw) ∨ ∃ fields, document = .obj fields ∧ TokenPathFits fields := by
  cases document with
  | obj fields =>
    by_cases h : TokenPathFits fields
    · exact .inr ⟨fields, rfl, h⟩
    · simp only [TokenPathFits, not_forall, not_or, not_exists] at h
      obtain ⟨value, given, notNull, notText⟩ := h
      refine .inl ⟨_, .tokenPath given notNull ?_⟩
      cases value with
      | str path => exact absurd rfl (notText path)
      | _ => rfl
  | _ => exact .inl ⟨_, .notAnObject rfl⟩

/-- An object in which it fits gives a mapping. -/
theorem given_of_fits (category : String) (hd : fields.keys.Nodup) (h : TokenPathFits fields) :
    ∃ mapping, ofJson category (.obj fields) = .ok mapping ∧ mapping.Given category fields := by
  have hmapping : ofJson category (.obj fields) = .ok ⟨category, columnsOf fields, (fields.get? tokenKey).bind Json.string?⟩ := by
    rw [ofJson, collect_of_fits hd h]
  refine ⟨_, hmapping, rfl, h, rfl, columnNames_of_ofJson hmapping, nodup_columnNames hd hmapping, ?_⟩
  intro column hcolumn
  obtain ⟨x, hx, rfl⟩ := List.mem_map.1 hcolumn
  exact ⟨x.2, Fields.get?_of_mem hd (List.mem_of_mem_filter hx), rfl, fun e => PathExpr.ofJson_eq_error_iff⟩

/-- The columns of a mapping that an object gives are determined by the headings and the values of their keys. -/
theorem Given.columns_eq (h : mapping.Given category fields) :
    mapping.columns = mapping.columnNames.map fun name => ⟨name, PathExpr.ofJson ((fields.get? name).getD .null)⟩ := by
  rw [Mapping.columnNames, List.map_map]
  refine (List.map_id _).symm.trans (List.map_congr_left fun column hcolumn => ?_)
  obtain ⟨value, hvalue, hexpr, -⟩ := h.expr column hcolumn
  obtain ⟨name, expr⟩ := column
  dsimp only at hvalue hexpr
  simp [hvalue, hexpr]

/-- An object gives a category one mapping. -/
theorem Given.eq {other : Mapping} (h : mapping.Given category fields) (h' : other.Given category fields) : mapping = other := by
  have hnames : mapping.columnNames = other.columnNames := h.columnNames.trans h'.columnNames.symm
  have hcolumns : mapping.columns = other.columns := by rw [h.columns_eq, h'.columns_eq, hnames]
  have hpath : mapping.tokenPath = other.tokenPath := h.tokenPath.trans h'.tokenPath.symm
  have hcategory : mapping.category = other.category := h.category.trans h'.category.symm
  obtain ⟨_, _, _⟩ := mapping
  obtain ⟨_, _, _⟩ := other
  cases hcategory
  cases hcolumns
  cases hpath
  rfl

/-- Two objects differ in the values of keys that stand for columns at most. -/
structure Alike (fields fields' : Fields) : Prop where
  /-- They have the same keys in the same order. -/
  keys : fields.keys = fields'.keys
  /-- The reserved key has the same value, if it has one. -/
  reserved : fields.get? tokenKey = fields'.get? tokenKey

theorem Alike.flawed {fields' : Fields} (h : Alike fields fields') {flaw : MappingFlaw} (hflawed : (Json.obj fields).Flawed flaw) :
    (Json.obj fields').Flawed flaw := by
  cases hflawed with
  | notAnObject other => cases other
  | tokenPath given notNull other => exact .tokenPath (h.reserved ▸ given) notNull other

theorem Alike.fits {fields' : Fields} (h : Alike fields fields') (hfits : TokenPathFits fields) : TokenPathFits fields' :=
  fun value hvalue => hfits value (h.reserved.trans hvalue)

end Mapping

namespace MappingFolder

/-! ## What loading does -/

variable {m : MappingFolder} {t : FileTree} {category : String}

/-- Reading the file of a mapping finds none, or something bars it, or the file holds a document. -/
theorem read_cases (m : MappingFolder) (t : FileTree) (category : String) :
    t.read (m.pathFor category) = .error .notFound ∨ (∃ obstacle, t.Bars (m.pathFor category) obstacle) ∨
      ∃ document, m.Holds t category document := by
  cases hread : t.read (m.pathFor category) with
  | error e =>
    by_cases he : e = .notFound
    · exact .inl (congrArg _ he)
    · exact .inr (.inl ⟨_, .refused hread he⟩)
  | ok content =>
    cases htext : Utf8.decode? content with
    | none => exact .inr (.inl ⟨_, .notText hread htext⟩)
    | some text =>
      have hsome : (Utf8.decode? content).isSome := htext ▸ rfl
      cases hdocument : Json.read content with
      | error fault => exact .inr (.inl ⟨_, .fault hread hsome hdocument⟩)
      | ok document => exact .inr (.inr ⟨document, content, hread, hsome, hdocument⟩)

/-- Without a file there is no mapping. -/
theorem load_of_notFound (h : t.read (m.pathFor category) = .error .notFound) :
    m.load t category = .error (.mappingNotFound category (m.pathFor category)) := by
  unfold load
  simp only [h]

/-- What bars the file is why there is no mapping. -/
theorem load_of_bars {obstacle : Obstacle} (h : t.Bars (m.pathFor category) obstacle) :
    m.load t category = .error (.mappingUnreadable (m.pathFor category) obstacle) := by
  unfold load
  cases h with
  | refused read there => simp only [read]
  | notText read text => simp only [read, ofContent, text]
  | fault read text document =>
    obtain ⟨s, hs⟩ := Option.isSome_iff_exists.1 text
    simp only [read, ofContent, hs, document]

/-- The document in the file is the mapping, if it is one. -/
theorem load_of_holds {document : Json} (h : m.Holds t category document) :
    m.load t category = Mapping.ofJson category document := by
  obtain ⟨content, read, text, hdocument⟩ := h
  obtain ⟨s, hs⟩ := Option.isSome_iff_exists.1 text
  unfold load
  simp only [read, ofContent, hs, hdocument]

theorem Holds.distinct {document : Json} (h : m.Holds t category document) : document.Distinct := by
  obtain ⟨content, -, -, hdocument⟩ := h
  exact Json.distinct_read hdocument

/-- A file with a flawed document is refused for the flaw. -/
theorem load_of_flawed {document : Json} {flaw : MappingFlaw} (h : m.Holds t category document) (hflawed : document.Flawed flaw) :
    m.load t category = .error (.mappingFlawed category flaw) := by
  rw [load_of_holds h, Mapping.ofJson_of_flawed h.distinct hflawed]

/-- A file with an object in which the value of the reserved key fits gives a mapping. -/
theorem load_of_fits {fields : Fields} (h : m.Holds t category (.obj fields)) (hfits : Mapping.TokenPathFits fields) :
    ∃ mapping, m.load t category = .ok mapping ∧ mapping.Given category fields := by
  cases h.distinct with
  | obj hd _ =>
    rw [load_of_holds h]
    exact Mapping.given_of_fits category hd hfits

/-- What comes of the file of a mapping. -/
inductive Loading (m : MappingFolder) (t : FileTree) (category : String) : Except Failure Mapping → Prop
  /-- There is no file. -/
  | notFound (read : t.read (m.pathFor category) = .error .notFound) :
    Loading m t category (.error (.mappingNotFound category (m.pathFor category)))
  /-- Something bars it. -/
  | barred {obstacle : Obstacle} (bars : t.Bars (m.pathFor category) obstacle) :
    Loading m t category (.error (.mappingUnreadable (m.pathFor category) obstacle))
  /-- It holds a document that is no mapping. -/
  | flawed {document : Json} {flaw : MappingFlaw} (holds : m.Holds t category document) (flaws : document.Flawed flaw) :
    Loading m t category (.error (.mappingFlawed category flaw))
  /-- It holds a mapping. -/
  | loaded {fields : Fields} {mapping : Mapping} (holds : m.Holds t category (.obj fields)) (given : mapping.Given category fields) :
    Loading m t category (.ok mapping)

/-- What loading gives comes of the file. -/
theorem loading_load (m : MappingFolder) (t : FileTree) (category : String) : Loading m t category (m.load t category) := by
  obtain hread | ⟨obstacle, hbars⟩ | ⟨document, hholds⟩ := read_cases m t category
  · rw [load_of_notFound hread]
    exact .notFound hread
  · rw [load_of_bars hbars]
    exact .barred hbars
  · obtain ⟨flaw, hflawed⟩ | ⟨fields, rfl, hfits⟩ := Mapping.flawed_or_fits document
    · rw [load_of_flawed hholds hflawed]
      exact .flawed hholds hflawed
    · obtain ⟨mapping, hload, hgiven⟩ := load_of_fits hholds hfits
      rw [hload]
      exact .loaded hholds hgiven

/-- Nothing else comes of it. -/
theorem Loading.load_eq {result : Except Failure Mapping} (h : Loading m t category result) : m.load t category = result := by
  cases h with
  | notFound read => exact load_of_notFound read
  | barred bars => exact load_of_bars bars
  | flawed holds flaws => exact load_of_flawed holds flaws
  | loaded holds given =>
    obtain ⟨mapping, hload, hgiven⟩ := load_of_fits holds given.fits
    rw [hload, hgiven.eq given]

/-- Loading gives exactly what comes of the file. -/
theorem load_eq_iff {result : Except Failure Mapping} : m.load t category = result ↔ Loading m t category result := by
  constructor
  · rintro rfl
    exact loading_load m t category
  · exact Loading.load_eq

/-- It fails as not found if reading the file is refused because nothing is there. -/
theorem load_eq_notFound_iff {c path : String} :
    m.load t category = .error (.mappingNotFound c path) ↔
      c = category ∧ path = m.pathFor category ∧ t.read (m.pathFor category) = .error .notFound := by
  constructor
  · intro h
    cases load_eq_iff.1 h with
    | notFound read => exact ⟨rfl, rfl, read⟩
  · rintro ⟨rfl, rfl, read⟩
    exact load_of_notFound read

/-- It fails as unreadable if something bars the file. -/
theorem load_eq_unreadable_iff {path : String} {obstacle : Obstacle} :
    m.load t category = .error (.mappingUnreadable path obstacle) ↔
      path = m.pathFor category ∧ t.Bars (m.pathFor category) obstacle := by
  constructor
  · intro h
    cases load_eq_iff.1 h with
    | barred bars => exact ⟨rfl, bars⟩
  · rintro ⟨rfl, bars⟩
    exact load_of_bars bars

/-- It fails as flawed if the file holds a flawed document. -/
theorem load_eq_flawed_iff {c : String} {flaw : MappingFlaw} :
    m.load t category = .error (.mappingFlawed c flaw) ↔
      c = category ∧ ∃ document, m.Holds t category document ∧ document.Flawed flaw := by
  constructor
  · intro h
    cases load_eq_iff.1 h with
    | flawed holds flaws => exact ⟨rfl, _, holds, flaws⟩
  · rintro ⟨rfl, document, holds, flaws⟩
    exact load_of_flawed holds flaws

/-- It succeeds if the file holds an object that gives the mapping. -/
theorem load_eq_ok_iff {mapping : Mapping} :
    m.load t category = .ok mapping ↔ ∃ fields, m.Holds t category (.obj fields) ∧ mapping.Given category fields := by
  constructor
  · intro h
    cases load_eq_iff.1 h with
    | loaded holds given => exact ⟨_, holds, given⟩
  · rintro ⟨fields, holds, given⟩
    exact load_eq_iff.2 (.loaded holds given)

/-- It fails for no other reason. -/
theorem exists_mapping (hread : t.read (m.pathFor category) ≠ .error .notFound)
    (hbars : ∀ obstacle, ¬t.Bars (m.pathFor category) obstacle)
    (hflawed : ∀ document flaw, m.Holds t category document → ¬document.Flawed flaw) :
    ∃ mapping, m.load t category = .ok mapping := by
  generalize hload : m.load t category = result
  cases load_eq_iff.1 hload with
  | notFound read => exact absurd read hread
  | barred bars => exact absurd bars (hbars _)
  | flawed holds flaws => exact absurd flaws (hflawed _ _ holds)
  | loaded holds given => exact ⟨_, rfl⟩

/-! ## Other values -/

variable {t' : FileTree} {fields fields' : Fields}

theorem Holds.unique {document document' : Json} (h : m.Holds t category document) (h' : m.Holds t category document') :
    document = document' := by
  obtain ⟨content, read, -, hdocument⟩ := h
  obtain ⟨content', read', -, hdocument'⟩ := h'
  rw [read] at read'
  cases read'
  rw [hdocument] at hdocument'
  cases hdocument'
  rfl

/-- A mapping that is had is given by the object that the file holds. -/
theorem given_of_load {mapping : Mapping} (h : m.Holds t category (.obj fields))
    (hload : m.load t category = .ok mapping) : mapping.Given category fields := by
  cases load_eq_iff.1 hload with
  | loaded holds given =>
    cases h.unique holds
    exact given

/-- Objects that differ in the values of columns at most fail alike, or give the same headings and the same path of the i18n tokens. -/
theorem load_of_alike (h : m.Holds t category (.obj fields)) (h' : m.Holds t' category (.obj fields'))
    (halike : Mapping.Alike fields fields') :
    (m.load t' category).map (fun mapping => (mapping.columnNames, mapping.tokenPath)) =
      (m.load t category).map fun mapping => (mapping.columnNames, mapping.tokenPath) := by
  obtain ⟨flaw, hflawed⟩ | ⟨_, hobj, hfits⟩ := Mapping.flawed_or_fits (.obj fields)
  · rw [load_of_flawed h hflawed, load_of_flawed h' (halike.flawed hflawed)]
  · cases hobj
    obtain ⟨mapping, hload, hgiven⟩ := load_of_fits h hfits
    obtain ⟨mapping', hload', hgiven'⟩ := load_of_fits h' (halike.fits hfits)
    have hnames : mapping'.columnNames = mapping.columnNames := by
      rw [hgiven.columnNames, hgiven'.columnNames, halike.keys]
    have hpath : mapping'.tokenPath = mapping.tokenPath := by
      rw [hgiven.tokenPath, hgiven'.tokenPath, halike.reserved]
    rw [hload, hload', Except.map, Except.map, hnames, hpath]

/-- The column of a key is the same wherever the key has the same value. -/
theorem column_of_alike (h : m.Holds t category (.obj fields)) (h' : m.Holds t' category (.obj fields'))
    (halike : Mapping.Alike fields fields') {mapping mapping' : Mapping} (hload : m.load t category = .ok mapping)
    (hload' : m.load t' category = .ok mapping') {i : Nat} {name : String} (hname : mapping.columnNames[i]? = some name)
    (hvalue : fields.get? name = fields'.get? name) : mapping.columns[i]? = mapping'.columns[i]? := by
  have hgiven := given_of_load h hload
  have hgiven' := given_of_load h' hload'
  have hnames : mapping.columnNames = mapping'.columnNames := by
    rw [hgiven.columnNames, hgiven'.columnNames, halike.keys]
  rw [hgiven.columns_eq, hgiven'.columns_eq, List.getElem?_map, List.getElem?_map, ← hnames, hname, Option.map_some,
    Option.map_some, hvalue]

/-! ## The classification -/

/-- What loading a mapping gives, by the file, and what it does not depend on. -/
structure Classified (m : MappingFolder) (t : FileTree) (category : String) : Prop where
  /-- The mapping is not found if reading its file is refused because nothing is there. -/
  notFound : ∀ c path, m.load t category = .error (.mappingNotFound c path) ↔
    c = category ∧ path = m.pathFor category ∧ t.read (m.pathFor category) = .error .notFound
  /-- It is unreadable if something else bars its file. -/
  unreadable : ∀ path obstacle, m.load t category = .error (.mappingUnreadable path obstacle) ↔
    path = m.pathFor category ∧ t.Bars (m.pathFor category) obstacle
  /-- So it is if a folder stands in the place of its file. -/
  folder : t.find (m.pathFor category) = .ok .folder →
    m.load t category = .error (.mappingUnreadable (m.pathFor category) (.refused .isDirectory))
  /-- So it is if the path to its file goes on behind a file. -/
  fileAbove : ∀ (before behind : List String) (p : Place) (content : Bytes), FileTree.checkPath (m.pathFor category) = .ok () →
    Path.names (m.pathFor category) = before ++ behind → behind ≠ [] →
    t.follow (t.origin (m.pathFor category)) before = .ok p → t.look? p = some (.file content) →
    m.load t category = .error (.mappingUnreadable (m.pathFor category) (.refused .notDirectory))
  /-- It is flawed if the file holds a flawed document. -/
  flawed : ∀ c flaw, m.load t category = .error (.mappingFlawed c flaw) ↔
    c = category ∧ ∃ document, m.Holds t category document ∧ document.Flawed flaw
  /-- It is had if the file holds an object that gives it. -/
  loaded : ∀ mapping, m.load t category = .ok mapping ↔
    ∃ fields, m.Holds t category (.obj fields) ∧ mapping.Given category fields
  /-- It is had if none of the others is the case. -/
  otherwise : t.read (m.pathFor category) ≠ .error .notFound → (∀ obstacle, ¬t.Bars (m.pathFor category) obstacle) →
    (∀ document flaw, m.Holds t category document → ¬document.Flawed flaw) → ∃ mapping, m.load t category = .ok mapping
  /-- The values of keys that stand for columns change no failure, no heading and no path of the i18n tokens. -/
  framed : ∀ (t' : FileTree) (fields fields' : Fields), m.Holds t category (.obj fields) → m.Holds t' category (.obj fields') →
    Mapping.Alike fields fields' →
    (m.load t' category).map (fun mapping => (mapping.columnNames, mapping.tokenPath)) =
      (m.load t category).map fun mapping => (mapping.columnNames, mapping.tokenPath)
  /-- The column of a key is the same wherever the key has the same value. -/
  apart : ∀ (t' : FileTree) (fields fields' : Fields), m.Holds t category (.obj fields) → m.Holds t' category (.obj fields') →
    Mapping.Alike fields fields' →
    ∀ mapping mapping', m.load t category = .ok mapping → m.load t' category = .ok mapping' →
    ∀ (i : Nat) (name : String), mapping.columnNames[i]? = some name → fields.get? name = fields'.get? name →
      mapping.columns[i]? = mapping'.columns[i]?

/-- Loading a mapping is classified by its file, for every tree, folder and category. -/
theorem load_classified (m : MappingFolder) (t : FileTree) (category : String) : m.Classified t category where
  notFound _ _ := load_eq_notFound_iff
  unreadable _ _ := load_eq_unreadable_iff
  folder h := load_of_bars (FileTree.bars_of_folder h)
  fileAbove _ _ _ _ hcheck hnames hne hbefore hfile := load_of_bars (FileTree.bars_of_file_above hcheck hnames hne hbefore hfile)
  flawed _ _ := load_eq_flawed_iff
  loaded _ := load_eq_ok_iff
  otherwise := exists_mapping
  framed _ _ _ h h' halike := load_of_alike h h' halike
  apart _ _ _ h h' halike _ _ hload hload' _ _ hname hvalue := column_of_alike h h' halike hload hload' hname hvalue

/-- A folder of mappings that holds a file with a text, and a folder in the place of another file. -/
def holding (text : String) : FileTree :=
  ⟨[("mapping", .folder [("船" ++ Mapping.fileEnding, .file (Utf8.encode text)), ("皮" ++ Mapping.fileEnding, .folder [])])], []⟩

/-- A mapping with a number in the place of an expression. -/
def numbered : FileTree := holding "\x7b\"a\":7,\"i18nkey\":null,\"b\":\".n\"\x7d"

/-- The mapping with empty parentheses in this place. -/
def emptied : FileTree := holding "\x7b\"a\":\"()\",\"i18nkey\":null,\"b\":\".n\"\x7d"

/-- The theorem at these mappings, of which each has one column without an expression. -/
theorem load_classified_spoiled :
    (∃ mapping mapping', load ⟨"mapping"⟩ numbered "船" = .ok mapping ∧ load ⟨"mapping"⟩ emptied "船" = .ok mapping' ∧
      mapping.columns[0]? = some ⟨"a", .error (.notAString (.int 7))⟩ ∧
      mapping'.columns[0]? = some ⟨"a", .error (.malformedConcat "()")⟩ ∧ mapping.columns[1]? = mapping'.columns[1]?) ∧
      load ⟨"mapping"⟩ numbered "皮" =
        .error (.mappingUnreadable ("mapping/皮" ++ Mapping.fileEnding) (.refused .isDirectory)) ∧
      load ⟨"mapping"⟩ numbered "炮" = .error (.mappingNotFound "炮" ("mapping/炮" ++ Mapping.fileEnding)) := by
  have hnumbered : Holds ⟨"mapping"⟩ numbered "船" (.obj [("a", .int 7), ("i18nkey", .null), ("b", .str ".n")]) :=
    ⟨_, rfl, rfl, rfl⟩
  have hemptied : Holds ⟨"mapping"⟩ emptied "船" (.obj [("a", .str "()"), ("i18nkey", .null), ("b", .str ".n")]) :=
    ⟨_, rfl, rfl, rfl⟩
  have hload : load ⟨"mapping"⟩ numbered "船" =
      .ok ⟨"船", [⟨"a", .error (.notAString (.int 7))⟩, ⟨"b", .ok (.plain "n")⟩], none⟩ := rfl
  have hload' : load ⟨"mapping"⟩ emptied "船" =
      .ok ⟨"船", [⟨"a", .error (.malformedConcat "()")⟩, ⟨"b", .ok (.plain "n")⟩], none⟩ := rfl
  refine ⟨⟨_, _, hload, hload', rfl, rfl, ?_⟩, ?_, ?_⟩
  · have hclassified := load_classified ⟨"mapping"⟩ numbered "船"
    exact hclassified.apart emptied _ _ hnumbered hemptied ⟨rfl, rfl⟩ _ _ hload hload' 1 "b" rfl rfl
  · exact (load_classified ⟨"mapping"⟩ numbered "皮").folder rfl
  · exact ((load_classified ⟨"mapping"⟩ numbered "炮").notFound _ _).2 ⟨rfl, rfl, rfl⟩

end MappingFolder

end RecordSheets
