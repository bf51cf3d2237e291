import RecordSheets.Text.Utf8

/-!
# File trees

A file tree as a value: files, and folders with what lies in them. A place is the list of names from the root down. The tree
is seen through `look?`; reading and changing are said by it, and `walk` lists what it shows.
-/

namespace RecordSheets

/-- The names from the root down to a file or folder. -/
abbrev Place := List String

/-- What a place holds. -/
inductive Entry where
  | file (content : Bytes)
  | folder
  deriving DecidableEq, Repr

/-- A file, or a folder with what lies in it by name. Of several things of one name the first counts. -/
inductive Node where
  | file (content : Bytes)
  | folder (children : List (String × Node))
  deriving Repr

namespace Node

/-- What a node is, without what lies in it. -/
def entry : Node → Entry
  | .file content => .file content
  | .folder _ => .folder

/-- What lies in a node; nothing lies in a file. -/
def children : Node → List (String × Node)
  | .file _ => []
  | .folder children => children

/-- The node that names lead to from a node. -/
def at? : Node → Place → Option Node
  | n, [] => some n
  | .file _, _ :: _ => none
  | .folder children, name :: rest =>
    match children.lookup name with
    | some child => child.at? rest
    | none => none

/-- Gives a name in a folder a node, instead of the one that it has. -/
def setChild (name : String) (n : Node) : List (String × Node) → List (String × Node)
  | [] => [(name, n)]
  | (other, m) :: rest => if other = name then (name, n) :: rest else (other, m) :: setChild name n rest

/-- The node of an entry, in place of a node that may be there. A folder that is there keeps what lies in it. -/
def ofEntry : Entry → Option Node → Node
  | .file content, _ => .file content
  | .folder, some (.folder children) => .folder children
  | .folder, _ => .folder []

/-- The node with an entry put at a place below it. Nothing changes where the place does not lie in a folder. -/
def put (e : Entry) : Place → Node → Node
  | [], n => n
  | _ :: _, .file content => .file content
  | [name], .folder children => .folder (setChild name (ofEntry e (children.lookup name)) children)
  | name :: rest, .folder children =>
    match children.lookup name with
    | some child => .folder (setChild name (child.put e rest) children)
    | none => .folder children

/-- In a folder the first name leads to a child. -/
theorem at?_folder_cons (children : List (String × Node)) (name : String) (rest : Place) :
    (Node.folder children).at? (name :: rest) = (children.lookup name).bind fun child => child.at? rest := by
  rw [at?]
  cases children.lookup name <;> rfl

/-- A name has the node it was given last. -/
theorem lookup_setChild_self (name : String) (n : Node) (children : List (String × Node)) :
    (setChild name n children).lookup name = some n := by
  induction children with
  | nil => simp [setChild]
  | cons x rest ih =>
    obtain ⟨other, m⟩ := x
    by_cases h : other = name
    · simp [setChild, h]
    · simp [setChild, h, List.lookup_cons, beq_false_of_ne (Ne.symm h), ih]

/-- The other names keep their nodes. -/
theorem lookup_setChild_of_ne {name other : String} (h : other ≠ name) (n : Node) (children : List (String × Node)) :
    (setChild name n children).lookup other = children.lookup other := by
  induction children with
  | nil => simp [setChild, List.lookup_cons, beq_false_of_ne h]
  | cons x rest ih =>
    obtain ⟨first, m⟩ := x
    by_cases hf : first = name
    · subst hf
      simp [setChild, List.lookup_cons, beq_false_of_ne h]
    · simp [setChild, hf, List.lookup_cons, ih]

/-- The node of an entry is what the entry says. -/
theorem entry_ofEntry (e : Entry) (old : Option Node) : (ofEntry e old).entry = e := by
  cases e <;> cases old <;> try rfl
  rename_i m
  cases m <;> rfl

/-- What lies below the node of an entry is what lay below the node before it, unless a file takes the place of a folder. -/
theorem at?_ofEntry {e : Entry} {old : Option Node} (h : e = .folder ∨ old.map entry ≠ some .folder) (name : String)
    (rest : Place) : (ofEntry e old).at? (name :: rest) = old.bind fun n => n.at? (name :: rest) := by
  cases old with
  | none => cases e <;> rfl
  | some m =>
    cases m with
    | file c => cases e <;> rfl
    | folder cs =>
      cases e with
      | file c => simp [entry] at h
      | folder => rfl

/-- A place in a folder holds what was put there last. -/
theorem at?_put_self (e : Entry) {p : Place} (hp : p ≠ []) {n : Node} (h : (n.at? p.dropLast).map entry = some .folder) :
    ((n.put e p).at? p).map entry = some e := by
  induction p generalizing n with
  | nil => exact absurd rfl hp
  | cons name rest ih =>
    cases rest with
    | nil =>
      cases n with
      | file c => simp [at?, entry] at h
      | folder children => simp [put, at?, lookup_setChild_self, entry_ofEntry]
    | cons next more =>
      cases n with
      | file c => simp [at?] at h
      | folder children =>
        cases hl : children.lookup name with
        | none => simp [at?, hl] at h
        | some child =>
          have h' : (child.at? (next :: more).dropLast).map entry = some .folder := by
            simpa [List.dropLast, at?, hl] using h
          have := ih (by simp) h'
          simpa [put, hl, at?, lookup_setChild_self] using this

/-- The other places hold what they held, unless a file takes the place of a folder. -/
theorem at?_put_of_ne {e : Entry} {p q : Place} (hq : q ≠ p) {n : Node}
    (h : e = .folder ∨ (n.at? p).map entry ≠ some .folder) : ((n.put e p).at? q).map entry = (n.at? q).map entry := by
  induction p generalizing n q with
  | nil => rfl
  | cons name rest ih =>
    cases n with
    | file c => cases rest <;> rfl
    | folder children =>
      cases q with
      | nil =>
        cases rest with
        | nil => rfl
        | cons next more =>
          cases hl : children.lookup name <;> simp [put, hl, at?, entry]
      | cons first q =>
        by_cases hn : first = name
        · subst hn
          cases rest with
          | nil =>
            cases q with
            | nil => exact absurd rfl hq
            | cons second q =>
              have h' : e = .folder ∨ (children.lookup first).map entry ≠ some .folder := by
                rw [at?_folder_cons] at h
                cases hl : children.lookup first with
                | none => simp
                | some child => simpa [hl, at?] using h
              rw [put, at?_folder_cons, at?_folder_cons, lookup_setChild_self, Option.bind_some, at?_ofEntry h']
          | cons next more =>
            cases hl : children.lookup first with
            | none => simp [put, hl]
            | some child =>
              have h' : e = .folder ∨ (child.at? (next :: more)).map entry ≠ some .folder := by
                simpa [at?, hl] using h
              have := ih (q := q) (n := child) (fun hc => hq (by rw [hc])) h'
              simpa [put, hl, at?, lookup_setChild_self] using this
        · cases rest with
          | nil => simp [put, at?, lookup_setChild_of_ne hn]
          | cons next more =>
            cases hl : children.lookup name with
            | none => simp [put, hl]
            | some child => simp [put, hl, at?, lookup_setChild_of_ne hn]

/-- A folder stays one, whatever is put below it. -/
theorem folder_children_put (e : Entry) (p : Place) (children : List (String × Node)) :
    Node.folder ((Node.folder children).put e p).children = (Node.folder children).put e p := by
  cases p with
  | nil => rfl
  | cons name rest =>
    cases rest with
    | nil => rfl
    | cons next more => cases hl : children.lookup name <;> simp [put, hl, Node.children]

/-- The node without what lies at a place below it. -/
def prune : Place → Node → Node
  | [], n => n
  | _ :: _, .file content => .file content
  | [name], .folder children => .folder (children.filter fun x => x.1 != name)
  | name :: rest, .folder children =>
    match children.lookup name with
    | some child => .folder (setChild name (child.prune rest) children)
    | none => .folder children

mutual

/-- All that lies below a node, with the names that lead to it. -/
def walk : Node → List (Place × Entry)
  | .file _ => []
  | .folder children => walkChildren [] children

/-- All that lies in a folder and below, leaving out the names in `seen`. -/
def walkChildren (seen : List String) : List (String × Node) → List (Place × Entry)
  | [] => []
  | (name, n) :: rest =>
    if seen.contains name then walkChildren seen rest
    else ([name], n.entry) :: (walk n).map (fun x => (name :: x.1, x.2)) ++ walkChildren (name :: seen) rest

end

end Node

/-- A tree of files and folders, with the folder that relative paths start from. -/
structure FileTree where
  /-- What lies in the root. -/
  root : List (String × Node)
  /-- The folder that relative paths start from. -/
  here : Place
  deriving Repr

namespace FileTree

/-- The node at a place. -/
def at? (t : FileTree) (p : Place) : Option Node := (Node.folder t.root).at? p

/-- What a place holds, if anything. The root always holds a folder. -/
def look? (t : FileTree) (p : Place) : Option Entry := (t.at? p).map Node.entry

/-- Tells whether a place holds a folder. -/
def isFolder (t : FileTree) (p : Place) : Bool := t.look? p == some .folder

/-- The tree with something put at a place that lies in a folder, instead of what it held. -/
def put (t : FileTree) (p : Place) (e : Entry) : FileTree := { t with root := ((Node.folder t.root).put e p).children }

theorem look?_put_self (e : Entry) {p : Place} (hp : p ≠ []) {t : FileTree} (h : t.isFolder p.dropLast = true) :
    (t.put p e).look? p = some e := by
  have h' : ((Node.folder t.root).at? p.dropLast).map Node.entry = some .folder := by
    simpa [isFolder, look?, at?] using h
  simp only [look?, at?, put, Node.folder_children_put]
  exact Node.at?_put_self e hp h'

theorem look?_put_of_ne {e : Entry} {p q : Place} (hq : q ≠ p) {t : FileTree} (h : e = .folder ∨ t.isFolder p = false) :
    (t.put p e).look? q = t.look? q := by
  have h' : e = .folder ∨ ((Node.folder t.root).at? p).map Node.entry ≠ some .folder := by
    simpa [isFolder, look?, at?] using h
  simp only [look?, at?, put, Node.folder_children_put]
  exact Node.at?_put_of_ne hq h'

/-- The tree without a place and all that lies below it. -/
def prune (t : FileTree) (p : Place) : FileTree := { t with root := ((Node.folder t.root).prune p).children }

/-- The tree that holds one folder, from which relative paths start. -/
def ofFolder (here : Place) : FileTree :=
  ⟨(here.foldr (fun name n => Node.folder [(name, n)]) (.folder [])).children, here⟩

/-- All that lies below a place, with the names that lead to it from there. -/
def below (t : FileTree) (p : Place) : List (Place × Entry) := ((t.at? p).map Node.walk).getD []

/-- Compares places name by name, by the order of code points. -/
def Place.le : Place → Place → Bool
  | [], _ => true
  | _ :: _, [] => false
  | a :: p, b :: q => a < b || (a == b && Place.le p q)

/-- The places of the files below a folder, ordered name by name: what lies in a folder stands where its name stands. -/
def filesBelow (t : FileTree) (p : Place) : List Place :=
  ((t.below p).filterMap fun x => if x.2 = .folder then none else some x.1).mergeSort Place.le

end FileTree

end RecordSheets
