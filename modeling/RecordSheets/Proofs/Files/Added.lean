import RecordSheets.Proofs.Files.Making

/-!
# Paths in a tree with more folders

Where folders were added, a path that does not go up leads to what it led to, unless something was missing on its way: then it may lead
on, into folders that are new (`AddsFolders.find_cases`).
-/

namespace RecordSheets.FileTree

/-- What following names comes to on a way on which something is missing in a tree: nothing is found, a name is too long, or a place is
reached that the tree does not have. -/
def Astray (t : FileTree) (r : Except SystemError Place) : Prop :=
  r = .error .notFound ∨ r = .error .nameTooLong ∨ ∃ q, r = .ok q ∧ t.look? q = none

namespace AddsFolders

variable {t t' : FileTree} (h : AddsFolders t t')
include h

/-- Below a place that was not there only folders may be found. -/
theorem follow_of_look?_eq_none {p : Place} (hp : t.look? p = none) {names : List String} (hup : ".." ∉ names) :
    t.Astray (t'.follow p names) := by
  induction names generalizing p with
  | nil => exact .inr (.inr ⟨p, rfl, hp⟩)
  | cons name rest ih =>
    rw [List.mem_cons, not_or] at hup
    rw [follow_cons]
    cases hlook : t'.look? p with
    | none =>
      left
      rw [step_eq, hlook]
      rfl
    | some e =>
      obtain rfl := h.introduced p e hp hlook
      by_cases hmoves : Path.staysPut name = true
      · rw [step_eq, hlook]
        simp only [hmoves, if_true]
        exact ih hp hup.2
      · rw [step_moves (isFolder_iff.2 hlook) (by simpa using hmoves) (Ne.symm hup.1)]
        split
        · exact .inr (.inl rfl)
        · split
          · refine ih ?_ hup.2
            by_contra hsome
            have hfolder := isFolder_of_look? (List.cons_ne_nil name []) (Option.isSome_iff_ne_none.2 hsome)
            rw [isFolder_iff.1 hfolder] at hp
            cases hp
          · exact .inl rfl

/-- A step that could not be made can not be made for the same reason, or a name was missing that may be there now. -/
theorem step_of_error {p : Place} {name : String} (hup : name ≠ "..") {e : SystemError} (hs : t.step p name = .error e)
    (hthere : (t.look? p).isSome = true) :
    t'.step p name = .error e ∨
      e = .notFound ∧ t.look? (p ++ [name]) = none ∧ t'.step p name = .ok (p ++ [name]) := by
  obtain ⟨there, hlook⟩ := Option.isSome_iff_exists.1 hthere
  have hlook' := h.retains p there hlook
  cases there with
  | file content =>
    left
    rw [step_eq, hlook] at hs
    rw [step_eq, hlook']
    exact hs
  | folder =>
    by_cases hmoves : Path.staysPut name = true
    · rw [step_eq, hlook] at hs
      simp [hmoves] at hs
    · rw [step_moves (isFolder_iff.2 hlook) (by simpa using hmoves) hup] at hs
      rw [step_moves (isFolder_iff.2 hlook') (by simpa using hmoves) hup]
      by_cases hlong : nameLimit < name.utf8ByteSize
      · rw [if_pos hlong] at hs ⊢
        exact .inl hs
      · rw [if_neg hlong] at hs ⊢
        split at hs
        · cases hs
        · rename_i hnone
          cases hs
          split
          · exact .inr ⟨rfl, by simpa using hnone, rfl⟩
          · exact .inl rfl

/-- A way that could not be followed can not be followed for the same reason, or something was missing on it. -/
theorem follow_of_error {p : Place} {names : List String} (hup : ".." ∉ names) {e : SystemError}
    (hf : t.follow p names = .error e) :
    t'.follow p names = .error e ∨ e = .notFound ∧ t.Astray (t'.follow p names) := by
  induction names generalizing p with
  | nil => cases hf
  | cons name rest ih =>
    have hnew : t.look? p = none → t.Astray (t'.follow p (name :: rest)) := fun hp => h.follow_of_look?_eq_none hp hup
    rw [List.mem_cons, not_or] at hup
    rw [follow_cons] at hf hnew ⊢
    cases hstep : t.step p name with
    | ok q =>
      rw [hstep] at hf
      rw [h.grows.step hstep]
      exact ih hup.2 hf
    | error err =>
      rw [hstep] at hf
      obtain rfl : err = e := Except.error.inj hf
      cases hlook : t.look? p with
      | none =>
        rw [step_eq, hlook] at hstep
        exact .inr ⟨(Except.error.inj hstep).symm, hnew hlook⟩
      | some there =>
        rcases h.step_of_error (Ne.symm hup.1) hstep (by rw [hlook]; rfl) with hsame | ⟨rfl, hmissing, hchild⟩
        · rw [hsame]
          exact .inl rfl
        · rw [hchild]
          exact .inr ⟨rfl, h.follow_of_look?_eq_none hmissing hup.2⟩

/-- A path that does not go up leads to what it led to. Only where nothing was found it may lead to a new folder, or come to a name that
is too long. -/
theorem find_cases {path : String} (hup : ".." ∉ Path.names path) :
    t'.find path = t.find path ∨
      t.find path = .error .notFound ∧ (t'.find path = .ok .folder ∨ t'.find path = .error .nameTooLong) := by
  unfold find locate
  rw [← origin_eq h.here]
  cases checkPath path with
  | error e => exact .inl rfl
  | ok u =>
    simp only [bind, Except.bind]
    have hplace : ∀ {q}, t.look? q = none → t'.look? q = none ∨ t'.look? q = some .folder := by
      intro q hq
      cases hlook : t'.look? q with
      | none => exact .inl rfl
      | some e => exact .inr (by rw [h.introduced q e hq hlook])
    cases hf : t.follow (t.origin path) (Path.names path) with
    | ok q =>
      rw [h.grows.follow hf]
      cases hlook : t.look? q with
      | some e => simp [h.retains q e hlook, hlook]
      | none => rcases hplace hlook with hq | hq <;> simp [hq, hlook]
    | error e =>
      rcases h.follow_of_error hup hf with hsame | ⟨rfl, hastray | hastray | ⟨q, hreached, hnone⟩⟩
      · rw [hsame]
        exact .inl rfl
      · rw [hastray]
        exact .inl rfl
      · rw [hastray]
        exact .inr ⟨rfl, .inr rfl⟩
      · rw [hreached]
        rcases hplace hnone with hq | hq <;> simp [hq]

end AddsFolders

end RecordSheets.FileTree
