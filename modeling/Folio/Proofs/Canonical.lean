import Folio.Catalog
/-!
# Canonical paths

A path is canonical when its segments are ordinary: none is empty, `.` or `..`. A walk leaves only
ordinary segments on its stack, and reading ordinary segments pushes them one by one, so what
`normalize` and `resolve` return is canonical and is its own normal form (`normalize_normalize`,
`normalize_resolve`). A catalog therefore looks a normalised path up under exactly that key
(`get_of_normalized`).
-/

namespace Folio.Path

/-! ## Segments -/

theorem segments_eq_splitOn (cs : List Char) : segments cs = cs.splitOn '/' := by
  induction cs with
  | nil => rfl
  | cons c cs ih =>
    rw [List.splitOn_cons_eq_if_modifyHead, segments, ih]
    by_cases hc : c = '/'
    · simp [hc]
    · simp only [hc, if_false, beq_iff_eq]
      cases hss : cs.splitOn '/' with
      | nil => exact absurd hss (List.splitOn_ne_nil '/' cs)
      | cons s ss => rfl

theorem slash_not_mem_segments (cs : List Char) : ∀ s ∈ segments cs, '/' ∉ s := by
  induction cs with
  | nil => simp [segments]
  | cons c cs ih =>
    simp only [segments]
    split
    · intro s hs
      rcases List.mem_cons.1 hs with rfl | hs
      · simp
      · exact ih s hs
    · next hc =>
      split
      · intro s hs
        rw [List.mem_singleton.1 hs]
        simpa using Ne.symm hc
      · next t ts heq =>
        rw [heq] at ih
        intro s hs
        rcases List.mem_cons.1 hs with rfl | hs
        · simpa using ⟨Ne.symm hc, ih t List.mem_cons_self⟩
        · exact ih s (List.mem_cons_of_mem _ hs)

/-- A segment that a walk goes down to. -/
structure Ordinary (s : Segment) : Prop where
  moves : stays s = false
  ne_parent : s ≠ parent
  no_slash : '/' ∉ s

/-! ## Walks over ordinary segments -/

theorem step_stays {s : Segment} (h : stays s = true) (stack : List Segment) : step stack s = some stack := by
  simp [step, h]

theorem step_moves {s : Segment} (h : stays s = false) (hp : s ≠ parent) (stack : List Segment) :
    step stack s = some (s :: stack) := by
  simp [step, h, hp]

theorem step_ordinary {s : Segment} (h : Ordinary s) (stack : List Segment) : step stack s = some (s :: stack) :=
  step_moves h.moves h.ne_parent stack

theorem walk_ordinary (ss : List Segment) (h : ∀ s ∈ ss, Ordinary s) :
    ∀ stack, walk stack ss = some (ss.reverse ++ stack) := by
  induction ss with
  | nil => intro stack; rfl
  | cons s ss ih =>
    intro stack
    rw [walk_cons, step_ordinary (h s (by simp)), Option.bind_some, ih (fun t ht => h t (by simp [ht]))]
    simp

/-- What one segment does to a stack: some do nothing, `..` takes the top off, and all others are put on it. -/
theorem step_cases {stack out : List Segment} {s : Segment} (h : step stack s = some out) :
    (stays s = true ∧ out = stack) ∨ (s = parent ∧ ∃ top, stack = top :: out) ∨
      (stays s = false ∧ s ≠ parent ∧ out = s :: stack) := by
  unfold step at h
  split at h
  · next hs => cases h; exact .inl ⟨hs, rfl⟩
  · next hs =>
    split at h
    · next hp =>
      cases stack with
      | nil => cases h
      | cons top outer => cases h; exact .inr (.inl ⟨hp, top, rfl⟩)
    · next hp => cases h; exact .inr (.inr ⟨by simpa using hs, hp, rfl⟩)

theorem step_eq_none {stack : List Segment} {s : Segment} (h : step stack s = none) : s = parent ∧ stack = [] := by
  unfold step at h
  split at h
  · cases h
  · split at h
    · next hp =>
      cases stack with
      | nil => exact ⟨hp, rfl⟩
      | cons top outer => cases h
    · cases h

theorem ordinary_step {stack out : List Segment} {s : Segment} (hs : '/' ∉ s) (hstack : ∀ t ∈ stack, Ordinary t)
    (h : step stack s = some out) : ∀ t ∈ out, Ordinary t := by
  rcases step_cases h with ⟨-, rfl⟩ | ⟨-, top, rfl⟩ | ⟨hm, hp, rfl⟩
  · exact hstack
  · exact fun t ht => hstack t (List.mem_cons_of_mem _ ht)
  · intro t ht
    rcases List.mem_cons.1 ht with rfl | ht
    · exact ⟨hm, hp, hs⟩
    · exact hstack t ht

/-- A walk leaves only ordinary segments on the stack. -/
theorem ordinary_walk (ss : List Segment) (hss : ∀ s ∈ ss, '/' ∉ s) :
    ∀ {stack out : List Segment}, (∀ t ∈ stack, Ordinary t) → walk stack ss = some out → ∀ t ∈ out, Ordinary t := by
  induction ss with
  | nil => intro stack out hstack h; cases h; exact hstack
  | cons s ss ih =>
    intro stack out hstack h
    rw [walk_cons] at h
    obtain ⟨mid, hmid, hrest⟩ := Option.bind_eq_some_iff.1 h
    exact ih (fun t ht => hss t (by simp [ht])) (ordinary_step (hss s (by simp)) hstack hmid) hrest

/-! ## Normal forms -/

theorem segments_spell (ss : List Segment) (h : ∀ s ∈ ss, '/' ∉ s) :
    segments (spell ss) = [] :: if ss = [] then [[]] else ss := by
  cases ss with
  | nil => rfl
  | cons s ss =>
    have hspell : spell (s :: ss) = List.intercalate ['/'] ([] :: s :: ss) := by
      simp [spell, List.intercalate, List.intersperse]
    rw [segments_eq_splitOn, hspell, List.splitOn_intercalate _ (by simpa using h) (by simp)]
    simp

/-- The place that a text leads to from the root: the segments on the way, innermost first. -/
def place (cs : List Char) : Option (List Segment) := walk [] (segments cs)

theorem collapse_eq (cs : List Char) : collapse cs = (place cs).map (spell ·.reverse) := rfl

/-- The path of ordinary segments leads along them. -/
theorem place_spell (ss : List Segment) (h : ∀ s ∈ ss, Ordinary s) : place (spell ss) = some ss.reverse := by
  rw [place, segments_spell ss (fun s hs => (h s hs).no_slash), walk_cons]
  have hempty : step [] [] = some [] := rfl
  rw [hempty, Option.bind_some]
  split
  · next he => subst he; rfl
  · rw [walk_ordinary ss h]; simp

/-- The path of ordinary segments stands for itself. -/
theorem collapse_spell (ss : List Segment) (h : ∀ s ∈ ss, Ordinary s) : collapse (spell ss) = some (spell ss) := by
  rw [collapse_eq, place_spell ss h]; simp

theorem exists_spell_of_collapse {cs ds : List Char} (h : collapse cs = some ds) :
    ∃ ss, (∀ s ∈ ss, Ordinary s) ∧ ds = spell ss := by
  obtain ⟨out, hout, rfl⟩ := Option.map_eq_some_iff.1 h
  have hord := ordinary_walk (segments cs) (slash_not_mem_segments cs) (by simp) hout
  exact ⟨out.reverse, fun s hs => hord s (List.mem_reverse.1 hs), rfl⟩

/-- What a text collapses to stands for itself, also where the mark of the root is taken off. -/
theorem normalize_of_collapse {cs ds : List Char} (h : collapse cs = some ds) :
    normalize (String.ofList ds) = .ok (String.ofList ds) := by
  obtain ⟨ss, hss, rfl⟩ := exists_spell_of_collapse h
  have hmark : dropRootMark (spell ss) = spell ss := rfl
  simp only [normalize, String.toList_ofList, hmark, collapse_spell ss hss]

theorem normalize_eq_ok {path view : String} (h : normalize path = .ok view) :
    ∃ cs, collapse (dropRootMark path.toList) = some cs ∧ view = String.ofList cs := by
  unfold normalize at h
  split at h
  · next cs hcs => cases h; exact ⟨cs, hcs, rfl⟩
  · cases h

theorem normalize_eq_error {path : String} {e : Error} (h : normalize path = .error e) : e = .invalidPath "/" path := by
  unfold normalize at h
  split at h <;> cases h
  rfl

/-- A path in canonical form: a slash, then names with a slash between them. -/
def Canonical (path : String) : Prop := ∃ ss : List Segment, (∀ s ∈ ss, Ordinary s) ∧ path.toList = spell ss

theorem canonical_of_collapse {cs ds : List Char} (h : collapse cs = some ds) : Canonical (String.ofList ds) := by
  obtain ⟨ss, hss, rfl⟩ := exists_spell_of_collapse h
  exact ⟨ss, hss, String.toList_ofList⟩

theorem canonical_of_normalize {path view : String} (h : normalize path = .ok view) : Canonical view := by
  obtain ⟨cs, hcs, rfl⟩ := normalize_eq_ok h
  exact canonical_of_collapse hcs

/-- The canonical paths are those that are their own normal form. -/
theorem normalize_eq_self_iff (path : String) : normalize path = .ok path ↔ Canonical path := by
  constructor
  · exact canonical_of_normalize
  · rintro ⟨ss, hss, hpath⟩
    have hself := normalize_of_collapse (collapse_spell ss hss)
    rwa [← hpath, String.ofList_toList] at hself

/-- A canonical path goes nowhere up. -/
theorem Canonical.parent_not_mem {path : String} (h : Canonical path) : parent ∉ segments path.toList := by
  obtain ⟨ss, hss, hpath⟩ := h
  rw [hpath, segments_spell ss fun s hs => (hss s hs).no_slash]
  by_cases hnil : ss = []
  · simp [hnil, parent]
  · rw [if_neg hnil]
    intro hmem
    rcases List.mem_cons.1 hmem with hp | hp
    · cases hp
    · exact (hss parent hp).ne_parent rfl

/-- A normalised path is its own normal form. -/
theorem normalize_normalize {path view : String} (h : normalize path = .ok view) : normalize view = .ok view := by
  exact (normalize_eq_self_iff view).2 (canonical_of_normalize h)

theorem canonical_of_resolve {base reference target : String} (h : resolve base reference = .ok target) :
    Canonical target := by
  unfold resolve at h
  split at h
  · cases h
  · split at h
    · next cs hcs => cases h; exact canonical_of_collapse hcs
    · cases h

/-- What a reference resolves to is its own normal form. -/
theorem normalize_resolve {base reference target : String} (h : resolve base reference = .ok target) :
    normalize target = .ok target :=
  (normalize_eq_self_iff target).2 (canonical_of_resolve h)

end Folio.Path

namespace Folio.Catalog

/-- A path in normal form is looked up as it stands. -/
theorem get_of_normalized (c : Catalog) {key : String} (h : Path.normalize key = .ok key) :
    c.get key = match c.find? key with
      | some page => .ok page
      | none => .error (.pageNotFound key) := by
  unfold get
  cases hf : c.find? key <;> simp [h, hf]

/-- A path is looked up as its normal form, and fails where it has none. -/
theorem get_eq_bind (c : Catalog) (path : String) : c.get path = (Path.normalize path).bind c.get := by
  cases h : Path.normalize path with
  | error e => simp only [get, h, Except.bind]
  | ok key => simp only [get, h, Path.normalize_normalize h, Except.bind]

theorem find?_of_get {c : Catalog} {key : String} {page : Page} (h : Path.normalize key = .ok key)
    (hg : c.get key = .ok page) : c.find? key = some page := by
  rw [c.get_of_normalized h] at hg
  cases hf : c.find? key with
  | none => simp [hf] at hg
  | some found =>
    obtain rfl : found = page := by simpa [hf] using hg
    rfl

theorem contains_of_normalized (c : Catalog) {key : String} (h : Path.normalize key = .ok key) :
    c.contains key = (c.find? key).isSome := by
  simp only [contains, h]

end Folio.Catalog
