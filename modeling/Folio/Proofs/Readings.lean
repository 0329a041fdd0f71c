import Folio.Proofs.Cancellation
import Folio.Proofs.Walks
/-!
# Two readings of one text

A directory and what follows it are read at once or one after the other: what a directory collapses to
leads where the directory leads (`place_of_collapse`), so it can stand for the directory in front of any
text (`collapse_appended`).

A text is read as the name of a page or as a reference from the root page. The root page's directory is
empty, so both read the same segments, up to the mark of the root: a name drops it wherever it stands
first, a reference only before a slash. Where both do, or there is no mark, the readings are the same;
where only the name drops it, the reference has its walk on top of one more segment, and the readings
come together only if the walk goes up beyond that segment (`names_and_references`).
-/

namespace Folio.Path

/-! ## Directories -/

/-- What a text collapses to leads where the text leads. -/
theorem place_of_collapse {cs dir : List Char} (h : collapse cs = some dir) : place dir = place cs := by
  obtain ⟨stack, hstack, rfl⟩ := Option.map_eq_some_iff.1 h
  have hord : ∀ s ∈ stack.reverse, Ordinary s := fun s hs => ordinary_place hstack s (List.mem_reverse.1 hs)
  rw [place_spell _ hord, List.reverse_reverse]
  exact hstack.symm

theorem collapse_eq_none_iff (cs : List Char) : collapse cs = none ↔ place cs = none := by
  rw [collapse_eq, Option.map_eq_none_iff]

/-- What escapes the root does so whatever follows it. -/
theorem collapse_slash_of_none {cs : List Char} (h : collapse cs = none) (ds : List Char) :
    collapse (cs ++ '/' :: ds) = none := by
  rw [collapse_eq_none_iff] at h ⊢
  rw [place_slash, h, Option.bind_none]

/-- What a text collapses to stands for it in front of every other text. -/
theorem collapse_slash_of_some {cs dir : List Char} (h : collapse cs = some dir) (ds : List Char) :
    collapse (cs ++ '/' :: ds) = collapse (dir ++ '/' :: ds) := by
  rw [collapse_eq_iff, place_slash, place_slash, place_of_collapse h]

theorem collapse_slash (cs ds : List Char) :
    collapse (cs ++ '/' :: ds) = (collapse cs).bind fun dir => collapse (dir ++ '/' :: ds) := by
  cases h : collapse cs with
  | none => exact collapse_slash_of_none h ds
  | some dir => exact collapse_slash_of_some h ds

/-- Collapsing a directory before a text is appended to it changes nothing: what is collapsed afterwards
is the same path, and fails where the directory or the whole does. So a reference that does not start at
the root leads where it leads from the normal form of the base's directory, and nowhere if there is none. -/
theorem collapse_appended :
    (∀ cs ds, collapse cs = none → collapse (cs ++ '/' :: ds) = none) ∧
    (∀ cs dir ds, collapse cs = some dir → collapse (cs ++ '/' :: ds) = collapse (dir ++ '/' :: ds)) ∧
    ∀ base reference : String, reference ≠ "" → ¬ IsRooted reference.toList →
      (resolve base reference).toOption =
        ((collapse (directory base.toList)).bind fun dir => collapse (dir ++ '/' :: reference.toList)).map
          String.ofList := by
  refine ⟨fun cs ds h => collapse_slash_of_none h ds, fun cs dir ds h => collapse_slash_of_some h ds, ?_⟩
  intro base reference hne hr
  rw [toOption_resolve, if_neg (by simpa using hne), join_of_not_rooted hr, collapse_slash]

/-- A directory above the root has no text in it; one that comes to the root is read as the root; and the
page at `blog/../docs/./intro` finds its layout from `/docs`. -/
theorem collapse_appended_docs :
    collapse ("docs/../..".toList ++ '/' :: "docs".toList) = none ∧
      collapse ("docs/..".toList ++ '/' :: "blog//..".toList) = collapse ("/".toList ++ '/' :: "blog//..".toList) ∧
      (resolve "blog/../docs/./intro" "../_layout").toOption = some "/_layout" := by
  obtain ⟨hescapes, hstands, hresolve⟩ := collapse_appended
  refine ⟨hescapes _ _ (by rfl), hstands _ _ _ (by rfl), ?_⟩
  rw [hresolve _ _ (by decide) (by decide)]
  rfl

/-! ## Walks on top of one segment -/

/-- Walks that start on different segments end apart, unless they go up beyond them. -/
theorem walk_eq_walk_iff {s t : Segment} (hne : s ≠ t) (ss : List Segment) :
    walk [s] ss = walk [t] ss ↔ Escapes [] ss := by
  constructor
  · intro h
    rw [escapes_iff]
    cases hwalk : walk [] ss with
    | none => exact hwalk
    | some out =>
      have habove (u : Segment) : walk [u] ss = some (out ++ [u]) := walk_above ss hwalk
      rw [habove, habove, Option.some.injEq, List.append_cancel_left_eq] at h
      exact absurd (List.singleton_inj.1 h) hne
  · rintro ⟨pre, ⟨rest, rfl⟩, hwalks⟩
    have hgone (u : Segment) : walk [u] (pre ++ [parent] ++ rest) = walk [] rest := by
      have hpre : walk [u] pre = some [u] := walk_above pre (walk_of_walks hwalks)
      rw [walk_append, walk_append, hpre]
      rfl
    rw [hgone, hgone]

/-- A walk from the root ends apart from one on top of a segment, unless both fail. -/
theorem walk_eq_walk_root_iff (s : Segment) (ss : List Segment) : walk [] ss = walk [s] ss ↔ Escapes [s] ss := by
  rw [escapes_iff, List.reverse_singleton]
  cases hwalk : walk [] ss with
  | none => exact eq_comm
  | some out =>
    have habove : walk [s] ss = some (out ++ [s]) := walk_above ss hwalk
    simp [habove]

/-! ## Names and references -/

theorem normalize_eq_resolve_root_iff {r : String} (hr : r ≠ "") :
    normalize r = resolve "/" r ↔ place (dropRootMark r.toList) = place (join ['/'] r.toList) := by
  have hroot : "/".toList = ['/'] := by rfl
  rw [← collapse_eq_iff, normalize, resolve, if_neg (by simpa using hr), hroot]
  -- Both failures name the root and the text as written.
  cases collapse (dropRootMark r.toList) <;> cases collapse (join ['/'] r.toList) <;>
    simp [String.ofList_inj]

/-- The root page's directory is empty: a reference that does not start at the root is read as it stands. -/
theorem place_join_root {cs : List Char} (h : ¬ IsRooted cs) : place (join ['/'] cs) = place cs := by
  rw [place_join h]
  rfl

/-- A text without the mark, or with a slash after it, is the same page as a name and as a reference. -/
theorem normalize_eq_resolve_root {r : String} (hr : r ≠ "")
    (h : r.toList.head? ≠ some '~' ∨ IsRooted r.toList) : normalize r = resolve "/" r := by
  rw [normalize_eq_resolve_root_iff hr]
  by_cases hrooted : IsRooted r.toList
  · rw [join_eq_of_rooted hrooted]
  · rw [place_join_root hrooted, dropRootMark_of_head? (h.resolve_right hrooted)]

section Mark
variable {cs : List Char} {s : Segment} {ss : List Segment}

theorem place_of_segments (h : segments cs = s :: ss) : place cs = (step [] s).bind (walk · ss) := by
  rw [place, h, walk_cons]

/-- With the mark in front, the first segment is an ordinary one whatever it was. -/
theorem place_mark (h : segments cs = s :: ss) : place ('~' :: cs) = walk ['~' :: s] ss := by
  have hmark : segments ('~' :: cs) = ('~' :: s) :: ss := by simp [segments, h]
  have hmoves : stays ('~' :: s) = false := by simp [stays]
  have hname : '~' :: s ≠ parent := by simp [parent]
  rw [place_of_segments hmark, step_moves hmoves hname, Option.bind_some]

theorem walk_eq_mark_iff :
    (step [] s).bind (walk · ss) = walk ['~' :: s] ss ↔ Escapes (if isName s then [] else ['~' :: s]) ss := by
  by_cases hname : isName s = true
  · obtain ⟨hmoves, hp⟩ := (isName_iff s).1 hname
    rw [if_pos hname, step_moves hmoves hp, Option.bind_some]
    exact walk_eq_walk_iff (List.cons_ne_self '~' s).symm ss
  · rw [if_neg hname]
    by_cases hs : stays s = true
    · rw [step_stays hs, Option.bind_some]
      exact walk_eq_walk_root_iff _ ss
    · -- What is no name and does not stay goes up, here from the root.
      obtain rfl : s = parent := by
        by_contra hp
        exact hname ((isName_iff s).2 ⟨by simpa using hs, hp⟩)
      rw [escapes_iff]
      exact eq_comm

end Mark

/-- A text without the mark of the root, or with a slash after the mark, names the page that it refers to
from the root page, in every catalog, and fails as both with the same error. Where the mark stands without
a slash, the name is without it, and the reference has it as the first letter of its first segment. There
the two agree exactly if the rest of the text goes up again beyond that segment, and beyond the root where
the name has no such segment. -/
theorem names_and_references {r : String} (hr : r ≠ "") :
    (r.toList.head? ≠ some '~' ∨ IsRooted r.toList →
      normalize r = resolve "/" r ∧ ∀ catalog : Catalog, catalog.get r = (resolve "/" r).bind catalog.get) ∧
    ∀ cs s ss, r.toList = '~' :: cs → cs.splitOn '/' = s :: ss → ¬ IsRooted r.toList →
      (normalize r = resolve "/" r ↔ Escapes (if isName s then [] else ['~' :: s]) ss) := by
  refine ⟨fun h => ?_, fun cs s ss htext hsegments hrooted => ?_⟩
  · have hsame := normalize_eq_resolve_root hr h
    exact ⟨hsame, fun catalog => hsame ▸ catalog.get_eq_bind r⟩
  · rw [← segments_eq_splitOn] at hsegments
    rw [normalize_eq_resolve_root_iff hr, place_join_root hrooted, htext, place_mark hsegments, dropRootMark,
      place_of_segments hsegments]
    exact walk_eq_mark_iff

/-- With a slash after the mark both readings are one. Without it they come together above the first
segment and not below it. -/
theorem names_and_references_docs :
    normalize "~/docs/./intro" = resolve "/" "~/docs/./intro" ∧
      normalize "~docs/../intro" = resolve "/" "~docs/../intro" ∧
      normalize "~docs/intro" ≠ resolve "/" "~docs/intro" := by
  let docs : Segment := "docs".toList
  let intro : Segment := "intro".toList
  obtain ⟨hslash, -⟩ := names_and_references (r := "~/docs/./intro") (by decide)
  obtain ⟨-, habove⟩ := names_and_references (r := "~docs/../intro") (by decide)
  obtain ⟨-, hbelow⟩ := names_and_references (r := "~docs/intro") (by decide)
  have hescapes : Escapes [] [parent, intro] := ⟨[], ⟨[intro], rfl⟩, .done⟩
  have hstays : ¬ Escapes [] [intro] := (escapes_iff _ _).not.2 (by decide)
  refine ⟨(hslash (.inr (by decide))).1, ?_, ?_⟩
  · exact (habove "docs/../intro".toList docs [parent, intro] (by rfl) (by decide) (by decide)).2 hescapes
  · exact (hbelow "docs/intro".toList docs [intro] (by rfl) (by decide) (by decide)).not.2 hstays

/-- A page whose path is written with the mark and no slash is registered without the mark. The root page
looks for it under the mark, by the very text that it is registered and viewed by, and does not find it;
and a text that fails as a name leads somewhere as a reference. -/
theorem mark_without_slash :
    let page : Page := ⟨"~draft", none, .done (.ok ())⟩
    let catalog : Catalog := ⟨[("/draft", page)]⟩
    normalize "~draft" = .ok "/draft" ∧ resolve "/" "~draft" = .ok "/~draft" ∧
      Catalog.empty.register page = .ok catalog ∧ catalog.get "~draft" = .ok page ∧
      (resolve "/" "~draft").bind catalog.get = .error (.pageNotFound "/~draft") ∧
      normalize "~../draft" = .error (.invalidPath "/" "~../draft") ∧
      resolve "/" "~../draft" = .ok "/~../draft" :=
  ⟨by rfl, by rfl, by rfl, by rfl, by rfl, by rfl, by rfl⟩

end Folio.Path
