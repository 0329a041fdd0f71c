import Mathlib.Data.List.TakeWhile
import Folio.Proofs.Canonical
/-!
# Where references lead

A page is registered under its normalised path, and its references are resolved against its path as
it is written. Reading is segment by segment, so a reference that does not start at the root goes on
from where the base's directory leads (`place_join`), and two bases agree on all references exactly
if their directories lead to the same place (`agree_iff`).

A normalised path has the parent of its place as its directory. Of the other spellings of a path
those that end with its last segment do too (`agree_of_plain`); one that starts with `~/` never
does, as the mark is read as a segment in a base (`not_agree_of_mark`). `resolve_as_written` puts
these together.
-/

namespace Folio.Path

/-! ## Reading in two parts -/

theorem segments_slash (cs ds : List Char) : segments (cs ++ '/' :: ds) = segments cs ++ segments ds := by
  induction cs with
  | nil => rfl
  | cons c cs ih =>
    simp only [List.cons_append, segments, ih]
    by_cases hc : c = '/'
    · simp only [hc, if_true, List.cons_append]
    · simp only [hc, if_false]
      cases hss : segments cs with
      | nil => exact absurd hss (segments_ne_nil cs)
      | cons s ss => rfl

/-- A text with a slash is read up to the slash and on from there. -/
theorem place_slash (cs ds : List Char) : place (cs ++ '/' :: ds) = (place cs).bind (walk · (segments ds)) := by
  rw [place, segments_slash, walk_append, place]

theorem ordinary_place {cs : List Char} {ss : List Segment} (h : place cs = some ss) : ∀ s ∈ ss, Ordinary s :=
  ordinary_walk (segments cs) (slash_not_mem_segments cs) (by simp) h

theorem spell_injective {ss ts : List Segment} (hss : ∀ s ∈ ss, Ordinary s) (hts : ∀ s ∈ ts, Ordinary s)
    (h : spell ss = spell ts) : ss = ts := by
  have hplaces := place_spell ss hss
  rw [h, place_spell ts hts] at hplaces
  simpa [eq_comm] using hplaces

/-- Texts collapse to the same path exactly if they lead to the same place. -/
theorem collapse_eq_iff (cs ds : List Char) : collapse cs = collapse ds ↔ place cs = place ds := by
  rw [collapse_eq, collapse_eq]
  constructor
  · intro h
    cases hc : place cs with
    | none => rw [hc] at h; exact (Option.map_eq_none_iff.1 h.symm).symm
    | some ss =>
      rw [hc] at h
      obtain ⟨ts, hd, hspell⟩ := Option.map_eq_some_iff.1 h.symm
      have hss : ∀ s ∈ ss.reverse, Ordinary s := fun s hs => ordinary_place hc s (List.mem_reverse.1 hs)
      have hts : ∀ s ∈ ts.reverse, Ordinary s := fun s hs => ordinary_place hd s (List.mem_reverse.1 hs)
      rw [hd, List.reverse_inj.1 (spell_injective hts hss hspell)]
  · intro h
    rw [h]

/-! ## References -/

/-- A reference that starts at the root. -/
def IsRooted (reference : List Char) : Prop := ∃ cs, reference = '/' :: cs ∨ reference = '~' :: '/' :: cs

theorem isRooted_iff_starts (reference : List Char) :
    ['/'] <+: reference ∨ ['~', '/'] <+: reference ↔ IsRooted reference := by
  constructor
  · rintro (⟨cs, rfl⟩ | ⟨cs, rfl⟩)
    · exact ⟨cs, .inl rfl⟩
    · exact ⟨cs, .inr rfl⟩
  · rintro ⟨cs, rfl | rfl⟩
    · exact .inl ⟨cs, rfl⟩
    · exact .inr ⟨cs, rfl⟩

instance (reference : List Char) : Decidable (IsRooted reference) :=
  decidable_of_iff _ (isRooted_iff_starts reference)

/-- Every reference leads to the same path from two bases, or fails from both. -/
def Agree (base base' : String) : Prop :=
  ∀ reference, (resolve base reference).toOption = (resolve base' reference).toOption

theorem toOption_resolve (base reference : String) :
    (resolve base reference).toOption =
      if reference.isEmpty then none else (collapse (join base.toList reference.toList)).map String.ofList := by
  unfold resolve
  split
  · rfl
  · cases collapse (join base.toList reference.toList) <;> rfl

theorem join_of_rooted {reference : List Char} (h : IsRooted reference) (base base' : List Char) :
    join base reference = join base' reference := by
  obtain ⟨cs, rfl | rfl⟩ := h <;> rfl

theorem join_of_not_rooted {reference : List Char} (h : ¬ IsRooted reference) (base : List Char) :
    join base reference = directory base ++ '/' :: reference := by
  unfold join
  split
  · exact absurd ⟨_, .inr rfl⟩ h
  · exact absurd ⟨_, .inl rfl⟩ h
  · rfl

theorem place_join {reference : List Char} (h : ¬ IsRooted reference) (base : List Char) :
    place (join base reference) = (place (directory base)).bind (walk · (segments reference)) := by
  rw [join_of_not_rooted h, place_slash]

theorem toOption_resolve_eq {base base' reference : String}
    (h : IsRooted reference.toList ∨ place (directory base.toList) = place (directory base'.toList)) :
    (resolve base reference).toOption = (resolve base' reference).toOption := by
  simp only [toOption_resolve]
  split
  · rfl
  · congr 1
    by_cases hr : IsRooted reference.toList
    · rw [join_of_rooted hr base.toList base'.toList]
    · rw [collapse_eq_iff, place_join hr, place_join hr, h.resolve_left hr]

/-- Bases agree exactly if their directories lead to the same place. -/
theorem agree_iff (base base' : String) :
    Agree base base' ↔ place (directory base.toList) = place (directory base'.toList) := by
  constructor
  · intro h
    -- One reference with an ordinary name tells the places of two directories apart.
    have hx : ¬ IsRooted ['x'] := by rintro ⟨cs, h | h⟩ <;> simp at h
    have hcollapse : collapse (join base.toList ['x']) = collapse (join base'.toList ['x']) := by
      have hx' := h "x"
      simp only [toOption_resolve] at hx'
      exact Option.map_injective (fun cs ds => String.ofList_injective) hx'
    rw [collapse_eq_iff, place_join hx, place_join hx] at hcollapse
    have hwalk (stack : List Segment) : walk stack (segments ['x']) = some (['x'] :: stack) := rfl
    simp only [hwalk] at hcollapse
    cases hd : place (directory base.toList) <;> cases hd' : place (directory base'.toList) <;>
      simp_all
  · intro h reference
    exact toOption_resolve_eq (.inr h)

/-! ## Directories -/

theorem segments_of_no_slash {cs : List Char} (h : '/' ∉ cs) : segments cs = [cs] := by
  induction cs with
  | nil => rfl
  | cons c cs ih =>
    have hc : ¬ c = '/' := fun he => h (he ▸ List.mem_cons_self)
    simp only [segments, hc, if_false, ih fun hcs => h (List.mem_cons_of_mem c hcs)]

theorem directory_slash {name : List Char} (h : '/' ∉ name) (cs : List Char) :
    directory (cs ++ '/' :: name) = cs := by
  have hname : ∀ c ∈ name.reverse, decide (c ≠ '/') = true := fun c hc =>
    decide_eq_true fun he => h (he ▸ List.mem_reverse.1 hc)
  rw [directory, List.reverse_append, List.reverse_cons, List.append_assoc, List.dropWhile_append_of_pos hname]
  simp

theorem directory_of_no_slash {cs : List Char} (h : '/' ∉ cs) : directory cs = [] := by
  have hcs : ∀ c ∈ cs.reverse, decide (c ≠ '/') = true := fun c hc =>
    decide_eq_true fun he => h (he ▸ List.mem_reverse.1 hc)
  rw [directory, List.dropWhile_eq_nil_iff.2 hcs]
  rfl

theorem exists_name {cs : List Char} (h : '/' ∈ cs) : ∃ ds name, '/' ∉ name ∧ cs = ds ++ '/' :: name := by
  obtain ⟨name, ds, hcs, hname⟩ := List.eq_append_cons_of_mem (List.mem_reverse.2 h)
  refine ⟨ds.reverse, name.reverse, by simpa using hname, ?_⟩
  rw [← List.reverse_reverse cs, hcs]
  simp

theorem place_name {name : List Char} (h : '/' ∉ name) (cs : List Char) :
    place (cs ++ '/' :: name) = (place cs).bind (step · name) := by
  rw [place_slash, segments_of_no_slash h]
  congr 1
  funext stack
  simp [walk_cons, walk_nil]

/-- A text that ends with an ordinary segment leads one segment further than its directory. -/
theorem place_of_ordinary {cs name : List Char} (hlast : (segments cs).getLast? = some name) (hname : Ordinary name) :
    place cs = (place (directory cs)).map (name :: ·) := by
  by_cases hslash : '/' ∈ cs
  · obtain ⟨ds, last, hno, rfl⟩ := exists_name hslash
    rw [segments_slash, segments_of_no_slash hno] at hlast
    obtain rfl : last = name := by simpa using hlast
    rw [place_name hno, directory_slash hno, Option.map_eq_bind]
    congr 1
    funext stack
    exact step_ordinary hname stack
  · rw [segments_of_no_slash hslash] at hlast
    obtain rfl : cs = name := by simpa using hlast
    rw [directory_of_no_slash hslash, place, segments_of_no_slash hslash, walk_cons, step_ordinary hname]
    rfl

theorem getLast?_segments_spell {ss : List Segment} (h : ∀ s ∈ ss, Ordinary s) (hss : ss ≠ []) :
    (segments (spell ss)).getLast? = some (ss.getLast hss) := by
  rw [segments_spell ss fun s hs => (h s hs).no_slash, if_neg hss, List.getLast?_cons_of_ne_nil hss,
    List.getLast?_eq_some_getLast hss]

/-- The directory of a path of ordinary segments leads along all of them but the last. -/
theorem place_directory_spell {ss : List Segment} (h : ∀ s ∈ ss, Ordinary s) :
    place (directory (spell ss)) = some ss.reverse.tail := by
  by_cases hss : ss = []
  · subst hss
    rfl
  · have hplace := place_of_ordinary (getLast?_segments_spell h hss) (h _ (List.getLast_mem hss))
    rw [place_spell ss h] at hplace
    obtain ⟨stack, hstack, heq⟩ := Option.map_eq_some_iff.1 hplace.symm
    rw [hstack, ← heq]
    rfl

/-! ## Bases as written -/

theorem walk_above {base : List Segment} (ss : List Segment) :
    ∀ {stack out : List Segment}, walk stack ss = some out → walk (stack ++ base) ss = some (out ++ base) := by
  induction ss with
  | nil => intro stack out h; cases h; rfl
  | cons s ss ih =>
    intro stack out h
    rw [walk_cons] at h ⊢
    obtain ⟨mid, hmid, hrest⟩ := Option.bind_eq_some_iff.1 h
    have hstep : step (stack ++ base) s = some (mid ++ base) := by
      rcases step_cases hmid with ⟨hs, rfl⟩ | ⟨rfl, top, rfl⟩ | ⟨hs, hp, rfl⟩
      · exact step_stays hs _
      · rfl
      · exact step_moves hs hp _
    rw [hstep]
    exact ih hrest

theorem dropRootMark_of_head? {cs : List Char} (h : cs.head? ≠ some '~') : dropRootMark cs = cs := by
  unfold dropRootMark
  split
  · simp at h
  · rfl

theorem length_step_le {stack out : List Segment} {s : Segment} (h : step stack s = some out) :
    out.length ≤ stack.length + 1 := by
  rcases step_cases h with ⟨-, rfl⟩ | ⟨-, top, rfl⟩ | ⟨-, -, rfl⟩
  · omega
  · rw [List.length_cons]; omega
  · rw [List.length_cons]

variable {p q : String} (h : normalize p = .ok q)
include h

/-- A path as written agrees with its normal form exactly if its directory leads to the parent of its place. -/
theorem agree_normalize_iff :
    Agree p q ↔ place (directory p.toList) = (place (dropRootMark p.toList)).map List.tail := by
  obtain ⟨cs, hcs, rfl⟩ := normalize_eq_ok h
  rw [collapse_eq] at hcs
  obtain ⟨ss, hss, rfl⟩ := Option.map_eq_some_iff.1 hcs
  have hord : ∀ s ∈ ss.reverse, Ordinary s := fun s hs => ordinary_place hss s (List.mem_reverse.1 hs)
  rw [agree_iff, String.toList_ofList, place_directory_spell hord, List.reverse_reverse, hss]
  rfl

theorem agree_of_plain (hmark : p.toList.head? ≠ some '~')
    (hlast : ∀ s, (segments p.toList).getLast? = some s → Ordinary s) : Agree p q := by
  have hsome := List.getLast?_eq_some_getLast (segments_ne_nil p.toList)
  rw [agree_normalize_iff h, dropRootMark_of_head? hmark, place_of_ordinary hsome (hlast _ hsome), Option.map_map]
  exact Option.map_id'.symm

/-- A base that starts with the mark of the root keeps the mark as its first segment. -/
theorem not_agree_of_mark {cs : List Char} (hp : p.toList = '~' :: '/' :: cs) : ¬ Agree p q := by
  obtain ⟨ds, name, hno, hcs⟩ := exists_name (List.mem_cons_self (a := '/') (l := cs))
  rw [agree_normalize_iff h, hp, hcs, ← List.cons_append, directory_slash hno]
  change place ('~' :: ds) ≠ (place (dropRootMark ('~' :: (ds ++ '/' :: name)))).map List.tail
  rw [dropRootMark, place_name hno]
  obtain ⟨ss, hss, -⟩ := normalize_eq_ok h
  rw [hp, hcs, dropRootMark, collapse_eq, place_name hno] at hss
  obtain ⟨out, hout, -⟩ := Option.map_eq_some_iff.1 hss
  obtain ⟨stack, hstack, hstep⟩ := Option.bind_eq_some_iff.1 hout
  have hmark : place ('~' :: ds) = some (stack ++ [['~']]) := by
    cases ds with
    | nil => cases hstack; rfl
    | cons d ds =>
      obtain rfl : '/' = d := (List.cons.inj hcs).1
      have hslash : '~' :: '/' :: ds = ['~'] ++ '/' :: ds := rfl
      rw [← List.nil_append ('/' :: ds), place_slash] at hstack
      rw [hslash, place_slash]
      exact walk_above (segments ds) hstack
  rw [hmark, hout]
  intro heq
  have hlength := congrArg List.length (Option.some.inj heq)
  have hle := length_step_le hstep
  simp only [List.length_append, List.length_cons, List.length_nil, List.length_tail] at hlength
  omega

omit h

/-- References are resolved against the path of a page as it is written, and not as it is registered.
The two agree on references that start at the root, and on all references exactly if the directory of
the path as written leads to the parent of its place. So they agree where the path has no mark of the
root and ends with an ordinary segment; where it starts with `~/` they never do. -/
theorem resolve_as_written {p q : String} (h : normalize p = .ok q) :
    (∀ reference : String, IsRooted reference.toList →
      (resolve p reference).toOption = (resolve q reference).toOption) ∧
    (Agree p q ↔ place (directory p.toList) = (place (dropRootMark p.toList)).map List.tail) ∧
    (p.toList.head? ≠ some '~' → (∀ s, (segments p.toList).getLast? = some s → Ordinary s) → Agree p q) ∧
    ∀ cs, p.toList = '~' :: '/' :: cs → ¬ Agree p q :=
  ⟨fun _ hr => toOption_resolve_eq (.inl hr), agree_normalize_iff h, agree_of_plain h, fun _ => not_agree_of_mark h⟩

/-- The page at `docs/./intro` finds its references where it is registered. The one at `~/docs/intro`
is registered there too, and finds only those that start at the root. -/
theorem resolve_as_written_docs :
    normalize "docs/./intro" = .ok "/docs/intro" ∧ Agree "docs/./intro" "/docs/intro" ∧
      normalize "~/docs/intro" = .ok "/docs/intro" ∧ ¬ Agree "~/docs/intro" "/docs/intro" ∧
      (resolve "~/docs/intro" "~/_layout").toOption = (resolve "/docs/intro" "~/_layout").toOption := by
  have hplain : normalize "docs/./intro" = .ok "/docs/intro" := by rfl
  have hmark : normalize "~/docs/intro" = .ok "/docs/intro" := by rfl
  obtain ⟨-, -, hagree, -⟩ := resolve_as_written hplain
  obtain ⟨hrooted, -, -, hnot⟩ := resolve_as_written hmark
  refine ⟨hplain, hagree (by decide) fun s hs => ?_, hmark, hnot _ (by rfl), hrooted _ ⟨_, .inr (by rfl)⟩⟩
  obtain rfl : ['i', 'n', 't', 'r', 'o'] = s := Option.some.inj hs
  exact ⟨by decide, by decide, by decide⟩

/-- The references of a page that is registered at `/docs/intro` depend on how its path is written: with
the mark of the root or with a slash at its end, a page does not find the layout next to it. -/
theorem resolve_depends_on_spelling :
    normalize "~/docs/intro" = .ok "/docs/intro" ∧ normalize "/docs/intro/" = .ok "/docs/intro" ∧
      resolve "/docs/intro" "_layout" = .ok "/docs/_layout" ∧
      resolve "~/docs/intro" "_layout" = .ok "/~/docs/_layout" ∧
      resolve "/docs/intro/" "_layout" = .ok "/docs/intro/_layout" :=
  ⟨by rfl, by rfl, by rfl, by rfl, by rfl⟩

end Folio.Path
