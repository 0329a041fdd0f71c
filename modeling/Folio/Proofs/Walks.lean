import Folio.Proofs.References
/-!
# Walks from a page

`Walks` has one rule for each kind of segment, and writes a place as its path is written, outermost
segment first. It says the same as `walk` (`walks_iff`). Where it leads nowhere, a `..` is read at the
root (`escapes_iff`).

`resolve_walks` says of every reference where it leads: one that starts at the root walks from there, and
any other one from the directory of the page that makes it.
-/

namespace Folio.Path

/-- Reading segments leads from one place to another. -/
inductive Walks : List Segment → List Segment → List Segment → Prop
  | done {place} : Walks place [] place
  | stay {place s ss out} : s = [] ∨ s = ['.'] → Walks place ss out → Walks place (s :: ss) out
  | up {place last ss out} : Walks place ss out → Walks (place ++ [last]) (['.', '.'] :: ss) out
  | down {place s ss out} : s ≠ [] → s ≠ ['.'] → s ≠ ['.', '.'] → Walks (place ++ [s]) ss out →
      Walks place (s :: ss) out

/-- Reading segments leads above the root: `..` is read there. -/
def Escapes (place ss : List Segment) : Prop := ∃ pre, pre ++ [parent] <+: ss ∧ Walks place pre []

theorem stays_iff (s : Segment) : stays s = true ↔ s = [] ∨ s = ['.'] := by
  simp [stays]

theorem walk_of_walks {place ss out : List Segment} (h : Walks place ss out) :
    walk place.reverse ss = some out.reverse := by
  induction h with
  | done => rfl
  | @stay place s ss out hs _ ih =>
    rw [walk_cons, step_stays ((stays_iff s).2 hs), Option.bind_some, ih]
  | @up place last ss out _ ih =>
    rw [List.reverse_append]
    exact ih
  | @down place s ss out hn hd hp _ ih =>
    have hs : stays s = false := by simp [stays, hn, hd]
    rw [List.reverse_append] at ih
    rw [walk_cons, step_moves hs hp, Option.bind_some]
    exact ih

theorem walks_of_walk (ss : List Segment) :
    ∀ {place out : List Segment}, walk place.reverse ss = some out.reverse → Walks place ss out := by
  induction ss with
  | nil =>
    intro place out h
    obtain rfl : place = out := List.reverse_inj.1 (Option.some.inj h)
    exact .done
  | cons s ss ih =>
    intro place out h
    rw [walk_cons] at h
    obtain ⟨mid, hmid, hrest⟩ := Option.bind_eq_some_iff.1 h
    rw [← List.reverse_reverse mid] at hrest
    have hwalks := ih hrest
    rcases step_cases hmid with ⟨hs, rfl⟩ | ⟨rfl, last, hplace⟩ | ⟨hs, hp, rfl⟩
    · rw [List.reverse_reverse] at hwalks
      exact .stay ((stays_iff s).1 hs) hwalks
    · rw [List.reverse_eq_cons_iff] at hplace
      rw [hplace]
      exact .up hwalks
    · rw [List.reverse_cons, List.reverse_reverse] at hwalks
      rw [← Bool.not_eq_true, stays_iff, not_or] at hs
      exact .down hs.1 hs.2 hp hwalks

theorem walks_iff (place ss out : List Segment) : Walks place ss out ↔ walk place.reverse ss = some out.reverse :=
  ⟨walk_of_walks, walks_of_walk ss⟩

theorem escapes_iff (place ss : List Segment) : Escapes place ss ↔ walk place.reverse ss = none := by
  constructor
  · rintro ⟨pre, ⟨rest, rfl⟩, hwalks⟩
    rw [walk_append, walk_append, walk_of_walks hwalks]
    rfl
  · induction ss generalizing place with
    | nil => intro h; cases h
    | cons s ss ih =>
      intro h
      rw [walk_cons] at h
      cases hs : step place.reverse s with
      | none =>
        obtain ⟨rfl, hroot⟩ := step_eq_none hs
        rw [List.reverse_eq_nil_iff.1 hroot]
        exact ⟨[], List.prefix_append [parent] ss, .done⟩
      | some mid =>
        rw [hs, Option.bind_some, ← List.reverse_reverse mid] at h
        obtain ⟨pre, hpre, hwalks⟩ := ih mid.reverse h
        refine ⟨s :: pre, (List.prefix_cons_inj s).2 hpre, ?_⟩
        rw [walks_iff, List.reverse_reverse] at hwalks
        rw [walks_iff, walk_cons, hs, Option.bind_some, hwalks]

/-! ## Resolving -/

theorem resolve_eq (base reference : String) :
    resolve base reference =
      if reference = "" then .error (.invalidPath base reference)
      else match place (join base.toList reference.toList) with
        | some out => .ok (String.ofList (spell out.reverse))
        | none => .error (.invalidPath base reference) := by
  unfold resolve
  rw [collapse_eq]
  by_cases hr : reference = ""
  · simp [hr]
  · cases place (join base.toList reference.toList) <;> simp [hr]

theorem resolve_error_iff (base reference : String) (e : Error) :
    resolve base reference = .error e ↔
      e = .invalidPath base reference ∧ (reference = "" ∨ place (join base.toList reference.toList) = none) := by
  rw [resolve_eq, @eq_comm _ e]
  split
  · next hr => simp [hr]
  · next hr => cases place (join base.toList reference.toList) <;> simp [hr]

theorem resolve_ok_iff (base reference target : String) :
    resolve base reference = .ok target ↔
      reference ≠ "" ∧ ∃ out, place (join base.toList reference.toList) = some out ∧
        target = String.ofList (spell out.reverse) := by
  rw [resolve_eq]
  split
  · next hr => simp [hr]
  · next hr => cases place (join base.toList reference.toList) <;> simp [hr, eq_comm]

theorem join_eq_of_rooted {reference : List Char} (h : IsRooted reference) (base : List Char) :
    join base reference = dropRootMark reference := by
  obtain ⟨cs, rfl | rfl⟩ := h <;> rfl

/-- From a canonical base a reference that does not start at the root goes on from all segments but the last. -/
theorem place_join_spell {here : List Segment} (h : ∀ s ∈ here, Ordinary s) {reference : List Char}
    (hr : ¬ IsRooted reference) :
    place (join (spell here) reference) = walk here.dropLast.reverse (segments reference) := by
  rw [place_join hr, place_directory_spell h, Option.bind_some, List.tail_reverse]

/-- Where a reference leads. One that starts at the root leads from every base where its text leads as the
name of a page. Any other one walks from the directory of a canonical base: it fails exactly if it is empty
or the walk escapes, and the target is the place that the walk ends at. From whatever base, a target is
canonical, so a catalog looks it up as it stands. -/
theorem resolve_walks (reference : String) :
    let ss : List Segment := reference.toList.splitOn '/'
    (∀ base e, resolve base reference = .error e → e = .invalidPath base reference) ∧
    (IsRooted reference.toList → ∀ base,
      (∀ base', (resolve base reference).toOption = (resolve base' reference).toOption) ∧
      (resolve base reference).toOption = (normalize reference).toOption ∧
      (resolve base reference = .error (.invalidPath base reference) ↔
        Escapes [] ((dropRootMark reference.toList).splitOn '/'))) ∧
    (¬ IsRooted reference.toList → ∀ base here, (∀ s ∈ here, Ordinary s) → base.toList = spell here →
      (resolve base reference = .error (.invalidPath base reference) ↔
        reference = "" ∨ Escapes here.dropLast ss) ∧
      ∀ target, resolve base reference = .ok target ↔
        reference ≠ "" ∧ ∃ out, Walks here.dropLast ss out ∧ target = String.ofList (spell out)) ∧
    ∀ base target, resolve base reference = .ok target →
      Canonical target ∧ normalize target = .ok target ∧ ∀ catalog : Catalog,
        catalog.get target = match catalog.find? target with
          | some page => .ok page
          | none => .error (.pageNotFound target) := by
  intro ss
  refine ⟨fun base e he => ((resolve_error_iff base reference e).1 he).1, fun hr base => ?_, ?_, ?_⟩
  · have hne : reference ≠ "" := by
      rintro rfl
      obtain ⟨cs, h | h⟩ := hr <;> cases h
    refine ⟨fun base' => toOption_resolve_eq (.inl hr), ?_, ?_⟩
    · rw [toOption_resolve, if_neg (by simpa using hne), join_eq_of_rooted hr, normalize]
      cases collapse (dropRootMark reference.toList) <;> rfl
    · rw [resolve_error_iff, join_eq_of_rooted hr, escapes_iff, ← segments_eq_splitOn]
      simp [hne, place]
  · intro hr base here hhere hbase
    have hplace : place (join base.toList reference.toList) = walk here.dropLast.reverse ss := by
      rw [hbase, place_join_spell hhere hr, segments_eq_splitOn]
    constructor
    · rw [resolve_error_iff, hplace, escapes_iff]
      simp
    · intro target
      rw [resolve_ok_iff, hplace]
      refine and_congr_right fun _ => ⟨?_, ?_⟩
      · rintro ⟨out, hout, rfl⟩
        exact ⟨out.reverse, (walks_iff _ _ _).2 (by rw [hout, List.reverse_reverse]), rfl⟩
      · rintro ⟨out, hout, rfl⟩
        exact ⟨out.reverse, (walks_iff _ _ _).1 hout, by rw [List.reverse_reverse]⟩
  · intro base target h
    have hself := normalize_resolve h
    exact ⟨canonical_of_resolve h, hself, fun catalog => catalog.get_of_normalized hself⟩

/-- From the page at `/blog/2024/post` a reference goes up to `/blog` and down again; one that goes up too
far is refused, though its last segment would lead down again; one from the root is read without the mark. -/
theorem resolve_walks_post :
    let base := "/blog/2024/post"
    let far := "a/../../../../b"
    resolve base "..//./shared" = .ok "/blog/shared" ∧ resolve base far = .error (.invalidPath base far) ∧
      (resolve base "~/a/../b").toOption = (normalize "~/a/../b").toOption ∧ Canonical "/blog/shared" := by
  intro base far
  let blog : Segment := ['b', 'l', 'o', 'g']
  let year : Segment := ['2', '0', '2', '4']
  let here : List Segment := [blog, year, ['p', 'o', 's', 't']]
  have hhere : ∀ s ∈ here, Ordinary s := by
    intro s hs
    simp only [here, List.mem_cons, List.not_mem_nil, or_false] at hs
    rcases hs with rfl | rfl | rfl <;> exact ⟨by decide, by decide, by decide⟩
  have hwalk : Walks [blog, year] ("..//./shared".toList.splitOn '/') [blog, "shared".toList] :=
    @Walks.up [blog] year _ _ (.stay (.inl rfl) (.stay (.inr rfl)
      (.down (by decide) (by decide) (by decide) .done)))
  have hescape : Escapes [blog, year] (far.toList.splitOn '/') :=
    ⟨[['a'], parent, parent, parent], ⟨[['b']], by decide⟩, .down (by decide) (by decide) (by decide)
      (.up (@Walks.up [blog] year _ _ (@Walks.up [] blog _ _ .done)))⟩
  obtain ⟨-, -, hnear, hcanonical⟩ := resolve_walks "..//./shared"
  obtain ⟨-, -, hfar, -⟩ := resolve_walks far
  obtain ⟨-, hrooted, -, -⟩ := resolve_walks "~/a/../b"
  have hno (r : String) (hr : r.toList.head? = some '.' ∨ r.toList.head? = some 'a') : ¬ IsRooted r.toList := by
    rintro ⟨cs, h | h⟩ <;> simp [h] at hr
  have hbase : base.toList = spell here := by decide
  have hshared : resolve base "..//./shared" = .ok "/blog/shared" :=
    ((hnear (hno _ (.inl (by decide))) base here hhere hbase).2 _).2 ⟨by decide, _, hwalk, rfl⟩
  exact ⟨hshared, (hfar (hno far (.inr (by decide))) base here hhere hbase).1.2 (.inr hescape),
    (hrooted ⟨_, .inr rfl⟩ base).2.1, (hcanonical base _ hshared).1⟩

end Folio.Path
