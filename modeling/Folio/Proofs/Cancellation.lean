import Mathlib.Data.List.Infix
import Folio.Proofs.Canonical
/-!
# Names that cancel

A walk keeps a stack. What it comes to is said here of the list of segments instead, with no stack:
each `..` cancels the nearest name before it that is not cancelled yet, and the path is made of the
names that are left (`survivors`). A walk fails where it has read more `..` than names
(`walk_eq_none_iff`). `normalize_cancels` says both of the normal form of a text.
-/

namespace Folio.Path

/-- A segment that goes down. -/
def isName (s : Segment) : Bool := decide (s ≠ [] ∧ s ≠ ['.'] ∧ s ≠ ['.', '.'])

theorem isName_iff (s : Segment) : isName s = true ↔ stays s = false ∧ s ≠ parent := by
  simp [isName, stays, parent, and_assoc]

theorem isName_parent : isName parent = false := rfl

theorem isName_of_stays {s : Segment} (h : stays s = true) : isName s = false := by
  rw [← Bool.not_eq_true, isName_iff, h]
  simp

theorem ne_parent_of_stays {s : Segment} (h : stays s = true) : s ≠ parent := by
  rintro rfl
  cases h

/-! ## Counting -/

/-- A walk that comes to an end has as many names on its stack as are left over from its `..`. -/
theorem length_walk (ss : List Segment) : ∀ {stack out : List Segment}, walk stack ss = some out →
    out.length + ss.count parent = stack.length + ss.countP isName := by
  induction ss with
  | nil => intro stack out h; cases h; rfl
  | cons s ss ih =>
    intro stack out h
    rw [walk_cons] at h
    obtain ⟨mid, hmid, hrest⟩ := Option.bind_eq_some_iff.1 h
    have hlength := ih hrest
    rcases step_cases hmid with ⟨hs, rfl⟩ | ⟨rfl, top, rfl⟩ | ⟨hs, hp, rfl⟩
    · rw [List.count_cons_of_ne (ne_parent_of_stays hs), List.countP_cons_of_neg (by simp [isName_of_stays hs])]
      exact hlength
    · rw [List.count_cons_self, List.countP_cons_of_neg (by simp [isName_parent]), List.length_cons]
      omega
    · rw [List.count_cons_of_ne hp, List.countP_cons_of_pos ((isName_iff s).2 ⟨hs, hp⟩)]
      rw [List.length_cons] at hlength
      omega

/-- A walk fails exactly if it reads, at some point, more `..` than there are names to take off. -/
theorem walk_eq_none_iff (ss : List Segment) : ∀ stack : List Segment,
    walk stack ss = none ↔ ∃ pre, pre <+: ss ∧ stack.length + pre.countP isName < pre.count parent := by
  intro stack
  constructor
  · induction ss generalizing stack with
    | nil => intro h; cases h
    | cons s ss ih =>
      intro h
      rw [walk_cons] at h
      cases hs : step stack s with
      | none =>
        obtain ⟨rfl, rfl⟩ := step_eq_none hs
        exact ⟨[parent], List.prefix_append [parent] ss, by decide⟩
      | some mid =>
        rw [hs, Option.bind_some] at h
        obtain ⟨pre, hpre, hlt⟩ := ih mid h
        refine ⟨s :: pre, List.prefix_cons_inj s |>.2 hpre, ?_⟩
        have hone : mid.length + [s].count parent = stack.length + [s].countP isName :=
          length_walk [s] (by rw [walk_cons, hs]; rfl)
        rw [← List.singleton_append, List.countP_append, List.count_append]
        omega
  · rintro ⟨pre, ⟨rest, rfl⟩, hlt⟩
    -- A walk that ends walks every first part of its segments to an end.
    cases h : walk stack pre with
    | none => rw [walk_append, h]; rfl
    | some out =>
      have := length_walk pre h
      omega

/-! ## Cancelling -/

/-- The positions of the names that the `..` among the first `j` segments cancel: each of them cancels
the nearest name before it that is not cancelled yet, if there is one. -/
def cancelled (ss : List Segment) : Nat → List Nat
  | 0 => []
  | j + 1 =>
    let before := cancelled ss j
    if ss[j]? = some parent then
      ((ss.take j).zipIdx.reverse.find? fun e => isName e.1 && e.2 ∉ before).toList.map (·.2) ++ before
    else before

/-- The names among the first `j` segments that none of these cancels, with their positions. -/
def standing (ss : List Segment) (j : Nat) : List (Segment × Nat) :=
  (ss.take j).zipIdx.filter fun e => isName e.1 && e.2 ∉ cancelled ss j

/-- The names that no `..` cancels, in order. -/
def survivors (ss : List Segment) : List Segment := (standing ss ss.length).map (·.1)

/-- Two names in a row are cancelled by the two `..` after them, and the last name by the last `..`. -/
example : survivors ("a/b/c/.././../d/..".toList.splitOn '/') = [['a']] := by decide

variable {ss : List Segment} {j : Nat} {s : Segment}

theorem cancelled_of_parent (h : ss[j]? = some parent) :
    cancelled ss (j + 1) = (standing ss j).getLast?.toList.map (·.2) ++ cancelled ss j := by
  rw [standing, List.getLast?_filter, cancelled, if_pos h]

theorem cancelled_of_not_parent (h : ss[j]? ≠ some parent) : cancelled ss (j + 1) = cancelled ss j := by
  rw [cancelled, if_neg h]

theorem lt_of_mem_standing {e : Segment × Nat} (h : e ∈ standing ss j) : e.2 < j := by
  have hlt := List.snd_lt_of_mem_zipIdx (List.mem_of_mem_filter h)
  rw [List.length_take] at hlt
  omega

theorem lt_of_mem_cancelled : ∀ j, ∀ i ∈ cancelled ss j, i < j := by
  intro j
  induction j with
  | zero => intro i hi; cases hi
  | succ j ih =>
    intro i hi
    by_cases hp : ss[j]? = some parent
    · rw [cancelled_of_parent hp] at hi
      rcases List.mem_append.1 hi with hi | hi
      · obtain ⟨e, he, rfl⟩ := List.mem_map.1 hi
        have := lt_of_mem_standing (List.mem_of_getLast? (Option.mem_toList.1 he))
        omega
      · have := ih i hi
        omega
    · rw [cancelled_of_not_parent hp] at hi
      have := ih i hi
      omega

/-- Positions tell standing names apart. -/
theorem nodup_standing (ss : List Segment) (j : Nat) : ((standing ss j).map (·.2)).Nodup := by
  have hsub : ((standing ss j).map (·.2)).Sublist ((ss.take j).zipIdx.map (·.2)) := List.filter_sublist.map _
  refine hsub.nodup ?_
  rw [List.zipIdx_map_snd]
  exact List.nodup_range' 1

theorem zipIdx_take_succ (h : ss[j]? = some s) :
    (ss.take (j + 1)).zipIdx = (ss.take j).zipIdx ++ [(s, j)] := by
  obtain ⟨hj, -⟩ := List.getElem?_eq_some_iff.1 h
  rw [List.take_add_one, h, List.zipIdx_append, List.length_take, Nat.min_eq_left (Nat.le_of_lt hj)]
  simp

theorem standing_of_stays (h : ss[j]? = some s) (hs : stays s = true) : standing ss (j + 1) = standing ss j := by
  have hp : ss[j]? ≠ some parent := by
    rw [h]
    exact fun he => ne_parent_of_stays hs (Option.some.inj he)
  rw [standing, zipIdx_take_succ h, cancelled_of_not_parent hp, List.filter_append,
    List.filter_cons_of_neg (by simp [isName_of_stays hs]), List.filter_nil, List.append_nil, standing]

theorem standing_of_name (h : ss[j]? = some s) (hs : stays s = false) (hname : s ≠ parent) :
    standing ss (j + 1) = standing ss j ++ [(s, j)] := by
  have hp : ss[j]? ≠ some parent := by
    rw [h]
    exact fun he => hname (Option.some.inj he)
  have hfree : j ∉ cancelled ss j := fun hj => Nat.lt_irrefl j (lt_of_mem_cancelled j j hj)
  rw [standing, zipIdx_take_succ h, cancelled_of_not_parent hp, List.filter_append,
    List.filter_cons_of_pos (by simp [(isName_iff s).2 ⟨hs, hname⟩, hfree]), List.filter_nil, standing]

/-- A `..` cancels the last of the names that stand before it. -/
theorem standing_of_parent (h : ss[j]? = some parent) : standing ss (j + 1) = (standing ss j).dropLast := by
  have hstill : standing ss (j + 1) =
      (standing ss j).filter fun e => e.2 ∉ (standing ss j).getLast?.toList.map (·.2) := by
    rw [standing, zipIdx_take_succ h, List.filter_append, List.filter_cons_of_neg (by simp [isName_parent]),
      List.filter_nil, List.append_nil, cancelled_of_parent h]
    generalize (standing ss j).getLast?.toList.map (·.2) = fallen
    rw [standing, List.filter_filter]
    apply List.filter_congr
    intro e _
    simp only [List.mem_append, not_or, Bool.decide_and]
    rw [Bool.and_left_comm]
  rw [hstill]
  rcases List.eq_nil_or_concat (standing ss j) with hnil | ⟨others, last, hlast⟩
  · rw [hnil]; rfl
  · have hnodup := nodup_standing ss j
    rw [List.concat_eq_append] at hlast
    rw [hlast, List.map_append, List.nodup_append] at hnodup
    rw [hlast, List.dropLast_concat, List.getLast?_concat, List.filter_append]
    have hothers : ∀ e ∈ others, e.2 ≠ last.2 := fun e he =>
      hnodup.2.2 e.2 (List.mem_map_of_mem he) last.2 (by simp)
    rw [List.filter_eq_self.2 (by simpa using hothers)]
    simp

/-- Along a walk from the root the stack holds the names that still stand. -/
theorem walk_take : ∀ j ≤ ss.length, ∀ stack, walk [] (ss.take j) = some stack →
    stack.reverse = (standing ss j).map (·.1) := by
  intro j
  induction j with
  | zero => intro _ stack h; cases h; rfl
  | succ j ih =>
    intro hj out h
    have hs : ss[j]? = some ss[j] := List.getElem?_eq_getElem hj
    rw [List.take_add_one, hs, walk_append] at h
    obtain ⟨stack, hstack, hlast⟩ := Option.bind_eq_some_iff.1 h
    have hstep : step stack ss[j] = some out := by
      rw [Option.toList_some, walk_cons] at hlast
      simpa [walk_nil] using hlast
    have hstands := ih (Nat.le_of_succ_le hj) stack hstack
    rcases step_cases hstep with ⟨hstay, rfl⟩ | ⟨hp, top, rfl⟩ | ⟨hmove, hp, rfl⟩
    · rw [standing_of_stays hs hstay, hstands]
    · rw [standing_of_parent (hs.trans (congrArg some hp)), List.map_dropLast, ← hstands]
      simp
    · rw [standing_of_name hs hmove hp, List.map_append, ← hstands]
      simp

theorem walk_eq_survivors {ss stack : List Segment} (h : walk [] ss = some stack) : stack.reverse = survivors ss :=
  walk_take ss.length (Nat.le_refl _) stack (by rwa [List.take_length])

/-! ## Normal forms -/

theorem collapse_eq_survivors (cs : List Char) :
    collapse cs =
      if ∃ pre ∈ (segments cs).inits, pre.countP isName < pre.count parent then none
      else some (spell (survivors (segments cs))) := by
  have hfails := walk_eq_none_iff (segments cs) []
  simp only [List.length_nil, Nat.zero_add, ← List.mem_inits] at hfails
  rw [collapse_eq, place]
  split
  · next h => rw [hfails.2 h]; rfl
  · next h =>
    obtain ⟨stack, hstack⟩ := Option.ne_none_iff_exists'.1 (mt hfails.1 h)
    rw [hstack, Option.map_some, walk_eq_survivors hstack]

/-- A text fails exactly if one of its first parts has more `..` than names. Otherwise its normal form
has the names that are left when each `..` cancels the nearest one before it. Normal forms are canonical
and are exactly the paths that stand for themselves; none goes up anywhere. -/
theorem normalize_cancels (path : String) :
    let ss : List Segment := (dropRootMark path.toList).splitOn '/'
    normalize path =
        (if ∃ pre ∈ ss.inits, pre.countP isName < pre.count parent then .error (.invalidPath "/" path)
        else .ok (String.ofList (spell (survivors ss)))) ∧
      (∀ q, normalize q = .ok q ↔ Canonical q) ∧
      ∀ q, normalize path = .ok q → Canonical q ∧ normalize q = .ok q ∧ parent ∉ q.toList.splitOn '/' := by
  intro ss
  refine ⟨?_, normalize_eq_self_iff, ?_⟩
  · rw [normalize, collapse_eq_survivors, segments_eq_splitOn]
    by_cases h : ∃ pre ∈ ss.inits, pre.countP isName < pre.count parent
    · simp only [ss, if_pos h]
    · simp only [ss, if_neg h]
  · intro q hq
    have hcanonical := canonical_of_normalize hq
    refine ⟨hcanonical, normalize_normalize hq, ?_⟩
    rw [← segments_eq_splitOn]
    exact hcanonical.parent_not_mem

end Folio.Path
