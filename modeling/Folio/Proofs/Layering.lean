import Mathlib.Data.List.Induction
import Folio.Settings.Layer
/-!
# A setting in layers

Settings stand in groups. What a layer makes of the node at a setting is one of four things, whatever the
layers below have there: it leaves it, it takes it away, it puts a scalar in its place, or it leaves something
with parts there (`Effect`). It takes it away where it writes the whole group and not as a table, or an item
of it as if it were a list (`Layer.hides`).

So a setting at which a scalar or nothing stands in the end is what the highest layer has there that has
anything, of the layers that are not hidden (`at?_stack`).
-/

namespace Folio.Settings

namespace Node

/-- The node has no parts. -/
def isScalar : Node → Bool
  | scalar _ _ => true
  | _ => false

/-- The node is a table. -/
def isTable : Node → Bool
  | table _ _ => true
  | _ => false

/-- What stands at a setting, by the keys of its group and its own. -/
def at? (n : Node) (group name : String) : Option Node := (n.get? group).bind (·.get? name)

theorem isTable_asTable (n : Node) : n.asTable.isTable = true := by cases n <;> rfl

theorem get?_asTable (n : Node) (key : String) : n.asTable.get? key = n.get? key := by cases n <;> rfl

theorem isTable_put (n : Node) (key : String) (value : Node) : (n.put key value).isTable = true := rfl

theorem isTable_overlayAll (n : Node) (h : n.isTable = true) (entries : List (String × Node)) :
    (n.overlayAll entries).isTable = true := by
  induction entries generalizing n with
  | nil => exact h
  | cons e rest ih =>
    obtain ⟨key, value⟩ := e
    exact ih _ (n.isTable_put key _)

theorem isScalar_of_isTable {n : Node} (h : n.isTable = true) : n.isScalar = false := by
  cases n with
  | table => rfl
  | scalar | list => simp [isTable] at h

theorem at?_of_get? {n m : Node} {group : String} (h : n.get? group = some m) (name : String) :
    n.at? group name = m.get? name := by
  unfold at?
  rw [h]
  rfl

/-- Where a group is missing, anything that has nothing under its keys can stand for it. -/
theorem at?_getD (n : Node) (group name : String) {other : Node} (h : other.get? name = none) :
    n.at? group name = ((n.get? group).getD other).get? name := by
  unfold at?
  cases n.get? group with
  | none => exact h.symm
  | some m => rfl

end Node

open Node (root scalar list table)

/-! ## What becomes of one node -/

/-- What a change makes of the node at a setting: it leaves it, takes it away, puts one scalar in its place,
or always leaves something with parts. A change that hides what was there does not leave it, and one that
does not hide it does not take it away. -/
inductive Effect : (hides : Bool) → (change : Option Node → Option Node) → Prop
  | keeps {change : Option Node → Option Node} : (∀ v, change v = v) → Effect false change
  | clears {change : Option Node → Option Node} : (∀ v, change v = none) → Effect true change
  | sets {hides : Bool} {change : Option Node → Option Node} (origin : Option String) (value : Scalar) :
    (∀ v, change v = some (scalar origin value)) → Effect hides change
  | breaks {hides : Bool} {change : Option Node → Option Node} :
    (∀ v, ∃ n, change v = some n ∧ n.isScalar = false) → Effect hides change

namespace Effect

/-- The later of two changes decides, unless it leaves what the first one made. -/
theorem comp {change next : Option Node → Option Node} {hides hides' : Bool} (hnext : Effect hides' next)
    (h : Effect hides change) : Effect (hides || hides') fun v => next (change v) := by
  cases hnext with
  | keeps hn =>
    have heq : (fun v => next (change v)) = change := funext fun v => hn (change v)
    rw [heq, Bool.or_false]
    exact h
  | clears hn =>
    rw [Bool.or_true]
    exact .clears fun v => hn (change v)
  | sets origin value hn => exact .sets origin value fun v => hn (change v)
  | breaks hn => exact .breaks fun v => hn (change v)

/-- A node laid over what is there replaces it, unless both are tables. -/
theorem overlay (value default : Node) : Effect false fun v => some ((v.getD default).overlay value) := by
  cases value with
  | scalar origin value => exact .sets origin value fun v => rfl
  | list origin items => exact .breaks fun v => ⟨_, rfl, rfl⟩
  | table origin entries =>
    refine .breaks fun v => ⟨_, rfl, ?_⟩
    rw [Node.overlay_table]
    exact Node.isScalar_of_isTable (Node.isTable_overlayAll _ (Node.isTable_asTable _) entries)

/-- A node that goes further down makes tables and lists on its way. -/
theorem alter (value default : Node) (steps : List Step) :
    Effect false fun v => some ((v.getD default).alter (·.overlay value) steps) := by
  cases steps with
  | nil => exact overlay value default
  | cons step steps => cases step with | entry | item => exact .breaks fun v => ⟨_, rfl, rfl⟩

end Effect

/-! ## What becomes of a setting in its group -/

/-- The entry writes a whole group and not as a table, or an item of it. -/
def hidesGroup (group : String) (entry : String × Node) : Bool :=
  let place := Place.read entry.1
  place.key = group && match place.steps with
    | [] => !entry.2.isTable
    | .entry _ :: _ => false
    | .item _ :: _ => true

/-- Nothing of what the layers below have in a group is left. -/
def Layer.hides (group : String) (l : Layer) : Bool := l.entries.any (hidesGroup group)

/-- What a step makes of a setting depends on what was there only, with an effect of its own. -/
def Acts (group name : String) (hides : Bool) (step : Node → Node) : Prop :=
  ∃ change, Effect hides change ∧ ∀ n, (step n).at? group name = change (n.at? group name)

section Acts
variable {group : String} (name : String)

theorem Acts.id : Acts group name false fun n => n := ⟨fun v => v, .keeps fun _ => rfl, fun _ => rfl⟩

variable {name} in
theorem Acts.comp {hides hides' : Bool} {step next : Node → Node} (hnext : Acts group name hides' next)
    (hstep : Acts group name hides step) : Acts group name (hides || hides') fun n => next (step n) := by
  obtain ⟨change, heffect, hstep⟩ := hstep
  obtain ⟨change', heffect', hnext⟩ := hnext
  exact ⟨fun v => change' (change v), heffect'.comp heffect, fun n => by rw [hnext, hstep]⟩

/-- Entries laid over a table, one after the other, as seen at one key. -/
theorem overlayAll_effect (entries : List (String × Node)) :
    ∃ change, Effect false change ∧ ∀ m : Node, (m.overlayAll entries).get? name = change (m.get? name) := by
  induction entries with
  | nil => exact ⟨fun v => v, .keeps fun _ => rfl, fun _ => rfl⟩
  | cons e rest ih =>
    obtain ⟨key, value⟩ := e
    obtain ⟨change, heffect, hrest⟩ := ih
    have hstep (m : Node) : (m.overlayAll ((key, value) :: rest)).get? name =
        change (if name = key then some (((m.get? key).getD root).overlay value) else m.get? name) := by
      have hentry := m.get?_overlayEntry key name value
      rw [Node.get?_asTable] at hentry
      rw [← hentry]
      exact hrest _
    by_cases hkey : name = key
    · subst hkey
      refine ⟨_, heffect.comp (.overlay value root), fun m => ?_⟩
      rw [hstep m, if_pos rfl]
    · refine ⟨change, heffect, fun m => ?_⟩
      rw [hstep m, if_neg hkey]

/-- What is put at a place shows under the key of the place only. -/
theorem get?_placePut (p : Place) (value n : Node) (key : String) :
    (p.put value n).get? key =
      if key = p.key then some (((n.get? key).getD (scalar none .null)).alter (·.overlay value) p.steps)
      else n.get? key := by
  simp only [Place.put, Node.alter, Node.get?_put, Node.get?_asTable]
  by_cases h : key = p.key
  · rw [if_pos h, if_pos h, h]
  · rw [if_neg h, if_neg h]

theorem acts_entry (entry : String × Node) :
    Acts group name (hidesGroup group entry) ((Place.read entry.1).put entry.2) := by
  obtain ⟨written, value⟩ := entry
  simp only [hidesGroup]
  generalize Place.read written = place
  obtain ⟨key, steps⟩ := place
  have hget (n : Node) := get?_placePut ⟨key, steps⟩ value n group
  by_cases hkey : key = group
  · subst hkey
    simp only [if_true] at hget
    simp only [decide_true, Bool.true_and]
    have hat (n : Node) : n.at? key name = ((n.get? key).getD (scalar none .null)).get? name :=
      n.at?_getD key name rfl
    cases steps with
    | nil =>
      -- The group itself is written: a table goes into what is there, anything else replaces it.
      cases value with
      | table origin entries =>
        obtain ⟨change, heffect, hchange⟩ := overlayAll_effect name entries
        refine ⟨change, heffect, fun n => ?_⟩
        rw [Node.at?_of_get? (hget n), hat n, ← Node.get?_asTable ((n.get? key).getD _), ← hchange]
        rfl
      | scalar | list => exact ⟨fun _ => none, .clears fun _ => rfl, fun n => Node.at?_of_get? (hget n) name⟩
    | cons step steps =>
      cases step with
      | item index => exact ⟨fun _ => none, .clears fun _ => rfl, fun n => Node.at?_of_get? (hget n) name⟩
      | entry inner =>
        have hafter (n : Node) : (Place.put ⟨key, .entry inner :: steps⟩ value n).at? key name =
            if name = inner then
              some (((n.at? key name).getD (scalar none .null)).alter (·.overlay value) steps)
            else n.at? key name := by
          rw [Node.at?_of_get? (hget n), hat n, Node.alter, Node.get?_put, Node.get?_asTable]
          by_cases hname : name = inner
          · rw [if_pos hname, if_pos hname, hname]
          · rw [if_neg hname, if_neg hname]
        by_cases hname : name = inner
        · refine ⟨_, .alter value (scalar none .null) steps, fun n => ?_⟩
          rw [hafter, if_pos hname]
        · refine ⟨fun v => v, .keeps fun _ => rfl, fun n => ?_⟩
          rw [hafter, if_neg hname]
  · simp only [if_neg (Ne.symm hkey)] at hget
    simp only [hkey, decide_false, Bool.false_and]
    refine ⟨fun v => v, .keeps fun _ => rfl, fun n => ?_⟩
    rw [Node.at?, hget n]
    rfl

theorem acts_over (l : Layer) : Acts group name (l.hides group) l.over := by
  obtain ⟨entries⟩ := l
  induction entries with
  | nil => exact .id name
  | cons e rest ih => exact ih.comp (acts_entry name e)

end Acts

/-! ## Layers -/

/-- What a layer by itself has at a setting. -/
def Layer.at? (l : Layer) (group name : String) : Option Node := (stack [l]).at? group name

/-- What the highest layer has at a setting that has anything there; layers that are hidden do not count. The
highest layer comes first. -/
def highest? (group name : String) : List Layer → Option Node
  | [] => none
  | l :: below => (l.at? group name).or (if l.hides group then none else highest? group name below)

/-- Where no layer hides another, all of them count. -/
theorem highest?_of_not_hides {group : String} (name : String) {ls : List Layer}
    (h : ∀ l ∈ ls, l.hides group = false) : highest? group name ls = ls.findSome? (·.at? group name) := by
  induction ls with
  | nil => rfl
  | cons l below ih =>
    rw [highest?, h l List.mem_cons_self, List.findSome?_cons, ih fun l' hl' => h l' (List.mem_cons_of_mem l hl')]
    cases l.at? group name <;> rfl

/-- A group that is there is a table. -/
def Node.HasTable (group : String) (n : Node) : Prop := ∀ m, n.get? group = some m → m.isTable = true

theorem hasTable_put {group : String} {entry : String × Node} (h : hidesGroup group entry = false) {n : Node}
    (hn : n.HasTable group) : ((Place.read entry.1).put entry.2 n).HasTable group := by
  obtain ⟨written, value⟩ := entry
  simp only [hidesGroup] at h
  generalize Place.read written = place at h ⊢
  intro m hm
  rw [get?_placePut] at hm
  split at hm
  · next hkey =>
    obtain rfl := Option.some.inj hm
    simp only [← hkey, decide_true, Bool.true_and] at h
    split at h
    · next hsteps =>
      rw [hsteps]
      cases value with
      | table origin entries => exact Node.isTable_overlayAll _ (Node.isTable_asTable _) entries
      | scalar | list => cases h
    · next hsteps =>
      rw [hsteps]
      rfl
    · cases h
  · exact hn m hm

theorem hasTable_over {group : String} {l : Layer} (h : l.hides group = false) {n : Node} (hn : n.HasTable group) :
    (l.over n).HasTable group := by
  obtain ⟨entries⟩ := l
  induction entries generalizing n with
  | nil => exact hn
  | cons e rest ih =>
    obtain ⟨hfirst, hrest⟩ := Bool.or_eq_false_iff.1 h
    exact ih (hasTable_put hfirst hn) hrest

/-- Where no layer hides another, a group is a table in the end. -/
theorem hasTable_stack {group : String} {ls : List Layer} (h : ∀ l ∈ ls, l.hides group = false) :
    (stack ls).HasTable group := by
  induction ls using List.reverseRecOn with
  | nil => exact fun m hm => by cases hm
  | append_singleton ls l ih =>
    rw [stack_append]
    exact hasTable_over (h l (by simp)) (ih fun l' hl' => h l' (List.mem_append_left _ hl'))

/-- A setting at which a scalar or nothing stands in the end is what the highest layer has there. -/
theorem at?_stack (group name : String) (ls : List Layer)
    (h : ∀ n, (stack ls).at? group name = some n → n.isScalar = true) :
    (stack ls).at? group name = highest? group name ls.reverse := by
  induction ls using List.reverseRecOn with
  | nil => rfl
  | append_singleton ls l ih =>
    have hacts : Acts group name (l.hides group) l.over := acts_over name l
    obtain ⟨change, heffect, hover⟩ := hacts
    -- By itself the layer changes the table without entries, at which nothing stands.
    have hown : l.at? group name = change none := hover root
    have hat := hover (stack ls)
    rw [← stack_append] at hat
    rw [List.reverse_append, List.reverse_singleton, List.singleton_append, highest?, hown]
    rw [hat] at h ⊢
    generalize l.hides group = hides at heffect ⊢
    cases heffect with
    | keeps hk =>
      simp only [hk] at h ⊢
      exact ih h
    | clears hc =>
      rw [hc, hc]
      rfl
    | sets origin value hs =>
      rw [hs, hs]
      rfl
    | breaks hb =>
      obtain ⟨n, hn, hparts⟩ := hb ((stack ls).at? group name)
      rw [h n hn] at hparts
      cases hparts

end Folio.Settings
