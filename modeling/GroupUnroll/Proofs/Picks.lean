import GroupUnroll.Captures
import Mathlib.Data.List.Nodup

/-! # Picking one group out of every run

Runs of one width divide the groups from the first one on, and a pick takes the group that stands at one place of
every run. So where a group stands in its run is the remainder of its index, and a run that ends before the place
has no such group. Slots count the whole match as well and are one ahead of the groups.

Every remainder is one of the places of a run, so the picks at all of them share out the groups.
-/

namespace GroupUnroll

namespace Captures

/-! ## Runs -/

section Runs

variable {size place : Nat}

theorem runs_cons {α : Type} (entry : α) (rest : List α) :
    runs size (entry :: rest) = (entry :: rest).take (size + 1) :: runs size (rest.drop size) := by
  rw [runs, List.take_succ_cons]

/-- The indices of one run have one that stands at a place, unless the run ends before. -/
theorem filter_range_of_le {width count : Nat} (short : count ≤ width) :
    (List.range count).filter (fun index => index % width = place) = if place < count then [place] else [] := by
  induction count with
  | zero => rfl
  | succ count ih =>
    have last : count % width = count := Nat.mod_eq_of_lt short
    rw [List.range_succ, List.filter_append, ih (Nat.le_of_succ_le short)]
    rcases Nat.lt_trichotomy place count with before | rfl | behind
    · simp [last, before, Nat.lt_succ_of_lt before, Nat.ne_of_gt before]
    · simp [last]
    · simp [last, Nat.not_lt_of_gt behind, Nat.ne_of_lt behind, Nat.not_lt_of_ge (Nat.succ_le_of_lt behind)]

/-- The entries at a place of every run are those whose index has the place as its remainder. -/
theorem filterMap_runs (inside : place ≤ size) (entries : List (Option Text)) :
    (runs size entries).filterMap (fun run => (run[place]?).join) =
      ((List.range entries.length).filter fun index => index % (size + 1) = place).filterMap
        fun index => (entries[index]?).join := by
  induction entries using runs.induct size with
  | case1 => simp [runs]
  | case2 entry rest ih =>
    have first : ((entry :: rest).take (size + 1))[place]? = (entry :: rest)[place]? :=
      List.getElem?_take_of_lt (Nat.lt_succ_of_le inside)
    rw [runs_cons, List.filterMap_cons, first, ih]
    by_cases whole : size ≤ rest.length
    · have length : (entry :: rest).length = (size + 1) + (rest.drop size).length := by
        rw [List.length_cons, List.length_drop]
        omega
      have behind (index : Nat) : (entry :: rest)[size + 1 + index]? = (rest.drop size)[index]? := by
        rw [List.getElem?_drop, Nat.add_right_comm, List.getElem?_cons_succ]
      rw [length, List.range_add, List.filter_append, filter_range_of_le (Nat.le_refl _),
        if_pos (Nat.lt_succ_of_le inside), List.filterMap_append, List.filter_map, List.filterMap_map]
      simp only [Function.comp_def, Nat.add_mod_left, behind, List.filterMap_cons, List.filterMap_nil]
      cases ((entry :: rest)[place]?).join <;> rfl
    · have ended : rest.drop size = [] := List.drop_eq_nil_of_le (by omega)
      have short : (entry :: rest).length ≤ size + 1 := by
        rw [List.length_cons]
        omega
      rw [ended, filter_range_of_le short]
      by_cases stands : place < (entry :: rest).length
      · simp only [stands, ↓reduceIte, List.length_nil, List.range_zero, List.filter_nil, List.filterMap_nil,
          List.filterMap_cons]
      · simp [List.getElem?_eq_none (Nat.le_of_not_lt stands)]

end Runs

/-! ## Slots -/

/-- The slots of the groups that stand at a place in runs of a width, in increasing order. -/
def slotsAt (captures : Captures) (width place : Nat) : List Nat :=
  (List.range captures.length).filter fun slot => 0 < slot ∧ (slot - 1) % width = place

/-- The slots of all groups, in increasing order. -/
def groupSlots (captures : Captures) : List Nat := (List.range captures.length).filter (0 < ·)

section Slots

variable {captures : Captures} {width place slot before after : Nat}

theorem mem_slotsAt :
    slot ∈ captures.slotsAt width place ↔ slot ∈ captures.groupSlots ∧ (slot - 1) % width = place := by
  simp [slotsAt, groupSlots, and_assoc]

theorem mem_groupSlots_of_get? {text : Text} (group : 0 < slot) (present : captures.get? slot = some text) :
    slot ∈ captures.groupSlots := by
  obtain ⟨entry, stands, -⟩ := Option.bind_eq_some_iff.mp present
  have inside := (List.getElem?_eq_some_iff.mp stands).1
  exact List.mem_filter.mpr ⟨List.mem_range.mpr inside, decide_eq_true group⟩

theorem slotsAt_one : captures.slotsAt 1 0 = captures.groupSlots := by
  simp [slotsAt, groupSlots, Nat.mod_one]

/-- A pick is made of the slots at one place. -/
theorem pick_eq (captures : Captures) (before after : Nat) :
    captures.pick before after = (captures.slotsAt (before + 1 + after) before).filterMap captures.get? := by
  obtain ⟨_ | _ | ⟨whole, groups⟩⟩ := captures
  · simp [pick, groups?, runs, slotsAt, length, toList]
  · simp [pick, groups?, kept, runs, slotsAt, length, toList]
  · have kept_all : kept false groups = groups := by simp [kept]
    have width : before + 1 + after = before + after + 1 := Nat.add_right_comm ..
    simp only [pick, groups?, Option.map_some, List.tail_cons, kept_all, Option.getD_some,
      filterMap_runs (Nat.le_add_right before after), slotsAt, length, toList, List.length_cons, width,
      List.range_succ_eq_map, List.filter_map, List.filter_cons]
    simp [Function.comp_def, get?, toList]

/-- With a pick at every place of a run, each slot of a group is picked once. -/
theorem flatMap_slotsAt_perm (captures : Captures) (wide : 0 < width) :
    ((List.range width).flatMap (captures.slotsAt width)).Perm captures.groupSlots := by
  have distinct : captures.groupSlots.Nodup := List.nodup_range.filter _
  refine (List.perm_ext_iff_of_nodup ?_ distinct).mpr fun slot => ?_
  · refine List.nodup_flatMap.mpr ⟨fun place _ => List.nodup_range.filter _, ?_⟩
    refine List.nodup_range.imp fun {first second} different slot here there => ?_
    exact different ((mem_slotsAt.mp here).2.symm.trans (mem_slotsAt.mp there).2)
  · simp only [List.mem_flatMap, List.mem_range, mem_slotsAt]
    exact ⟨fun ⟨_, _, group, _⟩ => group, fun group => ⟨_, Nat.mod_lt _ wide, group, rfl⟩⟩

/-- Runs of one group each have all of them, so a pick leaves out only the absent ones. -/
theorem groups?_eq_pick (captures : Captures) :
    captures.groups? true = captures.slots.map fun _ => (captures.pick 0 0).map some := by
  obtain ⟨_ | slots⟩ := captures
  · rfl
  · have present (groups : List (Option Text)) :
        kept true groups = ((runs 0 groups).filterMap fun run => (run[0]?).join).map some := by
      induction groups with
      | nil => simp [kept, runs]
      | cons group groups ih =>
        rw [runs_cons, List.drop_zero, List.filterMap_cons]
        cases group <;> simpa [kept] using ih
    have kept_all : kept false slots.tail = slots.tail := by simp [kept]
    simp only [groups?, pick, Option.map_some, kept_all, Option.getD_some, present]

end Slots

/-- A pick is made of the slots of groups at one place of every run, in order and without the absent ones. For every
width of runs the picks at all places share out the groups that took part: each slot is picked at exactly one place,
and together they are these groups. Runs of one group give all of them, and without a match nothing is picked. -/
theorem picks_share_groups (captures : Captures) :
    (∀ before after, captures.pick before after =
      (captures.slotsAt (before + 1 + after) before).filterMap captures.get?) ∧
    (∀ width, 0 < width →
      (∀ slot text, 0 < slot → captures.get? slot = some text →
        ∃! before, before < width ∧ slot ∈ captures.slotsAt (before + 1 + (width - 1 - before)) before) ∧
      ∀ groups, captures.groups? true = some groups →
        (((List.range width).flatMap fun before => captures.pick before (width - 1 - before)).map some).Perm
          groups) ∧
    (captures.groups? true = captures.slots.map fun _ => (captures.pick 0 0).map some) ∧
    ∀ before after, noMatch.pick before after = [] := by
  have sized {width before : Nat} (inside : before < width) : before + 1 + (width - 1 - before) = width := by omega
  refine ⟨captures.pick_eq, fun width wide => ⟨?_, ?_⟩, captures.groups?_eq_pick, fun before after => ?_⟩
  · intro slot text group present
    have member := mem_groupSlots_of_get? group present
    refine ⟨(slot - 1) % width, ⟨Nat.mod_lt _ wide, ?_⟩, ?_⟩
    · rw [sized (Nat.mod_lt _ wide)]
      exact mem_slotsAt.mpr ⟨member, rfl⟩
    · rintro before ⟨inside, picked⟩
      rw [sized inside] at picked
      exact (mem_slotsAt.mp picked).2.symm
  · intro groups taken
    rw [groups?_eq_pick] at taken
    obtain ⟨_, -, rfl⟩ := Option.map_eq_some_iff.mp taken
    have picks : (List.range width).flatMap (fun before => captures.pick before (width - 1 - before)) =
        ((List.range width).flatMap (captures.slotsAt width)).filterMap captures.get? := by
      rw [List.filterMap_flatMap]
      refine List.flatMap_congr fun before member => ?_
      rw [pick_eq, sized (List.mem_range.mp member)]
    rw [picks, pick_eq, slotsAt_one]
    exact ((captures.flatMap_slotsAt_perm wide).filterMap _).map _
  · simp [pick, groups?, noMatch, runs]

/-- Two whole runs of three groups and a short one, with an absent group in each of the whole ones. -/
def shortLastRun : Captures :=
  .ofSlots [some ['w'], some ['a'], none, some ['b'], some ['c'], some ['d'], none, some ['a'], some ['e']]

/-- The last run has no third group. Two groups with the same text are picked at one place, and each once. -/
theorem picks_share_groups_shortLastRun :
    shortLastRun.get? 7 = some ['a'] ∧
    (∃! before, before < 3 ∧ 7 ∈ shortLastRun.slotsAt (before + 1 + (3 - 1 - before)) before) ∧
    shortLastRun.pick 0 2 = [['a'], ['c'], ['a']] ∧ shortLastRun.pick 2 0 = [['b']] ∧
    shortLastRun.groups? true = some [some ['a'], some ['b'], some ['c'], some ['d'], some ['a'], some ['e']] ∧
    (((List.range 3).flatMap fun before => shortLastRun.pick before (3 - 1 - before)).map some).Perm
      [some ['a'], some ['b'], some ['c'], some ['d'], some ['a'], some ['e']] := by
  obtain ⟨picked, shared, -, -⟩ := picks_share_groups shortLastRun
  obtain ⟨once, together⟩ := shared 3 (by decide)
  have held : shortLastRun.get? 7 = some ['a'] := rfl
  have taken : shortLastRun.groups? true =
      some [some ['a'], some ['b'], some ['c'], some ['d'], some ['a'], some ['e']] := rfl
  exact ⟨held, once 7 ['a'] (by decide) held, (picked 0 2).trans (by decide), (picked 2 0).trans (by decide), taken,
    together _ taken⟩

end Captures

end GroupUnroll
