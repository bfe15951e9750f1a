import Mathlib.Logic.Function.Iterate
import RobotPuzzle.Proofs.Scene.Layout
import RobotPuzzle.Proofs.Terrain.Course

/-! Clearing again and again from one place. The hazards within reach form a queue in the order of
the map, and every clearing takes its head. -/

namespace RobotPuzzle

lemma head_eq_some_iff_isLeast {ids : List Nat} (h : ids.Pairwise (· < ·)) {id : Nat} :
    ids.head? = some id ↔ IsLeast {i | i ∈ ids} id := by
  cases ids with
  | nil => simp [IsLeast]
  | cons first rest =>
    have hf : IsLeast {i | i ∈ first :: rest} first := by
      refine ⟨List.mem_cons_self, fun i hi => ?_⟩
      rcases List.mem_cons.mp hi with rfl | hi
      · exact le_rfl
      · exact ((List.pairwise_cons.mp h).1 i hi).le
    rw [List.head?_cons, Option.some.injEq]
    exact ⟨fun he => he ▸ hf, hf.unique⟩

namespace Cell

/-- Taking one cell from the other overflows on neither axis. -/
def SubFits (a b : Cell) : Prop :=
  (-2147483648 ≤ a.x - b.x ∧ a.x - b.x ≤ 2147483647) ∧
    (-2147483648 ≤ a.z - b.z ∧ a.z - b.z ≤ 2147483647)

instance (a b : Cell) : Decidable (a.SubFits b) := inferInstanceAs (Decidable (_ ∧ _))

lemma toNat_abs_sub {m n : Int} (hl : -2147483648 ≤ m - n) (hu : m - n ≤ 2147483647) :
    (Int32.ofInt m - Int32.ofInt n).abs.toBitVec.toNat = (m - n).natAbs := by
  rw [← Int32.ofInt_sub]
  generalize m - n = d at hl hu ⊢
  have hd : (Int32.ofInt d).toBitVec.toInt = d :=
    Int32.toInt_ofInt_of_le hl (Int.lt_of_le_sub_one hu)
  have ha : (Int32.ofInt d).abs.toBitVec = (Int32.ofInt d).toBitVec.abs := rfl
  have hlt := (Int32.ofInt d).toBitVec.isLt
  rw [BitVec.toInt_eq_msb_cond] at hd
  rw [ha, BitVec.toNat_abs]
  cases hm : (Int32.ofInt d).toBitVec.msb with
  | false =>
    rw [hm, if_neg Bool.false_ne_true] at hd
    rw [if_neg Bool.false_ne_true]
    omega
  | true =>
    rw [hm, if_pos rfl] at hd
    rw [if_pos rfl]
    omega

lemma isAdjacent_iff_natAbs {a b : Cell} (h : a.SubFits b) :
    a.isAdjacent b = true ↔ (a.x - b.x).natAbs + (a.z - b.z).natAbs = 1 := by
  obtain ⟨⟨hxl, hxu⟩, hzl, hzu⟩ := h
  have hone : (1 : Int32).toBitVec.toNat = 1 := rfl
  rw [isAdjacent, beq_iff_eq, ← Int32.toBitVec_inj, ← BitVec.toNat_inj, Int32.toBitVec_add,
    BitVec.toNat_add, toNat_abs_sub hxl hxu, toNat_abs_sub hzl hzu, hone]
  omega

lemma isAdjacent_iff {a b : Cell} (h : a.SubFits b) :
    a.isAdjacent b = true ↔ ∃ heading, a = b.along heading 1 := by
  rw [isAdjacent_iff_natAbs h]
  obtain ⟨ax, az⟩ := a
  obtain ⟨bx, bz⟩ := b
  simp only [along, mk.injEq]
  constructor
  · intro h
    have hc : (ax = bx + 1 ∧ az = bz) ∨ (ax = bx - 1 ∧ az = bz) ∨ (ax = bx ∧ az = bz - 1) ∨
      (ax = bx ∧ az = bz + 1) := by omega
    rcases hc with hc | hc | hc | hc
    · exact ⟨.east, by simp only [Heading.step]; omega⟩
    · exact ⟨.west, by simp only [Heading.step]; omega⟩
    · exact ⟨.north, by simp only [Heading.step]; omega⟩
    · exact ⟨.south, by simp only [Heading.step]; omega⟩
  · rintro ⟨heading, hx, hz⟩
    cases heading <;> simp only [Heading.step] at hx hz <;> omega

end Cell

def HazardKind.sensor : HazardKind → Sensor
  | .hole => .hole
  | .fire => .fire

namespace Terrain

variable {terrain : Terrain} {kind : HazardKind} {cell : Cell}

def idsBeside (terrain : Terrain) (kind : HazardKind) (cell : Cell) : List Nat :=
  (List.range (terrain.hazards kind).length).filter fun id =>
    (terrain.hazard? kind id).any fun hazard => hazard.active && hazard.cell.isAdjacent cell

lemma pairwise_idsBeside (terrain : Terrain) (kind : HazardKind) (cell : Cell) :
    (terrain.idsBeside kind cell).Pairwise (· < ·) :=
  List.pairwise_lt_range.filter _

lemma mem_idsBeside {id : Nat} :
    id ∈ terrain.idsBeside kind cell ↔ terrain.HasBeside kind cell id := by
  rw [idsBeside, List.mem_filter, List.mem_range, HasBeside]
  cases hh : terrain.hazard? kind id with
  | none => simp
  | some hazard =>
    have hl : id < (terrain.hazards kind).length := (List.getElem?_eq_some_iff.mp hh).1
    simp [hl]

lemma hasBeside_iff (h : ∀ hazard ∈ terrain.hazards kind, hazard.cell.SubFits cell) {id : Nat} :
    terrain.HasBeside kind cell id ↔
      ∃ hazard, terrain.hazard? kind id = some hazard ∧ hazard.active = true ∧
        ∃ heading, hazard.cell = cell.along heading 1 := by
  refine exists_congr fun hazard => and_congr_right fun hh => ?_
  rw [Bool.and_eq_true, Cell.isAdjacent_iff (h hazard (List.mem_of_getElem? hh))]

lemma adjacentHazard_eq_head :
    terrain.adjacentHazard? kind cell = (terrain.idsBeside kind cell).head? := by
  apply Option.ext
  intro id
  rw [adjacentHazard_eq_some_iff, head_eq_some_iff_isLeast (pairwise_idsBeside ..)]
  simp only [mem_idsBeside]

lemma idsBeside_setActive {id : Nat} : (terrain.setActive kind id false).idsBeside kind cell =
    (terrain.idsBeside kind cell).filter (· ≠ id) := by
  have hl : ((terrain.setActive kind id false).hazards kind).length =
      (terrain.hazards kind).length := by
    rw [setActive, hazards_mapHazards, List.length_modify]
  rw [idsBeside, idsBeside, hl, List.filter_filter]
  congr 1
  funext i
  rw [hazard_setActive, Option.any_map]
  by_cases hi : id = i
  · simp [hi]
  · simp [hi, Ne.symm hi]

lemma idsBeside_of_cons {id : Nat} {rest : List Nat}
    (h : terrain.idsBeside kind cell = id :: rest) :
    (terrain.setActive kind id false).idsBeside kind cell = rest := by
  have hp := h ▸ terrain.pairwise_idsBeside kind cell
  have hr : ∀ i ∈ rest, i ≠ id := fun i hi => ((List.pairwise_cons.mp hp).1 i hi).ne'
  rw [idsBeside_setActive, h, List.filter_cons_of_neg (by simp), List.filter_eq_self]
  simpa using hr

variable {α : Type} [Scalar α] {position : Position α}

def clearAt (terrain : Terrain) (kind : HazardKind) (position : Position α) :
    Option Nat × Terrain :=
  match terrain.clearAdjacent kind (terrain.cellAt position) with
  | none => (none, terrain)
  | some (id, after) => (some id, after)

inductive ClearsAt (terrain : Terrain) (kind : HazardKind) (position : Position α) :
    Option Nat × Terrain → Prop
  | nothing : terrain.idsBeside kind (terrain.cellAt position) = [] →
      terrain.ClearsAt kind position (none, terrain)
  | first {id rest} : terrain.idsBeside kind (terrain.cellAt position) = id :: rest →
      terrain.ClearsAt kind position (some id, terrain.setActive kind id false)

lemma clearsAt (terrain : Terrain) (kind : HazardKind) (position : Position α) :
    terrain.ClearsAt kind position (terrain.clearAt kind position) := by
  rw [clearAt, clearAdjacent, adjacentHazard_eq_head]
  cases h : terrain.idsBeside kind (terrain.cellAt position) with
  | nil => exact .nothing h
  | cons id rest => exact .first h

lemma fst_clearAt : (terrain.clearAt kind position).1 =
    (terrain.idsBeside kind (terrain.cellAt position)).head? := by
  have h := terrain.clearsAt kind position
  generalize terrain.clearAt kind position = result at h ⊢
  cases h with
  | nothing hn => rw [hn, List.head?_nil]
  | first hf => rw [hf, List.head?_cons]

lemma idsBeside_clearAt :
    (terrain.clearAt kind position).2.idsBeside kind (terrain.cellAt position) =
      (terrain.idsBeside kind (terrain.cellAt position)).tail := by
  have h := terrain.clearsAt kind position
  generalize terrain.clearAt kind position = result at h ⊢
  cases h with
  | nothing hn => rw [hn, List.tail_nil]
  | first hf => rw [hf, idsBeside_of_cons hf, List.tail_cons]

lemma hazard_clearAt (other : HazardKind) (id : Nat) :
    (terrain.clearAt kind position).2.hazard? other id =
      (terrain.hazard? other id).map fun hazard =>
        if other = kind ∧ (terrain.clearAt kind position).1 = some id then
          { hazard with active := false } else hazard := by
  have h := terrain.clearsAt kind position
  generalize terrain.clearAt kind position = result at h ⊢
  cases h with
  | nothing _ => simp
  | first _ => simp only [hazard_setActive, Option.some.injEq]

lemma rearm_clearAt : (terrain.clearAt kind position).2.rearm = terrain.rearm := by
  have h := terrain.clearsAt kind position
  generalize terrain.clearAt kind position = result at h ⊢
  cases h with
  | nothing _ => rfl
  | first _ => exact rearm_setActive ..

lemma ground_of_rearm {other : Terrain} (h : terrain.rearm = other.rearm) :
    terrain.divisions = other.divisions ∧ terrain.obstacles = other.obstacles ∧
      terrain.traps = other.traps := by
  obtain ⟨hd, ho, ht, -⟩ := mk.inj h
  exact ⟨hd, ho, ht⟩

lemma cellAt_of_rearm {other : Terrain} (h : terrain.rearm = other.rearm) :
    terrain.cellAt position = other.cellAt position := by
  have hr : terrain.rearm.cellAt position = other.rearm.cellAt position := by rw [h]
  exact hr

def afterClearings (terrain : Terrain) (kind : HazardKind) (position : Position α) (count : ℕ) :
    Terrain :=
  (fun terrain : Terrain => (terrain.clearAt kind position).2)^[count] terrain

lemma afterClearings_succ (count : ℕ) : terrain.afterClearings kind position (count + 1) =
    ((terrain.afterClearings kind position count).clearAt kind position).2 :=
  Function.iterate_succ_apply' ..

lemma rearm_afterClearings (count : ℕ) :
    (terrain.afterClearings kind position count).rearm = terrain.rearm := by
  induction count with
  | zero => rfl
  | succ count ih => rw [afterClearings_succ, rearm_clearAt, ih]

lemma cellAt_afterClearings (terrain : Terrain) (kind : HazardKind) (position : Position α)
    (count : ℕ) :
    (terrain.afterClearings kind position count).cellAt position = terrain.cellAt position :=
  cellAt_of_rearm (rearm_afterClearings count)

lemma idsBeside_afterClearings (count : ℕ) :
    (terrain.afterClearings kind position count).idsBeside kind (terrain.cellAt position) =
      (terrain.idsBeside kind (terrain.cellAt position)).drop count := by
  induction count with
  | zero => rfl
  | succ count ih =>
    have hc := terrain.cellAt_afterClearings kind position count
    rw [afterClearings_succ, ← hc, idsBeside_clearAt, hc, ih, List.tail_drop]

lemma answer_afterClearings (count : ℕ) :
    ((terrain.afterClearings kind position count).clearAt kind position).1 =
      (terrain.idsBeside kind (terrain.cellAt position))[count]? := by
  rw [fst_clearAt, cellAt_afterClearings, idsBeside_afterClearings, List.head?_drop]

lemma sense_eq (scene : Scene α) : scene.sense kind.sensor =
    (scene.terrain.clearAt kind scene.actor.position).1.isSome := by
  have hk : kind.sensor.kind = kind := by cases kind <;> rfl
  rw [Scene.sense, hk, adjacentHazard_eq_head, fst_clearAt]
  rfl

lemma clear_eq (scene : Scene α) : scene.clear? kind =
    (scene.terrain.clearAt kind scene.actor.position).1.map fun id =>
      ({ scene with terrain := (scene.terrain.clearAt kind scene.actor.position).2 },
        .visibility (.hazard kind id) false) := by
  rw [Scene.clear?, Scene.cell, clearAt]
  cases scene.terrain.clearAdjacent kind (scene.terrain.cellAt scene.actor.position) <;> rfl

lemma hasBeside_rearm (h : ∀ hazard ∈ terrain.hazards kind, hazard.cell.SubFits cell) {id : Nat} :
    terrain.rearm.HasBeside kind cell id ↔
      ∃ hazard, terrain.hazard? kind id = some hazard ∧
        ∃ heading, hazard.cell = cell.along heading 1 := by
  have hr : ∀ hazard ∈ terrain.rearm.hazards kind, hazard.cell.SubFits cell := by
    intro rearmed hm
    obtain ⟨id, hi⟩ := List.getElem?_of_mem hm
    obtain ⟨hazard, hh, rfl⟩ := Option.map_eq_some_iff.mp ((hazard_rearm ..).symm.trans hi)
    exact h hazard (List.mem_of_getElem? hh)
  rw [hasBeside_iff hr, hazard_rearm]
  cases terrain.hazard? kind id <;> simp

/-- A robot that stays where it is clears the active hazards around it one by one, in order, and
nothing else; its sensor tells whether there is one left. Rearming the map brings back the first. -/
theorem clearings_in_order (terrain : Terrain) (kind : HazardKind) (position : Position α)
    (h : ∀ hazard ∈ terrain.hazards kind, hazard.cell.SubFits (terrain.cellAt position)) :
    let cell := terrain.cellAt position
    ∃ ids : List Nat, ids.Pairwise (· < ·) ∧
      (∀ id, id ∈ ids ↔ ∃ hazard, terrain.hazard? kind id = some hazard ∧ hazard.active = true ∧
        ∃ heading, hazard.cell = cell.along heading 1) ∧
      ∀ count : ℕ,
        let before := (fun terrain : Terrain => (terrain.clearAt kind position).2)^[count] terrain
        let answer := (before.clearAt kind position).1
        let after := (before.clearAt kind position).2
        answer = ids[count]? ∧
        (∀ other : Scene α,
          let scene : Scene α :=
            { other with terrain := before, actor := { other.actor with position } }
          scene.sense kind.sensor = answer.isSome ∧
          scene.clear? kind = answer.map fun id =>
            ({ scene with terrain := after }, .visibility (.hazard kind id) false)) ∧
        (∀ other id, after.hazard? other id = (before.hazard? other id).map fun hazard =>
          if other = kind ∧ answer = some id then { hazard with active := false } else hazard) ∧
        (after.divisions = before.divisions ∧ after.obstacles = before.obstacles ∧
          after.traps = before.traps) ∧
        ∀ id, (before.rearm.clearAt kind position).1 = some id ↔
          IsLeast {id | ∃ hazard, terrain.hazard? kind id = some hazard ∧
            ∃ heading, hazard.cell = cell.along heading 1} id := by
  intro cell
  refine ⟨terrain.idsBeside kind cell, pairwise_idsBeside ..,
    fun id => mem_idsBeside.trans (hasBeside_iff h), fun count => ?_⟩
  intro before answer after
  have ha : after.rearm = before.rearm := rearm_clearAt
  have hb : before.rearm = terrain.rearm := rearm_afterClearings count
  refine ⟨answer_afterClearings count, fun _ => ⟨sense_eq _, clear_eq _⟩, hazard_clearAt,
    ground_of_rearm ha, fun id => ?_⟩
  have hr : ∀ id, id ∈ terrain.rearm.idsBeside kind (terrain.rearm.cellAt position) ↔
      ∃ hazard, terrain.hazard? kind id = some hazard ∧
        ∃ heading, hazard.cell = cell.along heading 1 :=
    fun id => mem_idsBeside.trans (hasBeside_rearm h)
  rw [hb, fst_clearAt, head_eq_some_iff_isLeast (pairwise_idsBeside ..)]
  simp only [hr]

theorem clearings_in_order_shared :
    let cells : List Cell := [⟨5, 4⟩, ⟨9, 9⟩, ⟨4, 3⟩, ⟨4, 3⟩]
    let terrain := cells.foldl (fun terrain cell => terrain.addHazard .fire cell) (ofDivisions 10)
    let position : Position Rat := terrain.center ⟨4, 4⟩
    (∀ hazard ∈ terrain.hazards .fire, hazard.cell.SubFits (terrain.cellAt position)) ∧
    ∀ count : ℕ,
      let before := (fun terrain : Terrain => (terrain.clearAt .fire position).2)^[count] terrain
      (before.clearAt .fire position).1 = [0, 2, 3][count]? ∧
      (before.rearm.clearAt .fire position).1 = some 0 := by
  intro cells terrain position
  have hc : terrain.cellAt position = ⟨4, 4⟩ := by decide +kernel
  have hf : ∀ hazard ∈ terrain.hazards .fire, hazard.cell.SubFits (terrain.cellAt position) := by
    rw [hc]
    decide
  obtain ⟨ids, -, -, h⟩ := terrain.clearings_in_order .fire position hf
  have hk : ∀ count < 4, ids[count]? = [0, 2, 3][count]? := by
    intro count hl
    rw [← (h count).1]
    revert count
    decide +kernel
  have hids : ids = [0, 2, 3] := by
    have hn : ids.length ≤ 3 := List.getElem?_eq_none_iff.mp (hk 3 (by decide))
    refine List.ext_getElem? fun count => ?_
    by_cases hl : count < 4
    · exact hk count hl
    · rw [List.getElem?_eq_none (by omega), List.getElem?_eq_none (by simp; omega)]
  refine ⟨hf, fun count => ⟨hids ▸ (h count).1, ((h count).2.2.2.2 0).mpr ⟨?_, ?_⟩⟩⟩
  · exact ⟨⟨⟨5, 4⟩, true⟩, rfl, .east, by rw [hc]; rfl⟩
  · exact fun id _ => Nat.zero_le id

end Terrain

end RobotPuzzle
