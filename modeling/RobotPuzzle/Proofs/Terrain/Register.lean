import Mathlib.Tactic.Common
import RobotPuzzle.Terrain.Basic

/-! Hazards in a register, each under a key and with an id of its own. What is found is named by its
id, and what is changed is looked up by its key. In a register that is filled hazard by hazard both
are the place in the list, and they remain so. -/

namespace RobotPuzzle

structure NumberedHazard extends Hazard where
  id : Nat
deriving DecidableEq, Repr

structure Register where
  entries : List (Nat × NumberedHazard)
deriving DecidableEq, Repr

namespace Register

def empty : Register := ⟨[]⟩

def get? (register : Register) (key : Nat) : Option NumberedHazard := register.entries.lookup key

def modify (register : Register) (key : Nat) (f : NumberedHazard → NumberedHazard) : Register :=
  ⟨register.entries.map fun entry => (entry.1, if entry.1 = key then f entry.2 else entry.2)⟩

def insert (register : Register) (key : Nat) (hazard : NumberedHazard) : Register :=
  if (register.get? key).isSome then register.modify key fun _ => hazard
  else ⟨register.entries ++ [(key, hazard)]⟩

def add (register : Register) (cell : Cell) : Register :=
  let id := register.entries.length
  register.insert id ⟨⟨cell, true⟩, id⟩

def setActive (register : Register) (key : Nat) (active : Bool) : Register :=
  register.modify key fun hazard => { hazard with active }

def rearm (register : Register) : Register :=
  ⟨register.entries.map fun entry => (entry.1, { entry.2 with active := true })⟩

def beside? (register : Register) (cell : Cell) : Option Nat :=
  (register.entries.find? fun entry => entry.2.active && entry.2.cell.isAdjacent cell).map (·.2.id)

def hazards (register : Register) : List Hazard := register.entries.map (·.2.toHazard)

def numberFrom (start : Nat) (hazards : List Hazard) : List (Nat × NumberedHazard) :=
  (hazards.zipIdx start).map fun item => (item.2, ⟨item.1, item.2⟩)

def number (hazards : List Hazard) : Register := ⟨numberFrom 0 hazards⟩

section NumberFrom

variable (start : Nat) (hazard : Hazard) (items : List Hazard)

lemma numberFrom_cons : numberFrom start (hazard :: items) =
    (start, ⟨hazard, start⟩) :: numberFrom (start + 1) items := rfl

lemma length_numberFrom : (numberFrom start items).length = items.length := by
  rw [numberFrom, List.length_map, List.length_zipIdx]

lemma getElem_numberFrom (i : Nat) : (numberFrom start items)[i]? =
    items[i]?.map fun hazard => (start + i, ⟨hazard, start + i⟩) := by
  rw [numberFrom, List.getElem?_map, List.getElem?_zipIdx, Option.map_map]
  rfl

lemma lookup_numberFrom (i : Nat) :
    (numberFrom start items).lookup (start + i) = items[i]?.map (⟨·, start + i⟩) := by
  induction items generalizing start i with
  | nil => rfl
  | cons hazard items ih =>
    rw [numberFrom_cons]
    cases i with
    | zero => simp
    | succ i =>
      have hne : (start + (i + 1) == start) = false := by
        rw [beq_eq_false_iff_ne]
        omega
      rw [List.lookup_cons, hne, List.getElem?_cons_succ, ← Nat.add_assoc, Nat.add_right_comm]
      exact ih (start + 1) i

lemma find_numberFrom (p : Hazard → Bool) :
    ((numberFrom start items).find? fun entry => p entry.2.toHazard).map (·.2.id) =
      (items.findIdx? p).map (· + start) := by
  induction items generalizing start with
  | nil => rfl
  | cons hazard items ih =>
    rw [numberFrom_cons, List.findIdx?_cons]
    cases hp : p hazard with
    | true => simp [hp]
    | false =>
      rw [List.find?_cons_of_neg (by simp [hp]), ih]
      simp [Function.comp_def, Nat.add_assoc, Nat.add_comm 1 start]

end NumberFrom

variable (items : List Hazard)

lemma hazards_number : (number items).hazards = items := by
  rw [hazards, number, numberFrom, List.map_map]
  exact List.zipIdx_map_fst 0 items

lemma length_entries_number : (number items).entries.length = items.length :=
  length_numberFrom 0 items

lemma get_number (key : Nat) : (number items).get? key = items[key]?.map (⟨·, key⟩) := by
  have h := lookup_numberFrom 0 items key
  rwa [Nat.zero_add] at h

lemma beside_number (cell : Cell) : (number items).beside? cell =
    items.findIdx? fun hazard => hazard.active && hazard.cell.isAdjacent cell := by
  have h := find_numberFrom 0 items fun hazard => hazard.active && hazard.cell.isAdjacent cell
  simp only [Nat.add_zero, Option.map_id'] at h
  exact h

example : (⟨[(3, ⟨⟨⟨0, 1⟩, true⟩, 5⟩)]⟩ : Register).beside? ⟨0, 0⟩ = some 5 := by decide

lemma setActive_number (key : Nat) (active : Bool) : (number items).setActive key active =
    number (items.modify key fun hazard => { hazard with active }) := by
  refine congrArg mk (List.ext_getElem? fun i => ?_)
  rw [number, List.getElem?_map, getElem_numberFrom, getElem_numberFrom, List.getElem?_modify,
    Nat.zero_add]
  by_cases hi : i = key
  · cases items[i]? <;> simp [hi]
  · cases items[i]? <;> simp [hi, Ne.symm hi]

lemma rearm_number : (number items).rearm =
    number (items.map fun hazard => { hazard with active := true }) := by
  refine congrArg mk (List.ext_getElem? fun i => ?_)
  rw [number, List.getElem?_map, getElem_numberFrom, getElem_numberFrom, List.getElem?_map,
    Option.map_map, Option.map_map]
  rfl

lemma add_number (cell : Cell) : (number items).add cell = number (items ++ [⟨cell, true⟩]) := by
  have hn : ((number items).get? items.length).isSome = false := by
    rw [get_number, List.getElem?_eq_none (Nat.le_refl _)]
    rfl
  rw [add, length_entries_number, insert, hn, if_neg Bool.false_ne_true]
  refine congrArg mk ?_
  rw [numberFrom, List.zipIdx_append, List.map_append, Nat.zero_add]
  rfl

lemma foldl_add_number (cells : List Cell) :
    cells.foldl add (number items) = number (items ++ cells.map (⟨·, true⟩)) := by
  induction cells generalizing items with
  | nil => rw [List.map_nil, List.append_nil, List.foldl_nil]
  | cons cell cells ih =>
    rw [List.foldl_cons, add_number, ih, List.map_cons, List.append_assoc, List.singleton_append]

lemma entries_number :
    (number items).entries.map (fun entry => (entry.1, entry.2.id, entry.2.cell)) =
      ((items.map (·.cell)).zipIdx).map fun item => (item.2, item.2, item.1) := by
  rw [number, numberFrom, List.map_map, List.zipIdx_map, List.map_map]
  rfl

end Register

end RobotPuzzle
