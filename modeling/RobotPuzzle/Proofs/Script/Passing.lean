import Mathlib.Tactic
import RobotPuzzle.Script.Assembly

namespace RobotPuzzle

namespace Script

inductive Passes (guard : Guard) (limit : Option Nat) :
    List Placed → List Line → List Placed → Prop
  | nil (above) : Passes guard limit above [] []
  | cons {above line token below tokens} : check guard above line below = .ok token →
      exceeded? limit above = none → Passes guard limit (⟨line, token⟩ :: above) below tokens →
      Passes guard limit above (line :: below) (⟨line, token⟩ :: tokens)

variable {guard : Guard} {limit : Option Nat}

lemma checkAll_cons {above : List Placed} {line : Line} {below : List Line} {token : Token}
    (hc : check guard above line below = .ok token) (he : exceeded? limit above = none) :
    checkAll guard limit above (line :: below) =
      checkAll guard limit (⟨line, token⟩ :: above) below := by
  rw [checkAll, hc]
  simp only [he]

lemma checkAll_cons_error {above : List Placed} {line : Line} {below : List Line} {fault : Fault}
    (hc : check guard above line below = .error fault) :
    checkAll guard limit above (line :: below) = .error (.faulty fault line) := by
  rw [checkAll, hc]

lemma checkAll_cons_ok {above placed : List Placed} {line : Line} {below : List Line}
    (h : checkAll guard limit above (line :: below) = .ok placed) :
    ∃ token, check guard above line below = .ok token ∧ exceeded? limit above = none ∧
      checkAll guard limit (⟨line, token⟩ :: above) below = .ok placed := by
  rw [checkAll] at h
  split at h
  · exact nomatch h
  · rename_i token hc
    split at h
    · exact nomatch h
    · rename_i he
      exact ⟨token, hc, he, h⟩

lemma Passes.checkAll_eq {above tokens : List Placed} {lines : List Line}
    (h : Passes guard limit above lines tokens) :
    checkAll guard limit above lines = .ok (above.reverse ++ tokens) := by
  induction h with
  | nil above => simp [checkAll]
  | cons hc he _ ih =>
    rw [checkAll_cons hc he, ih]
    simp

lemma passes_of_checkAll {above placed : List Placed} {lines : List Line}
    (h : checkAll guard limit above lines = .ok placed) :
    ∃ tokens, placed = above.reverse ++ tokens ∧ Passes guard limit above lines tokens := by
  induction lines generalizing above with
  | nil =>
    obtain rfl := Except.ok.inj h
    exact ⟨[], by simp, .nil above⟩
  | cons line below ih =>
    obtain ⟨token, hc, he, hr⟩ := checkAll_cons_ok h
    obtain ⟨tokens, hp, ht⟩ := ih hr
    exact ⟨⟨line, token⟩ :: tokens, by simpa using hp, .cons hc he ht⟩

theorem ofLines_ok_iff {lines : List Line} {program : Program} :
    Program.ofLines guard limit lines = .ok program ↔
      ∃ tokens, Passes guard limit [] lines tokens ∧ assemble tokens = .ok program := by
  constructor
  · intro h
    rw [Program.ofLines] at h
    cases hc : checkAll guard limit [] lines with
    | error rejection =>
      rw [hc] at h
      exact nomatch h
    | ok placed =>
      rw [hc] at h
      obtain ⟨tokens, hp, ht⟩ := passes_of_checkAll hc
      obtain rfl : placed = tokens := hp
      exact ⟨placed, ht, h⟩
  · rintro ⟨tokens, ht, ha⟩
    rw [Program.ofLines]
    rw [ht.checkAll_eq]
    exact ha

def Reads (text : List Char) : Token → Prop
  | .command c => shape? text = some (.command c)
  | .bareIf condition source => ∃ inner, shape? text = some (.header (.bare inner)) ∧
      readCondition inner = .ok (condition, source)
  | .blockIf condition source => ∃ inner, shape? text = some (.header (.block inner)) ∧
      readCondition inner = .ok (condition, source)
  | .opening => shape? text = some .opening
  | .closing => shape? text = some .closing

def AllRead (placed : List Placed) : Prop := ∀ item ∈ placed, Reads item.line.text item.token

def Fits (guard : Guard) (above : List Placed) (below : List Line) : Token → Prop
  | .command c => guard above c
  | .bareIf _ _ => True
  | .blockIf _ _ => hasCloser 0 below
  | .opening => hasCloser 0 below
  | .closing => hasOpener 0 (above.map (·.line))

theorem check_ok_iff {above : List Placed} {line : Line} {below : List Line} {token : Token} :
    check guard above line below = .ok token ↔
      Reads line.text token ∧ Fits guard above below token := by
  rw [check]
  split
  · rename_i hs
    cases token <;> simp [Reads, hs]
  · rename_i c hs
    cases token with
    | command d =>
      by_cases hd : c = d
      · subst hd
        cases hg : guard above c <;> simp [Reads, Fits, hs, hg]
      · cases hg : guard above c <;> simp [Reads, hs, hd]
    | _ => cases hg : guard above c <;> simp [Reads, hs]
  · rename_i text hs
    cases hr : readCondition text <;> cases token <;>
      simp [Reads, Fits, hs, hr, Except.map, Prod.ext_iff]
  · rename_i text hs
    cases hb : hasCloser 0 below <;> cases hr : readCondition text <;> cases token <;>
      simp [Reads, Fits, hs, hr, hb, Except.map, Prod.ext_iff]
  · rename_i hs
    cases hb : hasCloser 0 below <;> cases token <;> simp [Reads, Fits, hs, hb]
  · rename_i hs
    cases hb : hasOpener 0 (above.map (·.line)) <;> cases token <;> simp [Reads, Fits, hs, hb]

lemma Reads.shape_ne_none {text : List Char} {token : Token} (h : Reads text token) :
    shape? text ≠ none := by
  intro hn
  cases token <;> simp [Reads, hn] at h

lemma Passes.reads {above tokens : List Placed} {lines : List Line} {line : Line}
    (h : Passes guard limit above lines tokens) (hl : line ∈ lines) :
    ∃ token, Reads line.text token := by
  induction h with
  | nil => exact nomatch hl
  | @cons _ _ token _ _ hc _ _ ih =>
    rcases List.mem_cons.mp hl with rfl | hb
    · exact ⟨token, (check_ok_iff.mp hc).1⟩
    · exact ih hb

end Script

end RobotPuzzle
