import RobotPuzzle.Proofs.Script.Forms

/-! The rules that a line is matched against, as parsing expressions: choices are ordered, a
repetition takes as much as it can, and nothing is given back. -/

namespace RobotPuzzle.Grammar

open Script

inductive Label where
  | moveName
  | turnName
  | collectName
  | guardedName
  | count
  | bareCondition
  | blockCondition
  | truth
  | sensorCall
  | sensorName
deriving DecidableEq, Repr

structure Match where
  rest : List Char
  parts : List (Label × List Char)
deriving DecidableEq, Repr

def Match.followedBy (first second : Match) : Match := ⟨second.rest, first.parts ++ second.parts⟩

inductive Peg where
  | word (text : List Char)
  | one (accepts : Char → Bool)
  | stop
  | seq (first second : Peg)
  | alt (first second : Peg)
  | many (inner : Peg)
  | notAhead (inner : Peg)
  | part (label : Label) (inner : Peg)

def repeated (step : List Char → Option Match) (text : List Char) : Match :=
  match step text with
  | none => ⟨text, []⟩
  | some found =>
    if found.rest.length < text.length then found.followedBy (repeated step found.rest)
    else ⟨text, []⟩
termination_by text.length

namespace Peg

def parse : Peg → List Char → Option Match
  | word w, text => (after? w text).map (⟨·, []⟩)
  | one _, [] => none
  | one accepts, c :: rest => if accepts c then some ⟨rest, []⟩ else none
  | stop, text => if text = [] then some ⟨[], []⟩ else none
  | seq p q, text => (p.parse text).bind fun first => (q.parse first.rest).map first.followedBy
  | alt p q, text => (p.parse text).or (q.parse text)
  | many p, text => some (repeated p.parse text)
  | notAhead p, text => if (p.parse text).isSome then none else some ⟨text, []⟩
  | part label p, text => (p.parse text).map fun found =>
    ⟨found.rest, (label, text.take (text.length - found.rest.length)) :: found.parts⟩

def atLeastOnce (p : Peg) : Peg := seq p (many p)

def oneOf (name : String) : List String → Peg
  | [] => word name.toList
  | next :: names => alt (word name.toList) (oneOf next names)

def gap : Peg := many (alt (word [' ']) (word ['\t']))

def ending : Peg := seq gap (seq (alt (word [';']) (word [])) stop)

def noArguments : Peg := seq (word ['(']) (seq gap (word [')']))

def count : Peg :=
  part .count (seq (one fun c => c != '0' && c.isDigit) (many (one Char.isDigit)))

def callEnd : Peg := seq gap (seq noArguments ending)

def call (label : Label) (name : String) (names : List String) : Peg :=
  seq (part label (oneOf name names)) callEnd

def moveEnd : Peg :=
  seq gap (seq (word ['(']) (seq gap (seq count (seq gap (seq (word [')']) ending)))))

def move : Peg := seq (part .moveName (oneOf "andarFrente" ["andarTras"])) moveEnd

def upTo (close : Peg) : Peg := atLeastOnce (seq (notAhead close) (one fun _ => true))

def header (label : Label) (close : Peg) : Peg :=
  seq (word "se".toList) (seq gap (seq (word ['('])
    (seq (part label (upTo close)) close)))

def bareClose : Peg := seq (word [')']) stop

def blockClose : Peg := seq (word [')']) (seq gap (seq (word ['\x7b']) stop))

def sensorCall : Peg :=
  part .sensorCall
    (seq (part .sensorName (oneOf "pegandoFogo" ["buracoAFrente"])) (seq gap noArguments))

def condition : Peg :=
  seq gap (seq (alt (part .truth (oneOf "true" ["false"])) sensorCall) (seq gap stop))

end Peg

inductive LineRule where
  | move
  | turn
  | collect
  | guarded
  | bareIf
  | blockIf
  | closing
  | opening
deriving DecidableEq, Repr

namespace LineRule

def all : List LineRule := [move, turn, collect, guarded, bareIf, blockIf, closing, opening]

def peg : LineRule → Peg
  | move => .move
  | turn => .call .turnName "girarEsquerda" ["girarDireita", "darMeiaVolta"]
  | collect => .call .collectName "coletarCristal" []
  | guarded => .call .guardedName "apagarFogoECobrirBuraco" ["cobrirBuraco"]
  | bareIf => .header .bareCondition .bareClose
  | blockIf => .header .blockCondition .blockClose
  | closing => .seq (.word ['\x7d']) .stop
  | opening => .seq (.word ['\x7b']) .stop

def Matches (rule : LineRule) (text : List Char) : Prop := (rule.peg.parse text).isSome

end LineRule

def readCount (digits : List Char) : Option UInt32 :=
  let n := Nat.ofDigitChars 10 digits 0
  if n < UInt32.size then some (UInt32.ofNat n) else none

def readName (parts : List (Label × List Char)) (name : List Char) : Option Command :=
  if name = "andarFrente".toList then
    ((parts.lookup .count).bind readCount).map .forward
  else if name = "andarTras".toList then
    ((parts.lookup .count).bind readCount).map .backward
  else plainCommands.find? fun c => c.keyword.toList = name

def LineRule.read (rule : LineRule) (parts : List (Label × List Char)) : Option Shape :=
  match rule with
  | move => ((parts.lookup .moveName).bind (readName parts)).map .command
  | turn => ((parts.lookup .turnName).bind (readName parts)).map .command
  | collect => ((parts.lookup .collectName).bind (readName parts)).map .command
  | guarded => ((parts.lookup .guardedName).bind (readName parts)).map .command
  | bareIf => (parts.lookup .bareCondition).map fun text => .header (.bare text)
  | blockIf => (parts.lookup .blockCondition).map fun text => .header (.block text)
  | closing => some .closing
  | opening => some .opening

def shapeBy? (rules : List LineRule) (text : List Char) : Option Shape :=
  (rules.findSome? fun rule => (rule.peg.parse text).map (rule, ·)).bind fun (rule, found) =>
    rule.read found.parts

def readSensor (parts : List (Label × List Char)) : Option Sensor :=
  (parts.lookup .sensorName).bind fun name =>
    [Sensor.fire, Sensor.hole].find? fun sensor => sensor.keyword.toList = name

def conditionBy? (text : List Char) : Option Condition :=
  (Peg.condition.parse text).bind fun found =>
    match found.parts.lookup .truth with
    | some word => some (.literal (word = "true".toList))
    | none => (found.parts.lookup .sensorCall).bind fun _ => (readSensor found.parts).map .sensor

@[simp] lemma Match.map_followedBy_nil (rest : List Char) (found : Option Match) :
    found.map (Match.followedBy ⟨rest, []⟩) = found := by
  cases found <;> rfl

def advance (goes : List Char → Bool) : List Char → List Char
  | [] => []
  | c :: rest => if goes (c :: rest) then advance goes rest else c :: rest

lemma repeated_advance {step : List Char → Option Match} (goes : List Char → Bool)
    (hn : step [] = none)
    (hc : ∀ c rest, step (c :: rest) = if goes (c :: rest) then some ⟨rest, []⟩ else none)
    (text : List Char) : repeated step text = ⟨advance goes text, []⟩ := by
  induction text with
  | nil => rw [repeated, hn, advance]
  | cons c rest ih =>
    rw [repeated, hc, advance]
    cases goes (c :: rest) with
    | true => simp [ih, Match.followedBy]
    | false => rfl

lemma advance_dropWhile (accepts : Char → Bool) (text : List Char) :
    advance (fun text => text.head?.any accepts) text = text.dropWhile accepts := by
  induction text with
  | nil => rfl
  | cons c rest ih =>
    rw [advance, ih, List.dropWhile_cons]
    rfl

lemma exists_advance (goes : List Char → Bool) (text : List Char) :
    ∃ taken, text = taken ++ advance goes text := by
  induction text with
  | nil => exact ⟨[], rfl⟩
  | cons c rest ih =>
    rw [advance]
    split
    · obtain ⟨taken, ht⟩ := ih
      exact ⟨c :: taken, by rw [List.cons_append, ← ht]⟩
    · exact ⟨[], rfl⟩

lemma repeated_suffix {step : List Char → Option Match}
    (h : ∀ text found, step text = some found → found.rest <:+ text) (text : List Char) :
    (repeated step text).rest <:+ text := by
  fun_induction repeated step text with
  | case1 text hs => exact List.suffix_rfl
  | case2 text found hs hl ih => exact ih.trans (h text found hs)
  | case3 text found hs hl => exact List.suffix_rfl

namespace Peg

attribute [local simp] parse

variable {p q : Peg} {text : List Char} {found : Match}

lemma seq_iff : (seq p q).parse text = some found ↔ ∃ first second,
    p.parse text = some first ∧ q.parse first.rest = some second ∧
      found = first.followedBy second := by
  simp only [parse, Option.bind_eq_some_iff, Option.map_eq_some_iff]
  constructor
  · rintro ⟨first, hf, second, hs, rfl⟩
    exact ⟨first, second, hf, hs, rfl⟩
  · rintro ⟨first, second, hf, hs, rfl⟩
    exact ⟨first, hf, second, hs, rfl⟩

lemma parse_suffix (h : p.parse text = some found) : found.rest <:+ text := by
  induction p generalizing text found with
  | word w =>
    obtain ⟨rest, hr, rfl⟩ := Option.map_eq_some_iff.mp h
    exact ⟨w, (after?_eq_some_iff.mp hr).symm⟩
  | one accepts =>
    cases text with
    | nil => exact nomatch h
    | cons c rest =>
      rw [parse] at h
      split at h
      · obtain rfl := Option.some.inj h
        exact List.suffix_cons c rest
      · exact nomatch h
  | stop =>
    rw [parse] at h
    split at h
    · obtain rfl := Option.some.inj h
      exact List.nil_suffix
    · exact nomatch h
  | seq p q ihp ihq =>
    obtain ⟨first, second, hf, hs, rfl⟩ := seq_iff.mp h
    exact (ihq hs).trans (ihp hf)
  | alt p q ihp ihq =>
    rw [parse, Option.or_eq_some_iff] at h
    obtain h | ⟨-, h⟩ := h
    · exact ihp h
    · exact ihq h
  | many p ih =>
    obtain rfl := Option.some.inj h
    exact repeated_suffix (fun _ _ hs => ih hs) text
  | notAhead p =>
    rw [parse] at h
    split at h
    · exact nomatch h
    · obtain rfl := Option.some.inj h
      exact List.suffix_rfl
  | part label p ih =>
    obtain ⟨inner, hi, rfl⟩ := Option.map_eq_some_iff.mp h
    have hs : inner.rest <:+ text := ih hi
    exact hs

lemma part_iff {label : Label} : (part label p).parse text = some found ↔ ∃ taken inner,
    p.parse text = some inner ∧ text = taken ++ inner.rest ∧
      found = ⟨inner.rest, (label, taken) :: inner.parts⟩ := by
  constructor
  · intro h
    obtain ⟨inner, hi, rfl⟩ := Option.map_eq_some_iff.mp h
    obtain ⟨taken, rfl⟩ := parse_suffix hi
    exact ⟨taken, inner, hi, rfl, by simp⟩
  · rintro ⟨taken, inner, hi, rfl, rfl⟩
    rw [parse, hi]
    simp

lemma seq_assoc (p q r : Peg) (text : List Char) :
    (seq (seq p q) r).parse text = (seq p (seq q r)).parse text := by
  simp only [parse]
  cases p.parse text with
  | none => rfl
  | some first =>
    simp only [Option.bind_some]
    cases q.parse first.rest with
    | none => rfl
    | some second =>
      cases hr : r.parse second.rest <;> simp [Match.followedBy, hr]

lemma word_seq_iff {w : List Char} : (seq (word w) p).parse text = some found ↔
    ∃ rest, text = w ++ rest ∧ p.parse rest = some found := by
  rw [seq_iff]
  constructor
  · rintro ⟨first, second, hf, hs, rfl⟩
    obtain ⟨rest, hr, rfl⟩ := Option.map_eq_some_iff.mp hf
    exact ⟨rest, after?_eq_some_iff.mp hr, hs⟩
  · rintro ⟨rest, rfl, hs⟩
    exact ⟨⟨rest, []⟩, found, by rw [parse, after?_append, Option.map_some], hs, rfl⟩

lemma gap_parse (text : List Char) : gap.parse text = some ⟨skipGap text, []⟩ := by
  have hc : ∀ c rest, (alt (word [' ']) (word ['\t'])).parse (c :: rest) =
      if (c :: rest).head?.any isGap then some ⟨rest, []⟩ else none := by
    intro c rest
    by_cases hs : c = ' '
    · subst hs
      rfl
    · by_cases ht : c = '\t'
      · subst ht
        rfl
      · simp [after?, isGap, hs, ht, Ne.symm hs, Ne.symm ht]
  rw [gap, parse, repeated_advance (fun text => text.head?.any isGap) rfl hc, advance_dropWhile]
  rfl

lemma gap_seq_iff : (seq gap p).parse text = some found ↔ p.parse (skipGap text) = some found := by
  simp [gap_parse]

end Peg

end RobotPuzzle.Grammar
