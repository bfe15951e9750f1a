import Mathlib.Data.List.Infix
import Mathlib.Logic.Function.Basic
import RobotPuzzle.Text.Markup

namespace RobotPuzzle.Text

def entityNames : List (List Char) := ["lt".toList, "gt".toList, "amp".toList, "quot".toList]

def unescape : List Char → List Char
  | '&' :: 'l' :: 't' :: ';' :: text => '<' :: unescape text
  | '&' :: 'g' :: 't' :: ';' :: text => '>' :: unescape text
  | '&' :: 'a' :: 'm' :: 'p' :: ';' :: text => '&' :: unescape text
  | '&' :: 'q' :: 'u' :: 'o' :: 't' :: ';' :: text => '"' :: unescape text
  | c :: text => c :: unescape text
  | [] => []

def unescapeMarkup (text : String) : String := String.ofList (unescape text.toList)

def IsMarkup (c : Char) : Prop := c = '<' ∨ c = '>' ∨ c = '&' ∨ c = '"'

instance (c : Char) : Decidable (IsMarkup c) := inferInstanceAs (Decidable (_ ∨ _))

lemma entity_cases (c : Char) :
    IsMarkup c ∧ (∃ name ∈ entityNames, entity c = '&' :: name ++ [';']) ∨
      ¬ IsMarkup c ∧ entity c = [c] := by
  unfold entity
  split
  · exact Or.inl ⟨Or.inl rfl, "lt".toList, by decide, rfl⟩
  · exact Or.inl ⟨Or.inr (Or.inl rfl), "gt".toList, by decide, rfl⟩
  · exact Or.inl ⟨Or.inr (Or.inr (Or.inl rfl)), "amp".toList, by decide, rfl⟩
  · exact Or.inl ⟨Or.inr (Or.inr (Or.inr rfl)), "quot".toList, by decide, rfl⟩
  · rename_i hl hg ha hq
    refine Or.inr ⟨?_, rfl⟩
    rintro (h | h | h | h)
    · exact hl h
    · exact hg h
    · exact ha h
    · exact hq h

lemma entity_of_not_isMarkup {c : Char} (h : ¬ IsMarkup c) : entity c = [c] := by
  obtain ⟨hc, -⟩ | ⟨-, he⟩ := entity_cases c
  · exact absurd hc h
  · exact he

lemma unescape_plain {c : Char} (h : c ≠ '&') (text : List Char) :
    unescape (c :: text) = c :: unescape text := by
  rw [unescape]
  all_goals
    intros
    contradiction

lemma unescape_entity (c : Char) (text : List Char) :
    unescape (entity c ++ text) = c :: unescape text := by
  unfold entity
  split
  · rfl
  · rfl
  · rfl
  · rfl
  · apply unescape_plain
    assumption

lemma escape_cons (c : Char) (text : List Char) : escape (c :: text) = entity c ++ escape text :=
  List.flatMap_cons

lemma unescape_escape (text : List Char) : unescape (escape text) = text := by
  induction text with
  | nil => rfl
  | cons c text ih =>
    rw [escape_cons, unescape_entity]
    apply congrArg
    exact ih

structure IsSafe (text : List Char) : Prop where
  no_tag : '<' ∉ text ∧ '>' ∉ text
  no_quote : '"' ∉ text
  starts_entity : ∀ tail, '&' :: tail <:+ text → ∃ name ∈ entityNames, name ++ [';'] <+: tail

lemma isSafe_nil : IsSafe [] where
  no_tag := ⟨List.not_mem_nil, List.not_mem_nil⟩
  no_quote := List.not_mem_nil
  starts_entity _ h := absurd (List.suffix_nil.mp h) (List.cons_ne_nil _ _)

variable {c : Char} {text : List Char}

lemma isSafe_cons_iff : IsSafe (c :: text) ↔ ('<' ≠ c ∧ '>' ≠ c ∧ '"' ≠ c) ∧
    (c = '&' → ∃ name ∈ entityNames, name ++ [';'] <+: text) ∧ IsSafe text := by
  constructor
  · rintro ⟨⟨hl, hg⟩, hq, he⟩
    rw [List.mem_cons, not_or] at hl hg hq
    refine ⟨⟨hl.1, hg.1, hq.1⟩, ?_, ⟨hl.2, hg.2⟩, hq.2, ?_⟩
    · rintro rfl
      exact he text List.suffix_rfl
    · intro tail ht
      apply he
      exact ht.trans (List.suffix_cons c text)
  · rintro ⟨⟨hl', hg', hq'⟩, ha, ⟨hl, hg⟩, hq, he⟩
    refine ⟨⟨?_, ?_⟩, ?_, fun tail ht => ?_⟩
    · exact fun hm => (List.mem_cons.mp hm).elim hl' hl
    · exact fun hm => (List.mem_cons.mp hm).elim hg' hg
    · exact fun hm => (List.mem_cons.mp hm).elim hq' hq
    · obtain hc | ht := List.suffix_cons_iff.mp ht
      · obtain ⟨rfl, rfl⟩ := List.cons.inj hc
        exact ha rfl
      · exact he tail ht

lemma isSafe_plain_iff (h : ¬ IsMarkup c) : IsSafe (c :: text) ↔ IsSafe text := by
  obtain ⟨hl, hg, ha, hq⟩ : c ≠ '<' ∧ c ≠ '>' ∧ c ≠ '&' ∧ c ≠ '"' := by
    simpa [IsMarkup] using h
  rw [isSafe_cons_iff]
  exact ⟨fun hs => hs.2.2, fun hs => ⟨⟨hl.symm, hg.symm, hq.symm⟩, fun hc => absurd hc ha, hs⟩⟩

lemma isSafe_append_iff {front : List Char} (h : ∀ c ∈ front, ¬ IsMarkup c) :
    IsSafe (front ++ text) ↔ IsSafe text := by
  induction front with
  | nil => rfl
  | cons c front ih =>
    obtain ⟨hc, hf⟩ := List.forall_mem_cons.mp h
    rw [List.cons_append, isSafe_plain_iff hc, ih hf]

lemma not_isMarkup_of_name {name : List Char} (h : name ∈ entityNames) :
    ∀ c ∈ name ++ [';'], ¬ IsMarkup c := by
  intro c hc
  have hn : (entityNames.all fun name => (name ++ [';']).all (¬ IsMarkup ·)) = true := by decide
  have ha := List.all_eq_true.mp hn name h
  exact of_decide_eq_true (List.all_eq_true.mp ha c hc)

lemma isSafe_entity_iff {name : List Char} (h : name ∈ entityNames) :
    IsSafe ('&' :: name ++ [';'] ++ text) ↔ IsSafe text := by
  have hn := not_isMarkup_of_name h
  rw [List.cons_append, List.cons_append, isSafe_cons_iff, isSafe_append_iff hn]
  constructor
  · exact fun hs => hs.2.2
  · exact fun hs => ⟨by decide, fun _ => ⟨name, h, List.prefix_append _ _⟩, hs⟩

lemma isSafe_escape (text : List Char) : IsSafe (escape text) := by
  induction text with
  | nil => exact isSafe_nil
  | cons c text ih =>
    rw [escape_cons]
    obtain ⟨-, name, hn, he⟩ | ⟨hc, he⟩ := entity_cases c
    · rw [he, isSafe_entity_iff hn]
      exact ih
    · rw [he, List.singleton_append, isSafe_plain_iff hc]
      exact ih

lemma escape_unescape (h : IsSafe text) : escape (unescape text) = text := by
  fun_induction unescape text with
  | case1 text ih =>
    rw [escape_cons, ih ((isSafe_entity_iff (by decide : "lt".toList ∈ entityNames)).mp h)]
    rfl
  | case2 text ih =>
    rw [escape_cons, ih ((isSafe_entity_iff (by decide : "gt".toList ∈ entityNames)).mp h)]
    rfl
  | case3 text ih =>
    rw [escape_cons, ih ((isSafe_entity_iff (by decide : "amp".toList ∈ entityNames)).mp h)]
    rfl
  | case4 text ih =>
    rw [escape_cons, ih ((isSafe_entity_iff (by decide : "quot".toList ∈ entityNames)).mp h)]
    rfl
  | case5 c text hl hg ha hq ih =>
    obtain ⟨⟨hl', hg', hq'⟩, he, hs⟩ := isSafe_cons_iff.mp h
    have hc : ¬ IsMarkup c := by
      rintro (rfl | rfl | rfl | rfl)
      · exact hl' rfl
      · exact hg' rfl
      · obtain ⟨name, hn, rest, rfl⟩ := he rfl
        simp only [entityNames, List.mem_cons, List.not_mem_nil, or_false] at hn
        obtain rfl | rfl | rfl | rfl := hn
        · exact hl rest rfl rfl
        · exact hg rest rfl rfl
        · exact ha rest rfl rfl
        · exact hq rest rfl rfl
      · exact hq' rfl
    rw [escape_cons, entity_of_not_isMarkup hc, ih hs, List.singleton_append]
  | case6 => rfl

/-- A text can be put into a page, and nothing of it is lost: escaping makes it safe, reading the
entities gives it back, and so no two texts are escaped alike. Every safe text comes about so. -/
theorem escaping_safe_and_reversible :
    (∀ text, IsSafe (escapeMarkup text).toList ∧ unescapeMarkup (escapeMarkup text) = text) ∧
      Function.Injective escapeMarkup ∧
      ∀ escaped, IsSafe escaped.toList → escapeMarkup (unescapeMarkup escaped) = escaped := by
  have hr : Function.LeftInverse unescapeMarkup escapeMarkup := by
    intro text
    rw [unescapeMarkup, escapeMarkup, String.toList_ofList, unescape_escape, String.ofList_toList]
  refine ⟨fun text => ⟨?_, hr text⟩, hr.injective, fun escaped hs => ?_⟩
  · rw [escapeMarkup, String.toList_ofList]
    exact isSafe_escape text.toList
  · rw [unescapeMarkup, escapeMarkup, String.toList_ofList, escape_unescape hs,
      String.ofList_toList]

theorem escaping_safe_and_reversible_twice :
    escapeMarkup "&lt;\"" = "&amp;lt;&quot;" ∧ IsSafe "&amp;lt;&quot;".toList ∧
      unescapeMarkup "&amp;lt;&quot;" = "&lt;\"" ∧
      (∀ other, escapeMarkup other = "&amp;lt;&quot;" → other = "&lt;\"") ∧
      escapeMarkup (unescapeMarkup "&amp;lt;&quot;") = "&amp;lt;&quot;" := by
  obtain ⟨hall, hinj, hsafe⟩ := escaping_safe_and_reversible
  have he : escapeMarkup "&lt;\"" = "&amp;lt;&quot;" := by decide
  obtain ⟨hs, hr⟩ := hall "&lt;\""
  rw [he] at hs hr
  refine ⟨he, hs, hr, fun other ho => ?_, hsafe _ hs⟩
  apply hinj
  exact ho.trans he.symm

end RobotPuzzle.Text
