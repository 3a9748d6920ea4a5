import Mathlib.Computability.Language
import TaintTriage.Proofs.FieldDemand

/-!
Tags inside texts, told in three ways.  The functions that look for a tag are compared with the
patterns that they stand for, whose repetitions overlap, and with the positions of the two brackets:
whatever a pattern does with the characters between them, it comes to the same question about them.
-/

namespace TaintTriage

open Computability

namespace Text

/-- A letter in any case, or what counts as one where case does not matter: the dotted and the
dotless `i`, the long `s` and the Kelvin sign. -/
def IsCaselessLetter (c : Char) : Prop :=
  ('a' ≤ c ∧ c ≤ 'z') ∨ ('A' ≤ c ∧ c ≤ 'Z') ∨ c ∈ ['\u0130', '\u0131', '\u017f', '\u212a']

instance (c : Char) : Decidable (IsCaselessLetter c) :=
  inferInstanceAs (Decidable (_ ∨ _ ∨ _))

theorem isLetter_iff {c : Char} : isLetter c = true ↔ IsCaselessLetter c := by
  by_cases hvariant : c ∈ ['\u0130', '\u0131', '\u017f', '\u212a']
  · simp only [List.mem_cons, List.not_mem_nil, or_false] at hvariant
    rcases hvariant with rfl | rfl | rfl | rfl <;> decide
  · have hfold : foldLetter c = c.toLower := by
      simp only [List.mem_cons, List.not_mem_nil, or_false, not_or] at hvariant
      simp [foldLetter, hvariant]
    have hlower : ('a' ≤ c.toLower ∧ c.toLower ≤ 'z') ↔
        (97 ≤ c.toLower.toNat ∧ c.toLower.toNat ≤ 122) := Iff.rfl
    have hsmall : ('a' ≤ c ∧ c ≤ 'z') ↔ (97 ≤ c.toNat ∧ c.toNat ≤ 122) := Iff.rfl
    have hcapital : ('A' ≤ c ∧ c ≤ 'Z') ↔ (65 ≤ c.toNat ∧ c.toNat ≤ 90) := Iff.rfl
    rw [isLetter, hfold, Bool.and_eq_true, decide_eq_true_eq, decide_eq_true_eq, hlower,
      toNat_toLower, IsCaselessLetter, hsmall, or_iff_left hvariant]
    simp only [hcapital]
    split <;> omega

end Text

namespace Html

open Text

variable {s t body : List Char} {c : Char}

/-- One character of a class. -/
def oneOf (p : Char → Prop) : Language Char :=
  { w | ∃ c, p c ∧ w = [c] }

/-- No bracket. -/
def IsPlain (c : Char) : Prop := c ≠ '<' ∧ c ≠ '>'

/-- A complete tag: a bracket, perhaps a slash, a letter, letters and digits, anything but brackets,
and a bracket. -/
def tagPattern : Language Char :=
  oneOf (· = '<') * (1 + oneOf (· = '/')) * oneOf IsCaselessLetter *
    (oneOf fun c => IsCaselessLetter c ∨ '0' ≤ c ∧ c ≤ '9')∗ * (oneOf IsPlain)∗ * oneOf (· = '>')

/-- What a tag begins with: a bracket and a letter or a mark. -/
def tagStartPattern : Language Char :=
  oneOf (· = '<') * oneOf fun c => IsCaselessLetter c ∨ c = '!' ∨ c = '/'

theorem mem_kstar_oneOf_iff {p : Char → Prop} : s ∈ (oneOf p)∗ ↔ ∀ c ∈ s, p c := by
  rw [Language.mem_kstar]
  constructor
  · rintro ⟨words, rfl, hwords⟩ c hc
    obtain ⟨word, hword, hmem⟩ := List.mem_flatten.mp hc
    obtain ⟨d, hd, rfl⟩ := hwords word hword
    rwa [List.mem_singleton.mp hmem]
  · intro h
    refine ⟨s.map fun c => [c], (List.flatMap_singleton' s).symm, ?_⟩
    intro word hword
    obtain ⟨c, hc, rfl⟩ := List.mem_map.mp hword
    exact ⟨c, h c hc, rfl⟩

theorem isPlain_of_letter (h : IsCaselessLetter c) : IsPlain c :=
  ⟨fun heq => absurd (heq ▸ h) (by decide), fun heq => absurd (heq ▸ h) (by decide)⟩

theorem isPlain_of_digit (h : '0' ≤ c ∧ c ≤ '9') : IsPlain c :=
  ⟨fun heq => absurd (heq ▸ h) (by decide), fun heq => absurd (heq ▸ h) (by decide)⟩

/-- A slash or nothing. -/
def IsSlash (slash : List Char) : Prop := slash = [] ∨ slash = ['/']

theorem IsSlash.isPlain (h : IsSlash s) : ∀ c ∈ s, IsPlain c := by
  rcases h with rfl | rfl
  · exact fun c hc => absurd hc List.not_mem_nil
  · exact fun c hc => List.mem_singleton.mp hc ▸ ⟨by decide, by decide⟩

/-- What letters and digits begin, anything but brackets may go on with, so that the first of the
two repetitions may be left out. -/
theorem mem_tagPattern_iff :
    body ∈ tagPattern ↔ ∃ slash c inner, IsSlash slash ∧ IsCaselessLetter c ∧
      (∀ d ∈ inner, IsPlain d) ∧ body = '<' :: (slash ++ c :: (inner ++ ['>'])) := by
  simp only [tagPattern, Language.mem_mul, mem_kstar_oneOf_iff, Language.mem_add, Language.mem_one]
  constructor
  · rintro ⟨_, ⟨_, ⟨_, ⟨_, ⟨_, ⟨_, rfl, rfl⟩, slash, hslash, rfl⟩, _, ⟨c, hc, rfl⟩, rfl⟩, word,
      hword, rfl⟩, others, hothers, rfl⟩, _, ⟨_, rfl, rfl⟩, rfl⟩
    refine ⟨slash, c, word ++ others, ?_, hc, ?_, by simp⟩
    · rcases hslash with rfl | ⟨_, rfl, rfl⟩
      · exact Or.inl rfl
      · exact Or.inr rfl
    · intro d hd
      rcases List.mem_append.mp hd with hd | hd
      · exact (hword d hd).elim isPlain_of_letter isPlain_of_digit
      · exact hothers d hd
  · rintro ⟨slash, c, inner, hslash, hc, hinner, rfl⟩
    refine ⟨_, ⟨_, ⟨_, ⟨_, ⟨['<'], ⟨'<', rfl, rfl⟩, slash, ?_, rfl⟩, [c], ⟨c, hc, rfl⟩, rfl⟩, [],
      by simp, rfl⟩, inner, hinner, rfl⟩, ['>'], ⟨'>', rfl, rfl⟩, by simp⟩
    rcases hslash with rfl | rfl
    · exact Or.inl rfl
    · exact Or.inr ⟨'/', rfl, rfl⟩

theorem mem_tagStartPattern_iff :
    body ∈ tagStartPattern ↔
      ∃ c, (IsCaselessLetter c ∨ c = '!' ∨ c = '/') ∧ body = ['<', c] := by
  rw [tagStartPattern, Language.mem_mul]
  constructor
  · rintro ⟨_, ⟨_, rfl, rfl⟩, _, ⟨c, hc, rfl⟩, rfl⟩
    exact ⟨c, hc, rfl⟩
  · rintro ⟨c, hc, rfl⟩
    exact ⟨['<'], ⟨'<', rfl, rfl⟩, [c], ⟨c, hc, rfl⟩, rfl⟩

/-- A search that tries every opening bracket finds one behind which its test holds. -/
theorem search_iff {search test : List Char → Bool} (hnil : search [] = false)
    (hcons : ∀ c rest, search (c :: rest) = ((c == '<' && test rest) || search rest)) :
    search s = true ↔ ∃ before rest, s = before ++ '<' :: rest ∧ test rest = true := by
  induction s with
  | nil => simp [hnil]
  | cons c rest ih =>
      rw [hcons, Bool.or_eq_true, Bool.and_eq_true, beq_iff_eq, ih]
      constructor
      · rintro (⟨rfl, htest⟩ | ⟨before, after, rfl, htest⟩)
        · exact ⟨[], rest, rfl, htest⟩
        · exact ⟨c :: before, after, rfl, htest⟩
      · rintro ⟨before, after, heq, htest⟩
        cases before with
        | nil =>
            obtain ⟨rfl, rfl⟩ := List.cons.inj heq
            exact Or.inl ⟨rfl, htest⟩
        | cons head before => exact Or.inr ⟨before, after, (List.cons.inj heq).2, htest⟩

theorem hasTag_iff :
    hasTag s = true ↔ ∃ before rest, s = before ++ '<' :: rest ∧ isTagBody rest = true :=
  search_iff rfl fun _ _ => rfl

theorem hasTagStart_iff :
    hasTagStart s = true ↔ ∃ before rest, s = before ++ '<' :: rest ∧ beginsMarkup rest = true :=
  search_iff rfl fun _ _ => rfl

theorem closes_cons_of_isPlain (h : IsPlain c) : closes (c :: t) = closes t := by
  rw [closes, if_neg h.2, if_neg h.1]

theorem closes_append_of_isPlain (h : ∀ c ∈ s, IsPlain c) : closes (s ++ t) = closes t := by
  induction s with
  | nil => rfl
  | cons c rest ih =>
      rw [List.cons_append, closes_cons_of_isPlain (h c List.mem_cons_self),
        ih fun d hd => h d (List.mem_cons_of_mem c hd)]

theorem closes_iff :
    closes t = true ↔ ∃ inner after, (∀ c ∈ inner, IsPlain c) ∧ t = inner ++ '>' :: after := by
  constructor
  · intro h
    induction t with
    | nil => exact nomatch h
    | cons c rest ih =>
        by_cases hclosing : c = '>'
        · exact ⟨[], rest, fun _ hd => absurd hd List.not_mem_nil, by rw [hclosing]; rfl⟩
        · have hopening : c ≠ '<' := by
            rintro rfl
            exact nomatch h
          have hplain : IsPlain c := ⟨hopening, hclosing⟩
          obtain ⟨inner, after, hinner, rfl⟩ := ih (closes_cons_of_isPlain hplain ▸ h)
          exact ⟨c :: inner, after, List.forall_mem_cons.mpr ⟨hplain, hinner⟩, rfl⟩
  · rintro ⟨inner, after, hinner, rfl⟩
    rw [closes_append_of_isPlain hinner]
    rfl

theorem isTagBody_cons_of_ne {rest : List Char} (h : c ≠ '/') :
    isTagBody (c :: rest) = (isLetter c && closes rest) := by
  rw [isTagBody, startsName]
  intro others heq
  exact h (List.cons.inj heq).1

/-- A letter is no slash, so that a slash is passed over whenever there is one. -/
theorem isTagBody_iff :
    isTagBody t = true ↔ ∃ slash c rest, IsSlash slash ∧ IsCaselessLetter c ∧
      t = slash ++ c :: rest ∧ closes rest = true := by
  constructor
  · intro h
    cases t with
    | nil => exact nomatch h
    | cons c rest =>
        by_cases hslash : c = '/'
        · subst hslash
          cases rest with
          | nil => exact nomatch h
          | cons d rest =>
              obtain ⟨hletter, hcloses⟩ := Bool.and_eq_true_iff.mp h
              exact ⟨['/'], d, rest, Or.inr rfl, isLetter_iff.mp hletter, rfl, hcloses⟩
        · rw [isTagBody_cons_of_ne hslash, Bool.and_eq_true] at h
          exact ⟨[], c, rest, Or.inl rfl, isLetter_iff.mp h.1, rfl, h.2⟩
  · rintro ⟨_, c, rest, rfl | rfl, hletter, rfl, hcloses⟩
    · have hslash : c ≠ '/' := by
        rintro rfl
        exact absurd hletter (by decide)
      rw [List.nil_append, isTagBody_cons_of_ne hslash, isLetter_iff.mpr hletter, hcloses]
      rfl
    · exact Bool.and_eq_true_iff.mpr ⟨isLetter_iff.mpr hletter, hcloses⟩

theorem hasTag_iff_exists_body : hasTag s = true ↔ ∃ body ∈ tagPattern, body <:+: s := by
  rw [hasTag_iff]
  constructor
  · rintro ⟨before, _, rfl, hbody⟩
    obtain ⟨slash, c, _, hslash, hletter, rfl, hcloses⟩ := isTagBody_iff.mp hbody
    obtain ⟨inner, after, hinner, rfl⟩ := closes_iff.mp hcloses
    refine ⟨_, mem_tagPattern_iff.mpr ⟨slash, c, inner, hslash, hletter, hinner, rfl⟩, before,
      after, by simp⟩
  · rintro ⟨body, hbody, before, after, rfl⟩
    obtain ⟨slash, c, inner, hslash, hletter, hinner, rfl⟩ := mem_tagPattern_iff.mp hbody
    refine ⟨before, slash ++ c :: (inner ++ '>' :: after), by simp, isTagBody_iff.mpr ?_⟩
    exact ⟨slash, c, _, hslash, hletter, rfl, closes_iff.mpr ⟨inner, after, hinner, rfl⟩⟩

theorem hasTagStart_iff_exists_body :
    hasTagStart s = true ↔ ∃ body ∈ tagStartPattern, body <:+: s := by
  have hbegins (c : Char) : (isLetter c || c == '!' || c == '/') = true ↔
      IsCaselessLetter c ∨ c = '!' ∨ c = '/' := by
    rw [Bool.or_eq_true, Bool.or_eq_true, isLetter_iff, beq_iff_eq, beq_iff_eq, or_assoc]
  rw [hasTagStart_iff]
  constructor
  · rintro ⟨before, rest, rfl, hbody⟩
    cases rest with
    | nil => exact nomatch hbody
    | cons c after =>
        exact ⟨_, mem_tagStartPattern_iff.mpr ⟨c, (hbegins c).mp hbody, rfl⟩, before, after,
          by simp⟩
  · rintro ⟨body, hbody, before, after, rfl⟩
    obtain ⟨c, hc, rfl⟩ := mem_tagStartPattern_iff.mp hbody
    exact ⟨before, c :: after, by simp, (hbegins c).mpr hc⟩

/-- What stands behind an opening bracket begins a name, perhaps behind a slash. -/
def BeginsName (t : List Char) : Prop :=
  ∃ slash c rest, IsSlash slash ∧ IsCaselessLetter c ∧ t = slash ++ c :: rest

/-- A tag stands between two positions of a text: there are brackets at the positions and none
between them, and a name begins behind the first one. -/
structure IsTagBetween (s : List Char) (i j : Nat) : Prop where
  lt : i < j
  opening : s[i]? = some '<'
  closing : s[j]? = some '>'
  plain : ∀ k c, i < k → k < j → s[k]? = some c → IsPlain c
  named : BeginsName (s.drop (i + 1))

theorem isTagBody_iff_beginsName : isTagBody t = true ↔ BeginsName t ∧ closes t = true := by
  rw [isTagBody_iff]
  constructor
  · rintro ⟨slash, c, rest, hslash, hletter, rfl, hcloses⟩
    refine ⟨⟨slash, c, rest, hslash, hletter, rfl⟩, ?_⟩
    rwa [closes_append_of_isPlain hslash.isPlain,
      closes_cons_of_isPlain (isPlain_of_letter hletter)]
  · rintro ⟨⟨slash, c, rest, hslash, hletter, rfl⟩, hcloses⟩
    refine ⟨slash, c, rest, hslash, hletter, rfl, ?_⟩
    rwa [closes_append_of_isPlain hslash.isPlain,
      closes_cons_of_isPlain (isPlain_of_letter hletter)]
      at hcloses

theorem closes_iff_position :
    closes t = true ↔
      ∃ m : Nat, t[m]? = some '>' ∧ ∀ (k : Nat) (c : Char), k < m → t[k]? = some c → IsPlain c := by
  rw [closes_iff]
  constructor
  · rintro ⟨inner, after, hinner, rfl⟩
    refine ⟨inner.length, by simp, fun k c hk hc => hinner c ?_⟩
    rw [List.getElem?_append_left hk] at hc
    exact List.mem_of_getElem? hc
  · rintro ⟨m, hm, hbefore⟩
    obtain ⟨hlt, hclosing⟩ := List.getElem?_eq_some_iff.mp hm
    refine ⟨t.take m, t.drop (m + 1), fun c hc => ?_, ?_⟩
    · obtain ⟨k, hk⟩ := List.mem_iff_getElem?.mp hc
      rw [List.getElem?_take] at hk
      split at hk
      next hkm => exact hbefore k c hkm hk
      next => exact nomatch hk
    · rw [← hclosing, List.getElem_cons_drop, List.take_append_drop]

theorem hasTag_iff_drop :
    hasTag s = true ↔ ∃ i : Nat, s[i]? = some '<' ∧ isTagBody (s.drop (i + 1)) = true := by
  rw [hasTag_iff]
  constructor
  · rintro ⟨before, rest, rfl, hbody⟩
    exact ⟨before.length, by simp, by simpa using hbody⟩
  · rintro ⟨i, hi, hbody⟩
    obtain ⟨hlt, hopening⟩ := List.getElem?_eq_some_iff.mp hi
    refine ⟨s.take i, s.drop (i + 1), ?_, hbody⟩
    rw [← hopening, List.getElem_cons_drop, List.take_append_drop]

/-- The two brackets of a tag are as far from each other as the second one is behind the first. -/
theorem hasTag_iff_position : hasTag s = true ↔ ∃ i j, IsTagBetween s i j := by
  simp only [hasTag_iff_drop, isTagBody_iff_beginsName, closes_iff_position, List.getElem?_drop]
  constructor
  · rintro ⟨i, hopening, hnamed, m, hclosing, hplain⟩
    refine ⟨i, i + 1 + m, ⟨by omega, hopening, hclosing, fun k c hik hkj hc => ?_, hnamed⟩⟩
    obtain ⟨k, rfl⟩ := Nat.exists_eq_add_of_lt hik
    exact hplain k c (by omega) (by rwa [Nat.add_right_comm])
  · rintro ⟨i, j, h⟩
    obtain ⟨m, rfl⟩ := Nat.exists_eq_add_of_lt h.lt
    refine ⟨i, h.opening, h.named, m, by rw [Nat.add_right_comm]; exact h.closing,
      fun k c hk hc => h.plain (i + 1 + k) c (by omega) (by omega) hc⟩

/-- What begins a name begins markup. -/
theorem hasTagStart_of_hasTag (h : hasTag s = true) : hasTagStart s = true := by
  obtain ⟨before, _, rfl, hbody⟩ := hasTag_iff.mp h
  obtain ⟨slash, c, rest, hslash, hletter, rfl, -⟩ := isTagBody_iff.mp hbody
  refine hasTagStart_iff.mpr ⟨before, _, rfl, ?_⟩
  rcases hslash with rfl | rfl
  · simp [beginsMarkup, isLetter_iff.mpr hletter]
  · rfl

theorem isHtmlConcatenation_iff {n : Node} :
    isHtmlConcatenation n = true ↔
      ∃ part ∈ n.concatenationParts, hasTag part.toList = true :=
  List.any_eq_true

/-- The search for a tag finds one exactly if some part of the text has the pattern of a tag, which
is to say that there are two brackets in it with a name behind the first one and no bracket between
them; and then the search for what begins markup, which looks for its own pattern, finds something
too.  So a node is put together with markup exactly if one of its texts has such brackets, and a
node whose text is one that has them matches as well. -/
theorem hasTag_iff_brackets :
    (∀ s : List Char,
      (hasTag s = true ↔ ∃ body ∈ tagPattern, body <:+: s) ∧
      (hasTag s = true ↔ ∃ i j, IsTagBetween s i j) ∧
      (hasTagStart s = true ↔ ∃ body ∈ tagStartPattern, body <:+: s) ∧
      (hasTag s = true → hasTagStart s = true)) ∧
    ∀ n : Node,
      (isHtmlConcatenation n = true ↔
        ∃ part ∈ n.concatenationParts, ∃ i j, IsTagBetween part.toList i j) ∧
      ∀ part : String, (∃ i j, IsTagBetween part.toList i j) → n.stringValue = .str part →
        matchesHtmlTag n = .ok true := by
  refine ⟨fun s => ⟨hasTag_iff_exists_body, hasTag_iff_position, hasTagStart_iff_exists_body,
    hasTagStart_of_hasTag⟩, fun n => ⟨?_, fun part htag hvalue => ?_⟩⟩
  · simp only [isHtmlConcatenation_iff, hasTag_iff_position]
  · have hstart := hasTagStart_of_hasTag (hasTag_iff_position.mpr htag)
    exact matchesHtmlTag_eq_ok_true_iff.mpr ⟨part, hvalue, hstart⟩

/-- A text in which a bracket is open when a closing tag begins, with a dotted capital and a line
break in the tag. -/
def brokenTag : String := "1 < 2 <</\u0130\nx='1'> 3 <"

/-- The tag runs from the third opening bracket to the only closing one, and the text matches both
as a part of a concatenation and as the text of a node. -/
theorem hasTag_iff_brackets_brokenTag :
    (∃ i j, IsTagBetween brokenTag.toList i j) ∧
    ∃ n : Node, n.stringValue = .str brokenTag ∧ n.concatenationParts = ["", brokenTag] ∧
      isHtmlConcatenation n = true ∧ matchesHtmlTag n = .ok true := by
  obtain ⟨htexts, hnodes⟩ := hasTag_iff_brackets
  have htag : ∃ i j, IsTagBetween brokenTag.toList i j :=
    (htexts brokenTag.toList).2.1.mp (by decide)
  let n : Node := { NodeRecord.bare "a" "argument" with
    stringValue := .str brokenTag, concatenationParts := ["", brokenTag] }
  obtain ⟨hconcatenation, hmatches⟩ := hnodes n
  exact ⟨htag, n, rfl, rfl, hconcatenation.mpr ⟨brokenTag, by simp [n], htag⟩,
    hmatches brokenTag htag rfl⟩

end Html

end TaintTriage
