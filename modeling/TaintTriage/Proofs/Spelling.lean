import TaintTriage.Proofs.QueryIndependence
import TaintTriage.Proofs.SavedSettings
import TaintTriage.Text.Letters

/-!
The spellings of queries.  Settings and the registry of queries bring a spelling to the form of ids
by the full case mapping, under which one character may become several and characters of other
scripts become letters of ASCII.  None of this leads to an id: a spelling that is accepted is an id
but for capital letters and underscores.
-/

namespace TaintTriage

namespace Text

variable {c d : Char} {s before : List Char}

/-- The image of a run of the lower-case table begins at a code beyond ASCII, and is made of codes
of characters. -/
def ImageIsBeyond (run : Nat × Nat × Nat × Nat) : Prop :=
  0x80 ≤ run.2.2.2 ∧
    (run.2.2.2 + (run.2.1 - run.1) < 0xd800 ∨
      0xdfff < run.2.2.2 ∧ run.2.2.2 + (run.2.1 - run.1) < 0x110000)

instance (run : Nat × Nat × Nat × Nat) : Decidable (ImageIsBeyond run) :=
  inferInstanceAs (Decidable (_ ∧ _))

/-- The run of the Kelvin sign, which is a `k` in lower case. -/
def kelvinRun : Nat × Nat × Nat × Nat := (0x212a, 0x212a, 1, 0x6b)

/-- Only the Kelvin sign becomes a letter of ASCII without being one. -/
theorem lowerRuns_beyond :
    ∀ run ∈ lowerRuns, run.2.1 < 0x80 ∨ ImageIsBeyond run ∨ run = kelvinRun := by
  decide +kernel

theorem exists_run_of_mapByRuns {runs : List (Nat × Nat × Nat × Nat)}
    (h : mapByRuns runs c = some d) :
    ∃ run ∈ runs, run.1 ≤ c.toNat ∧ c.toNat ≤ run.2.1 ∧
      d = Char.ofNat (run.2.2.2 + (c.toNat - run.1)) := by
  obtain ⟨run, hfind, hd⟩ := Option.map_eq_some_iff.mp h
  have hrun := List.find?_some hfind
  simp only [Bool.and_eq_true, decide_eq_true_eq] at hrun
  exact ⟨run, List.mem_of_find?_eq_some hfind, hrun.1.1, hrun.1.2, hd.symm⟩

theorem beyond_or_k_of_mapByRuns (hc : 0x80 ≤ c.toNat) (h : mapByRuns lowerRuns c = some d) :
    0x80 ≤ d.toNat ∨ d = 'k' := by
  obtain ⟨run, hrun, hfirst, hlast, rfl⟩ := exists_run_of_mapByRuns h
  rcases lowerRuns_beyond run hrun with hascii | ⟨himage, hcodes⟩ | rfl
  · omega
  · have hvalid : (run.2.2.2 + (c.toNat - run.1)).isValidChar := by
      rcases hcodes with hlow | ⟨hhigh, hbound⟩
      · exact Or.inl (by omega)
      · exact Or.inr ⟨by omega, by omega⟩
    have hcode : (Char.ofNat (run.2.2.2 + (c.toNat - run.1))).toNat =
        run.2.2.2 + (c.toNat - run.1) := by
      rw [Char.ofNat, dif_pos hvalid]
      rfl
    exact Or.inl (by omega)
  · obtain hcode : c.toNat = 0x212a := Nat.le_antisymm hlast hfirst
    rw [hcode]
    exact Or.inr rfl

/-- The lower case of a character beyond ASCII has a character beyond ASCII in it, or is a `k`. -/
theorem exists_mem_lowerChar (hc : 0x80 ≤ c.toNat) :
    ∃ d ∈ lowerChar c, 0x80 ≤ d.toNat ∨ d = 'k' := by
  rw [lowerChar, if_neg (Nat.not_lt.mpr hc), mapCase]
  split
  · rename_i codes hcodes
    -- The only expansion is that of the dotted capital `i`, whose dot stays beyond ASCII.
    rw [lowerExpansions, List.lookup_cons] at hcodes
    split at hcodes
    · obtain rfl := Option.some.inj hcodes
      exact ⟨Char.ofNat 0x307, by simp, Or.inl (by decide)⟩
    · exact nomatch hcodes
  · refine ⟨_, List.mem_singleton_self _, ?_⟩
    cases hmapped : mapByRuns lowerRuns c with
    | none => exact Or.inl hc
    | some d => exact beyond_or_k_of_mapByRuns hc hmapped

/-- Within ASCII, lower case goes letter by letter. -/
theorem lowerAfter_of_ascii (h : ∀ c ∈ s, c.toNat < 0x80) :
    lowerAfter before s = s.map Char.toLower := by
  induction s generalizing before with
  | nil => rfl
  | cons c rest ih =>
      obtain ⟨hc, hrest⟩ := List.forall_mem_cons.mp h
      have hsigma : c ≠ 'Σ' := by
        rintro rfl
        exact absurd hc (by decide)
      have hlower : lowerChar c = [c.toLower] := if_pos hc
      rw [lowerAfter, if_neg hsigma, hlower, ih hrest]
      rfl

/-- A text whose lower case is in ASCII, and has no `k`, is in ASCII. -/
theorem ascii_of_lowerAfter (h : ∀ d ∈ lowerAfter before s, d.toNat < 0x80 ∧ d ≠ 'k') :
    ∀ c ∈ s, c.toNat < 0x80 := by
  induction s generalizing before with
  | nil => exact fun c hc => nomatch hc
  | cons c rest ih =>
      rw [lowerAfter, List.forall_mem_append] at h
      obtain ⟨hhead, hrest⟩ := h
      refine List.forall_mem_cons.mpr ⟨Nat.not_le.mp fun hc => ?_, ih hrest⟩
      split at hhead
      · obtain ⟨hfinal, -⟩ := hhead _ (List.mem_singleton_self _)
        split at hfinal <;> exact absurd hfinal (by decide)
      · obtain ⟨d, hd, hbeyond⟩ := exists_mem_lowerChar hc
        obtain ⟨hascii, hk⟩ := hhead d hd
        exact hbeyond.elim (Nat.not_le.mpr hascii) hk

theorem isHalf_of_ascii (hc : c.toNat < 0x80) : isHalf c = false := by
  have hfirst : ¬ firstHalf ≤ c.toNat := by
    rw [firstHalf]
    omega
  rw [isHalf, decide_eq_false hfirst, Bool.false_and]

end Text

namespace QueryKind

open Text

variable {spelling : String} {spellings : List String} {kind : QueryKind}

/-- A spelling with small letters for the capitals of ASCII, and hyphens for underscores. -/
def plainForm (spelling : String) : String :=
  String.ofList ((spelling.toList.map Char.toLower).map fun c => if c = '_' then '-' else c)

/-- A kind has the spellings whose normal form is its id. -/
theorem ofSpelling?_eq_some_iff :
    ofSpelling? spelling = some kind ↔ normalize spelling = kind.id := by
  constructor
  · intro h
    exact (id_eq_normalize h).symm
  · intro h
    rw [ofSpelling?, h]
    cases kind <;> rfl

theorem ofSpelling_eq_ok_iff :
    ofSpelling spelling = .ok kind ↔ ofSpelling? spelling = some kind := by
  rw [ofSpelling]
  cases ofSpelling? spelling with
  | none => simp
  | some found => simp

/-- The ids are in ASCII, and no id has a `k`. -/
theorem ascii_id (kind : QueryKind) : ∀ d ∈ kind.id.toList, d.toNat < 0x80 ∧ d ≠ 'k' := by
  have hall : (kind.id.toList.all fun d => decide (d.toNat < 0x80 ∧ d ≠ 'k')) = true := by
    cases kind <;> decide
  exact fun d hd => of_decide_eq_true (List.all_eq_true.mp hall d hd)

/-- Within ASCII, the normal form is the plain one. -/
theorem normalize_eq_plainForm (h : ∀ c ∈ spelling.toList, c.toNat < 0x80) :
    normalize spelling = plainForm spelling := by
  rw [normalize, toLower, String.toList_ofList, lowerAfter_of_ascii h, plainForm]

/-- A character of a spelling whose normal form is an id is in ASCII. -/
theorem ascii_of_normalize (h : normalize spelling = kind.id) :
    ∀ c ∈ spelling.toList, c.toNat < 0x80 := by
  refine ascii_of_lowerAfter fun d (hd : d ∈ lowerAfter [] spelling.toList) => ?_
  by_cases hmark : d = '_'
  · subst hmark
    decide
  · apply ascii_id kind
    rw [← h, normalize, toLower, String.toList_ofList, String.toList_ofList]
    exact List.mem_map.mpr ⟨d, hd, if_neg hmark⟩

theorem ascii_of_plainForm (h : plainForm spelling = kind.id) :
    ∀ c ∈ spelling.toList, c.toNat < 0x80 := by
  intro c hc
  have hmem : (if c.toLower = '_' then '-' else c.toLower) ∈ kind.id.toList := by
    rw [← h, plainForm, String.toList_ofList, List.map_map]
    exact List.mem_map.mpr ⟨c, hc, rfl⟩
  have hascii : c.toLower.toNat < 0x80 := by
    by_cases hmark : c.toLower = '_'
    · rw [hmark]
      decide
    · rw [if_neg hmark] at hmem
      exact (ascii_id kind _ hmem).1
  rw [toNat_toLower] at hascii
  split at hascii <;> omega

/-- The full case mapping accepts nothing that small letters for capitals do not: the spellings of a
kind are those whose plain form is its id. -/
theorem ofSpelling?_eq_some_iff_plainForm :
    ofSpelling? spelling = some kind ↔ plainForm spelling = kind.id := by
  rw [ofSpelling?_eq_some_iff]
  constructor
  · intro h
    rw [← normalize_eq_plainForm (ascii_of_normalize h), h]
  · intro h
    rw [normalize_eq_plainForm (ascii_of_plainForm h), h]

example : ofSpelling? "Shell_Command-INJECTION" = some .shellCommandInjection ∧
    ofSpelling? "sql-\u0130njection" = none ∧ ofSpelling? "x\u017f\u017f" = none := by
  decide +kernel

/-- An accepted spelling has no halves of characters in it. -/
theorem any_isHalf_of_ofSpelling? (h : ofSpelling? spelling = some kind) :
    spelling.toList.any isHalf = false := by
  refine List.any_eq_false.mpr fun c hc => ?_
  rw [isHalf_of_ascii (ascii_of_normalize (ofSpelling?_eq_some_iff.mp h) c hc)]
  exact Bool.false_ne_true

end QueryKind

namespace Settings

open Value

variable {spellings : List String} {queries : List QueryKind} {a : ClassificationSettings}

/-- A list of texts is read as it is, if it has no halves of characters in it. -/
theorem readTexts_map_str_eq_ok_iff {items others : List String} {position : Nat} :
    readTexts position (items.map .str) = .ok others ↔
      items = others ∧ ∀ item ∈ items, item.toList.any Text.isHalf = false := by
  constructor
  · intro h
    suffices hhalves : ∀ item ∈ items, item.toList.any Text.isHalf = false by
      rw [readTexts_map_str hhalves] at h
      exact ⟨Except.ok.inj h, hhalves⟩
    induction items generalizing position others with
    | nil => exact fun item hitem => absurd hitem List.not_mem_nil
    | cons item rest ih =>
        rw [List.map_cons, readTexts] at h
        obtain ⟨⟨first, later⟩, hboth, -⟩ := map_eq_ok_iff.mp h
        obtain ⟨hfirst, hlater⟩ := Reading.both_eq_ok_iff.mp hboth
        refine List.forall_mem_cons.mpr ⟨?_, ih hlater⟩
        have htext : readText (.str item) = .ok first := mapError_eq_ok_iff.mp hfirst
        rw [readText, textOf?] at htext
        cases hhalf : item.toList.any Text.isHalf with
        | false => rfl
        | true =>
            rw [hhalf] at htext
            cases htext
  · rintro ⟨rfl, hhalves⟩
    exact readTexts_map_str hhalves position

/-- Queries are read from their spellings exactly if the registry knows each of these. -/
theorem readQueries_eq_ok_iff :
    readQueries spellings = .ok queries ↔ spellings.mapM QueryKind.ofSpelling = .ok queries := by
  rw [readQueries_eq_mapM]
  induction spellings generalizing queries with
  | nil => simp
  | cons spelling rest ih =>
      simp only [List.mapM_cons, bind_eq_ok_iff, readQuery_eq_ok_iff,
        QueryKind.ofSpelling_eq_ok_iff, ih, pure_eq_ok, Except.ok.injEq]

theorem readTextList_texts_eq_ok_iff {others : List String} :
    readTextList (.texts spellings) = .ok others ↔
      spellings = others ∧ ∀ spelling ∈ spellings, spelling.toList.any Text.isHalf = false :=
  readTexts_map_str_eq_ok_iff

theorem readField_only_eq_ok_iff {α : Type} {name : String} {usual value : α} {v : Value}
    {read : Value → Reading α} :
    readField (only name (some v)) name usual read = .ok value ↔ read v = .ok value := by
  rw [readField, field?_only_self]
  exact mapError_eq_ok_iff

/-- Settings that give only the queries are accepted exactly if the registry knows every spelling,
and hold the kinds that it finds. -/
theorem readClassification_queries_eq_ok_iff :
    readClassification (only "queries" (some (.texts spellings))) = .ok a ↔
      ∃ queries, spellings.mapM QueryKind.ofSpelling = .ok queries ∧ a = { queries } := by
  rw [readClassification_eq_ok_iff, readField_only_eq_ok_iff, readField_only_of_ne (by decide),
    readField_only_of_ne (by decide)]
  constructor
  · rintro ⟨hqueries, ⟨workers, hworkers, hsame⟩, hlabels⟩
    obtain ⟨others, htexts, hread⟩ := bind_eq_ok_iff.mp hqueries
    obtain rfl := (readTextList_texts_eq_ok_iff.mp htexts).1
    refine ⟨a.queries, readQueries_eq_ok_iff.mp hread, ?_⟩
    obtain rfl := Except.ok.inj hworkers
    cases a
    cases hsame
    cases hlabels
    rfl
  · rintro ⟨queries, hqueries, rfl⟩
    refine ⟨bind_eq_ok_iff.mpr ⟨spellings, ?_, ?_⟩, ⟨none, rfl, rfl⟩, rfl⟩
    · refine readTextList_texts_eq_ok_iff.mpr ⟨rfl, fun spelling hspelling => ?_⟩
      obtain ⟨kind, -, hkind⟩ := exists_mem_of_mapM hqueries hspelling
      exact QueryKind.any_isHalf_of_ofSpelling? (QueryKind.ofSpelling_eq_ok_iff.mp hkind)
    · exact readQueries_eq_ok_iff.mpr hqueries

end Settings

end TaintTriage
