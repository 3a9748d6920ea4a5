import TaintTriage.Proofs.Outcome
import TaintTriage.Query.Shipped

/-!
What the shipped rules decide.  The rules use fields that may hold any value, and fail on some of
them; on nodes whose names and text are texts or absent each rule has an answer, which is stated
here without the order in which the rule looks at its fields.
-/

namespace TaintTriage

namespace Value

def IsOptionalText (v : Value) : Prop :=
  v = .null ∨ ∃ s, v = .str s

theorem IsOptionalText.requireSought_eq_ok {v : Value} (h : v.IsOptionalText) :
    v.requireSought = .ok () := by
  obtain rfl | ⟨s, rfl⟩ := h
  · rfl
  · rfl

end Value

/-- The names and the text of a node are texts or absent. -/
structure NodeRecord.HasTexts (n : Node) : Prop where
  callee : n.calleeName.IsOptionalText
  receiver : n.receiverName.IsOptionalText
  property : n.propertyName.IsOptionalText
  text : n.stringValue.IsOptionalText

namespace Rule

/-- A rule decides a property of a node: it answers, and says yes exactly if the property holds. -/
def Decides (rule : Rule) (n : Node) (p : Prop) : Prop :=
  ∃ holds, rule n = .ok holds ∧ (holds = true ↔ p)

variable {rule : Rule} {n : Node} {p q : Prop}

theorem Decides.answers (h : rule.Decides n p) : rule.Answers n :=
  h.imp fun _ hholds => hholds.1

theorem Decides.eq_ok_true_iff (h : rule.Decides n p) : rule n = .ok true ↔ p := by
  obtain ⟨holds, hanswer, hiff⟩ := h
  rw [hanswer, ← hiff]
  exact ⟨Except.ok.inj, congrArg _⟩

theorem Decides.congr (h : rule.Decides n p) (hpq : p ↔ q) : rule.Decides n q := by
  obtain ⟨holds, hanswer, hiff⟩ := h
  exact ⟨holds, hanswer, hiff.trans hpq⟩

theorem decides_ok (test : Node → Bool) (n : Node) :
    Decides (fun n => .ok (test n)) n (test n = true) :=
  ⟨test n, rfl, Iff.rfl⟩

theorem Decides.not (h : rule.Decides n p) :
    Decides (fun n => do return !(← rule n)) n (¬ p) := by
  obtain ⟨holds, hanswer, hiff⟩ := h
  refine ⟨!holds, by simp [hanswer], ?_⟩
  rw [← hiff, Bool.not_eq_true', Bool.not_eq_true]

/-- The question that is put only if a first one has been answered with no. -/
def orElse (rule other : Rule) : Rule := fun n => do
  if ← rule n then return true else other n

theorem Decides.orElse {other : Rule} (h : rule.Decides n p) (hother : other.Decides n q) :
    (rule.orElse other).Decides n (p ∨ q) := by
  obtain ⟨holds, hanswer, hiff⟩ := h
  obtain ⟨also, hother, hiff'⟩ := hother
  cases holds with
  | true => exact ⟨true, by simp [Rule.orElse, hanswer], by simp [← hiff]⟩
  | false => exact ⟨also, by simp [Rule.orElse, hanswer, hother], by simp [← hiff, ← hiff']⟩

end Rule

namespace Characteristic

variable {n : Node}

/-- The node is an argument of a callee with one of some names. -/
def IsArgumentOf (names : List String) (n : Node) : Prop :=
  n.isArgument = true ∧ ∃ name ∈ names, n.calleeName = .str name

/-- The node is an argument of a logger's method, or of a bare `print`. -/
def IsLogged (n : Node) : Prop :=
  n.isArgument = true ∧
    ((n.receiverName = .null ∧ n.calleeName = .str "print") ∨
      ∃ receiver callee, n.receiverName = .str receiver ∧ isLoggerReceiver receiver = true ∧
        n.calleeName = .str callee ∧ isLoggerMethod callee = true)

/-- The node is an argument of a cryptographic function or of one of a cryptographic module. -/
def IsEncrypted (n : Node) : Prop :=
  n.isArgument = true ∧ ∃ name, isCryptoName name = true ∧
    (n.calleeName = .str name ∨ n.receiverName = .str name)

/-- The node is the object itself. -/
def IsSelf (n : Node) : Prop :=
  n.kind = .str "receiver" ∧ (n.receiverName = .str "this" ∨ n.receiverName = .str "self")

theorem isOneOf_eq_ok {names : List String} {v : Value} (h : v.IsOptionalText) :
    isOneOf names v = .ok (names.any fun name => v.equals (.str name)) := by
  simp [isOneOf, h.requireSought_eq_ok]

theorem calleeIn_decides (names : List String) (h : n.calleeName.IsOptionalText) :
    (calleeIn names).Decides n (IsArgumentOf names n) := by
  cases hargument : n.isArgument with
  | false => exact ⟨false, by simp [calleeIn, hargument], by simp [IsArgumentOf, hargument]⟩
  | true =>
      refine ⟨names.any fun name => n.calleeName.equals (.str name), ?_, ?_⟩
      · simp only [calleeIn, hargument, ↓reduceIte, isOneOf_eq_ok h]
      · simp [IsArgumentOf, hargument]

theorem isReceiverStorage_decides (n : Node) : isReceiverStorage.Decides n (IsSelf n) :=
  (Rule.decides_ok _ n).congr (by simp [IsSelf])

theorem isLoggerArgument_decides (h : n.HasTexts) : isLoggerArgument.Decides n (IsLogged n) := by
  cases hargument : n.isArgument with
  | false => exact ⟨false, by simp [isLoggerArgument, hargument], by simp [IsLogged, hargument]⟩
  | true =>
      obtain hcallee | ⟨callee, hcallee⟩ := h.callee
      · exact ⟨false, by simp [isLoggerArgument, hcallee, Value.isTruthy],
          by simp [IsLogged, hcallee]⟩
      · by_cases hempty : callee = ""
        · subst hempty
          have hmethod : isLoggerMethod "" = false := by decide
          exact ⟨false, by simp [isLoggerArgument, hcallee, Value.isTruthy],
            by simp [IsLogged, hcallee, hmethod]⟩
        · obtain hreceiver | ⟨receiver, hreceiver⟩ := h.receiver
          · refine ⟨(Value.str callee).equals (.str "print"), ?_, ?_⟩
            · simp [isLoggerArgument, hargument, hcallee, hreceiver, Value.isTruthy, hempty]
            · simp [IsLogged, hargument, hcallee, hreceiver]
          · refine ⟨isLoggerReceiver receiver && isLoggerMethod callee, ?_, ?_⟩
            · cases hlogger : isLoggerReceiver receiver <;>
                simp [isLoggerArgument, hargument, hcallee, hreceiver, Value.isTruthy, hempty,
                  Value.text, hlogger]
            · simp [IsLogged, hargument, hcallee, hreceiver]

/-- The question of `isCryptoArgument` about one field. -/
def hasCryptoName (v : Value) : Except RuleFailure Bool :=
  if v.isTruthy then do return isCryptoName (← orFail v.text) else .ok false

theorem hasCryptoName_decides (field : Node → Value) (h : (field n).IsOptionalText) :
    Rule.Decides (fun n => hasCryptoName (field n)) n
      (∃ name, field n = .str name ∧ isCryptoName name = true) := by
  obtain hfield | ⟨name, hfield⟩ := h
  · exact ⟨false, by simp [hasCryptoName, hfield, Value.isTruthy], by simp [hfield]⟩
  · refine ⟨isCryptoName name, ?_, by simp [hfield]⟩
    by_cases hempty : name = ""
    · subst hempty
      simp only [hasCryptoName, hfield]
      rfl
    · simp [hasCryptoName, hfield, Value.isTruthy, hempty, Value.text]

theorem isCryptoArgument_eq (hargument : n.isArgument = true) :
    isCryptoArgument n = Rule.orElse (fun n => hasCryptoName n.calleeName)
      (fun n => hasCryptoName n.receiverName) n := by
  by_cases hcallee : n.calleeName.isTruthy = true
  · by_cases hreceiver : n.receiverName.isTruthy = true <;>
      simp [isCryptoArgument, Rule.orElse, hasCryptoName, hargument, hcallee, hreceiver]
  · by_cases hreceiver : n.receiverName.isTruthy = true <;>
      simp [isCryptoArgument, Rule.orElse, hasCryptoName, hargument, hcallee, hreceiver]

theorem isCryptoArgument_decides (h : n.HasTexts) :
    isCryptoArgument.Decides n (IsEncrypted n) := by
  cases hargument : n.isArgument with
  | false =>
      exact ⟨false, by simp [isCryptoArgument, hargument], by simp [IsEncrypted, hargument]⟩
  | true =>
      obtain ⟨holds, hanswer, hiff⟩ :=
        (hasCryptoName_decides (·.calleeName) h.callee).orElse
          (hasCryptoName_decides (·.receiverName) h.receiver)
      refine ⟨holds, (isCryptoArgument_eq hargument).trans hanswer, hiff.trans ?_⟩
      simp only [IsEncrypted, hargument, true_and]
      constructor
      · rintro (⟨name, hname, hcrypto⟩ | ⟨name, hname, hcrypto⟩)
        · exact ⟨name, hcrypto, Or.inl hname⟩
        · exact ⟨name, hcrypto, Or.inr hname⟩
      · rintro ⟨name, hcrypto, hname | hname⟩
        · exact Or.inl ⟨name, hname, hcrypto⟩
        · exact Or.inr ⟨name, hname, hcrypto⟩

end Characteristic

namespace Html

variable {n : Node}

/-- Something about the node suggests that it reaches markup. -/
def LooksLikeMarkup (n : Node) : Prop :=
  isLikelyExternalCallArgument n = true ∨ isHtmlConcatenation n = true ∨
    n.isHtmlConcatenationLeaf = true ∨
    (∃ s, n.stringValue = .str s ∧ hasTagStart s.toList = true) ∨
    (n.isArgument = true ∧ ∃ callee, n.calleeName = .str callee ∧
      ∃ word ∈ ["render", "html"], Text.hasWord word.toList (Text.fold callee) = true) ∨
    (n.isPropertyWrite = true ∧ ∃ property, n.propertyName = .str property ∧
      ∃ word ∈ ["html"], Text.hasWord word.toList (Text.fold property) = true)

theorem matchesHtmlTag_decides (h : n.stringValue.IsOptionalText) :
    Rule.Decides matchesHtmlTag n
      (∃ s, n.stringValue = .str s ∧ hasTagStart s.toList = true) := by
  obtain htext | ⟨s, htext⟩ := h
  · exact ⟨false, by simp [matchesHtmlTag, htext, Value.isTruthy], by simp [htext]⟩
  · refine ⟨hasTagStart s.toList, ?_, by simp [htext]⟩
    by_cases hempty : s = ""
    · subst hempty
      simp only [matchesHtmlTag, htext]
      rfl
    · simp [matchesHtmlTag, htext, Value.isTruthy, hempty, Value.text]

theorem orEmpty_str (s : String) : (Value.str s).orEmpty = .str s := by
  by_cases hempty : s = "" <;> simp [Value.orEmpty, Value.isTruthy, hempty]

theorem hasAnyWord_decides (words : List String) (hwords : "" ∉ words)
    (field : Node → Value) (h : (field n).IsOptionalText) :
    Rule.Decides (fun n => hasAnyWord words (field n)) n
      (∃ s, field n = .str s ∧
        ∃ word ∈ words, Text.hasWord word.toList (Text.fold s) = true) := by
  obtain hfield | ⟨s, hfield⟩ := h
  · have hnone : (words.any fun word => Text.hasWord word.toList (Text.fold "")) = false := by
      refine List.any_eq_false.mpr fun word hword => ?_
      have hne : word ≠ "" := fun hempty => hwords (hempty ▸ hword)
      simpa [Text.fold, Text.hasWord] using hne
    refine ⟨false, ?_, by simp [hfield]⟩
    simp [hasAnyWord, hfield, Value.orEmpty, Value.isTruthy, Value.text,
      -List.any_eq_false, hnone]
  · refine ⟨words.any fun word => Text.hasWord word.toList (Text.fold s), ?_, by simp [hfield]⟩
    simp [hasAnyWord, hfield, orEmpty_str, Value.text]

/-- A question that is put to nodes of one shape only. -/
theorem decides_guarded (test : Node → Bool) {rule : Rule} {p : Prop} (h : rule.Decides n p) :
    Rule.Decides (fun n => if test n then rule n else .ok false) n (test n = true ∧ p) := by
  cases htest : test n with
  | true => simpa [Rule.Decides, htest] using h
  | false => exact ⟨false, by simp [htest], by simp⟩

theorem isLikelyXssSink_eq : isLikelyXssSink = Rule.orElse
    (fun n => .ok (isLikelyExternalCallArgument n || isHtmlConcatenation n ||
      n.isHtmlConcatenationLeaf))
    (Rule.orElse matchesHtmlTag (Rule.orElse isRenderCallArgument isHtmlPropertyWrite)) := by
  funext n
  simp only [isLikelyXssSink, Rule.orElse, ok_bind]

theorem isLikelyXssSink_decides (h : n.HasTexts) :
    Rule.Decides isLikelyXssSink n (LooksLikeMarkup n) := by
  have hcall := decides_guarded (·.isArgument)
    (hasAnyWord_decides ["render", "html"] (by decide) (·.calleeName) h.callee)
  have hproperty := decides_guarded (·.isPropertyWrite)
    (hasAnyWord_decides ["html"] (by decide) (·.propertyName) h.property)
  have hshape := Rule.decides_ok (fun n => isLikelyExternalCallArgument n ||
    isHtmlConcatenation n || n.isHtmlConcatenationLeaf) n
  obtain ⟨holds, hanswer, hiff⟩ :=
    hshape.orElse ((matchesHtmlTag_decides h.text).orElse (hcall.orElse hproperty))
  refine ⟨holds, (congrFun isLikelyXssSink_eq n).trans hanswer, hiff.trans ?_⟩
  simp only [LooksLikeMarkup, Bool.or_eq_true, or_assoc]

end Html

end TaintTriage
