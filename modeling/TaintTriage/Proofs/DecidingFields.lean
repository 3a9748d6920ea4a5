import TaintTriage.Proofs.ShippedQuery

/-!
The fields that decide.  No shipped rule looks at the id of a node, at the position of an argument
or at the place of the code; so nodes that differ there only are judged alike, down to the failure
if there is one.  The source axis looks at the source classes and at nothing else, the sink axis at
everything but those.
-/

namespace TaintTriage

open Characteristic

namespace NodeRecord

/-- A node without its id, the position of the argument and the place in the code. -/
def withoutPlace (n : Node) : Node :=
  { n with
    id := ""
    argumentIndex := .null
    filePath := .other .null
    line := 0
    enclosingFunction := .null }

/-- A node without these and without its source classes. -/
def withoutPlaceAndSources (n : Node) : Node :=
  { n.withoutPlace with knownSources := .empty }

end NodeRecord

/-- A function of nodes gives the same for a node and for a view of it, which leaves something
out. -/
def Ignores {α : Type} (f : Node → α) (view : Node → Node) : Prop :=
  ∀ n, f (view n) = f n

section Views

variable {α : Type} {f : Node → α} {n m : Node}

theorem Ignores.eq_of_view_eq {view : Node → Node} (hf : Ignores f view) (h : view n = view m) :
    f n = f m := by
  rw [← hf n, ← hf m, h]

/-- What ignores the source classes too ignores less. -/
theorem Ignores.place (hf : Ignores f NodeRecord.withoutPlaceAndSources) :
    Ignores f NodeRecord.withoutPlace := by
  intro n
  have hview : n.withoutPlace.withoutPlaceAndSources = n.withoutPlaceAndSources := rfl
  rw [← hf n.withoutPlace, hview, hf n]

end Views

namespace Characteristic

theorem applicable_ignores {view : Node → Node} {characteristics : List Characteristic}
    (h : ∀ c ∈ characteristics, Ignores c.rule view) :
    Ignores (fun n => applicable n characteristics) view := by
  intro n
  induction characteristics with
  | nil => rfl
  | cons c rest ih =>
      have hrest := ih fun d hd => h d (List.mem_cons_of_mem c hd)
      dsimp only at hrest ⊢
      rw [applicable_cons, applicable_cons, h c List.mem_cons_self n, hrest]

theorem knownSinkOfClass_ignores (type : EndpointType) (sinkClass : String) :
    Ignores (knownSinkOfClass type sinkClass).rule NodeRecord.withoutPlaceAndSources :=
  fun _ => rfl

end Characteristic

theorem Ground.rule_ignores (g : Ground) : Ignores g.rule NodeRecord.withoutPlaceAndSources := by
  intro n
  cases g <;> rfl

namespace Configuration

variable {kind : QueryKind} {n m : Node}

theorem rule_ignores_of_mem_ofKind {c : Characteristic}
    (h : c ∈ (ofKind kind).characteristics) :
    Ignores c.rule NodeRecord.withoutPlaceAndSources := by
  rw [Ground.characteristics_ofKind, List.mem_append, List.mem_map, List.mem_map] at h
  rcases h with ⟨k, -, rfl⟩ | ⟨g, -, rfl⟩
  · exact knownSinkOfClass_ignores k.sinkType k.id
  · exact g.rule_ignores

theorem shipped_rule_ignores (c : Characteristic) (h : c ∈ Characteristic.shipped) :
    Ignores c.rule NodeRecord.withoutPlaceAndSources :=
  rule_ignores_of_mem_ofKind (List.mem_append_left (ofKind .xss).refinements h)

/-- The sink axis of a shipped query looks neither at the place nor at the source classes. -/
theorem sameSinkAnswers_ofKind (h : n.withoutPlaceAndSources = m.withoutPlaceAndSources) :
    SameSinkAnswers (ofKind kind) n (ofKind kind) m :=
  SameSinkAnswers.of_applicable rfl
    ((applicable_ignores fun _ hc => rule_ignores_of_mem_ofKind hc).eq_of_view_eq h)

theorem exists_knownSource_ofKind (kind : QueryKind) :
    ∃ classes, (ofKind kind).knownSource = knownSourceOf classes := by
  cases kind <;> exact ⟨_, rfl⟩

theorem effectiveSource_ofKind (kind : QueryKind) : (ofKind kind).effectiveSource = none := by
  cases kind <;> rfl

/-- The source axis of a shipped query looks at the source classes alone. -/
theorem sourceStatus_ofKind_congr (h : n.knownSources = m.knownSources) :
    (ofKind kind).sourceStatus n = (ofKind kind).sourceStatus m := by
  obtain ⟨classes, hclasses⟩ := exists_knownSource_ofKind kind
  have hknown : (ofKind kind).isKnownSource n = (ofKind kind).isKnownSource m := by
    rw [isKnownSource, isKnownSource, hclasses, knownSourceOf, knownSourceOf, h]
  rw [sourceStatus, sourceStatus, hknown, isEffectiveSource, isEffectiveSource,
    effectiveSource_ofKind]

end Configuration

namespace LabellerRegistry

theorem labelsFor_congr {r : LabellerRegistry} {n m : Node}
    (h : ∀ l ∈ r.labellers, l.emit n = l.emit m) : r.labelsFor n = r.labelsFor m := by
  have heach : r.labelsByLabeller n = r.labelsByLabeller m := by
    refine mapM_congr fun l hl => ?_
    rw [Labeller.label, Labeller.label, h l hl]
  rw [labelsFor, labelsFor, heach]

/-- The shipped labellers look at nothing of the place. -/
theorem emit_ignores_of_mem_shipped {l : Labeller} (h : l ∈ shipped.labellers) :
    Ignores l.emit NodeRecord.withoutPlace := by
  have hshared : Ignores characteristicDetails NodeRecord.withoutPlace := by
    intro n
    have happlicable := (applicable_ignores Configuration.shipped_rule_ignores).place n
    rw [characteristicDetails, characteristicDetails, happlicable]
  rw [shipped] at h
  simp only [List.mem_cons, List.not_mem_nil, or_false] at h
  intro n
  rcases h with rfl | rfl | rfl | rfl
  · exact hshared n
  · rfl
  · rfl
  · rfl

end LabellerRegistry

/-- What was decided about a node: its classification without its id. -/
structure Decision where
  sourceStatus : SourceStatus
  sinkStatus : SinkStatus
  reasons : List String
  labels : List String
  ambiguousNames : Option (List String)
deriving DecidableEq

/-- What a classification says without its id. -/
def NodeClassification.decision (entry : NodeClassification) : Decision where
  sourceStatus := entry.sourceStatus
  sinkStatus := entry.sinkStatus
  reasons := entry.reasons
  labels := entry.labels
  ambiguousNames := entry.ambiguity.map (·.typeNames)

namespace Classifier

variable {k : Classifier} {n m : Node}

/-- A decision is made of the answers on both axes, the labels and the names of the types that the
node is known to be of. -/
theorem map_decision_classifyNode (k : Classifier) (n : Node) :
    (k.classifyNode n).map NodeClassification.decision = (do
      let sinkStatus ← k.configuration.sinkStatus n
      let reasons ←
        if sinkStatus = .excluded then k.configuration.exclusionReasons n else pure []
      let labels ← if k.includeLabels then k.labels n else pure []
      let sourceStatus ← k.configuration.sourceStatus n
      let ambiguousNames ← (k.configuration.findAmbiguity n).map (·.map (·.typeNames))
      return { sourceStatus, sinkStatus, reasons, labels, ambiguousNames }) := by
  simp only [classifyNode, map_of_bind, bind_of_map,
    apply_ite (Except.map NodeClassification.decision)]
  rfl

theorem map_decision_congr
    (hsink : Configuration.SameSinkAnswers k.configuration n k.configuration m)
    (hsource : k.configuration.sourceStatus n = k.configuration.sourceStatus m)
    (hlabels : k.labels n = k.labels m) :
    (k.classifyNode n).map NodeClassification.decision =
      (k.classifyNode m).map NodeClassification.decision := by
  rw [map_decision_classifyNode, map_decision_classifyNode, hsink.sinkStatus,
    hsink.exclusionReasons, hsource, hlabels, hsink.ambiguousNames]

theorem labels_congr {kind : QueryKind} (hkind : k.configuration = .ofKind kind)
    (hregistry : k.registry = .shipped) (h : n.withoutPlace = m.withoutPlace) :
    k.labels n = k.labels m := by
  have hregistered : k.registry.labelsFor n = k.registry.labelsFor m := by
    refine LabellerRegistry.labelsFor_congr fun l hl => ?_
    rw [hregistry] at hl
    exact (LabellerRegistry.emit_ignores_of_mem_shipped hl).eq_of_view_eq h
  have hrefinements : applicable n k.configuration.refinements =
      applicable m k.configuration.refinements := by
    refine (applicable_ignores fun c hc => ?_).place.eq_of_view_eq h
    rw [hkind] at hc
    exact Configuration.rule_ignores_of_mem_ofKind (List.mem_append_right _ hc)
  rw [labels, labels, hregistered, hrefinements]

/-- For the shipped queries and labels, nodes that differ in the place alone are decided alike, or
their classification fails alike.  The source axis depends on the source classes alone; the sink
axis depends neither on them nor on the place. -/
theorem decision_ofKind_congr {kind : QueryKind} (hkind : k.configuration = .ofKind kind)
    (hregistry : k.registry = .shipped) :
    (∀ n m : Node, n.withoutPlace = m.withoutPlace →
      (k.classifyNode n).map NodeClassification.decision =
        (k.classifyNode m).map NodeClassification.decision) ∧
    (∀ n m : Node, n.knownSources = m.knownSources →
      k.configuration.sourceStatus n = k.configuration.sourceStatus m) ∧
    ∀ n m : Node, n.withoutPlaceAndSources = m.withoutPlaceAndSources →
      Configuration.SameSinkAnswers k.configuration n k.configuration m := by
  have hsource : ∀ n m : Node, n.knownSources = m.knownSources →
      k.configuration.sourceStatus n = k.configuration.sourceStatus m := by
    intro n m h
    rw [hkind]
    exact Configuration.sourceStatus_ofKind_congr h
  have hsink : ∀ n m : Node, n.withoutPlaceAndSources = m.withoutPlaceAndSources →
      Configuration.SameSinkAnswers k.configuration n k.configuration m := by
    intro n m h
    rw [hkind]
    exact Configuration.sameSinkAnswers_ofKind h
  refine ⟨fun n m h => ?_, hsource, hsink⟩
  have hview := congrArg (fun view : Node => { view with knownSources := .empty }) h
  have hclasses := congrArg NodeRecord.knownSources h
  exact map_decision_congr (hsink n m hview) (hsource n m hclasses)
    (labels_congr hkind hregistry h)

end Classifier

def sourceConstant : Node :=
  { NodeRecord.bare "first" "argument" with
    calleeName := .str "write"
    isConstant := true
    knownSources := .ofList ["xss"] }

/-- The same argument at another place. -/
def movedConstant : Node :=
  { sourceConstant with
    id := "second"
    argumentIndex := .int 2
    filePath := .ofValue (.str "pages/view.js")
    line := 7
    enclosingFunction := .str "show" }

/-- A node of another kind with the same source class. -/
def sourceReceiver : Node :=
  { NodeRecord.bare "third" "receiver" with knownSources := .ofList ["xss"] }

/-- The argument is decided alike at both places.  Its source class alone makes another node a known
source, and without the class it is still excluded. -/
theorem decision_ofKind_congr_movedConstant :
    let k : Classifier := ⟨.ofKind .xss, .shipped, true, 1⟩
    sourceConstant.withoutPlace = movedConstant.withoutPlace ∧
      (∃ decision, (k.classifyNode movedConstant).map NodeClassification.decision = .ok decision ∧
        decision = ⟨.knownSource, .excluded, ["constant-value", "not-likely-xss-sink"],
          ["characteristic:constant-value", "characteristic:not-likely-xss-sink",
            "known:source-xss", "structure:argument-of-write", "structure:constant"], none⟩) ∧
      k.configuration.sourceStatus sourceReceiver = .ok .knownSource ∧
      k.configuration.sinkStatus { movedConstant with knownSources := .empty } =
        .ok .excluded := by
  intro k
  have hkind : k.configuration = .ofKind .xss := rfl
  obtain ⟨hdecision, hsource, hsink⟩ := Classifier.decision_ofKind_congr hkind rfl
  refine ⟨rfl, ?_, ?_, ?_⟩
  · rw [← hdecision sourceConstant movedConstant rfl]
    decide +kernel
  · rw [← hsource sourceConstant sourceReceiver rfl]
    rfl
  · exact (hsink sourceConstant _ rfl).sinkStatus.symm.trans rfl

end TaintTriage
