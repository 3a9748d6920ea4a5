import TaintTriage.Proofs.DocumentGrammar

/-!
Nodes that a caller builds and nodes that are read.  A caller's fields are put into normal form as
far as they are collections or a path; an entry of a document has its fields converted first and
handed over to be built like a caller's.  Where the id is a text, the flags are truth values and the
line is an integer, there is nothing else to convert, and what was in normal form stays as it is; so
both ways lead to the same node, or neither leads to any.
-/

namespace TaintTriage

def ValueFault.IsOfShape (cause : ValueFault) : Prop :=
  cause.category = .shape

theorem Value.failsOnly_items (v : Value) : FailsOnly ValueFault.IsOfShape v.items := by
  intro cause h
  rw [items] at h
  split at h <;> cases h
  rfl

/-- What a collection can be refused for: that it cannot be gone through, or that an item in it is
too long to be shown. -/
def Value.IsRefusedFor (v : Value) (cause : ValueFault) : Prop :=
  cause.IsOfShape ∨
    cause = .unwrittenInteger ∧ ∃ items, v.items = .ok items ∧ ∃ x ∈ items, x.isShort = false

theorem Value.failsOnly_itemTexts (v : Value) : FailsOnly v.IsRefusedFor v.itemTexts := by
  intro cause h
  rcases bind_eq_error_iff.mp h with hitems | ⟨items, hitems, htexts⟩
  · exact Or.inl (v.failsOnly_items cause hitems)
  · obtain ⟨i, x, hx, hlong, -⟩ := mapM_eq_error_iff.mp htexts
    obtain rfl := eq_unwrittenInteger_of_display hlong
    exact Or.inr ⟨rfl, items, hitems, x, List.mem_of_getElem? hx, display_eq_error_iff.mp hlong⟩

theorem failsOnly_namesOf (v : Value) : FailsOnly v.IsRefusedFor (namesOf v) := by
  cases htruth : v.isTruthy with
  | false =>
      have hempty : namesOf v = .ok .empty := by simp [namesOf, htruth]
      rw [hempty]
      exact failsOnly_ok _
  | true =>
      by_cases htext : ∃ s, v = .str s
      · obtain ⟨s, rfl⟩ := htext
        have hname : namesOf (.str s) = .ok (.ofList [s]) := by simp [namesOf, htruth]
        rw [hname]
        exact failsOnly_ok _
      · rw [namesOf_eq htruth fun s hs => htext ⟨s, hs⟩]
        exact v.failsOnly_itemTexts.map _

theorem failsOnly_partsOf (v : Value) : FailsOnly v.IsRefusedFor (partsOf v) := by
  by_cases hnull : v = .null
  · subst hnull
    exact failsOnly_ok _
  · by_cases htext : ∃ s, v = .str s
    · obtain ⟨s, rfl⟩ := htext
      exact failsOnly_ok _
    · rw [partsOf_eq hnull fun s hs => htext ⟨s, hs⟩]
      exact v.failsOnly_itemTexts

/-- A set of names is its own set of names, in whatever order it is gone through. -/
theorem namesOf_set {s : NameSet} {names : List String} (h : ∀ name, name ∈ names ↔ name ∈ s) :
    namesOf (.set (names.map .str)) = .ok s := by
  have hset : NameSet.ofList names = s :=
    NameSet.ext fun name => NameSet.mem_ofList.trans (h name)
  have hitems : (Value.set (names.map .str)).itemTexts = .ok names :=
    NodeRecord.mapM_display_str names
  cases names with
  | nil => exact congrArg Except.ok hset
  | cons name rest => rw [namesOf_eq rfl (by simp), hitems, map_ok, hset]

namespace NodeRecord

variable {given : List (String × Value)} {id : Value}

/-- Named fields as the entries of a mapping. -/
abbrev keyed (given : List (String × Value)) : List (Value × Value) :=
  given.map fun (name, v) => (.str name, v)

/-- The fields that are judged by truth. -/
def flagFields : List String :=
  ["is_external_call", "flows_to_external_call", "is_html_concatenation_leaf", "is_constant",
   "in_test_file"]

/-- Fields of a node among which the id is a text, all flags are truth values and the line is an
integer, where they are given. -/
structure IsTyped (given : List (String × Value)) : Prop where
  named : ∀ field ∈ given, field.1 ∈ fieldNames
  id : ∃ text, given.lookup "node_id" = some (.str text)
  flags : ∀ name ∈ flagFields, ∀ v, given.lookup name = some v → ∃ b, v = .bool b
  line : ∀ v, given.lookup "line" = some v → ∃ n, v = .int n

/-- A flag that is a truth value is judged as it is. -/
theorem IsTyped.flag (h : IsTyped given) (name : String) (hname : name ∈ flagFields) :
    (given.lookup name).getD (.bool false) = .bool ((given.lookup name).getD .null).isTruthy := by
  cases hfield : given.lookup name with
  | none => rfl
  | some v =>
      obtain ⟨b, rfl⟩ := h.flags name hname v hfield
      rfl

theorem IsTyped.exists_line (h : IsTyped given) :
    ∃ line, (given.lookup "line").getD (.int 0) = .int line ∧
      ((given.lookup "line").getD (.int 0)).toInt = .ok line := by
  cases hfield : given.lookup "line" with
  | none => exact ⟨0, rfl, rfl⟩
  | some v =>
      obtain ⟨n, rfl⟩ := h.line v hfield
      exact ⟨n, rfl, rfl⟩

/-- A node with an id and collections in normal form, and all else as it is among some fields. -/
def ofFields (given : List (String × Value)) (id : Value) (sources sinks sanitizers : NameSet)
    (parts : List String) : UncheckedNode where
  id := id
  kind := (given.lookup "kind").getD (.str "argument")
  calleeName := (given.lookup "callee_name").getD .null
  receiverName := (given.lookup "receiver_name").getD .null
  argumentIndex := (given.lookup "argument_index").getD .null
  isExternalCall := (given.lookup "is_external_call").getD (.bool false)
  flowsToExternalCall := (given.lookup "flows_to_external_call").getD (.bool false)
  propertyName := (given.lookup "property_name").getD .null
  stringValue := (given.lookup "string_value").getD .null
  concatenationParts := parts
  isHtmlConcatenationLeaf := (given.lookup "is_html_concatenation_leaf").getD (.bool false)
  isConstant := (given.lookup "is_constant").getD (.bool false)
  knownSources := sources
  knownSinks := sinks
  sanitizes := sanitizers
  filePath := .ofValue ((given.lookup "file_path").getD .null)
  line := (given.lookup "line").getD (.int 0)
  enclosingFunction := (given.lookup "enclosing_function").getD .null
  inTestFile := (given.lookup "in_test_file").getD (.bool false)

/-- Fields that nodes have, the id among them, make a node if their collections do. -/
theorem build_eq (hnamed : ∀ field ∈ given, field.1 ∈ fieldNames)
    (hid : given.lookup "node_id" = some id) :
    build given = (do
      let sources ← (namesOf ((given.lookup "known_sources").getD .null)).mapError .badCollection
      let sinks ← (namesOf ((given.lookup "known_sinks").getD .null)).mapError .badCollection
      let sanitizers ← (namesOf ((given.lookup "sanitizes").getD .null)).mapError .badCollection
      let parts ←
        (partsOf ((given.lookup "concatenation_parts").getD .null)).mapError .badCollection
      return ofFields given id sources sinks sanitizers parts) := by
  have hunknown : (given.find? fun (name, _) => !fieldNames.contains name) = none := by
    simpa using hnamed
  rw [build, hunknown, hid]
  rfl

/-- An entry whose other fields need no conversion is converted if its collections are. -/
theorem map_unchecked_convert (h : IsTyped given) (text : String) :
    (convert (keyed given) (.str text)).map unchecked = (do
      let parts ← partsOf ((given.lookup "concatenation_parts").getD .null)
      let sources ← namesOf ((given.lookup "known_sources").getD .null)
      let sinks ← namesOf ((given.lookup "known_sinks").getD .null)
      let sanitizers ← namesOf ((given.lookup "sanitizes").getD .null)
      return ofFields given (.str text) sources sinks sanitizers parts) := by
  obtain ⟨line, hline, hint⟩ := h.exists_line
  simp only [convert, Value.field?_object, Value.display_str, map_of_bind, hint, ok_bind]
  refine bind_congr fun parts => bind_congr fun sources => bind_congr fun sinks =>
    bind_congr fun sanitizers => ?_
  rw [ofFields, hline, h.flag "is_external_call" (by simp [flagFields]),
    h.flag "flows_to_external_call" (by simp [flagFields]),
    h.flag "is_html_concatenation_leaf" (by simp [flagFields]),
    h.flag "is_constant" (by simp [flagFields]),
    h.flag "in_test_file" (by simp [flagFields])]
  rfl

/-- The fields of an entry as they are handed over to be built: collections in normal form, flags
judged by truth, the id as a text, the line as an integer, and all else as it is. -/
def handedOver (entries : List (Value × Value)) (id : Value) :
    Except ValueFault (List (String × Value)) := do
  let field (name : String) : Value := (Value.field? entries name).getD .null
  let flag (name : String) : Value := .bool (field name).isTruthy
  let names (s : NameSet) : Value := .set (s.names.map .str)
  let shownId ← id.display
  let parts ← partsOf (field "concatenation_parts")
  let sources ← namesOf (field "known_sources")
  let sinks ← namesOf (field "known_sinks")
  let sanitizers ← namesOf (field "sanitizes")
  let line ← ((Value.field? entries "line").getD (.int 0)).toInt
  return [
    ("node_id", .str shownId),
    ("kind", (Value.field? entries "kind").getD (.str "argument")),
    ("callee_name", field "callee_name"),
    ("receiver_name", field "receiver_name"),
    ("argument_index", field "argument_index"),
    ("is_external_call", flag "is_external_call"),
    ("flows_to_external_call", flag "flows_to_external_call"),
    ("property_name", field "property_name"),
    ("string_value", field "string_value"),
    ("concatenation_parts", .texts parts),
    ("is_html_concatenation_leaf", flag "is_html_concatenation_leaf"),
    ("is_constant", flag "is_constant"),
    ("known_sources", names sources),
    ("known_sinks", names sinks),
    ("sanitizes", names sanitizers),
    ("file_path", field "file_path"),
    ("line", .int line),
    ("enclosing_function", field "enclosing_function"),
    ("in_test_file", flag "in_test_file")]

/-- A conversion that works has something to hand over, which is built as the node that is read. -/
theorem exists_handedOver_of_convert {entries : List (Value × Value)} {n : Node}
    (h : convert entries id = .ok n) :
    ∃ handed, handedOver entries id = .ok handed ∧ build handed = .ok n.unchecked := by
  simp only [convert, bind_eq_ok_iff] at h
  obtain ⟨shownId, hid, parts, hparts, sources, hsources, sinks, hsinks, sanitizers, hsanitizers,
    line, hline, hnode⟩ := h
  obtain rfl := Except.ok.inj hnode
  simp only [handedOver, hid, hparts, hsources, hsinks, hsanitizers, hline, ok_bind, pure_eq_ok,
    Except.ok.injEq, exists_eq_left']
  have hagain (s : NameSet) : namesOf (.set (s.names.map .str)) = .ok s :=
    namesOf_set fun _ => Iff.rfl
  rw [build_eq (by simp [fieldNames]) rfl]
  simp [List.lookup_cons, hagain, partsOf_texts]
  rfl

/-- What is handed over was converted with success. -/
theorem exists_convert_of_handedOver {entries : List (Value × Value)}
    {handed : List (String × Value)} (h : handedOver entries id = .ok handed) :
    ∃ n, convert entries id = .ok n := by
  simp only [handedOver, bind_eq_ok_iff] at h
  obtain ⟨shownId, hid, parts, hparts, sources, hsources, sinks, hsinks, sanitizers, hsanitizers,
    line, hline, -⟩ := h
  simp only [convert, hid, hparts, hsources, hsinks, hsanitizers, hline, ok_bind]
  exact ⟨_, rfl⟩

theorem unchecked_injective {n m : Node} (h : n.unchecked = m.unchecked) : n = m := by
  cases n
  cases m
  simpa [unchecked] using h

/-- An entry is read as a node exactly if what is handed over for it is built as this node. -/
theorem convert_eq_ok_iff_handedOver {entries : List (Value × Value)} {n : Node} :
    convert entries id = .ok n ↔
      ∃ handed, handedOver entries id = .ok handed ∧ build handed = .ok n.unchecked := by
  constructor
  · exact exists_handedOver_of_convert
  · intro ⟨handed, hhanded, hbuild⟩
    obtain ⟨m, hconvert⟩ := exists_convert_of_handedOver hhanded
    obtain ⟨again, hagain, hm⟩ := exists_handedOver_of_convert hconvert
    obtain rfl := Except.ok.inj (hhanded.symm.trans hagain)
    rw [hconvert, unchecked_injective (Except.ok.inj (hm.symm.trans hbuild))]

def collectionFields : List String := "concatenation_parts" :: nameFields

/-- A cause for which one of the collections among some fields is refused. -/
def RefusesCollection (given : List (String × Value)) (cause : ValueFault) : Prop :=
  ∃ name ∈ collectionFields, ((given.lookup name).getD .null).IsRefusedFor cause

theorem failsOnly_names (name : String) (h : name ∈ nameFields) :
    FailsOnly (RefusesCollection given) (namesOf ((given.lookup name).getD .null)) :=
  fun cause hcause =>
    ⟨name, List.mem_cons_of_mem _ h, failsOnly_namesOf _ cause hcause⟩

theorem failsOnly_parts : FailsOnly (RefusesCollection given)
    (partsOf ((given.lookup "concatenation_parts").getD .null)) :=
  fun cause hcause => ⟨_, List.mem_cons_self, failsOnly_partsOf _ cause hcause⟩

def BuildFault.IsOfCollection (given : List (String × Value)) (fault : BuildFault) : Prop :=
  ∃ cause, fault = .badCollection cause ∧ RefusesCollection given cause

theorem failsOnly_build (hnamed : ∀ field ∈ given, field.1 ∈ fieldNames)
    (hid : given.lookup "node_id" = some id) :
    FailsOnly (BuildFault.IsOfCollection given) (build given) := by
  have hcollection {α : Type} {read : Except ValueFault α}
      (hread : FailsOnly (RefusesCollection given) read) :
      FailsOnly (BuildFault.IsOfCollection given) (read.mapError .badCollection) :=
    hread.mapError fun cause hcause => ⟨cause, rfl, hcause⟩
  rw [build_eq hnamed hid]
  exact (hcollection (failsOnly_names _ (by simp [nameFields]))).bind fun sources =>
    (hcollection (failsOnly_names _ (by simp [nameFields]))).bind fun sinks =>
    (hcollection (failsOnly_names _ (by simp [nameFields]))).bind fun sanitizers =>
    (hcollection failsOnly_parts).bind fun parts => failsOnly_ok _

theorem failsOnly_convert (h : IsTyped given) (text : String) :
    FailsOnly (RefusesCollection given) (convert (keyed given) (.str text)) := by
  have hmapped : FailsOnly (RefusesCollection given)
      ((convert (keyed given) (.str text)).map unchecked) := by
    rw [map_unchecked_convert h]
    exact failsOnly_parts.bind fun parts =>
      (failsOnly_names _ (by simp [nameFields])).bind fun sources =>
      (failsOnly_names _ (by simp [nameFields])).bind fun sinks =>
      (failsOnly_names _ (by simp [nameFields])).bind fun sanitizers => failsOnly_ok _
  intro cause hcause
  exact hmapped cause (map_eq_error_iff.mpr hcause)

theorem exists_convert_iff_of_isTyped (h : IsTyped given) (text : String) :
    (∃ n, convert (keyed given) (.str text) = .ok n) ↔ CollectionsGiven (keyed given) := by
  obtain ⟨line, -, hline⟩ := h.exists_line
  rw [exists_convert_iff, Value.isShort_str, eq_self, true_and, and_iff_left]
  exact ⟨line, by rw [Value.field?_object, hline]⟩

/-- The same collections are asked for, though in another order. -/
theorem build_eq_ok_iff {m : UncheckedNode} {text : String} (h : IsTyped given)
    (hid : given.lookup "node_id" = some (.str text)) :
    build given = .ok m ↔ (convert (keyed given) (.str text)).map unchecked = .ok m := by
  rw [build_eq h.named hid, map_unchecked_convert h]
  simp only [bind_eq_ok_iff, mapError_eq_ok_iff, pure_eq_ok, Except.ok.injEq]
  constructor
  · rintro ⟨sources, hsources, sinks, hsinks, sanitizers, hsanitizers, parts, hparts, hm⟩
    exact ⟨parts, hparts, sources, hsources, sinks, hsinks, sanitizers, hsanitizers, hm⟩
  · rintro ⟨parts, hparts, sources, hsources, sinks, hsinks, sanitizers, hsanitizers, hm⟩
    exact ⟨sources, hsources, sinks, hsinks, sanitizers, hsanitizers, parts, hparts, hm⟩

/-- Fields of a node with a text for its id, truth values for its flags and an integer for its line,
whatever else they hold, are built and read as the same node if their collections can be gone
through for texts; otherwise both fail of a collection.  An entry of any kind is read as the node
that is built of what is handed over for it, since names, in any order, and parts stay as they are.
-/
theorem build_ofDocument_alike (h : IsTyped given) :
    (CollectionsGiven (keyed given) →
      ∃ n, ofDocument (.object given) = .ok n ∧ build given = .ok n.unchecked) ∧
    (¬ CollectionsGiven (keyed given) →
      ∃ id cause other, given.lookup "node_id" = some id ∧
        ofDocument (.object given) = .error (.invalidField id cause) ∧
        RefusesCollection given cause ∧ build given = .error (.badCollection other) ∧
        RefusesCollection given other) ∧
    (∀ entries id n, convert entries id = .ok n ↔
      ∃ handed, handedOver entries id = .ok handed ∧ build handed = .ok n.unchecked) ∧
    (∀ (s : NameSet) (names : List String), (∀ name, name ∈ names ↔ name ∈ s) →
      namesOf (.set (names.map .str)) = .ok s) ∧
    ∀ parts, partsOf (.texts parts) = .ok parts := by
  obtain ⟨text, hid⟩ := h.id
  have hgiven := exists_convert_iff_of_isTyped h text
  refine ⟨fun hcollections => ?_, fun hcollections => ?_,
    fun entries id n => convert_eq_ok_iff_handedOver, fun s names => namesOf_set, partsOf_texts⟩
  · obtain ⟨n, hconvert⟩ := hgiven.mpr hcollections
    refine ⟨n, ofDocument_eq_ok_iff.mpr ⟨keyed given, .str text, rfl, ?_, hconvert⟩, ?_⟩
    · rw [Value.field?_object, hid]
    · rw [build_eq_ok_iff h hid, hconvert]
      rfl
  · have hrefused := mt hgiven.mp hcollections
    cases hconvert : convert (keyed given) (.str text) with
    | ok n => exact absurd ⟨n, hconvert⟩ hrefused
    | error cause =>
        have hcause := failsOnly_convert h text cause hconvert
        have hread : ofDocument (.object given) = .error (.invalidField (.str text) cause) := by
          have hopened : (Value.object given).opened = .map (keyed given) := rfl
          have hraised : (SnapshotFault.invalidField (.str text) cause).raised =
              .invalidField (.str text) cause := rfl
          simp only [ofDocument_of_map hopened, Value.field?_object, hid, hconvert]
          obtain ⟨-, -, hshape | ⟨rfl, -⟩⟩ := hcause
          · rw [show cause.category = .shape from hshape, hraised]
          · exact congrArg Except.error hraised
        cases hbuild : build given with
        | ok m =>
            have hmapped := (build_eq_ok_iff h hid).mp hbuild
            rw [hconvert] at hmapped
            exact nomatch hmapped
        | error fault =>
            obtain ⟨other, rfl, hother⟩ := failsOnly_build h.named hid fault hbuild
            exact ⟨.str text, cause, other, hid, hread, hcause, rfl, hother⟩

/-- Fields with collections of many shapes, and with what a document gives for the known sinks. -/
def looseFields (sinks : Value) : List (String × Value) :=
  [("node_id", .str "n"), ("known_sinks", sinks), ("known_sources", .int 0),
   ("sanitizes", .str "html-escape"), ("concatenation_parts", .list [.str "<b>", .int 3]),
   ("file_path", .str "src//app.js"), ("is_constant", .bool true), ("line", .int 7)]

theorem isTyped_looseFields (sinks : Value) : IsTyped (looseFields sinks) := by
  refine ⟨by simp [looseFields, fieldNames], ⟨"n", rfl⟩, ?_, ?_⟩
  · simp [looseFields, flagFields, List.lookup_cons]
  · simp [looseFields, List.lookup_cons]

/-- An integer in a list that is too long to be shown is refused, but not for its shape. -/
theorem not_build_ofDocument_alike_longSink :
    IsTyped (looseFields (.list [.int Value.firstLong])) ∧
      (¬ ∃ n, ofDocument (.object (looseFields (.list [.int Value.firstLong]))) = .ok n) ∧
      ∃ cause, build (looseFields (.list [.int Value.firstLong])) = .error (.badCollection cause) ∧
        ¬ cause.IsOfShape := by
  have htyped := isTyped_looseFields (.list [.int Value.firstLong])
  have hnames : namesOf (.list [.int Value.firstLong]) = .error .unwrittenInteger := by
    have hlong : (Value.int Value.firstLong).display = .error .unwrittenInteger :=
      Value.display_eq_error_iff.mpr Value.isShortInteger_firstLong
    rw [namesOf_eq rfl (by simp), Value.itemTexts]
    change ([Value.int Value.firstLong].mapM Value.display).map _ = _
    rw [List.mapM_cons, hlong]
    rfl
  have hbuild : build (looseFields (.list [.int Value.firstLong])) =
      .error (.badCollection .unwrittenInteger) := by
    rw [build_eq htyped.named rfl]
    change (namesOf (.list [.int Value.firstLong])).mapError BuildFault.badCollection >>= _ = _
    rw [hnames]
    rfl
  refine ⟨htyped, ?_, .unwrittenInteger, hbuild, by rintro ⟨⟩⟩
  rintro ⟨n, hn⟩
  obtain ⟨fields, id, hopened, -, hconvert⟩ := ofDocument_eq_ok_iff.mp hn
  obtain rfl := Value.map.inj hopened
  obtain ⟨-, hgiven, -⟩ := exists_convert_iff.mp ⟨n, hconvert⟩
  obtain ⟨names, hread⟩ := exists_namesOf_iff.mpr hgiven.sinks
  cases hnames.symm.trans hread

/-- A mapping gives its keys for names, but a number is refused both ways. -/
theorem build_ofDocument_alike_looseFields :
    (∀ sinks, IsTyped (looseFields sinks)) ∧
      (∃ n, ofDocument (.object (looseFields (.object [("xss", .null)]))) = .ok n ∧
        build (looseFields (.object [("xss", .null)])) = .ok n.unchecked ∧
        n.knownSinks.names = ["xss"] ∧ n.concatenationParts = ["<b>", "3"]) ∧
      ∃ id cause fault,
        ofDocument (.object (looseFields (.int 7))) = .error (.invalidField id cause) ∧
        build (looseFields (.int 7)) = .error (.badCollection fault) := by
  refine ⟨isTyped_looseFields, ?_, ?_⟩
  · have hgiven : CollectionsGiven (keyed (looseFields (.object [("xss", .null)]))) :=
      ⟨fun _ => ⟨_, rfl, by decide +kernel⟩, fun h => absurd h (by decide),
        fun _ => ⟨_, rfl, by decide +kernel⟩, fun _ => Value.hasShortItems_str _⟩
    obtain ⟨n, hread, hbuild⟩ := (build_ofDocument_alike (isTyped_looseFields _)).1 hgiven
    obtain ⟨m, hm, hnames, hparts⟩ : ∃ m,
        build (looseFields (.object [("xss", .null)])) = .ok m ∧
          m.knownSinks.names = ["xss"] ∧ m.concatenationParts = ["<b>", "3"] := by
      decide +kernel
    obtain rfl := Except.ok.inj (hbuild.symm.trans hm)
    exact ⟨n, hread, hbuild, hnames, hparts⟩
  · have hrefused : ¬ CollectionsGiven (keyed (looseFields (.int 7))) := by
      intro hgiven
      obtain ⟨items, hitems⟩ := hgiven.sinks rfl
      exact nomatch hitems
    obtain ⟨id, cause, fault, -, hread, -, hbuild, -⟩ :=
      (build_ofDocument_alike (isTyped_looseFields _)).2.1 hrefused
    exact ⟨id, cause, fault, hread, hbuild⟩

end NodeRecord

end TaintTriage
