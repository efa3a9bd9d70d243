import WorkflowCanvas.Proofs.Canvas.FreshId
import WorkflowCanvas.Proofs.Validation.Config

/-! New nodes have the defaults of their fields for settings, but for the fields that have none. That
makes no difference for what is shown, and the report on a new node speaks of the defaults alone. -/
namespace WorkflowCanvas

theorem Json.not_isNull_iff (v : Json) : (!v.isNull) = true ↔ v ≠ .null := by
  cases v <;> simp [isNull]

/-! ### Defaults as settings -/

namespace Definition
variable {d : Definition} {f : FieldSpec} {k : String} {v : Json}

theorem get?_defaultConfig_eq_some_iff (hd : (d.fields.map (·.key)).Nodup) :
    KeyMap.get? d.defaultConfig k = some v ↔
      ∃ f ∈ d.fields, f.key = k ∧ f.default = v ∧ v ≠ .null := by
  have hentries : (((d.fields.filter fun f => !f.default.isNull).map
      fun f => (f.key, f.default)).map (·.1)).Nodup := by
    rw [List.map_map]
    exact (List.filter_sublist.map _).nodup hd
  rw [defaultConfig, KeyMap.get?_ofEntries hentries, KeyMap.get?_eq_find?, Option.map_eq_some_iff]
  simp only [KeyMap.find?_key_eq_some_iff hentries, List.mem_map, List.mem_filter,
    Json.not_isNull_iff]
  constructor
  · rintro ⟨_, ⟨⟨f, ⟨hf, hdefault⟩, rfl⟩, rfl⟩, rfl⟩
    exact ⟨f, hf, rfl, rfl, hdefault⟩
  · rintro ⟨f, hf, rfl, rfl, hdefault⟩
    exact ⟨_, ⟨⟨f, ⟨hf, hdefault⟩, rfl⟩, rfl⟩, rfl⟩

theorem get?_defaultConfig (hd : (d.fields.map (·.key)).Nodup) (hf : f ∈ d.fields) :
    KeyMap.get? d.defaultConfig f.key = some v ↔ v = f.default ∧ v ≠ .null := by
  rw [get?_defaultConfig_eq_some_iff hd]
  constructor
  · rintro ⟨g, hg, hkey, rfl, hdefault⟩
    obtain rfl := List.inj_on_of_nodup_map hd hg hf hkey
    exact ⟨rfl, hdefault⟩
  · rintro ⟨rfl, hdefault⟩
    exact ⟨f, hf, rfl, rfl, hdefault⟩

theorem get?_defaultConfig_of_full (hd : (d.fields.map (·.key)).Nodup) (hf : f ∈ d.fields)
    (hfull : ¬f.default.Blank) : KeyMap.get? d.defaultConfig f.key = some f.default := by
  have hnull : f.default ≠ .null := fun hnull => hfull (hnull ▸ .null)
  exact (get?_defaultConfig hd hf).mpr ⟨rfl, hnull⟩

/-- Where the settings leave out a default it is null, and that is what is looked at then. -/
theorem controlling?_defaultConfig (hd : (d.fields.map (·.key)).Nodup) (k : String) :
    FieldSpec.controlling? k d.defaultConfig d.fields = FieldSpec.controlling? k [] d.fields := by
  simp only [FieldSpec.controlling?, KeyMap.get?_nil]
  cases hgiven : KeyMap.get? d.defaultConfig k with
  | none => rfl
  | some v =>
    obtain ⟨f, hf, rfl, rfl, -⟩ := (get?_defaultConfig_eq_some_iff hd).mp hgiven
    have hfield : d.fields.find? (·.key == f.key) = some f := (field?_eq_some_iff hd).mpr ⟨hf, rfl⟩
    rw [hfield]
    rfl

theorem shown_defaultConfig (hd : (d.fields.map (·.key)).Nodup) (f : FieldSpec) :
    f.shown d.defaultConfig d.fields = f.shown [] d.fields := by
  simp only [FieldSpec.shown, controlling?_defaultConfig hd]

theorem shows_defaultConfig_iff (hd : (d.fields.map (·.key)).Nodup) (f : FieldSpec) :
    f.Shows d.defaultConfig d.fields ↔ f.Shows [] d.fields := by
  rw [← FieldSpec.shown_iff, ← FieldSpec.shown_iff, shown_defaultConfig hd]

theorem misset_defaultConfig_iff (hd : (d.fields.map (·.key)).Nodup) (hf : f ∈ d.fields) :
    f.Misset d.defaultConfig ↔
      f.required = true ∧ f.default.Blank ∨ ¬f.default.Blank ∧ f.Violates f.default := by
  constructor
  · intro h
    cases h with
    | empty required empty =>
      refine .inl ⟨required, by_contra fun hfull => ?_⟩
      exact hfull (empty _ (get?_defaultConfig_of_full hd hf hfull))
    | violates given full violates =>
      obtain ⟨rfl, -⟩ := (get?_defaultConfig hd hf).mp given
      exact .inr ⟨full, violates⟩
  · rintro (⟨hrequired, hblank⟩ | ⟨hfull, hviolates⟩)
    · refine .empty hrequired fun v hgiven => ?_
      obtain ⟨rfl, -⟩ := (get?_defaultConfig hd hf).mp hgiven
      exact hblank
    · exact .violates (get?_defaultConfig_of_full hd hf hfull) hfull hviolates

/-! ### Reports on defaults -/

theorem mem_errors_default_iff (hd : (d.fields.map (·.key)).Nodup) :
    k ∈ (d.validate d.defaultConfig).errors.keys ↔ ∃ f ∈ d.fields, f.key = k ∧ f.Shows [] d.fields ∧
      (f.required = true ∧ f.default.Blank ∨ ¬f.default.Blank ∧ f.Violates f.default) := by
  rw [mem_errors_iff hd]
  refine exists_congr fun f => and_congr_right fun hf => and_congr_right fun _ => ?_
  rw [shows_defaultConfig_iff hd, misset_defaultConfig_iff hd hf]

theorem mem_warnings_default_iff (hd : (d.fields.map (·.key)).Nodup) :
    k ∈ (d.validate d.defaultConfig).warnings.keys ↔
      ∃ f ∈ d.fields, f.key = k ∧ ¬f.Shows [] d.fields ∧ ¬f.default.Blank := by
  rw [mem_warnings_iff hd]
  constructor
  · rintro ⟨v, hgiven, hnone | ⟨f, hf, rfl, hhidden, hfull⟩⟩
    · obtain ⟨f, hf, hkey, -⟩ := (get?_defaultConfig_eq_some_iff hd).mp hgiven
      exact absurd hkey (hnone f hf)
    · obtain ⟨rfl, -⟩ := (get?_defaultConfig hd hf).mp hgiven
      exact ⟨f, hf, rfl, (shows_defaultConfig_iff hd f).not.mp hhidden, hfull⟩
  · rintro ⟨f, hf, rfl, hhidden, hfull⟩
    refine ⟨f.default, get?_defaultConfig_of_full hd hf hfull, .inr ⟨f, hf, rfl, ?_, hfull⟩⟩
    exact (shows_defaultConfig_iff hd f).not.mpr hhidden

/-- No default is under a key that no field has. -/
theorem get?_warnings_default (hd : (d.fields.map (·.key)).Nodup) {message : String}
    (h : (d.validate d.defaultConfig).warnings.get? k = some message) :
    ∃ f ∈ d.fields, f.key = k ∧ message = (ConfigWarning.ignored f.label).message := by
  rw [get?_warnings hd] at h
  cases hfield : d.field? k with
  | none =>
    rw [hfield] at h
    obtain ⟨v, hgiven, -⟩ := Option.map_eq_some_iff.mp h
    obtain ⟨f, hf, hkey, -⟩ := (get?_defaultConfig_eq_some_iff hd).mp hgiven
    exact absurd hkey (field?_eq_none_iff.mp hfield f hf)
  | some f =>
    obtain ⟨hf, hkey⟩ := (field?_eq_some_iff hd).mp hfield
    refine ⟨f, hf, hkey, ?_⟩
    rw [hfield] at h
    have hwarning : f.warning? d.defaultConfig d.fields = some message := h
    unfold FieldSpec.warning? at hwarning
    split at hwarning
    · cases hwarning
    · obtain ⟨-, -, rfl⟩ := Option.map_eq_some_iff.mp hwarning
      rfl

end Definition

/-! ### New nodes -/

namespace Canvas
variable {c c' : Canvas} {d : Definition} {stamp : Nat → String} {type id : String}
  {position : Position}

theorem validateNode_of_addNode (hd : c.registry.get? type = some d)
    (h : c.addNode stamp type position = .ok (id, c')) :
    c'.validateNode id = .ok (d.validate d.defaultConfig) := by
  rw [addNode, hd] at h
  obtain ⟨g, hinsert, heq⟩ := bind_eq_ok.mp h
  obtain ⟨rfl, rfl⟩ := Prod.mk.inj (Except.ok.inj heq)
  obtain ⟨hnew, rfl⟩ := Graph.insertNode_eq_ok_iff.mp hinsert
  have hnone : c.graph.nodes.find? (·.id == (freshId c.graph stamp c.graph.nodes.length c.ids).1) =
      none := by
    simpa [Graph.nodeIds] using hnew
  simp [validateNode, Graph.node?, List.find?_append, hnone, Registry.validateConfig, hd]

theorem place_isOk {make : String → Node} (hmake : ∀ id, (make id).id = id)
    (hroom : c.graph.nodes.length < UInt64.size) (stamp : Nat → String) :
    ∃ id c', c.place stamp make = .ok (id, c') := by
  obtain ⟨id, ids, -, hplace⟩ := place_eq_ok hmake hroom stamp
  exact ⟨id, _, hplace⟩

theorem addNode_isOk (hd : c.registry.get? type = some d)
    (hroom : c.graph.nodes.length < UInt64.size) (stamp : Nat → String) (position : Position) :
    ∃ id c', c.addNode stamp type position = .ok (id, c') := by
  unfold addNode
  rw [hd]
  exact place_isOk (fun _ => rfl) hroom stamp

end Canvas

/-- With the defaults for settings the same fields are shown as without any. A node that has just been
added is in error where a field is shown that is required but has a default that is blank, or whose
default it does not accept; there is a warning where a field is hidden that has a default. None of the
settings is unknown. -/
theorem Definition.addNode_report {d : Definition} (hkeys : (d.fields.map (·.key)).Nodup) :
    (∀ f ∈ d.fields, f.shown d.defaultConfig d.fields = f.shown [] d.fields ∧
      (f.shown [] d.fields = true ↔ f.Shows [] d.fields)) ∧
    ∀ (c : Canvas) (stamp : Nat → String) (type : String) (position : Position),
      c.registry.get? type = some d →
      (c.graph.nodes.length < UInt64.size →
        ∃ id c', c.addNode stamp type position = .ok (id, c')) ∧
      ∀ id c', c.addNode stamp type position = .ok (id, c') →
        ∃ report, c'.validateNode id = .ok report ∧
          (∀ k, k ∈ report.errors.keys ↔ ∃ f ∈ d.fields, f.key = k ∧ f.Shows [] d.fields ∧
            (f.required = true ∧ f.default.Blank ∨ ¬f.default.Blank ∧ f.Violates f.default)) ∧
          (∀ k, k ∈ report.warnings.keys ↔
            ∃ f ∈ d.fields, f.key = k ∧ ¬f.Shows [] d.fields ∧ ¬f.default.Blank) ∧
          ∀ k message, report.warnings.get? k = some message →
            ∃ f ∈ d.fields, f.key = k ∧ message = (ConfigWarning.ignored f.label).message := by
  refine ⟨fun f _ => ⟨shown_defaultConfig hkeys f, FieldSpec.shown_iff⟩,
    fun c stamp type position hd => ⟨fun hroom => ?_, fun id c' hadd => ?_⟩⟩
  · exact Canvas.addNode_isOk hd hroom stamp position
  · exact ⟨_, Canvas.validateNode_of_addNode hd hadd, fun k => mem_errors_default_iff hkeys,
      fun k => mem_warnings_default_iff hkeys, fun k message => get?_warnings_default hkeys⟩

/-- Parcels that are too heavy from the start. The card is asked for while nobody has said whether the
parcel is insured, and its worth only once somebody has. -/
def parcel : Definition where
  type := "parcel"
  label := "Parcel"
  category := "mail"
  fields :=
    [{ key := "weight", label := "Weight", kind := .number, default := .nat 40, max := some 30 },
      { key := "carrier", label := "Carrier", kind := .text, required := true },
      { key := "note", label := "Note", kind := .text, default := .str "  ", required := true },
      { key := "insured", label := "Insured", kind := .boolean },
      { key := "card", label := "Card", kind := .text, required := true,
        visibleWhen := some ⟨"insured", [.null]⟩ },
      { key := "worth", label := "Worth", kind := .number, default := .nat 10,
        visibleWhen := some ⟨"insured", [.bool true]⟩ }]

theorem addNode_report_parcel : (parcel.fields.map (·.key)).Nodup ∧
    ∃ id c' report, Canvas.addNode { registry := ⟨[parcel], []⟩ } (fun _ => "0") "parcel" .origin =
        .ok (id, c') ∧ c'.validateNode id = .ok report ∧
      report.errors.keys = ["card", "carrier", "note", "weight"] ∧
      report.warnings.keys = ["worth"] ∧
      (∃ f ∈ parcel.fields, f.key = "card" ∧ f.Shows [] parcel.fields) ∧
      ∃ f ∈ parcel.fields, f.key = "worth" ∧ ¬f.Shows [] parcel.fields := by
  have hkeys : (parcel.fields.map (·.key)).Nodup := by decide +kernel
  obtain ⟨hadds, hreports⟩ := (Definition.addNode_report hkeys).2
    { registry := ⟨[parcel], []⟩ } (fun _ => "0") "parcel" .origin rfl
  obtain ⟨id, c', hadd⟩ := hadds (by decide)
  obtain ⟨report, hreport, herrors, hwarnings, -⟩ := hreports id c' hadd
  have hvalidate : report = parcel.validate parcel.defaultConfig :=
    Except.ok.inj (hreport.symm.trans (Canvas.validateNode_of_addNode rfl hadd))
  have hcard : "card" ∈ report.errors.keys := by rw [hvalidate]; decide +kernel
  have hworth : "worth" ∈ report.warnings.keys := by rw [hvalidate]; decide +kernel
  obtain ⟨f, hf, hkey, hshown, -⟩ := (herrors "card").mp hcard
  obtain ⟨g, hg, hkey', hhidden, -⟩ := (hwarnings "worth").mp hworth
  exact ⟨hkeys, id, c', report, hadd, hreport, by rw [hvalidate]; decide +kernel,
    by rw [hvalidate]; decide +kernel, ⟨f, hf, hkey, hshown⟩, g, hg, hkey', hhidden⟩

end WorkflowCanvas
