import WorkflowCanvas.Proofs.Json.KeyMap
import WorkflowCanvas.Validation.Config

/-! Reports on settings. What a report says under a key is settled by the one field that has the key,
or by there being none, and each field asks for no more than its own value and the one that its
condition names. -/
namespace WorkflowCanvas

/-! ### What is asked of a setting -/

/-- Nothing, or text of nothing but blanks. -/
inductive Json.Blank : Json → Prop where
  | null : Blank .null
  | text {s : String} (blanks : ∀ c ∈ s.toList, Text.isBlank c = true) : Blank (.str s)

/-- Values of the kind that a field is for. -/
inductive FieldKind.Takes : FieldKind → Json → Prop where
  | text (s : String) : Takes .text (.str s)
  | textarea (s : String) : Takes .textarea (.str s)
  | number (n : Number) : Takes .number (.num n)
  | boolean (b : Bool) : Takes .boolean (.bool b)
  | select (s : String) : Takes .select (.str s)
  | json (v : Json) : Takes .json v

namespace FieldSpec

/-- Values that a field does not accept. -/
inductive Violates (f : FieldSpec) : Json → Prop where
  | kind {v : Json} (wrong : ¬ f.kind.Takes v) : Violates f v
  | below {n : Number} {min : Float} (number : f.kind = .number) (bound : f.min = some min)
      (below : n.toFloat < min) : Violates f (.num n)
  | above {n : Number} {max : Float} (number : f.kind = .number) (bound : f.max = some max)
      (above : max < n.toFloat) : Violates f (.num n)
  | long {s : String} {limit : Nat} (text : f.kind = .text ∨ f.kind = .textarea)
      (bound : f.maxLength = some limit) (long : limit < s.length) : Violates f (.str s)
  | option {s : String} (select : f.kind = .select) (given : f.options ≠ [])
      (unlisted : s ∉ f.options) : Violates f (.str s)
  | json {s : String} (json : f.kind = .json) (unread : ∀ v, Json.parse s ≠ .ok v) :
      Violates f (.str s)

/-- The value that a condition on a key looks at: the setting, or else the default of the first field
under the key. -/
inductive Decides (config : Config) (fields : List FieldSpec) (key : String) : Json → Prop where
  | setting {v : Json} (given : KeyMap.get? config key = some v) : Decides config fields key v
  | default {before after : List FieldSpec} {f : FieldSpec}
      (missing : KeyMap.get? config key = none) (split : fields = before ++ f :: after)
      (found : f.key = key) (first : ∀ g ∈ before, g.key ≠ key) : Decides config fields key f.default

/-- A field without a condition, or one whose condition lists the value that decides. -/
def Shows (f : FieldSpec) (config : Config) (fields : List FieldSpec) : Prop :=
  ∀ condition, f.visibleWhen = some condition →
    ∃ v, Decides config fields condition.field v ∧ ∃ listed ∈ condition.equals, listed.same v = true

/-- What can be wrong with the setting of a field that is shown: that it is needed, but missing or
blank, or that it is not accepted. -/
inductive Misset (f : FieldSpec) (config : Config) : Prop where
  | empty (required : f.required = true)
      (empty : ∀ v, KeyMap.get? config f.key = some v → v.Blank)
  | violates {v : Json} (given : KeyMap.get? config f.key = some v) (full : ¬ v.Blank)
      (violates : f.Violates v)

variable {f : FieldSpec} {config : Config} {fields : List FieldSpec} {report : ConfigReport}
variable {v : Json} {k : String}

theorem isBlank_iff (v : Json) : isBlank v = true ↔ v.Blank := by
  constructor
  · intro h
    cases v with
    | null => exact .null
    | str s => exact .text (List.all_eq_true.mp h)
    | bool | num | arr | obj => cases h
  · intro h
    cases h with
    | null => rfl
    | text blanks => exact List.all_eq_true.mpr blanks

/-! ### Values -/

theorem fault?_of_not_takes (h : ¬ f.kind.Takes v) : f.fault? v = some (.wrongKind f.kind v) := by
  unfold fault?
  generalize f.kind = kind at h ⊢
  cases kind <;> cases v <;> first | rfl | exact absurd (by constructor) h

theorem fault?_number {n : Number} (hkind : f.kind = .number) :
    (f.fault? (.num n)).isSome = true ↔ (∃ min, f.min = some min ∧ n.toFloat < min) ∨
      ∃ max, f.max = some max ∧ max < n.toFloat := by
  have hfault : (f.fault? (.num n)).isSome =
      (f.min.any (n.toFloat < ·) || f.max.any (· < n.toFloat)) := by
    simp only [fault?, hkind, ← Option.isSome_filter]
    cases f.min.filter (n.toFloat < ·) with
    | some min => rfl
    | none => cases f.max.filter (· < n.toFloat) <;> rfl
  simp [hfault, Option.any_eq_true]

theorem fault?_text {s : String} (hkind : f.kind = .text ∨ f.kind = .textarea) :
    (f.fault? (.str s)).isSome = true ↔ ∃ limit, f.maxLength = some limit ∧ limit < s.length := by
  have hfault : (f.fault? (.str s)).isSome = f.maxLength.any (· < s.length) := by
    obtain hkind | hkind := hkind <;> simp only [fault?, hkind, Option.isSome_map, Option.isSome_filter]
  simp [hfault, Option.any_eq_true]

theorem fault?_select {s : String} (hkind : f.kind = .select) :
    (f.fault? (.str s)).isSome = true ↔ f.options ≠ [] ∧ s ∉ f.options := by
  simp only [fault?, hkind]
  by_cases hnone : f.options = []
  · simp [hnone]
  · by_cases hlisted : s ∈ f.options <;> simp [hnone, hlisted]

theorem fault?_json {s : String} (hkind : f.kind = .json) :
    (f.fault? (.str s)).isSome = true ↔ ∀ v, Json.parse s ≠ .ok v := by
  simp only [fault?, hkind]
  cases Json.parse s with
  | ok v => simp
  | error e => simp

theorem fault?_isSome_iff : (f.fault? v).isSome = true ↔ f.Violates v := by
  constructor
  · intro h
    -- a value of the wrong kind is at fault whatever it is; of the right kind, it depends on which
    by_cases htakes : f.kind.Takes v
    · generalize hkind : f.kind = kind at htakes
      cases htakes with
      | text s =>
        obtain ⟨limit, hbound, hlong⟩ := (fault?_text (.inl hkind)).mp h
        exact .long (.inl hkind) hbound hlong
      | textarea s =>
        obtain ⟨limit, hbound, hlong⟩ := (fault?_text (.inr hkind)).mp h
        exact .long (.inr hkind) hbound hlong
      | number n =>
        obtain ⟨min, hbound, hbelow⟩ | ⟨max, hbound, habove⟩ := (fault?_number hkind).mp h
        · exact .below hkind hbound hbelow
        · exact .above hkind hbound habove
      | boolean b => simp [fault?, hkind] at h
      | select s =>
        obtain ⟨hgiven, hunlisted⟩ := (fault?_select hkind).mp h
        exact .option hkind hgiven hunlisted
      | json v =>
        cases v with
        | str s => exact .json hkind ((fault?_json hkind).mp h)
        | null | bool | num | arr | obj => simp [fault?, hkind] at h
    · exact .kind htakes
  · intro h
    cases h with
    | kind wrong =>
      rw [fault?_of_not_takes wrong]
      rfl
    | below number bound below => exact (fault?_number number).mpr (.inl ⟨_, bound, below⟩)
    | above number bound above => exact (fault?_number number).mpr (.inr ⟨_, bound, above⟩)
    | long text bound long => exact (fault?_text text).mpr ⟨_, bound, long⟩
    | option select given unlisted => exact (fault?_select select).mpr ⟨given, unlisted⟩
    | json json unread => exact (fault?_json json).mpr unread

/-! ### Fields -/

theorem controlling?_eq_some_iff : controlling? k config fields = some v ↔
    Decides config fields k v := by
  unfold controlling?
  cases hgiven : KeyMap.get? config k with
  | some w =>
    constructor
    · rintro ⟨⟩
      exact .setting hgiven
    · intro h
      cases h with
      | setting given => exact hgiven.symm.trans given
      | default missing => cases hgiven.symm.trans missing
  | none =>
    constructor
    · intro h
      obtain ⟨g, hfind, rfl⟩ := Option.map_eq_some_iff.mp h
      obtain ⟨hkey, before, after, hsplit, hbefore⟩ := List.find?_eq_some_iff_append.mp hfind
      exact .default hgiven hsplit (by simpa using hkey) fun d hd => by simpa using hbefore d hd
    · intro h
      cases h with
      | setting given => cases hgiven.symm.trans given
      | @default before after g _ split found first =>
        have hfind : fields.find? (·.key == k) = some g :=
          List.find?_eq_some_iff_append.mpr
            ⟨by simpa using found, before, after, split, fun d hd => by simpa using first d hd⟩
        simp [hfind]

theorem shown_iff : f.shown config fields = true ↔ f.Shows config fields := by
  unfold shown Shows
  cases f.visibleWhen with
  | none => simp
  | some condition =>
    simp only [Option.some.injEq, forall_eq', ← controlling?_eq_some_iff]
    cases controlling? condition.field config fields with
    | none => simp
    | some v => simp [List.any_eq_true]

theorem settingFault?_of_empty {value : Option Json} (h : ∀ v, value = some v → v.Blank) :
    f.settingFault? value = if f.required then some .required else none := by
  have hnone : value.filter (!isBlank ·) = none := by
    rw [Option.filter_eq_none_iff]
    exact fun v hv => by simp [(isBlank_iff v).mpr (h v hv)]
  rw [settingFault?, hnone]

theorem settingFault?_of_full (h : ¬ v.Blank) : f.settingFault? (some v) = f.fault? v := by
  have hfull : isBlank v = false := by simpa [← isBlank_iff] using h
  rw [settingFault?, Option.filter_some, hfull]
  rfl

theorem settingFault?_isSome_iff :
    (f.settingFault? (KeyMap.get? config f.key)).isSome = true ↔ f.Misset config := by
  -- what is missing or blank can only be missed, and is never looked at as a value
  by_cases hempty : ∀ v, KeyMap.get? config f.key = some v → v.Blank
  · rw [settingFault?_of_empty hempty]
    constructor
    · intro h
      exact .empty (by simpa using h) hempty
    · intro h
      cases h with
      | empty required => simp [required]
      | violates given full => exact absurd (hempty _ given) full
  · obtain ⟨v, hv⟩ := not_forall.mp hempty
    obtain ⟨hgiven, hfull⟩ := Classical.not_imp.mp hv
    rw [hgiven, settingFault?_of_full hfull, fault?_isSome_iff]
    constructor
    · exact .violates hgiven hfull
    · intro h
      cases h with
      | empty _ empty => exact absurd (empty v hgiven) hfull
      | violates given _ violates => exact Option.some.inj (given.symm.trans hgiven) ▸ violates

/-- The error that a field gives rise to. -/
def error? (f : FieldSpec) (config : Config) (fields : List FieldSpec) : Option String :=
  if f.shown config fields then
    (f.settingFault? (KeyMap.get? config f.key)).map (·.message f.label)
  else none

/-- The warning that a field gives rise to. -/
def warning? (f : FieldSpec) (config : Config) (fields : List FieldSpec) : Option String :=
  if f.shown config fields then none
  else ((KeyMap.get? config f.key).filter (!isBlank ·)).map fun _ =>
    (ConfigWarning.ignored f.label).message

theorem error?_isSome_iff :
    (f.error? config fields).isSome = true ↔ f.Shows config fields ∧ f.Misset config := by
  rw [← shown_iff, ← settingFault?_isSome_iff, error?]
  cases f.shown config fields <;> simp

theorem warning?_isSome_iff : (f.warning? config fields).isSome = true ↔
    ¬ f.Shows config fields ∧ ∃ v, KeyMap.get? config f.key = some v ∧ ¬ v.Blank := by
  rw [← shown_iff, warning?]
  cases f.shown config fields with
  | true => simp
  | false =>
    cases KeyMap.get? config f.key with
    | none => simp
    | some v => by_cases hblank : isBlank v = true <;> simp [← isBlank_iff, hblank]

theorem check_eq (f : FieldSpec) (config : Config) (fields : List FieldSpec)
    (report : ConfigReport) : f.check config fields report =
      ⟨report.errors.put f.key (f.error? config fields),
        report.warnings.put f.key (f.warning? config fields)⟩ := by
  simp only [check, error?, warning?]
  cases f.shown config fields with
  | true => cases f.settingFault? (KeyMap.get? config f.key) <;> rfl
  | false =>
    cases KeyMap.get? config f.key with
    | none => rfl
    | some v =>
      cases hblank : isBlank v <;>
        simp [hblank, Option.filter_some, KeyMap.put, ConfigReport.addWarning]

end FieldSpec

/-! ### Reports -/

namespace Definition
variable {d : Definition} {config : Config} {k : String}

theorem checks_eq (fields all : List FieldSpec) (config : Config) (report : ConfigReport) :
    fields.foldl (fun report f => f.check config all report) report =
      ⟨fields.foldl (fun m f => m.put f.key (f.error? config all)) report.errors,
        fields.foldl (fun m f => m.put f.key (f.warning? config all)) report.warnings⟩ := by
  induction fields generalizing report with
  | nil => rfl
  | cons f fields ih => rw [List.foldl_cons, FieldSpec.check_eq, ih]; rfl

/-- The warning about a key that no field has. -/
def unknown? (d : Definition) (key : String) : Option String :=
  if (d.field? key).isSome then none else some (ConfigWarning.unknown key).message

theorem unknowns_eq (d : Definition) (keys : List String) (report : ConfigReport) :
    keys.foldl (fun report key => if (d.field? key).isSome then report
      else report.addWarning key (ConfigWarning.unknown key).message) report =
      ⟨report.errors, keys.foldl (fun m key => m.put key (d.unknown? key)) report.warnings⟩ := by
  induction keys generalizing report with
  | nil => rfl
  | cons key keys ih =>
    rw [List.foldl_cons, ih, List.foldl_cons, unknown?]
    cases (d.field? key).isSome <;> rfl

theorem validate_eq (d : Definition) (config : Config) : d.validate config =
    ⟨d.fields.foldl (fun m f => m.put f.key (f.error? config d.fields)) [],
      (KeyMap.keys config).foldl (fun m key => m.put key (d.unknown? key))
        (d.fields.foldl (fun m f => m.put f.key (f.warning? config d.fields)) [])⟩ := by
  rw [validate, checks_eq, unknowns_eq]

theorem field?_eq_some_iff (hd : (d.fields.map (·.key)).Nodup) {f : FieldSpec} :
    d.field? k = some f ↔ f ∈ d.fields ∧ f.key = k :=
  KeyMap.find?_key_eq_some_iff hd

theorem get?_foldl_fields (hd : (d.fields.map (·.key)).Nodup) (value? : FieldSpec → Option String) :
    (d.fields.foldl (fun m f => KeyMap.put m f.key (value? f)) []).get? k =
      (d.field? k).bind value? := by
  have hsame : ∀ f ∈ d.fields, ∀ g ∈ d.fields, f.key = g.key → value? f = value? g :=
    fun f hf g hg h => congrArg value? (List.inj_on_of_nodup_map hd hf hg h)
  refine (KeyMap.get?_foldl_put FieldSpec.key hsame [] k).trans ?_
  rw [KeyMap.get?_nil, Option.or_none]
  rfl

/-- An error comes from the field that has the key. -/
theorem get?_errors (hd : (d.fields.map (·.key)).Nodup) (config : Config) (k : String) :
    (d.validate config).errors.get? k = (d.field? k).bind (·.error? config d.fields) := by
  rw [validate_eq]
  exact get?_foldl_fields hd _

/-- A warning comes from the field that has the key, or says that none has. -/
theorem get?_warnings (hd : (d.fields.map (·.key)).Nodup) (config : Config) (k : String) :
    (d.validate config).warnings.get? k =
      if (d.field? k).isSome then (d.field? k).bind (·.warning? config d.fields)
      else (KeyMap.get? config k).map fun _ => (ConfigWarning.unknown k).message := by
  have hunknown (m : KeyMap String) :
      ((KeyMap.keys config).foldl (fun m key => m.put key (d.unknown? key)) m).get? k =
        (((KeyMap.keys config).find? (· == k)).bind d.unknown?).or (m.get? k) :=
    KeyMap.get?_foldl_put id (fun x _ y _ h => congrArg d.unknown? h) m k
  rw [validate_eq, hunknown, get?_foldl_fields hd, KeyMap.find?_keys]
  cases hfield : d.field? k with
  | some f => cases KeyMap.get? config k <;> simp [unknown?, hfield]
  | none => cases KeyMap.get? config k <;> simp [unknown?, hfield]

/-! ### What a report is about -/

theorem mem_errors_iff (hd : (d.fields.map (·.key)).Nodup) :
    k ∈ (d.validate config).errors.keys ↔
      ∃ f ∈ d.fields, f.key = k ∧ f.Shows config d.fields ∧ f.Misset config := by
  rw [KeyMap.mem_keys_iff, get?_errors hd]
  constructor
  · intro h
    obtain ⟨message, hmessage⟩ := Option.isSome_iff_exists.mp h
    obtain ⟨f, hfield, herror⟩ := Option.bind_eq_some_iff.mp hmessage
    obtain ⟨hf, hkey⟩ := (field?_eq_some_iff hd).mp hfield
    exact ⟨f, hf, hkey, FieldSpec.error?_isSome_iff.mp (herror ▸ rfl)⟩
  · rintro ⟨f, hf, hkey, herror⟩
    rw [(field?_eq_some_iff hd).mpr ⟨hf, hkey⟩]
    exact FieldSpec.error?_isSome_iff.mpr herror

theorem field?_eq_none_iff : d.field? k = none ↔ ∀ f ∈ d.fields, f.key ≠ k := by
  simp [field?]

theorem mem_warnings_iff (hd : (d.fields.map (·.key)).Nodup) :
    k ∈ (d.validate config).warnings.keys ↔ ∃ v, KeyMap.get? config k = some v ∧
      ((∀ f ∈ d.fields, f.key ≠ k) ∨
        ∃ f ∈ d.fields, f.key = k ∧ ¬ f.Shows config d.fields ∧ ¬ v.Blank) := by
  rw [KeyMap.mem_keys_iff, get?_warnings hd]
  cases hfield : d.field? k with
  | none =>
    have hnone := field?_eq_none_iff.mp hfield
    simp only [Option.isSome_none, Bool.false_eq_true, if_false, Option.isSome_map,
      Option.isSome_iff_exists]
    exact exists_congr fun v => (and_iff_left (.inl hnone)).symm
  | some f =>
    obtain ⟨hf, rfl⟩ := (field?_eq_some_iff hd).mp hfield
    have hwarning : (f.warning? config d.fields).isSome = true ↔ _ := FieldSpec.warning?_isSome_iff
    simp only [Option.isSome_some, if_true, Option.bind_some, hwarning]
    constructor
    · rintro ⟨hhidden, v, hgiven, hfull⟩
      exact ⟨v, hgiven, .inr ⟨f, hf, rfl, hhidden, hfull⟩⟩
    · rintro ⟨v, hgiven, hnone | ⟨g, hg, hkey, hhidden, hfull⟩⟩
      · exact absurd rfl (hnone f hf)
      · obtain rfl := List.inj_on_of_nodup_map hd hg hf hkey
        exact ⟨hhidden, v, hgiven, hfull⟩

end Definition

/-- Errors are about fields that are shown, and name those whose setting is not right. Warnings are
about settings that do nothing: those of hidden fields, and those of no field. Nothing is reported as
both. -/
theorem Registry.validateConfig_outcome {r : Registry} {type : String} {d : Definition}
    (htype : r.get? type = some d) (hkeys : (d.fields.map (·.key)).Nodup) (config : Config) :
    ∃ report, r.validateConfig type config = .ok report ∧
      (∀ k, k ∈ report.errors.keys ↔
        ∃ f ∈ d.fields, f.key = k ∧ f.Shows config d.fields ∧ f.Misset config) ∧
      (∀ k, k ∈ report.warnings.keys ↔ ∃ v, KeyMap.get? config k = some v ∧
        ((∀ f ∈ d.fields, f.key ≠ k) ∨
          ∃ f ∈ d.fields, f.key = k ∧ ¬ f.Shows config d.fields ∧ ¬ v.Blank)) ∧
      (∀ k ∈ report.errors.keys, k ∉ report.warnings.keys) ∧
      (∀ k ∈ report.errors.keys, k ∈ d.fields.map (·.key)) ∧
      ∀ k ∈ report.warnings.keys, k ∈ KeyMap.keys config := by
  have hreport : r.validateConfig type config = .ok (d.validate config) := by
    rw [validateConfig, htype]
  refine ⟨_, hreport, fun k => Definition.mem_errors_iff hkeys,
    fun k => Definition.mem_warnings_iff hkeys, fun k herror hwarning => ?_, fun k herror => ?_,
    fun k hwarning => ?_⟩
  · obtain ⟨f, hf, rfl, hshown, -⟩ := (Definition.mem_errors_iff hkeys).mp herror
    obtain ⟨v, -, hnone | ⟨g, hg, hkey, hhidden, -⟩⟩ :=
      (Definition.mem_warnings_iff hkeys).mp hwarning
    · exact hnone f hf rfl
    · obtain rfl := List.inj_on_of_nodup_map hkeys hg hf hkey
      exact hhidden hshown
  · obtain ⟨f, hf, rfl, -⟩ := (Definition.mem_errors_iff hkeys).mp herror
    exact List.mem_map_of_mem hf
  · obtain ⟨v, hgiven, -⟩ := (Definition.mem_warnings_iff hkeys).mp hwarning
    rw [KeyMap.mem_keys_iff, hgiven]
    rfl

/-- Letters, with a field that is for signed ones only. -/
def letter : Definition where
  type := "letter"
  label := "Letter"
  category := "mail"
  fields :=
    [{ key := "to", label := "To", kind := .text, required := true },
      { key := "copies", label := "Copies", kind := .number, min := some 1, max := some 9 },
      { key := "mode", label := "Mode", kind := .select, default := .str "plain",
        options := ["plain", "signed"] },
      { key := "name", label := "Name", kind := .text,
        visibleWhen := some ⟨"mode", [.str "signed"]⟩ }]

/-- Too many copies for nobody, with a name under a letter that is not signed, and a colour. -/
def misaddressed : Config :=
  [("colour", .str "red"), ("copies", .nat 12), ("name", .str "B."), ("to", .str "  ")]

theorem validateConfig_outcome_misaddressed :
    Registry.get? ⟨[letter], []⟩ "letter" = some letter ∧ (letter.fields.map (·.key)).Nodup ∧
    ∃ report, Registry.validateConfig ⟨[letter], []⟩ "letter" misaddressed = .ok report ∧
      report.errors.keys = ["copies", "to"] ∧ report.warnings.keys = ["colour", "name"] ∧
      (∃ f ∈ letter.fields, f.key = "copies" ∧ f.Shows misaddressed letter.fields ∧
        f.Misset misaddressed) ∧
      ∃ f ∈ letter.fields, f.key = "name" ∧ ¬ f.Shows misaddressed letter.fields := by
  have htype : Registry.get? ⟨[letter], []⟩ "letter" = some letter := rfl
  have hkeys : (letter.fields.map (·.key)).Nodup := by decide +kernel
  obtain ⟨report, hreport, herrors, hwarnings, -⟩ :=
    Registry.validateConfig_outcome htype hkeys misaddressed
  obtain rfl := Except.ok.inj hreport
  have hcopies : "copies" ∈ (letter.validate misaddressed).errors.keys := by decide +kernel
  have hname : "name" ∈ (letter.validate misaddressed).warnings.keys := by decide +kernel
  obtain ⟨v, -, hnone | ⟨f, hf, hkey, hhidden, -⟩⟩ := (hwarnings "name").mp hname
  · exact absurd hnone (by decide +kernel)
  · exact ⟨htype, hkeys, _, rfl, by decide +kernel, by decide +kernel,
      (herrors "copies").mp hcopies, f, hf, hkey, hhidden⟩

end WorkflowCanvas
