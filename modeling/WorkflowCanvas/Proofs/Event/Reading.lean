import WorkflowCanvas.Event.Reader
import WorkflowCanvas.Proofs.Json.KeyMap
import WorkflowCanvas.Proofs.Json.Reading

/-! Events that are written and read again. The tag of a written event names the kind by whose fields it
is read, and these are the members that the kind is written with, so that every event is read as it was
written and no two are written alike. -/
namespace WorkflowCanvas

namespace Fields
variable {α : Type} {members : List (String × Json)} {key : String} {r : Reader α}

@[simp] theorem keys_lacking (key : String) (r : Reader α) : (lacking key r).keys = [key] := rfl

@[simp] theorem gives_lacking (hkeys : (members.map (·.1)).Nodup) {value : Option α} :
    (lacking key r).Gives members value ↔
      (∃ j, KeyMap.get? members key = some j ∧ r.option.ofJson j = .ok value) ∨
      KeyMap.get? members key = none ∧ none = value := by
  rw [lacking, gives_one hkeys]
  simp

end Fields

namespace Reader

@[simp] theorem bool_ofJson_bool (value : Bool) : bool.ofJson (.bool value) = .ok value := rfl

@[simp] theorem natural_ofJson_nat (range : String) (n : Nat) :
    (natural range).ofJson (.nat n) = .ok n := rfl

@[simp] theorem json_ofJson (j : Json) : json.ofJson j = .ok j := rfl

@[simp] theorem list_ofJson_strings (items : List String) :
    (list text).ofJson (.strings items) = .ok items :=
  list_ofJson_arr.mpr (List.forall₂_map_left_iff.mpr (by simp))

end Reader

namespace Tagged
variable {α : Type} {type tag name : String} {kinds : List (Kind α)} {kind : Kind α} {indexed : Bool}
  {members : List (String × Json)} {a : α}

/-- An object is read as its tag says, from the members beside the tag. -/
theorem read_cons (htag : ∀ member ∈ members, member.1 ≠ tag)
    (hkind : kinds.find? (·.name == name) = some kind) (h : kind.fields.Gives members a) :
    read type tag kinds indexed (.obj ((tag, .str name) :: members)) = .ok a := by
  have hrest : ((tag, .str name) :: members).filter (·.1 ≠ tag) = members := by
    rw [List.filter_cons_of_neg (by simp)]
    exact List.filter_eq_self.mpr fun member hmember => decide_eq_true (htag member hmember)
  obtain ⟨s, hs, ha⟩ := h
  simp only [read, KeyMap.get?_cons, if_true, read.content, choose, hkind, Kind.read, hrest]
  exact bind_eq_ok.mpr ⟨(s, ()), hs, ha⟩

end Tagged

namespace StepMessage

/-- JSON can tell how far the step is. -/
def Finite : StepMessage → Prop
  | .progress percent _ => percent.isFinite = true
  | _ => True

theorem reader_of_gives {m a : StepMessage} {kind : Tagged.Kind StepMessage}
    (hkind : tagged.find? (·.name == m.kind) = some kind) (h : kind.fields.Gives m.members a) :
    reader.ofJson m.toJson = .ok a := by
  have htag : ∀ member ∈ m.members, member.1 ≠ "event_type" := by cases m <;> simp [members]
  exact Tagged.read_cons htag hkind h

/-- A message is read as it was written. -/
theorem reader_toJson {m : StepMessage} (h : m.Finite) : reader.ofJson m.toJson = .ok m := by
  cases m with
  | progress percent text =>
    have hpercent : Reader.float.ofJson (.float percent) = .ok percent := by
      have hfinite : percent.isFinite = true := h
      simp only [Json.float, hfinite, if_true]
      rfl
    refine reader_of_gives rfl ?_
    simp [members, KeyMap.get?_cons, hpercent]
  | _ =>
    refine reader_of_gives rfl ?_
    simp [members, KeyMap.get?_cons]

end StepMessage

/-! ### Events -/

namespace Happening

/-- JSON can tell what happened. -/
def Finite : Happening → Prop
  | .nodeMessage _ message => message.Finite
  | _ => True

/-- The fields that the kind of a happening has beside those of every event. They read it from any
members among which are those that it is written with. -/
structure ReadBy (h : Happening) (fields : Fields Happening) : Prop where
  kind : Event.tagged.find? (·.name == h.kind) = some (Event.kind h.kind fields)
  keys : fields.keys = h.members.map (·.1)
  gives : ∀ members : List (String × Json), (members.map (·.1)).Nodup →
    (∀ member ∈ h.members, KeyMap.get? members member.1 = some member.2) → fields.Gives members h

@[simp] theorem status_name (s : Status) : Event.status.ofJson (.str s.name) = .ok s := by
  cases s <;> rfl

theorem readBy {h : Happening} (hfinite : h.Finite) : ∃ fields, h.ReadBy fields := by
  cases h with
  | nodeMessage node message =>
    have hmessage : StepMessage.reader.ofJson message.toJson = .ok message :=
      StepMessage.reader_toJson hfinite
    refine ⟨_, rfl, rfl, fun members hkeys hget => ?_⟩
    simp_all [Happening.members]
  | _ =>
    refine ⟨_, rfl, rfl, fun members hkeys hget => ?_⟩
    simp_all [Happening.members, -Bool.exists_bool]

end Happening

namespace Event

/-- The texts of the execution and the time are read as what they were made of, and JSON can tell what
happened. -/
structure Readable (e : Event) : Prop where
  execution : Uuid.parse e.execution.text = .ok e.execution
  timestamp : Timestamp.parse e.timestamp.text = .ok e.timestamp
  finite : e.happening.Finite

theorem Readable.reader_execution {e : Event} (h : e.Readable) :
    Uuid.reader.ofJson (.str e.execution.text) = .ok e.execution := by
  simp only [Uuid.reader, Reader.judged, mapError_eq_ok, h.execution]

theorem Readable.reader_timestamp {e : Event} (h : e.Readable) :
    Timestamp.reader.ofJson (.str e.timestamp.text) = .ok e.timestamp := by
  simp only [Timestamp.reader, Reader.judged, mapError_eq_ok, h.timestamp]

/-- The members beside the tag. -/
def members (e : Event) : List (String × Json) :=
  ("execution_id", .str e.execution.text) :: e.happening.members
    ++ [("timestamp", .str e.timestamp.text)]

theorem toJson_eq (e : Event) : e.toJson = .obj (("type", .str e.happening.kind) :: e.members) := by
  simp [toJson, members]

theorem keys_members (e : Event) : e.members.map (·.1) =
    "execution_id" :: e.happening.members.map (·.1) ++ ["timestamp"] := by
  simp [members]

/-- No member stands under the key of the tag, or under that of another. -/
theorem members_keys (e : Event) :
    (e.members.map (·.1)).Nodup ∧ ∀ member ∈ e.members, member.1 ≠ "type" := by
  obtain ⟨execution, timestamp, happening⟩ := e
  cases happening <;> simp [members, Happening.members]

/-- An event is read as it was written. -/
theorem reader_toJson {e : Event} (h : e.Readable) : reader.ofJson e.toJson = .ok e := by
  obtain ⟨fields, hfields⟩ := Happening.readBy h.finite
  obtain ⟨hkeys, htag⟩ := e.members_keys
  have hget : ∀ member ∈ e.members, KeyMap.get? e.members member.1 = some member.2 :=
    fun _ => KeyMap.get?_of_mem hkeys
  have hexecution : (Fields.required "execution_id" Uuid.reader).Gives e.members e.execution :=
    (Fields.gives_required hkeys).mpr ⟨_, hget _ List.mem_cons_self, h.reader_execution⟩
  have htimestamp : (Fields.required "timestamp" Timestamp.reader).Gives e.members e.timestamp :=
    (Fields.gives_required hkeys).mpr
      ⟨_, hget _ (List.mem_append_right _ List.mem_cons_self), h.reader_timestamp⟩
  have hhappening : fields.Gives e.members e.happening :=
    hfields.gives _ hkeys fun member hmember => hget member (by simp [members, hmember])
  -- The fields of the kind stand between those of every event, and share no key with them.
  have hbetween : ("execution_id" :: fields.keys ++ ["timestamp"]).Nodup := by
    rw [hfields.keys, ← e.keys_members]
    exact hkeys
  obtain ⟨hfront, -, hlast⟩ := List.nodup_append.mp hbetween
  rw [toJson_eq]
  refine Tagged.read_cons htag hfields.kind ?_
  refine (Fields.gives_seq fun key hkey hsame => ?_).mpr
    ⟨make e.execution e.happening, e.timestamp, ?_, htimestamp, rfl⟩
  · rw [Fields.keys_seq, Fields.keys_map, Fields.keys_required] at hkey
    exact hlast key hkey key hsame rfl
  refine (Fields.gives_seq fun key hkey hsame => ?_).mpr
    ⟨make e.execution, e.happening, Fields.gives_map.mpr ⟨_, hexecution, rfl⟩, hhappening, rfl⟩
  rw [Fields.keys_map, Fields.keys_required, List.mem_singleton] at hkey
  exact (List.nodup_cons.mp hfront).1 (hkey ▸ hsame)

/-- Every event is read as it was written, in all that it holds, and no two events are written alike. -/
theorem written_read (e : Event) (h : e.Readable) :
    reader.ofJson e.toJson = .ok e ∧ ∀ f : Event, f.Readable → f.toJson = e.toJson → f = e := by
  refine ⟨reader_toJson h, fun f hf hsame => ?_⟩
  have hread := reader_toJson hf
  rw [hsame, reader_toJson h] at hread
  exact (Except.ok.inj hread).symm

/-- A message of a node, in the first second of the first execution. -/
def told (m : StepMessage) : Event := ⟨⟨0⟩, ⟨0, 0⟩, .nodeMessage "a" m⟩

theorem readable_told {m : StepMessage} (h : m.Finite) : (told m).Readable := by
  have hexecution : Uuid.parse (Uuid.text ⟨0⟩) = .ok ⟨0⟩ := by decide +kernel
  have htimestamp : Timestamp.parse (Timestamp.text ⟨0, 0⟩) = .ok ⟨0, 0⟩ := by decide +kernel
  exact ⟨hexecution, htimestamp, h⟩

/-- The keys of both tags may be among what a step sends, and a message that is missing is read as
missing. -/
theorem written_read_told :
    let named := told (.data "type" (.obj [("event_type", .str "Info"), ("type", .null)]))
    let silent := told (.progress 0.5 none)
    named.Readable ∧ silent.Readable ∧ reader.ofJson named.toJson = .ok named ∧
      reader.ofJson silent.toJson = .ok silent ∧
      ∀ f : Event, f.Readable → f.toJson = silent.toJson → f = silent := by
  have hnamed := readable_told (m := .data "type" (.obj [("event_type", .str "Info"), ("type", .null)]))
    trivial
  have hhalf : (0.5 : Float).isFinite = true := by decide +kernel
  have hsilent := readable_told (m := .progress 0.5 none) hhalf
  exact ⟨hnamed, hsilent, (written_read _ hnamed).1, written_read _ hsilent⟩

end Event
end WorkflowCanvas
