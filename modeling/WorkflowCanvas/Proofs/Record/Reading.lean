import WorkflowCanvas.Proofs.Graph.Saving
import WorkflowCanvas.Proofs.Json.Keeping
import WorkflowCanvas.Record

/-! Pipeline records that are read and written again. A record knows some of its members and keeps the
others, and so does the metadata in it; what is written has them all, and is read as the record that
was written. -/
namespace WorkflowCanvas

/-! ### Nodes -/

section keeps
variable {H : Json → Prop} [Json.Hereditary H]

theorem Position.keeps_finite : Position.reader.Keeps Position.Finite H :=
  Reader.keeps_record <| .seq (.map (.required Reader.keeps_float) fun _ hx _ hy => ⟨hx, hy⟩)
    (.required Reader.keeps_float)

theorem Position.finite_origin : Position.origin.Finite := ⟨by decide, by decide⟩

theorem SavedData.keeps : SavedData.reader.Keeps (fun d => H (.obj d.config)) H :=
  have hempty : H (.obj []) := Json.Hereditary.canonical Json.canonical_obj_nil
  Reader.keeps_record <| .seq (.seq (.map (.required (Reader.keeps_true _)) fun _ _ _ _ _ h => h)
      (.optional (Reader.keeps_true _) trivial))
    (.optional (.nullAs Reader.keeps_members hempty) hempty)

theorem SavedNode.keeps :
    SavedNode.reader.Keeps (fun n => n.position.Finite ∧ H (.obj n.data.config)) H :=
  Reader.keeps_record <| .seq (.seq (.seq (.map (.required (Reader.keeps_true _))
        fun _ _ _ _ _ hposition _ hconfig => ⟨hposition, hconfig⟩)
      (.required (Reader.keeps_true _)))
    (.optional Position.keeps_finite Position.finite_origin))
    (.required SavedData.keeps)

end keeps

/-- A node that JSON can tell. -/
structure SavedNode.Proper (n : SavedNode) : Prop where
  position : n.position.Finite
  config : (Json.obj n.data.config).Proper

theorem Position.Finite.proper_toJson {p : Position} (hp : p.Finite) : p.toJson.Proper := by
  simp [Position.toJson, hp.x, hp.y]

theorem SavedNode.Proper.toJson {n : SavedNode} (hn : n.Proper) : n.toJson.Proper := by
  have hdata : n.data.toJson.Proper := by simpa [SavedData.toJson] using hn.config
  simp [SavedNode.toJson, hn.position.proper_toJson, hdata]

theorem SavedEdge.proper_toJson (e : SavedEdge) : e.toJson.Proper := by
  simp [SavedEdge.toJson]

/-! ### Metadata -/

namespace Metadata
variable {m m' : Metadata} {members : List (String × Json)}

def known : List String := ["rf_nodes", "rf_edges"]

/-- The graph is read from its two members, and the others are kept. -/
theorem reader_obj : reader.ofJson (.obj members) = .ok m ↔
    (Fields.optional "rf_nodes" (SavedGraph.listReader SavedNode.reader) []).Gives members m.nodes ∧
    (Fields.optional "rf_edges" (SavedGraph.listReader SavedEdge.reader) []).Gives members m.edges ∧
    KeyMap.ofEntries (members.filter (·.1 ∉ known)) = m.extra := by
  rw [reader, Reader.openRecord_ofJson_obj]
  constructor
  · rintro ⟨make, hmake, rfl⟩
    obtain ⟨_, edges, hone, hedges, rfl⟩ := (Fields.gives_seq (by simp)).mp hmake
    obtain ⟨nodes, hnodes, rfl⟩ := Fields.gives_map.mp hone
    exact ⟨hnodes, hedges, rfl⟩
  · rintro ⟨hnodes, hedges, hextra⟩
    refine ⟨Metadata.mk m.nodes m.edges, ?_, hextra ▸ rfl⟩
    refine (Fields.gives_seq (by simp)).mpr ⟨_, _, ?_, hedges, rfl⟩
    exact Fields.gives_map.mpr ⟨_, hnodes, rfl⟩

/-- The members of the graph. -/
def front (m : Metadata) : List (String × Json) :=
  [("rf_nodes", .arr (m.nodes.map (·.toJson))), ("rf_edges", .arr (m.edges.map (·.toJson)))]

theorem toJson_eq (m : Metadata) : m.toJson = .obj (m.front ++ m.extra) := rfl

theorem front_known (m : Metadata) : ∀ member ∈ m.front, member.1 ∈ known := by
  simp [front, known]

theorem front_nodup (m : Metadata) : (m.front.map (·.1)).Nodup := by
  simp [front]

theorem reader_toJson (hm : m.extra.Beside known) :
    reader.ofJson m.toJson = .ok m' ↔ (∀ n ∈ m.nodes, n.position.Finite) ∧ m = m' := by
  have hkeys := hm.nodup_append m.front_nodup m.front_known
  have hnodes : KeyMap.get? (m.front ++ m.extra) "rf_nodes" = some (.arr (m.nodes.map (·.toJson))) :=
    hm.get?_known (by simp [known])
  have hedges : KeyMap.get? (m.front ++ m.extra) "rf_edges" = some (.arr (m.edges.map (·.toJson))) :=
    hm.get?_known (by simp [known])
  rw [toJson_eq, reader_obj, hm.rest_append m.front_known, Fields.gives_optional_of_some hkeys hnodes,
    Fields.gives_optional_of_some hkeys hedges, SavedGraph.nodes_toJson, SavedGraph.edges_toJson]
  constructor
  · rintro ⟨⟨hplaced, hnodes⟩, hedges, hextra⟩
    obtain ⟨nodes, edges, extra⟩ := m'
    obtain rfl : m.nodes = nodes := hnodes
    obtain rfl : m.edges = edges := Except.ok.inj hedges
    obtain rfl : m.extra = extra := hextra
    exact ⟨hplaced, rfl⟩
  · rintro ⟨hplaced, rfl⟩
    exact ⟨⟨hplaced, rfl⟩, rfl, rfl⟩

/-- Whatever metadata holds of values has the property, and its places are finite. -/
structure Holds (m : Metadata) (H : Json → Prop) : Prop where
  nodes : ∀ n ∈ m.nodes, n.position.Finite ∧ H (.obj n.data.config)
  extra : m.extra.Beside known H

theorem holds_default (H : Json → Prop) : Holds {} H :=
  ⟨List.forall_mem_nil _, KeyMap.beside_nil _⟩

theorem keeps {H : Json → Prop} [Json.Hereditary H] : reader.Keeps (Holds · H) H :=
  Reader.keeps_openRecord <| .seq (.map
      (.optional (.nullAs (.list SavedNode.keeps) (List.forall_mem_nil _)) (List.forall_mem_nil _))
      fun _ hnodes _ _ _ hrest => ⟨hnodes, hrest⟩)
    (.optional (Reader.keeps_true _) trivial)

theorem proper_toJson (hm : m.extra.Beside known) (hnodes : ∀ n ∈ m.nodes, n.Proper) :
    m.toJson.Proper := by
  rw [toJson_eq]
  refine .obj (hm.nodup_append m.front_nodup m.front_known) fun member hmember => ?_
  obtain hfront | hextra := List.mem_append.mp hmember
  · have harrays : (Json.arr (m.nodes.map (·.toJson))).Proper ∧
        (Json.arr (m.edges.map (·.toJson))).Proper := by
      simpa [SavedEdge.proper_toJson] using fun n hn => (hnodes n hn).toJson
    simp only [front, List.mem_cons, List.not_mem_nil, or_false] at hfront
    obtain rfl | rfl := hfront
    · exact harrays.1
    · exact harrays.2
  · exact hm.values member hextra

/-- What has been read keeps the members that have no meaning. -/
theorem extra_of_read {v : Json} (hv : v.Proper) (hread : reader.ofJson v = .ok m) :
    m.extra.Beside known ∧ ∀ key ∉ known, m.extra.get? key = v.get? key := by
  cases hv with
  | obj hkeys hmembers => exact KeyMap.kept_of_rest hkeys hmembers (reader_obj.mp hread).2.2
  | _ => cases hread

end Metadata

/-! ### Records -/

namespace Record
variable {r r' : Record} {members : List (String × Json)}

def known : List String := ["id", "name", "description", "metadata"]

theorem reader_obj : reader.ofJson (.obj members) = .ok r ↔
    (Fields.optional "id" Reader.text.option none).Gives members r.id ∧
    (Fields.required "name" Reader.text).Gives members r.name ∧
    (Fields.optional "description" Reader.text.option none).Gives members r.description ∧
    (Fields.optional "metadata" (.nullAs {} Metadata.reader) {}).Gives members r.metadata ∧
    KeyMap.ofEntries (members.filter (·.1 ∉ known)) = r.extra := by
  rw [reader, Reader.openRecord_ofJson_obj]
  constructor
  · rintro ⟨make, hmake, rfl⟩
    obtain ⟨_, metadata, hthree, hmetadata, rfl⟩ := (Fields.gives_seq (by simp)).mp hmake
    obtain ⟨_, description, htwo, hdescription, rfl⟩ := (Fields.gives_seq (by simp)).mp hthree
    obtain ⟨_, name, hone, hname, rfl⟩ := (Fields.gives_seq (by simp)).mp htwo
    obtain ⟨id, hid, rfl⟩ := Fields.gives_map.mp hone
    exact ⟨hid, hname, hdescription, hmetadata, rfl⟩
  · rintro ⟨hid, hname, hdescription, hmetadata, hextra⟩
    refine ⟨Record.mk r.id r.name r.description r.metadata, ?_, hextra ▸ rfl⟩
    refine (Fields.gives_seq (by simp)).mpr ⟨_, _, ?_, hmetadata, rfl⟩
    refine (Fields.gives_seq (by simp)).mpr ⟨_, _, ?_, hdescription, rfl⟩
    refine (Fields.gives_seq (by simp)).mpr ⟨_, _, ?_, hname, rfl⟩
    exact Fields.gives_map.mpr ⟨_, hid, rfl⟩

/-- The members of a record that have a meaning. -/
def front (r : Record) : List (String × Json) :=
  Json.member? "id" (r.id.map .str) ++ [("name", .str r.name)]
  ++ Json.member? "description" (r.description.map .str) ++ [("metadata", r.metadata.toJson)]

theorem toJson_eq (r : Record) : r.toJson = .obj (r.front ++ r.extra) := rfl

theorem front_known (r : Record) : ∀ member ∈ r.front, member.1 ∈ known := by
  cases hid : r.id <;> cases hdescription : r.description <;>
    simp [front, known, Json.member?, hid, hdescription]

theorem front_nodup (r : Record) : (r.front.map (·.1)).Nodup := by
  cases hid : r.id <;> cases hdescription : r.description <;>
    simp [front, Json.member?, hid, hdescription]

/-- The members that a record keeps stand beside those with a meaning. -/
structure Tidy (r : Record) : Prop where
  extra : r.extra.Beside known
  metadata : r.metadata.extra.Beside Metadata.known

theorem get?_front (r : Record) : KeyMap.get? r.front "id" = r.id.map .str ∧
    KeyMap.get? r.front "name" = some (.str r.name) ∧
    KeyMap.get? r.front "description" = r.description.map .str ∧
    KeyMap.get? r.front "metadata" = some r.metadata.toJson := by
  simp [front, KeyMap.get?_append, KeyMap.get?_member?, KeyMap.get?_cons]

/-- An optional text is read from its member, which is left out where there is no text. -/
theorem gives_text_option {key : String} {value value' : Option String}
    (hkeys : (members.map (·.1)).Nodup)
    (hget : KeyMap.get? members key = value.map .str) :
    (Fields.optional key Reader.text.option none).Gives members value' ↔ value = value' := by
  rw [Fields.gives_optional hkeys, hget]
  cases value with
  | none => simp
  | some s =>
    have hread : Reader.text.option.ofJson (.str s) = .ok (some s) := rfl
    simp [hread]

/-- A record is read as it was written if its places are finite, and not at all if not. -/
theorem reader_toJson (hr : r.Tidy) : reader.ofJson r.toJson = .ok r' ↔
    (∀ n ∈ r.metadata.nodes, n.position.Finite) ∧ r = r' := by
  have hkeys := hr.extra.nodup_append r.front_nodup r.front_known
  have hget {key : String} {value : Option Json} (hkey : key ∈ known)
      (hfront : KeyMap.get? r.front key = value) :
      KeyMap.get? (r.front ++ r.extra) key = value := (hr.extra.get?_known hkey).trans hfront
  obtain ⟨hid, hname, hdescription, hmetadata⟩ := r.get?_front
  have hmetadata := hget (by simp [known]) hmetadata
  rw [toJson_eq, reader_obj, gives_text_option hkeys (hget (by simp [known]) hid),
    Fields.gives_required hkeys, hget (by simp [known]) hname,
    gives_text_option hkeys (hget (by simp [known]) hdescription),
    Fields.gives_optional_of_some hkeys hmetadata, Reader.nullAs_ofJson (by rintro ⟨⟩),
    Metadata.reader_toJson hr.metadata, hr.extra.rest_append r.front_known]
  constructor
  · rintro ⟨hid, ⟨_, hj, hname⟩, hdescription, ⟨hplaced, hmetadata⟩, hextra⟩
    obtain rfl := Option.some.inj hj
    obtain ⟨id, name, description, metadata, extra⟩ := r'
    obtain rfl : r.id = id := hid
    obtain rfl : r.name = name := Except.ok.inj hname
    obtain rfl : r.description = description := hdescription
    obtain rfl : r.metadata = metadata := hmetadata
    obtain rfl : r.extra = extra := hextra
    exact ⟨hplaced, rfl⟩
  · rintro ⟨hplaced, rfl⟩
    exact ⟨rfl, ⟨_, rfl, rfl⟩, rfl, ⟨hplaced, rfl⟩, rfl⟩

/-! ### Reading and writing again -/

/-- Whatever a record holds of values has the property, and its places are finite. -/
structure Holds (r : Record) (H : Json → Prop) : Prop where
  metadata : r.metadata.Holds H
  extra : r.extra.Beside known H

theorem keeps {H : Json → Prop} [Json.Hereditary H] : reader.Keeps (Holds · H) H :=
  Reader.keeps_openRecord <| .seq (.seq (.seq (.map (.optional (Reader.keeps_true _) trivial)
        fun _ _ _ _ _ _ _ hmetadata _ hrest => ⟨hmetadata, hrest⟩)
      (.required (Reader.keeps_true _)))
    (.optional (Reader.keeps_true _) trivial))
    (.optional (.nullAs Metadata.keeps (Metadata.holds_default H)) (Metadata.holds_default H))

theorem keeps_proper (v : Json) (r : Record) (hv : v.Proper) (hread : reader.ofJson v = .ok r) :
    ∀ n ∈ r.metadata.nodes, n.Proper := by
  intro n hn
  obtain ⟨hposition, hconfig⟩ := (keeps.value v r hv hread).metadata.nodes n hn
  exact ⟨hposition, hconfig⟩

theorem proper_toJson (hr : r.Tidy) (hnodes : ∀ n ∈ r.metadata.nodes, n.Proper) : r.toJson.Proper := by
  rw [toJson_eq]
  refine .obj (hr.extra.nodup_append r.front_nodup r.front_known) fun member hmember => ?_
  obtain hfront | hextra := List.mem_append.mp hmember
  · have hmetadata : r.metadata.toJson.Proper := Metadata.proper_toJson hr.metadata hnodes
    have htext : ∀ key (value : Option String), member ∈ Json.member? key (value.map .str) →
        member.2.Proper := fun key value hmem => by
      cases value with
      | none => cases hmem
      | some s => exact List.mem_singleton.mp hmem ▸ .str s
    simp only [front, List.mem_append, List.mem_singleton] at hfront
    obtain ((hid | rfl) | hdescription) | rfl := hfront
    · exact htext _ _ hid
    · exact .str r.name
    · exact htext _ _ hdescription
    · exact hmetadata
  · exact hr.extra.values member hextra

theorem extra_of_read {v : Json} (hv : v.Proper) (hread : reader.ofJson v = .ok r) :
    r.extra.Beside known ∧ ∀ key ∉ known, r.extra.get? key = v.get? key := by
  cases hv with
  | obj hkeys hmembers => exact KeyMap.kept_of_rest hkeys hmembers (reader_obj.mp hread).2.2.2.2
  | _ => cases hread

/-- Where there is no metadata, or `null` in its place, nothing is kept in it. -/
theorem metadata_of_read {v : Json} (hv : v.Proper) (hread : reader.ofJson v = .ok r) :
    r.metadata.extra.Beside Metadata.known ∧
    ∀ key ∉ Metadata.known, r.metadata.extra.get? key = (v.get? "metadata").bind (·.get? key) := by
  cases hv with
  | obj hkeys hmembers =>
    have hmetadata := (reader_obj.mp hread).2.2.2.1
    rw [Fields.gives_optional hkeys] at hmetadata
    obtain ⟨j, hget, hj⟩ | ⟨hget, hdefault⟩ := hmetadata
    · have hproper : j.Proper := hmembers _ (KeyMap.mem_of_get? hget)
      show _ ∧ ∀ key ∉ _, _ = (KeyMap.get? _ "metadata").bind _
      rw [hget]
      by_cases hnull : j = .null
      · subst hnull
        rw [← Except.ok.inj hj]
        exact ⟨KeyMap.beside_nil _, fun _ _ => rfl⟩
      · exact Metadata.extra_of_read hproper (Reader.nullAs_ofJson hnull ▸ hj)
    · show _ ∧ ∀ key ∉ _, _ = (KeyMap.get? _ "metadata").bind _
      rw [hget, ← hdefault]
      exact ⟨KeyMap.beside_nil _, fun _ _ => rfl⟩
  | _ => cases hread

/-- What is read from a JSON value is read again from what it is written as, which has all that the
record does not look into as it was. Putting the graph of a record back changes nothing, and another
graph takes the place of nodes and edges only. -/
theorem read_write {v : Json} (hv : v.Proper) (hread : reader.ofJson v = .ok r) :
    (r.toJson.Proper ∧ reader.ofJson r.toJson = .ok r) ∧
    (∀ key ∉ ["id", "name", "description", "metadata"], r.toJson.get? key = v.get? key) ∧
    (∃ metadata, r.toJson.get? "metadata" = some metadata ∧ ∀ key ∉ ["rf_nodes", "rf_edges"],
      metadata.get? key = (v.get? "metadata").bind (·.get? key)) ∧
    (∀ g, r.graph = .ok g → r.setGraph g = r) ∧
    ∀ g : Graph, g.WellFormed → (r.setGraph g).graph = .ok g.clear ∧
      ∃ nodes edges, r.setGraph g = { r with metadata := { r.metadata with nodes, edges } } := by
  obtain ⟨hextra, hvalues⟩ := extra_of_read hv hread
  obtain ⟨hmetadata, hmembers⟩ := metadata_of_read hv hread
  have hnodes := keeps_proper v r hv hread
  have htidy : r.Tidy := ⟨hextra, hmetadata⟩
  refine ⟨⟨proper_toJson htidy hnodes,
      (reader_toJson htidy).mpr ⟨fun n hn => (hnodes n hn).position, rfl⟩⟩,
    fun key hkey => ?_, ⟨r.metadata.toJson, ?_, fun key hkey => ?_⟩, fun g hg => ?_,
    fun g hg => ⟨?_, ?_⟩⟩
  · rw [← hvalues key hkey]
    exact KeyMap.get?_append_other r.front_known hkey
  · exact (hextra.get?_known (by simp [known])).trans r.get?_front.2.2.2
  · rw [← hmembers key hkey]
    exact KeyMap.get?_append_other r.metadata.front_known hkey
  · rw [(Graph.load_ok hg).1, setGraph, SavedGraph.save_graph]
  · exact Graph.load_save hg
  · exact ⟨_, _, rfl⟩

/-- A record with a node that is given as a list, and with members of its own. -/
def noted : Json := .obj
  [("description", .null), ("metadata", .obj
      [("rf_nodes", .arr
          [.arr [.str "a", .str "agent", .arr [.int 1, .int 2], .obj [("label", .str "A")]]]),
        ("zoom", .int 2)]),
    ("name", .str "draft"), ("owner", .str "team")]

theorem proper_noted : noted.Proper := by simp [noted]

theorem read_write_noted : noted.Proper ∧ ∃ r, reader.ofJson noted = .ok r ∧
    (r.toJson.Proper ∧ reader.ofJson r.toJson = .ok r) ∧
    r.toJson.get? "owner" = some (.str "team") ∧
    (∃ metadata, r.toJson.get? "metadata" = some metadata ∧ metadata.get? "zoom" = some (.int 2)) ∧
    ∃ g, r.graph = .ok g ∧ r.setGraph g = r := by
  obtain ⟨hread, hextra, ⟨metadata, hmetadata, hmembers⟩, hput, -⟩ :=
    read_write (r := _) proper_noted rfl
  exact ⟨proper_noted, _, rfl, hread, hextra "owner" (by decide),
    ⟨metadata, hmetadata, hmembers "zoom" (by decide)⟩, _, rfl, hput _ rfl⟩

end Record
end WorkflowCanvas
