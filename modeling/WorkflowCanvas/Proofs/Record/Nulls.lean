import WorkflowCanvas.Proofs.Json.Absent
import WorkflowCanvas.Record

/-! Records with members that are `null`. Where a record, its metadata, the data of a node or an edge may
lack a member, `null` in its place is read as if the member were not there, in any number of places at
once, and so no list of records fails for it. -/
namespace WorkflowCanvas

/-! ### Nodes and edges -/

def SavedData.Sheds : Json → Json → Prop := Json.Sheds ["notes", "config"] fun _ => Eq

theorem SavedData.equates : SavedData.reader.Equates SavedData.Sheds :=
  .record (.seq (.seq (.map (.required (Reader.equates_eq _) (by decide)))
      (.optional (Reader.equates_eq _) fun _ => rfl))
    (.optional (Reader.equates_eq _) fun _ => rfl)) (by decide) fun _ _ _ _ h => h

/-- What may become of the value under a key of a node: nulls of its data are left out. -/
def SavedNode.Inner (key : String) : Json → Json → Prop :=
  if key = "data" then SavedData.Sheds else Eq

/-- A node keeps its members. Its data is one of them, or the fourth item where a node is a list. -/
inductive SavedNode.Sheds : Json → Json → Prop
  | same (j : Json) : Sheds j j
  | obj {members members' : List (String × Json)} (h : Json.Drops [] SavedNode.Inner members members') :
    Sheds (.obj members) (.obj members')
  | arr {id type position data data' : Json} {rest : List Json} (h : SavedData.Sheds data data') :
    Sheds (.arr (id :: type :: position :: data :: rest)) (.arr (id :: type :: position :: data' :: rest))

theorem SavedNode.equates : SavedNode.reader.Equates SavedNode.Sheds := by
  intro j j' hj h
  cases h with
  | same => rfl
  | obj hdrops =>
    refine Reader.Equates.record ?_ (List.forall_mem_nil _) ?_ _ _ hj (.obj hdrops)
    · exact .seq (.seq (.seq (.map (.required (Reader.equates_eq _) (List.not_mem_nil)))
        (.required (Reader.equates_eq _) (List.not_mem_nil)))
        (.optional (Reader.equates_eq _) fun h => absurd h List.not_mem_nil))
        (.required SavedData.equates List.not_mem_nil)
    · intro key hkey j j' h
      have hdata : key ≠ "data" := by
        rintro rfl
        exact hkey (by simp)
      rwa [SavedNode.Inner, if_neg hdata] at h
  | @arr id type position data data' rest hdata =>
    have hread := SavedData.equates data data' (Json.proper_arr_iff.mp hj data (by simp)) hdata
    exact Reader.record_arr_congr [id, type, position] rfl
      (Reader.map_ofJson_congr (Reader.map_ofJson_congr hread))

def SavedEdge.Sheds : Json → Json → Prop := Json.Sheds ["sourceHandle", "targetHandle"] fun _ => Eq

theorem SavedEdge.equates : SavedEdge.reader.Equates SavedEdge.Sheds :=
  .record (.seq (.seq (.seq (.seq (.map (.required (Reader.equates_eq _) (by decide)))
      (.required (Reader.equates_eq _) (by decide)))
      (.required (Reader.equates_eq _) (by decide)))
      (.optional (Reader.equates_eq _) fun _ => rfl))
    (.optional (Reader.equates_eq _) fun _ => rfl)) (by decide) fun _ _ _ _ h => h

/-! ### Records -/

namespace Metadata

def Inner (key : String) : Json → Json → Prop :=
  if key = "rf_nodes" then Json.Each SavedNode.Sheds
  else if key = "rf_edges" then Json.Each SavedEdge.Sheds
  else Eq

def Sheds : Json → Json → Prop := Json.Sheds ["rf_nodes", "rf_edges"] Inner

theorem inner_other {key : String} (hkey : key ∉ ["rf_nodes", "rf_edges"]) : Inner key = Eq := by
  simp only [List.mem_cons, List.not_mem_nil, or_false, not_or] at hkey
  rw [Inner, if_neg hkey.1, if_neg hkey.2]

theorem equates : reader.Equates Sheds := by
  have hnodes : Inner "rf_nodes" = Json.Each SavedNode.Sheds := if_pos rfl
  have hedges : Inner "rf_edges" = Json.Each SavedEdge.Sheds := rfl
  refine .openRecord (.seq (.map (.optional ?_ fun _ => rfl)) (.optional ?_ fun _ => rfl)) (by decide)
    fun key hkey j j' h => ?_
  · exact hnodes ▸ SavedNode.equates.nullAsList
  · exact hedges ▸ SavedEdge.equates.nullAsList
  · rwa [inner_other (by simpa using hkey)] at h

end Metadata

namespace Record

def Inner (key : String) : Json → Json → Prop := if key = "metadata" then Metadata.Sheds else Eq

/-- A record without some of the members that are `null`, be they its own, those of its metadata, or
those of its nodes' data and its edges. -/
def Sheds : Json → Json → Prop := Json.Sheds ["metadata", "id", "description"] Inner

theorem equates : reader.Equates Sheds := by
  have hmetadata : Inner "metadata" = Metadata.Sheds := if_pos rfl
  have hother (key : String) (hkey : key ≠ "metadata") : Inner key = Eq := if_neg hkey
  refine .openRecord (.seq (.seq (.seq (.map (.optional ?_ fun _ => rfl))
      (.required ?_ (by decide))) (.optional ?_ fun _ => rfl)) (.optional ?_ fun _ => rfl))
    (by decide) fun key hkey j j' h => ?_
  · exact hother "id" (by decide) ▸ Reader.equates_eq _
  · exact hother "name" (by decide) ▸ Reader.equates_eq _
  · exact hother "description" (by decide) ▸ Reader.equates_eq _
  · refine hmetadata ▸ Metadata.equates.nullAs ?_ ?_ <;> rintro _ ⟨⟩ <;> rfl
  · rwa [hother key fun heq => hkey (by simp [heq])] at h

/-- A record reads the same, or fails in the same way, with `null` or nothing in places where a record
may lack a member; so does each record of a list, and the list. -/
theorem read_sheds :
    (∀ v v', v.Proper → Sheds v v' → reader.ofJson v = reader.ofJson v') ∧
    ∀ items items', (∀ v ∈ items, v.Proper) → List.Forall₂ Sheds items items' →
      List.Forall₂ (fun v v' => reader.ofJson v = reader.ofJson v') items items' ∧
      (Reader.list reader).ofJson (.arr items) = (Reader.list reader).ofJson (.arr items') := by
  refine ⟨equates, fun items items' hproper hsheds =>
    ⟨?_, equates.list _ _ (.arr hproper) (.arr hsheds)⟩⟩
  induction hsheds with
  | nil => exact .nil
  | cons h _ ih =>
    obtain ⟨hv, hproper⟩ := List.forall_mem_cons.mp hproper
    exact .cons (equates _ _ hv h) (ih hproper)

/-- A record with `null` at every depth where it may be. -/
def sparse : Json := .obj
  [("description", .null), ("id", .null), ("metadata", .obj
      [("rf_edges", .arr [.obj [("id", .str "e"), ("source", .str "a"), ("sourceHandle", .null),
          ("target", .str "a")]]),
        ("rf_nodes", .arr [.obj [("data", .obj [("config", .null), ("label", .str "A"), ("notes", .null)]),
          ("id", .str "a"), ("type", .str "agent")]])]),
    ("name", .str "draft")]

def bare : Json := .obj
  [("metadata", .obj
      [("rf_edges", .arr [.obj [("id", .str "e"), ("source", .str "a"), ("target", .str "a")]]),
        ("rf_nodes", .arr [.obj [("data", .obj [("label", .str "A")]), ("id", .str "a"),
          ("type", .str "agent")]])]),
    ("name", .str "draft")]

theorem sheds_sparse : Sheds sparse bare := by
  have hedge : SavedEdge.Sheds (.obj [("id", .str "e"), ("source", .str "a"), ("sourceHandle", .null),
        ("target", .str "a")]) (.obj [("id", .str "e"), ("source", .str "a"), ("target", .str "a")]) :=
    .obj (.keep rfl (.keep rfl (.drop (by decide) (.keep rfl .nil))))
  have hdata : SavedData.Sheds (.obj [("config", .null), ("label", .str "A"), ("notes", .null)])
      (.obj [("label", .str "A")]) :=
    .obj (.drop (by decide) (.keep rfl (.drop (by decide) .nil)))
  have hnode : SavedNode.Sheds (.obj [("data", .obj [("config", .null), ("label", .str "A"),
        ("notes", .null)]), ("id", .str "a"), ("type", .str "agent")])
      (.obj [("data", .obj [("label", .str "A")]), ("id", .str "a"), ("type", .str "agent")]) :=
    .obj (.keep hdata (.keep rfl (.keep rfl .nil)))
  have hedges := Json.Each.arr (.cons hedge .nil)
  have hnodes := Json.Each.arr (.cons hnode .nil)
  exact .obj (.drop (by decide) (.drop (by decide)
    (.keep (Json.Sheds.obj (.keep hedges (.keep hnodes .nil))) (.keep rfl .nil))))

theorem read_sheds_sparse : sparse.Proper ∧ Sheds sparse bare ∧
    reader.ofJson sparse = reader.ofJson bare ∧ (∃ r, reader.ofJson bare = .ok r) ∧
    (Reader.list reader).ofJson (.arr [sparse, bare]) = (Reader.list reader).ofJson (.arr [bare, bare]) := by
  have hsparse : sparse.Proper := by simp [sparse]
  have hbare : bare.Proper := by simp [bare]
  have hlist := read_sheds.2 [sparse, bare] [bare, bare] (by simp [hsparse, hbare])
    (.cons sheds_sparse (.cons (.same bare) .nil))
  exact ⟨hsparse, sheds_sparse, read_sheds.1 _ _ hsparse sheds_sparse, ⟨_, rfl⟩, hlist.2⟩

end Record
end WorkflowCanvas
