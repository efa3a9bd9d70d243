import WorkflowCanvas.Proofs.Json.Compact
import WorkflowCanvas.Proofs.Json.Mirror
import WorkflowCanvas.Proofs.Record.Nulls
import WorkflowCanvas.Proofs.Record.Reading

/-! Pipeline records that are read from a text. They are the records of the value that the text spells, with
what they keep in key order, and are read again from what they are written as. -/
namespace WorkflowCanvas
open Reader (Mirrors mirrors_record mirrors_openRecord mirrors_text mirrors_text_option mirrors_float
  mirrors_members)

/-! ### Key order -/

def SavedData.sorted (d : SavedData) : SavedData :=
  { d with config := KeyMap.ofEntries (Json.sortedMembers d.config) }

def SavedNode.sorted (n : SavedNode) : SavedNode := { n with data := n.data.sorted }

def Metadata.sorted (m : Metadata) : Metadata :=
  { m with nodes := m.nodes.map (·.sorted), extra := Json.sortedMembers m.extra }

/-- The record with the members that it keeps, and their members, in key order. -/
def Record.sorted (r : Record) : Record :=
  { r with metadata := r.metadata.sorted, extra := Json.sortedMembers r.extra }

/-! What is read from a value in key order, or from a text, is in key order. -/

theorem SavedData.sorted_eq_self {d : SavedData} (h : (Json.obj d.config).Ordered) : d.sorted = d := by
  have hconfig := Json.obj.inj h.sorted
  rw [SavedData.sorted, hconfig]

theorem Metadata.Holds.sorted {m : Metadata} (h : m.Holds Json.Canonical) : m.sorted = m := by
  have hnode : ∀ n ∈ m.nodes, n.sorted = n := fun n hn => by
    rw [SavedNode.sorted, SavedData.sorted_eq_self (h.nodes n hn).2.ordered]
  have hnodes : m.nodes.map (·.sorted) = m.nodes := (List.map_congr_left hnode).trans m.nodes.map_id
  rw [Metadata.sorted, hnodes, Json.sortedMembers_eq_self fun x hx => (h.extra.values x hx).ordered.sorted]

namespace Record
variable {r : Record}

theorem Holds.sorted (h : r.Holds Json.Canonical) : r.sorted = r := by
  rw [Record.sorted, h.metadata.sorted,
    Json.sortedMembers_eq_self fun x hx => (h.extra.values x hx).ordered.sorted]

/-- A record that is read from a value, or from a text. -/
inductive Read (r : Record) : Prop
  | value {v : Json} (hv : v.Canonical) (hread : reader.ofJson v = .ok r)
  | text {text : String} (hread : Record.parse text = .ok r)

theorem Read.holds (h : r.Read) : r.Holds Json.Canonical := by
  cases h with
  | value hv hread => exact keeps.value _ _ hv hread
  | text hread =>
    obtain ⟨c, hread, -⟩ := Scan.whole_eq_ok.mp hread
    exact keeps.text _ _ _ hread

theorem Read.reader_toJson (h : r.Read) : reader.ofJson r.toJson = .ok r := by
  have hholds := h.holds
  have htidy : r.Tidy :=
    ⟨hholds.extra.imp fun _ hj => hj.proper, hholds.metadata.extra.imp fun _ hj => hj.proper⟩
  exact (Record.reader_toJson htidy).mpr ⟨fun n hn => (hholds.metadata.nodes n hn).1, rfl⟩

end Record

/-! ### Reading from a text -/

theorem Position.mirrors : Position.reader.Mirrors Eq :=
  mirrors_record <| .seq (.map (.required mirrors_float) fun _ _ hx _ _ hy => by rw [hx, hy])
    (.required mirrors_float)

theorem SavedData.mirrors : SavedData.reader.Mirrors fun d d' => d.sorted = d' :=
  mirrors_record <| .seq (.seq (.map (.required mirrors_text)
        fun _ _ hlabel _ _ hnotes _ _ hconfig => by rw [hlabel, hnotes, ← hconfig]; rfl)
      (.optional (.nullAs mirrors_text rfl) rfl))
    (.optional (.nullAs mirrors_members rfl) rfl)

theorem SavedNode.mirrors : SavedNode.reader.Mirrors fun n n' => n.sorted = n' :=
  mirrors_record <| .seq (.seq (.seq (.map (.required mirrors_text)
          fun _ _ hid _ _ htype _ _ hposition _ _ hdata => by
            rw [hid, htype, hposition, ← hdata]
            rfl)
        (.required mirrors_text))
      (.optional Position.mirrors rfl))
    (.required SavedData.mirrors)

theorem SavedEdge.mirrors : SavedEdge.reader.Mirrors Eq :=
  mirrors_record <| .seq (.seq (.seq (.seq (.map (.required mirrors_text)
            fun _ _ hid _ _ hsource _ _ htarget _ _ hsourceHandle _ _ htargetHandle => by
              rw [hid, hsource, htarget, hsourceHandle, htargetHandle])
          (.required mirrors_text))
        (.required mirrors_text))
      (.optional mirrors_text_option rfl))
    (.optional mirrors_text_option rfl)

theorem forall₂_image_iff {α β : Type} {f : α → β} {xs : List α} {ys : List β} :
    List.Forall₂ (fun x y => f x = y) xs ys ↔ xs.map f = ys := by
  rw [← List.forall₂_map_left_iff, List.forall₂_eq_eq_eq]

theorem Metadata.mirrors : Metadata.reader.Mirrors fun m m' => m.sorted = m' :=
  mirrors_openRecord <| .seq (.map (.optional (.nullAs (.list SavedNode.mirrors) .nil) .nil)
      fun _ _ hnodes _ _ hedges _ => by
        obtain rfl := forall₂_image_iff.mp hnodes
        obtain rfl := List.forall₂_eq_eq_eq ▸ hedges
        rfl)
    (.optional (.nullAs (.list SavedEdge.mirrors) .nil) .nil)

theorem Record.mirrors : Record.reader.Mirrors fun r r' => r.sorted = r' :=
  mirrors_openRecord <| .seq (.seq (.seq (.map (.optional mirrors_text_option rfl)
          fun _ _ hid _ _ hname _ _ hdescription _ _ hmetadata extra => by
            rw [hid, hname, hdescription, ← hmetadata]
            rfl)
        (.required mirrors_text))
      (.optional mirrors_text_option rfl))
    (.optional (.nullAs Metadata.mirrors rfl) rfl)

/-- A record is read from the text that it is written as, if every number in that reads back. -/
theorem Record.parse_compact {r : Record} (hr : r.Tidy)
    (hplaced : ∀ n ∈ r.metadata.nodes, n.position.Finite)
    (hlegible : r.toJson.Legible Cursor.maxDepth) : Record.parse r.toJson.compact = .ok r.sorted := by
  have hread := Record.mirrors.whole hlegible.spelled
  rw [(Record.reader_toJson hr).mpr ⟨hplaced, rfl⟩] at hread
  rw [Record.parse]
  generalize Scan.whole reader.ofText r.toJson.compact = parsed at hread
  cases hread with
  | ok hsorted => rw [hsorted]

/-- A text is read as one without members that are `null` where a record may lack them. -/
theorem Record.parse_sheds {text text' : String} {v v' : Json} (hv : v.Proper) (h : Record.Sheds v v')
    (htext : Json.Spelled text v) (htext' : Json.Spelled text' v') :
    (Record.parse text).toOption = (Record.parse text').toOption := by
  have hread : (Record.parse text).toOption = _ := (Record.mirrors.whole htext).toOption
  have hread' : (Record.parse text').toOption = _ := (Record.mirrors.whole htext').toOption
  rw [hread, hread', Record.equates v v' hv h]

end WorkflowCanvas
