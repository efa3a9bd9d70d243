import WorkflowCanvas.Proofs.Json.Compact
import WorkflowCanvas.Proofs.Record.Text
import WorkflowCanvas.Store.Backend

/-! What a backend's records are listed as. A body that reports success is a list of records, or an object
with such a list under one key, and everything in it has to be a record; any other answer is an error. -/
namespace WorkflowCanvas

theorem Reader.Mirrors.toOption_whole {α : Type} {r : Reader (List α)} {f : α → α}
    (hr : r.Mirrors (List.Forall₂ fun a a' => f a = a')) {text : String} {j : Json}
    (h : Json.Spelled text j) {xs : List α} :
    (Scan.whole r.ofText text).toOption = some xs ↔ ∃ ys, r.ofJson j = .ok ys ∧ ys.map f = xs := by
  rw [((hr.whole h).imp fun _ _ => forall₂_image_iff.mp).toOption, Option.map_eq_some_iff]
  cases r.ofJson j <;> simp [Except.toOption]

namespace Backend
variable {b : Backend} {j : Json} {rs : List Record} {body : String}

/-! ### Bodies -/

/-- The value is a list of the records, or an object with such a list, and no other member, under
`pipelines`. -/
inductive Lists : Json → List Record → Prop
  | bare {items : List Json} {rs : List Record}
    (hitems : List.Forall₂ (fun j r => Record.reader.ofJson j = .ok r) items rs) : Lists (.arr items) rs
  | wrapped {members : List (String × Json)} {items : List Json} {rs : List Record}
    (hkey : members.filter (·.1 == "pipelines") = [("pipelines", .arr items)])
    (hitems : List.Forall₂ (fun j r => Record.reader.ofJson j = .ok r) items rs) : Lists (.obj members) rs

theorem lists_arr_iff {items : List Json} :
    (Reader.list Record.reader).ofJson (.arr items) = .ok rs ↔ Lists (.arr items) rs := by
  rw [Reader.list_ofJson_arr]
  exact ⟨.bare, by rintro ⟨⟩; assumption⟩

theorem lists_obj_iff {members : List (String × Json)} :
    (Reader.record "struct PipelineList" (.required "pipelines" (.list Record.reader))).ofJson (.obj members) =
      .ok rs ↔ Lists (.obj members) rs := by
  rw [Reader.record_ofJson_obj, Fields.gives_required_iff]
  constructor
  · rintro ⟨j, hkey, hread⟩
    cases j with
    | arr items => exact .wrapped hkey (Reader.list_ofJson_arr.mp hread)
    | _ => cases hread
  · rintro ⟨⟩
    exact ⟨_, ‹_›, Reader.list_ofJson_arr.mpr ‹_›⟩

theorem readList_of_spelled (h : Json.Spelled body j) :
    readList body = some rs ↔ ∃ rs', Lists j rs' ∧ rs'.map Record.sorted = rs := by
  have hbody : Json.parse body = .ok j.sorted := Json.parse_eq_ok.mpr ⟨j, h, rfl⟩
  have hrecords := Record.mirrors.list
  unfold readList
  dsimp only
  rw [hbody]
  cases j with
  | arr items =>
    simp only [Json.sorted, hrecords.toOption_whole h, lists_arr_iff]
  | obj members =>
    have hlist : (Reader.record "struct PipelineList"
        (.required "pipelines" (.list Record.reader))).Mirrors _ := Reader.mirrors_record (.required hrecords)
    simp only [Json.sorted, hlist.toOption_whole h, lists_obj_iff]
  | _ =>
    refine iff_of_false ?_ ?_
    · rintro ⟨⟩
    · rintro ⟨_, ⟨⟩, -⟩

/-- A body is read as the records, in key order, of the value that it spells. -/
theorem readList_eq_some_iff : readList body = some rs ↔
    ∃ j rs', Json.Spelled body j ∧ Lists j rs' ∧ rs'.map Record.sorted = rs := by
  constructor
  · intro hread
    cases hbody : Json.parse body with
    | error e =>
      unfold readList at hread
      rw [hbody] at hread
      cases hread
    | ok v =>
      obtain ⟨j, hspelled, -⟩ := Json.parse_eq_ok.mp hbody
      obtain ⟨rs', hlists, hrs⟩ := (readList_of_spelled hspelled).mp hread
      exact ⟨j, rs', hspelled, hlists, hrs⟩
  · rintro ⟨j, rs', hspelled, hlists, hrs⟩
    exact (readList_of_spelled hspelled).mpr ⟨rs', hlists, hrs⟩

/-- Nothing is read from a body that is no JSON. -/
theorem readList_of_parse (h : (Json.parse body).isOk = false) : readList body = none := by
  rw [Option.eq_none_iff_forall_ne_some]
  intro rs hread
  obtain ⟨j, -, hspelled, -⟩ := readList_eq_some_iff.mp hread
  rw [Json.parse_eq_ok.mpr ⟨j, hspelled, rfl⟩] at h
  cases h

/-- The value that a backend with the records answers: the list of them, or an object with the list beside
any other members. -/
inductive Serves (rs : List Record) : Json → Prop
  | bare : Serves rs (.arr (rs.map (·.toJson)))
  | wrapped (before after : List (String × Json)) (hbefore : "pipelines" ∉ before.map (·.1))
    (hafter : "pipelines" ∉ after.map (·.1)) :
    Serves rs (.obj (before ++ ("pipelines", .arr (rs.map (·.toJson))) :: after))

theorem filter_of_notMem {key : String} {members : List (String × Json)} (h : key ∉ members.map (·.1)) :
    members.filter (·.1 == key) = [] := by
  rw [List.filter_eq_nil_iff]
  rintro m hm heq
  exact h (beq_iff_eq.mp heq ▸ List.mem_map_of_mem hm)

theorem Serves.lists (h : Serves rs j) (hrs : ∀ r ∈ rs, r.Read) : Lists j rs := by
  have hitems : List.Forall₂ (fun j r => Record.reader.ofJson j = .ok r) (rs.map (·.toJson)) rs :=
    List.forall₂_map_left_iff.mpr (List.forall₂_same.mpr fun r hr => (hrs r hr).reader_toJson)
  cases h with
  | bare => exact .bare hitems
  | wrapped before after hbefore hafter =>
    refine .wrapped ?_ hitems
    rw [List.filter_append, filter_of_notMem hbefore, List.filter_cons_of_pos (by simp),
      filter_of_notMem hafter]
    rfl

/-- Records that a backend has are listed as they are. -/
theorem Serves.readList (h : Serves rs j) (hrs : ∀ r ∈ rs, r.Read) (hbody : Json.Spelled body j) :
    readList body = some rs := by
  refine readList_eq_some_iff.mpr ⟨j, rs, hbody, h.lists hrs, ?_⟩
  exact (List.map_congr_left fun r hr => (hrs r hr).holds.sorted).trans rs.map_id

/-! ### Replies -/

/-- What there is of a body under a status. -/
def content (status : Nat) (body : String) : String := if Reply.bare status then "" else body

theorem content_of_success {status : Nat} (hlow : 200 ≤ status) (hhigh : status ≤ 299)
    (hstatus : status ≠ 204) : content status body = body := by
  have hbare : Reply.bare status = false := by
    simp only [Reply.bare, Bool.or_eq_false_iff, beq_eq_false_iff_ne]
    omega
  rw [content, hbare]
  rfl

section run
variable {q : Request} {send : Request → Reply} {status : Nat} (hrequest : b.list.request = .ok q)
  (hsend : send q = .answer status body)
include hrequest hsend

theorem list_run : b.list.run send = b.list.receive (.answer status body) := by
  rw [Call.run, hrequest, ← hsend]
  rfl

theorem list_run_success (hlow : 200 ≤ status) (hhigh : status ≤ 299) :
    b.list.run send = match readList (content status body) with
      | some rs => .ok rs
      | none => .error (.http .decode) := by
  have hfinal : Reply.isFinal status = true := by simp [Reply.isFinal]; omega
  have hbody : Reply.body (.answer status body) = .ok (content status body) := by
    simp only [Reply.body, hfinal, hlow, hhigh]
    rfl
  rw [list_run hrequest hsend, Call.receive, hbody]
  have hread : b.list.read = readList := rfl
  cases hlist : readList (content status body) with
  | none => simp only [bind, Except.bind, hread, hlist]; rfl
  | some rs => simp only [bind, Except.bind, hread, hlist]; rfl

theorem list_run_status (hfinal : Reply.isFinal status = true) (hstatus : ¬(200 ≤ status ∧ status ≤ 299)) :
    b.list.run send = .error (.status status (Reply.unmarked (content status body))) := by
  have hbody : Reply.body (.answer status body) =
      .error (.status status (Reply.unmarked (content status body))) := by
    simp only [Reply.body, hfinal, if_neg hstatus]
    rfl
  rw [list_run hrequest hsend, Call.receive, hbody]
  rfl

end run

/-- Records are listed as the backend has them if its answer reports success and its body spells a value that
holds them; the text of such a value does, if its numbers are legible and its brackets are not too deep. A
body that reports success and spells no value of the kind is an error, any other answer is one with its
status and its text, and in the place of an error stand no records. -/
theorem list_outcome (b : Backend) {q : Request} (hrequest : b.list.request = .ok q) (send : Request → Reply)
    {status : Nat} {body : String} (hsend : send q = .answer status body) :
    (200 ≤ status → status ≤ 299 →
      (∀ rs j, status ≠ 204 → (∀ r ∈ rs, r.Read) → Serves rs j →
        (Json.Spelled body j → b.list.run send = .ok rs) ∧
        (j.Legible Cursor.maxDepth → body = j.compact → b.list.run send = .ok rs)) ∧
      (∀ rs, b.list.run send = .ok rs ↔ ∃ j rs', Json.Spelled (content status body) j ∧ Lists j rs' ∧
        rs'.map Record.sorted = rs) ∧
      ((∀ j rs, Json.Spelled (content status body) j → ¬Lists j rs) →
        b.list.run send = .error (.http .decode))) ∧
    (Reply.isFinal status → ¬(200 ≤ status ∧ status ≤ 299) →
      b.list.run send = .error (.status status (Reply.unmarked (content status body)))) ∧
    (∀ rs, b.list.run send = .ok rs → listOrEmpty (b.list.run send) = rs) ∧
    (∀ e, b.list.run send = .error e → listOrEmpty (b.list.run send) = []) := by
  refine ⟨fun hlow hhigh => ?_, fun hfinal hstatus => list_run_status hrequest hsend hfinal hstatus,
    fun rs h => by rw [h]; rfl, fun e h => by rw [h]; rfl⟩
  have hrun := list_run_success hrequest hsend hlow hhigh
  refine ⟨fun rs j hstatus hrs hserves => ?_, fun rs => ?_, fun hnone => ?_⟩
  · have hspelled (hbody : Json.Spelled body j) : b.list.run send = .ok rs := by
      rw [hrun, content_of_success hlow hhigh hstatus, hserves.readList hrs hbody]
    exact ⟨hspelled, fun hlegible hbody => hspelled (hbody ▸ hlegible.spelled)⟩
  · rw [hrun, ← readList_eq_some_iff]
    split
    · next hread => simp [hread]
    · next hread => simp [hread]
  · rw [hrun]
    split
    · next hread =>
      obtain ⟨j, rs, hspelled, hlists, -⟩ := readList_eq_some_iff.mp hread
      exact absurd hlists (hnone j rs hspelled)
    · rfl

/-- A record with a member that has no meaning. -/
def keeping (j : Json) : Record := { name := "Draft", extra := [("more", j)] }

theorem read_keeping {j : Json} (hj : j.Canonical) : (keeping j).Read := by
  refine .value (v := .obj [("more", j), ("name", .str "Draft")]) ⟨by simp [hj.proper], ?_⟩ rfl
  have hkeys : KeyMap.Sorted [("more", j), ("name", .str "Draft")] := by
    have hlt : "more" < "name" := by decide
    simpa [KeyMap.Sorted] using hlt
  refine .obj hkeys fun m hm => ?_
  simp only [List.mem_cons, List.not_mem_nil, or_false] at hm
  obtain rfl | rfl := hm
  · exact hj.ordered
  · exact .str _

/-- An address without a path. -/
def server : Backend := ⟨"http://server"⟩

theorem list_request_server : server.list.request =
    .ok ⟨.get, ⟨.name ["server".toList], "/orchestrator/pipelines", none⟩, none⟩ := by
  have hu : Url.parse? server.list.address =
      some ⟨.name ["server".toList], "/orchestrator/pipelines", none⟩ := by decide +kernel
  rw [Call.request, hu]
  rfl

/-- What a backend answers that counts its records. -/
def counted : Json := .obj [("total", .int 1), ("pipelines", .arr [(keeping (.str "team")).toJson])]

theorem legible_counted : counted.Legible Cursor.maxDepth := by
  simp [counted, keeping, Record.toJson, Metadata.toJson, Json.member?, Cursor.maxDepth]

theorem list_outcome_counted : ∃ q, server.list.request = .ok q ∧
    server.list.run (fun _ => .answer 200 counted.compact) = .ok [keeping (.str "team")] ∧
    server.list.run (fun _ => .answer 404 "gone") = .error (.status 404 "gone") := by
  have hread : ∀ r ∈ [keeping (.str "team")], r.Read :=
    List.forall_mem_singleton.mpr (read_keeping ⟨.str _, .str _⟩)
  have hserves : Serves [keeping (.str "team")] counted :=
    .wrapped [("total", .int 1)] [] (by decide) (by decide)
  refine ⟨_, list_request_server, ?_, ?_⟩
  · obtain ⟨hsuccess, -⟩ := list_outcome server list_request_server (fun _ => .answer 200 counted.compact) rfl
    obtain ⟨hserved, -⟩ := hsuccess (by decide) (by decide)
    exact (hserved _ counted (by decide) hread hserves).2 legible_counted rfl
  · obtain ⟨-, hstatus, -⟩ := list_outcome server list_request_server (fun _ => .answer 404 "gone") rfl
    exact hstatus (by decide) (by decide)

/-- Lists in lists, with nothing inside. -/
def nested : Nat → Json
  | 0 => .arr []
  | n + 1 => .arr [nested n]

theorem canonical_nested (n : Nat) : (nested n).Canonical := by
  induction n with
  | zero => exact ⟨.arr (List.forall_mem_nil _), .arr (List.forall_mem_nil _)⟩
  | succ n ih =>
    exact ⟨.arr (List.forall_mem_singleton.mpr ih.proper), .arr (List.forall_mem_singleton.mpr ih.ordered)⟩

theorem toList_compact_nested (n : Nat) : (nested n).compact.toList =
    List.replicate (n + 1) '[' ++ List.replicate (n + 1) ']' := by
  induction n with
  | zero =>
    rw [nested, Json.toList_compact_arr]
    rfl
  | succ n ih =>
    have hbrackets : (nested (n + 1)).compact.toList = '[' :: ((nested n).compact.toList ++ [']']) := by
      rw [nested, Json.toList_compact_arr]
      simp [commas, Json.compactItems]
    rw [hbrackets, ih, List.replicate_succ (n := n + 1), List.replicate_succ' (n := n + 1),
      List.cons_append, List.append_assoc]

theorem compact_keeping (j : Json) : (Json.arr [(keeping j).toJson]).compact =
    "[\x7b\"name\":\"Draft\",\"metadata\":\x7b\"rf_nodes\":[],\"rf_edges\":[]\x7d,\"more\":" ++
      j.compact ++ "\x7d]" := by
  have hpieces : (Json.arr [(keeping j).toJson]).compact =
      "[" ++ ("\x7b" ++ Json.quoted "name" ++ ":" ++ Json.quoted "Draft" ++ "," ++
        Json.quoted "metadata" ++ ":" ++ (Json.obj [("rf_nodes", .arr []), ("rf_edges", .arr [])]).compact ++
        "," ++ Json.quoted "more" ++ ":") ++ j.compact ++ "\x7d]" := by
    simp [keeping, Record.toJson, Metadata.toJson, Json.member?, Json.compact, Json.compactMembers,
      Json.compactItems, String.append_assoc]
  rw [hpieces]
  exact congrArg (· ++ j.compact ++ "\x7d]") (by decide +kernel)

theorem canonical_float {x : Float} (hx : x.isFinite = true) : (Json.float x).Canonical := by
  rw [Json.float, if_pos hx]
  exact ⟨.float hx, .num _⟩

/-- A number may be read back as another one, and brackets may be too deep. A reply need not have a body, or
may have one with a mark before it, and may be none at all. -/
theorem list_loss :
    ((keeping (.float 1e-23)).Read ∧ ∃ rs, server.list.run (fun _ =>
        .answer 200 (Json.arr [(keeping (.float 1e-23)).toJson]).compact) = .ok rs ∧
      rs.map (·.extra.map (·.2.compact)) = [["1.0000000000000001e-23"]] ∧ rs ≠ [keeping (.float 1e-23)]) ∧
    ((keeping (nested 125)).Read ∧ server.list.run (fun _ =>
      .answer 200 (Json.arr [(keeping (nested 125)).toJson]).compact) = .error (.http .decode)) ∧
    server.list.run (fun _ => .answer 204 (Json.arr []).compact) = .error (.http .decode) ∧
    server.list.run (fun _ => .answer 304 "gone") = .error (.status 304 "") ∧
    server.list.run (fun _ => .answer 500 "\ufeffgone") = .error (.status 500 "gone") ∧
    server.list.run (fun _ => .answer 103 "gone") = .error (.http .other) := by
  have hrun {status : Nat} {body : String} :
      server.list.run (fun _ => .answer status body) = server.list.receive (.answer status body) :=
    list_run list_request_server rfl
  have hnone {status : Nat} {body : String} (hlow : 200 ≤ status) (hhigh : status ≤ 299)
      (hread : (readList (content status body)).isNone = true) :
      server.list.run (fun _ => .answer status body) = .error (.http .decode) := by
    rw [list_run_success list_request_server rfl hlow hhigh, Option.isNone_iff_eq_none.mp hread]
  refine ⟨⟨read_keeping (canonical_float (by decide)), ?_⟩, ⟨read_keeping (canonical_nested _), ?_⟩,
    ?_, hrun, hrun, hrun⟩
  · have hread : (readList (content 200 (Json.arr [(keeping (.float 1e-23)).toJson]).compact)).map
        (·.map (·.extra.map (·.2.compact))) = some [["1.0000000000000001e-23"]] := by decide +kernel
    obtain ⟨rs, hrs, htexts⟩ := Option.map_eq_some_iff.mp hread
    refine ⟨rs, ?_, htexts, ?_⟩
    · rw [list_run_success list_request_server rfl (by decide) (by decide), hrs]
    · rintro rfl
      exact absurd htexts (by decide +kernel)
  · have hparse : (Json.parse (Json.arr [(keeping (nested 125)).toJson]).compact).isOk = false := by
      rw [compact_keeping]
      unfold Json.parse Scan.whole Cursor.start
      rw [String.toList_append, String.toList_append, toList_compact_nested]
      decide +kernel
    refine hnone (by decide) (by decide) ?_
    rw [content_of_success (by decide) (by decide) (by decide), readList_of_parse hparse]
    rfl
  · exact hnone (by decide) (by decide) (by decide +kernel)

end Backend
end WorkflowCanvas
