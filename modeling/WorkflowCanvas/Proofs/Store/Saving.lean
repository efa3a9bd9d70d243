import WorkflowCanvas.Proofs.Web.Address
import WorkflowCanvas.Store.Backend

/-! Where a backend's records are saved. An id is put behind the address of the collection as it is, so it
names a target of its own as long as it means nothing more to an address than its characters. -/
namespace WorkflowCanvas.Backend
open Percent (encode)
variable {b : Backend} {r r' : Record} {id id' : String}

/-! ### Addresses and ids -/

/-- An address that ends with its path. -/
structure Plain (b : Backend) : Prop where
  query : '?' ∉ b.address.toList
  fragment : '#' ∉ b.address.toList
  closed : Url.Closed b.address.toList

/-- An id that is a segment of an address, and its last one. -/
structure PlainId (id : String) : Prop where
  segment : Url.Segment id.toList
  tail : Url.Tail ('/' :: id.toList)

theorem exists_slashes (b : Backend) :
    ∃ slashes, (∀ c ∈ slashes, c = '/') ∧ b.address.toList = b.base.toList ++ slashes := by
  refine ⟨(b.address.toList.reverse.takeWhile (· == '/')).reverse, fun c hc => ?_, ?_⟩
  · have hslash := List.mem_takeWhile_imp (List.mem_reverse.mp hc)
    exact beq_iff_eq.mp hslash
  · rw [base, String.toList_ofList, ← List.reverse_append, List.takeWhile_append_dropWhile,
      List.reverse_reverse]

/-- What stands behind the folders of a backend's address, if it has no query and no fragment. -/
theorem Plain.parse?_behind (hb : b.Plain) (hvalid : (Url.parse? b.address).isSome) :
    ∃ host folders, ∀ segments : List (List Char), segments ≠ [] → (∀ s ∈ segments, Url.Segment s) →
      Url.Tail (segments.flatMap ('/' :: ·)) →
      Url.parse? (String.ofList (b.base.toList ++ segments.flatMap ('/' :: ·))) =
        some ⟨host, String.ofList ((folders ++ segments.map (encode Url.inPath)).flatMap ('/' :: ·)),
          none⟩ := by
  obtain ⟨slashes, hslashes, haddress⟩ := b.exists_slashes
  obtain ⟨host, path, hpath, hparse⟩ := Url.parse?_append hslashes
    (fun h => hb.query (haddress ▸ List.mem_append_left _ h))
    (fun h => hb.fragment (haddress ▸ List.mem_append_left _ h))
    (haddress ▸ hb.closed) (by rwa [← haddress, String.ofList_toList])
  refine ⟨host, Url.folders path, fun segments hne hsegments htail => ?_⟩
  rw [← Url.pathText_append hpath hne hsegments]
  obtain ⟨s, rest, rfl⟩ := List.exists_cons_of_ne_nil hne
  exact hparse _ htail

/-- The names of the collection. -/
def names : List (List Char) := ["orchestrator".toList, "pipelines".toList]

theorem segment_names : ∀ s ∈ names, Url.Segment s := by decide

theorem PlainId.tail_names (h : PlainId id) : Url.Tail ((names ++ [id.toList]).flatMap ('/' :: ·)) := by
  have hsplit : (names ++ [id.toList]).flatMap ('/' :: ·) =
      "/orchestrator/pipelines".toList ++ '/' :: id.toList := by simp [names]
  rw [hsplit]
  refine ⟨?_, ?_, ?_, h.tail.closed.append (List.cons_ne_nil _ _)⟩
  · exact List.not_mem_append (by decide) h.tail.query
  · exact List.not_mem_append (by decide) h.tail.fragment
  · exact List.forall_mem_append.mpr ⟨List.all_eq_true.mp (by decide), h.tail.kept⟩

/-! ### Saving -/

/-- Below an address, a request puts a record in the place that its id names. -/
structure Puts (home : Url) (r : Record) (id : String) (q : Request) : Prop where
  method : q.method = .put
  body : q.body = some r.toJson
  host : q.url.host = home.host
  target : q.url.target =
    home.path ++ "orchestrator/pipelines/" ++ String.ofList (encode Url.inPath id.toList)

theorem save_request (hid : r.id = some id) {u : Url}
    (hu : Url.parse? (String.ofList (b.base.toList ++ (names ++ [id.toList]).flatMap ('/' :: ·))) = some u) :
    (b.save r).request = .ok ⟨.put, u, some r.toJson⟩ := by
  have haddress : (b.save r).address =
      String.ofList (b.base.toList ++ (names ++ [id.toList]).flatMap ('/' :: ·)) := by
    apply String.toList_injective
    simp [save, hid, collection, names]
  rw [Call.request, haddress, hu]
  simp [save, hid]

theorem Plain.save_puts (hb : b.Plain) (hvalid : (Url.parse? b.address).isSome) :
    ∃ home, Url.parse? (b.base ++ "/") = some home ∧ ∀ (r : Record) (id : String), r.id = some id →
      PlainId id → ∃ q, (b.save r).request = .ok q ∧ Puts home r id q := by
  obtain ⟨host, folders, hparse⟩ := hb.parse?_behind hvalid
  have hhome := hparse [[]] (by decide) (by decide) (by decide)
  refine ⟨_, (congrArg Url.parse? ?_).trans hhome, fun r id hid hplain => ?_⟩
  · exact String.toList_injective (by simp)
  · have hsegments : ∀ s ∈ names ++ [id.toList], Url.Segment s :=
      List.forall_mem_append.mpr ⟨segment_names, List.forall_mem_singleton.mpr hplain.segment⟩
    refine ⟨_, save_request hid (hparse _ (by simp) hsegments hplain.tail_names), rfl, rfl, rfl, ?_⟩
    have hnames : names.map (encode Url.inPath) = names := by decide
    apply String.toList_injective
    rw [List.map_append, hnames]
    simp [Url.target, names, Percent.encode]

theorem Puts.target_ne {home : Url} {q q' : Request} (h : Puts home r id q) (h' : Puts home r' id' q')
    (hid : PlainId id) (hid' : PlainId id') (hne : id ≠ id') : q.url.target ≠ q'.url.target := by
  intro heq
  rw [h.target, h'.target, String.append_right_inj, String.ofList_inj] at heq
  exact hid.segment.encode_ne (fun h => hne (String.toList_injective h)) hid'.segment.percent heq

/-- At a plain address, records with plain ids are put below the collection, each in the place that its id
names; so records with different ids are never put in one place. -/
theorem save_targets (b : Backend) (hb : b.Plain) (hvalid : (Url.parse? b.address).isSome) :
    ∃ home, Url.parse? (b.base ++ "/") = some home ∧
      ∀ (r r' : Record) (id id' : String), r.id = some id → r'.id = some id' → PlainId id → PlainId id' →
        ∃ q q', (b.save r).request = .ok q ∧ (b.save r').request = .ok q' ∧
          Puts home r id q ∧ Puts home r' id' q' ∧ (id ≠ id' → q.url.target ≠ q'.url.target) := by
  obtain ⟨home, hhome, hputs⟩ := hb.save_puts hvalid
  refine ⟨home, hhome, fun r r' id id' hid hid' hplain hplain' => ?_⟩
  obtain ⟨q, hq, hput⟩ := hputs r id hid hplain
  obtain ⟨q', hq', hput'⟩ := hputs r' id' hid' hplain'
  exact ⟨q, q', hq, hq', hput, hput', hput.target_ne hput' hplain hplain'⟩

theorem save_targets_drafts :
    ∃ q q', (save ⟨"http://server/api/"⟩ { id := some "draft", name := "Draft" }).request = .ok q ∧
      (save ⟨"http://server/api/"⟩ { id := some "draft 2", name := "Draft" }).request = .ok q' ∧
      q.url.target ≠ q'.url.target := by
  obtain ⟨home, -, htargets⟩ := save_targets ⟨"http://server/api/"⟩ ⟨by decide, by decide, by decide⟩
    (by decide +kernel)
  obtain ⟨q, q', hq, hq', -, -, hne⟩ := htargets { id := some "draft", name := "Draft" }
    { id := some "draft 2", name := "Draft" } "draft" "draft 2" rfl rfl ⟨by decide, by decide⟩
    ⟨by decide, by decide⟩
  exact ⟨q, q', hq, hq', hne (by decide)⟩

/-- What an id has behind a number sign is no part of the target. -/
theorem save_clash :
    (Url.parse? "http://server").isSome ∧
      ∃ q q', (save ⟨"http://server"⟩ { id := some "a", name := "p" }).request = .ok q ∧
        (save ⟨"http://server"⟩ { id := some "a#b", name := "p" }).request = .ok q' ∧
        q.method = .put ∧ q'.method = .put ∧ q.url.host = q'.url.host ∧
        q.url.target = "/orchestrator/pipelines/a" ∧ q'.url.target = "/orchestrator/pipelines/a" := by
  have hrequest (id : String) (hu : Url.parse? (String.ofList ((base ⟨"http://server"⟩).toList ++
      (names ++ [id.toList]).flatMap ('/' :: ·))) =
        some ⟨.name ["server".toList], "/orchestrator/pipelines/a", none⟩) :=
    save_request (r := { id := some id, name := "p" }) rfl hu
  exact ⟨by decide +kernel, _, _, hrequest "a" (by decide +kernel), hrequest "a#b" (by decide +kernel),
    rfl, rfl, rfl, rfl, rfl⟩

end WorkflowCanvas.Backend
