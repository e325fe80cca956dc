import DropletClient.Proofs.Identifier
import DropletClient.Request.Basic

namespace DropletClient

/-!
# Requests are read back

What a request asks for can be told from its path and its query: the segments of
the path name the operation and the thing that it is about, and the rest is in
the query. No two requests are spelled alike.
-/

/-- The flag that a text gives. -/
def readFlag? : String → Option Bool
  | "true" => some true
  | "false" => some false
  | _ => none

@[simp] theorem readFlag?_flagText
    (flag : Bool) :
    readFlag? (flagText flag) = some flag := by
  cases flag <;> rfl

namespace DropletAction

/-- The action that a segment and a query spell. -/
def read? (segment : String) (query : List QueryPair) : Option DropletAction :=
  match segment with
  | "reboot" => some .reboot
  | "power_cycle" => some .powerCycle
  | "shutdown" => some .shutdown
  | "power_off" => some .powerOff
  | "power_on" => some .powerOn
  | "password_reset" => some .resetPassword
  | "resize" => ((query.lookup "size_id").bind Identifier.read?).map .resize
  | "snapshot" => some (.snapshot (query.lookup "name"))
  | "restore" => ((query.lookup "image_id").bind Identifier.read?).map .restore
  | "rebuild" => ((query.lookup "image_id").bind Identifier.read?).map .rebuild
  | "rename" => (query.lookup "name").map .rename
  | "destroy" => ((query.lookup "scrub_data").bind readFlag?).map .destroy
  | _ => none

theorem read?_segment_query
    (action : DropletAction) :
    read? action.segment action.query = some action := by
  cases action with
  | snapshot name => cases name <;> rfl
  | resize sizeId => simp [read?, segment, query, Identifier.read?_text]
  | restore imageId => simp [read?, segment, query, Identifier.read?_text]
  | rebuild imageId => simp [read?, segment, query, Identifier.read?_text]
  | destroy scrubData => simp [read?, segment, query]
  | _ => rfl

end DropletAction

namespace CreateOptions

/-- The identifiers in a text with commas between them. -/
def readIds (text : String) : List Int32 :=
  ((Text.split ',' text.toList).map String.ofList).filterMap Identifier.read?

/-- The options that a query gives; what is not in it is not asked for. -/
def ofQuery (query : List QueryPair) : CreateOptions where
  sshKeyIds := ((query.lookup "ssh_key_ids").map readIds).getD []
  privateNetworking := (query.lookup "private_networking").bind readFlag?
  backupsEnabled := (query.lookup "backups_enabled").bind readFlag?

theorem readIds_joinStrings
    {ids : List Int32}
    (some : ids ≠ []) :
    readIds (Text.joinStrings "," (ids.map Identifier.text)) = ids := by
  have parts :
      Text.split ',' (Text.joinStrings "," (ids.map Identifier.text)).toList =
        (ids.map Identifier.text).map String.toList := by
    rw [Text.joinStrings, String.toList_ofList]
    apply Text.split_join
    · simpa using some
    · intro part member
      simp only [List.map_map, List.mem_map, Function.comp_apply] at member
      obtain ⟨id, _, rfl⟩ := member
      exact Identifier.not_mem_text (by decide) (by decide) id
  rw [readIds, parts]
  simp [Function.comp_def, Identifier.read?_text]

/-- What options ask for is what their query says. -/
theorem ofQuery_query
    (options : CreateOptions) :
    ofQuery options.query = options := by
  obtain ⟨ids, privateNetworking, backupsEnabled⟩ := options
  cases ids with
  | nil =>
      cases privateNetworking <;> cases backupsEnabled <;>
        simp [ofQuery, query, keyQuery, flagQuery, List.lookup_cons]
  | cons id rest =>
      have read := readIds_joinStrings (List.cons_ne_nil id rest)
      rw [List.map_cons] at read
      cases privateNetworking <;> cases backupsEnabled <;>
        simp [ofQuery, query, keyQuery, flagQuery, List.lookup_cons, read]

end CreateOptions

namespace NewDroplet

/-- The order that a query spells. -/
def ofQuery? (query : List QueryPair) : Option NewDroplet := do
  let name ← query.lookup "name"
  let imageId ← (query.lookup "image_id").bind Identifier.read?
  let sizeId ← (query.lookup "size_id").bind Identifier.read?
  let regionId ← (query.lookup "region_id").bind Identifier.read?
  return { name, imageId, sizeId, regionId, options := .ofQuery query }

theorem ofQuery?_query
    (order : NewDroplet) :
    ofQuery? order.query = some order := by
  -- the pairs of the order itself have other names than those of its options
  have options : CreateOptions.ofQuery order.query = order.options := by
    rw [← order.options.ofQuery_query]
    rfl
  rw [ofQuery?, options]
  simp [query, List.lookup_cons, Identifier.read?_text]

end NewDroplet

namespace Request

/-- The segments of the path of a request. -/
def segments : Request → List String
  | .listDroplets => ["droplets"]
  | .getDroplet id => ["droplets", Identifier.text id]
  | .createDroplet _ => ["droplets", "new"]
  | .dropletAction id action => ["droplets", Identifier.text id, action.segment]
  | .listImages => ["images"]
  | .getImage id => ["images", Identifier.text id]
  | .deleteImage id => ["images", Identifier.text id, "destroy"]
  | .transferImage id _ => ["images", Identifier.text id, "transfer"]
  | .listSizes => ["sizes"]
  | .listRegions => ["regions"]
  | .listKeys => ["ssh_keys"]
  | .getKey id => ["ssh_keys", Identifier.text id]
  | .createKey _ _ => ["ssh_keys", "new"]
  | .editKey id _ => ["ssh_keys", Identifier.text id, "edit"]
  | .deleteKey id => ["ssh_keys", Identifier.text id, "destroy"]
  | .getEvent id => ["events", Identifier.text id]

/-- The request that the segments of a path and a query spell. -/
def ofSegments?
    (segments : List String)
    (query : List QueryPair) :
    Option Request :=
  match segments with
  | ["droplets"] => some .listDroplets
  | ["droplets", "new"] => (NewDroplet.ofQuery? query).map .createDroplet
  | ["droplets", id] => (Identifier.read? id).map .getDroplet
  | ["droplets", id, segment] => do
      return .dropletAction (← Identifier.read? id)
        (← DropletAction.read? segment query)
  | ["images"] => some .listImages
  | ["images", id] => (Identifier.read? id).map .getImage
  | ["images", id, "destroy"] => (Identifier.read? id).map .deleteImage
  | ["images", id, "transfer"] => do
      let regionId ← (query.lookup "region_id").bind Identifier.read?
      return .transferImage (← Identifier.read? id) regionId
  | ["sizes"] => some .listSizes
  | ["regions"] => some .listRegions
  | ["ssh_keys"] => some .listKeys
  | ["ssh_keys", "new"] => do
      return .createKey (← query.lookup "name") (← query.lookup "ssh_pub_key")
  | ["ssh_keys", id] => (Identifier.read? id).map .getKey
  | ["ssh_keys", id, "edit"] => do
      return .editKey (← Identifier.read? id) (← query.lookup "ssh_pub_key")
  | ["ssh_keys", id, "destroy"] => (Identifier.read? id).map .deleteKey
  | ["events", id] => (Identifier.read? id).map .getEvent
  | _ => none

/-- The request that a path and a query spell; the path begins with a slash. -/
def read? (path : String) (query : List QueryPair) : Option Request :=
  match (Text.split '/' path.toList).map String.ofList with
  | "" :: segments => ofSegments? segments query
  | _ => none

theorem ofSegments?_segments_query
    (request : Request) :
    ofSegments? request.segments request.query = some request := by
  have notNew (id : Int32) : Identifier.text id ≠ "new" :=
    Identifier.text_ne (by decide) id
  cases request with
  | createDroplet order =>
      simp [segments, query, ofSegments?, NewDroplet.ofQuery?_query]
  | dropletAction id action =>
      simp [segments, query, ofSegments?, Identifier.read?_text,
        DropletAction.read?_segment_query]
  | createKey name publicKey => rfl
  | _ => simp [segments, query, ofSegments?, Identifier.read?_text, notNew]

theorem not_mem_segment
    {request : Request}
    {segment : String}
    (member : segment ∈ request.segments) :
    '/' ∉ segment.toList := by
  have notInText (id : Int32) : '/' ∉ (Identifier.text id).toList :=
    Identifier.not_mem_text (by decide) (by decide) id
  have notInAction (action : DropletAction) : '/' ∉ action.segment.toList := by
    cases action <;> simp [DropletAction.segment]
  revert segment
  cases request <;> simp [segments, notInText, notInAction]

theorem toList_path
    (request : Request) :
    request.path.toList =
      Text.join ['/'] ([] :: request.segments.map String.toList) := by
  cases request <;> simp [path, segments, Text.join]

/-- A request is what its path and its query spell. -/
theorem read?_path_query
    (request : Request) :
    read? request.path request.query = some request := by
  have parts :
      (Text.split '/' request.path.toList).map String.ofList =
        "" :: request.segments := by
    rw [toList_path, Text.split_join (List.cons_ne_nil _ _)]
    · simp
    · intro part member
      rcases List.mem_cons.mp member with rfl | isSegment
      · simp
      · obtain ⟨segment, inSegments, rfl⟩ := List.mem_map.mp isSegment
        exact not_mem_segment inSegments
  rw [read?, parts]
  exact ofSegments?_segments_query request

/--
No two requests are spelled alike. Neither are two actions on droplets, nor two
sets of options: the flags that are not given, and the keys in their order, can
be told from the query.
-/
theorem spelling_is_unambiguous :
    Function.Injective
        (fun request : Request => (request.path, request.query)) ∧
      Function.Injective
        (fun action : DropletAction => (action.segment, action.query)) ∧
      Function.Injective CreateOptions.query := by
  refine ⟨?_, ?_, ?_⟩
  · intro first second same
    obtain ⟨samePath, sameQuery⟩ := Prod.mk.inj same
    apply Option.some.inj
    rw [← read?_path_query first, ← read?_path_query second, samePath,
      sameQuery]
  · intro first second same
    obtain ⟨sameSegment, sameQuery⟩ := Prod.mk.inj same
    apply Option.some.inj
    rw [← first.read?_segment_query, ← second.read?_segment_query, sameSegment,
      sameQuery]
  · intro first second same
    rw [← first.ofQuery_query, ← second.ofQuery_query, same]

end Request

end DropletClient
