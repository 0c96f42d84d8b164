import AdmissionGate.Proofs.Codec.Recovery
import AdmissionGate.Proofs.Json.Canonical
import AdmissionGate.Service

/-!
# Objects in place

What is decoded of an object in a review has the name and the namespace of the
object, or else those of the request.
-/

namespace AdmissionGate

/-! ## Members that stand alone -/

theorem lookUp?_foldl_insertEntry_of_absent {Value : Type} {key : String}
    {entries : List (String × Value)} (absent : lookUp? key entries = none) :
    ∀ start : List (String × Value),
      lookUp? key
          (entries.foldl (fun sorted entry => insertEntry entry.1 entry.2 sorted)
            start) = lookUp? key start := by
  rw [lookUp?_eq_none_iff] at absent
  induction entries with
  | nil => exact fun start => rfl
  | cons head rest ih =>
      intro start
      obtain ⟨hhead, hrest⟩ := not_or.1 (mt List.mem_cons.2 absent)
      rw [List.foldl_cons, ih hrest, lookUp?_insertEntry,
        if_neg (Ne.symm hhead)]

theorem lookUp?_sortEntries_last {Value : Type} {key : String} {value : Value}
    {back : List (String × Value)} (last : lookUp? key back = none)
    (front : List (String × Value)) :
    lookUp? key (sortEntries (front ++ [(key, value)] ++ back)) =
      some value := by
  rw [sortEntries, List.foldl_append,
    lookUp?_foldl_insertEntry_of_absent last, List.foldl_append]
  simp [lookUp?_insertEntry]

theorem lookUp?_canonicalMembers (key : String) (members : Members) :
    lookUp? key (Json.canonicalMembers members) =
      (lookUp? key members).map Json.canonical := by
  rw [Json.canonicalMembers_eq_map]
  exact lookUp?_map key Json.canonical members

theorem lookUp?_sortEntries_canonicalMembers {members : Members}
    (distinct : (entryKeys members).Nodup) (key : String) :
    lookUp? key (sortEntries (Json.canonicalMembers members)) =
      (lookUp? key members).map Json.canonical := by
  have hkeys : (entryKeys (Json.canonicalMembers members)).Nodup := by
    rw [Json.canonicalMembers_eq_map]
    simpa [entryKeys, Function.comp_def] using distinct
  rw [lookUp?_sortEntries hkeys, lookUp?_canonicalMembers]

/-! ## Metadata -/

namespace Metadata

theorem names_of_read {members : Members} {metadata : Metadata}
    (read : layout.read? members = some metadata) :
    (Field.optional "name" .string).get? members = some metadata.name ∧
      (Field.optional "namespace" .string).get? members =
        some metadata.namespaceName := by
  simp only [layout, Layout.member, Layout.start, Option.bind_eq_bind,
    Option.bind_eq_some_iff, Option.pure_def, Option.some.injEq] at read
  obtain ⟨_, ⟨_, ⟨_, ⟨_, ⟨_, ⟨_, ⟨_, ⟨_, ⟨_, ⟨_, ⟨_, ⟨_, ⟨_, ⟨_, ⟨_, rfl, _, -,
    rfl⟩, _, -, rfl⟩, _, -, rfl⟩, _, -, rfl⟩, _, -, rfl⟩, _, -, rfl⟩, _, -, rfl⟩,
    _, -, rfl⟩, _, -, rfl⟩, _, hname, rfl⟩, _, hnamespace, rfl⟩, _, -, rfl⟩,
    _, -, rfl⟩, _, -, rfl⟩, _, -, rfl⟩ := read
  exact ⟨hname, hnamespace⟩

theorem nodup_write (metadata : Metadata) :
    (entryKeys (layout.write metadata)).Nodup := by
  have hkeys : layout.Keyed :=
    Layout.Keyed.start _
      |>.member |>.member |>.member |>.member |>.member
      |>.member |>.member |>.member |>.member |>.member
      |>.member |>.member |>.member |>.member |>.member
  exact (hkeys metadata).nodup (by decide)

theorem lookUp?_write (metadata : Metadata) :
    lookUp? "name" (layout.write metadata) = metadata.name.map .string ∧
      lookUp? "namespace" (layout.write metadata) =
        metadata.namespaceName.map .string := by
  have hname := (Field.optional "name" .string).lookUp?_put metadata.name
  have hnamespace :=
    (Field.optional "namespace" .string).lookUp?_put metadata.namespaceName
  simp only [layout, Layout.member, Layout.start, lookUp?_append]
  simp (disch := decide) only [Field.lookUp?_put_of_ne]
  simp only [lookUp?, Option.none_or, Option.or_none]
  exact ⟨hname, hnamespace⟩

theorem names_of_decode {metadata decoded : Metadata}
    (read : codec.decode? (codec.encode metadata).canonical = some decoded) :
    decoded.name = metadata.name ∧
      decoded.namespaceName = metadata.namespaceName := by
  have hfound :=
    lookUp?_sortEntries_canonicalMembers metadata.nodup_write
  have hagain : ∀ (name : String) (value : Option String),
      (Field.optional name .string).read?
        ((value.map Json.string).map Json.canonical) = some value := by
    intro name value
    cases value <;> simp [Field.optional, Json.canonical, Codec.string,
      Json.string?]
  have hread : layout.read?
      (sortEntries (Json.canonicalMembers (layout.write metadata))) =
        some decoded := by
    simpa only [codec, Layout.object, Layout.decodeObject?, Json.canonical,
      Json.object?, Option.bind_some] using read
  obtain ⟨hname, hnamespace⟩ := names_of_read hread
  obtain ⟨hwritten, hwritten'⟩ := metadata.lookUp?_write
  rw [Field.get?, show (Field.optional "name" .string).name = "name" from rfl,
    hfound, hwritten, hagain, Option.some.injEq] at hname
  rw [Field.get?,
    show (Field.optional "namespace" .string).name = "namespace" from rfl,
    hfound, hwritten', hagain, Option.some.injEq] at hnamespace
  exact ⟨hname.symm, hnamespace.symm⟩

end Metadata

/-! ## Objects as they are read -/

namespace Object

def Apart (object : Object) : Prop := lookUp? "metadata" object.data = none

theorem mem_of_mem_takeType {apiVersion kind : Option String}
    {members : Members} {member : String × Json}
    (h : member ∈ (takeType apiVersion kind members).2) : member ∈ members := by
  induction members generalizing apiVersion kind with
  | nil => exact h
  | cons head rest ih =>
      obtain ⟨name, value⟩ := head
      unfold takeType at h
      split at h
      · split at h
        · exact List.mem_cons_of_mem _ (ih h)
        · exact List.mem_cons_of_mem _ h
      · split at h
        · split at h
          · exact List.mem_cons_of_mem _ (ih h)
          · exact List.mem_cons_of_mem _ h
        · rcases List.mem_cons.1 h with rfl | hrest
          · exact List.mem_cons_self
          · exact List.mem_cons_of_mem _ (ih hrest)

theorem apart_of_decode {json : Json} {object : Object}
    (read : codec.decode? json = some object) : object.Apart := by
  obtain ⟨members, -, hmembers⟩ := Option.bind_eq_some_iff.1 read
  obtain ⟨metadata, -, hobject⟩ := Option.bind_eq_some_iff.1 hmembers
  cases hobject
  refine lookUp?_eq_none_iff.2 fun found => ?_
  obtain ⟨member, hmember, hname⟩ := List.mem_map.1 found
  have hgiven := mem_of_mem_takeType (Json.mem_sortEntries hmember)
  have hother := (List.mem_filter.1 hgiven).2
  rw [hname] at hother
  exact absurd hother (by decide)

end Object

/-! ## Objects of a posted review -/

theorem Codec.decode?_of_ofText {Value : Type} {codec : Codec Value}
    {text : String} {value : Value} (read : codec.ofText text = .ok value) :
    ∃ json, codec.decode? json = some value := by
  unfold ofText at read
  cases hscan : codec.scan Json.depthLimit (Json.readFirst text.toList).1 with
  | error fault =>
      simp only [hscan] at read
      cases read
  | ok json =>
      refine ⟨json, ?_⟩
      simp only [hscan, bind, Except.bind] at read
      split at read
      · rename_i held hheld
        split at read <;> cases read
        exact hheld
      · cases read

theorem Field.decode?_of_optional {Value : Type} {name : String}
    {codec : Codec Value} {members : Members} {value : Value}
    (read : (Field.optional name codec).get? members = some (some value)) :
    ∃ json, codec.decode? json = some value := by
  simp only [get?, optional] at read
  split at read
  · cases read
  · cases read
  · rename_i json _ _
    obtain ⟨held, hheld, hvalue⟩ := Option.map_eq_some_iff.1 read
    cases hvalue
    exact ⟨json, hheld⟩

theorem Layout.read?_of_decode {Whole : Type} {layout : Layout Whole Whole}
    {least : Nat} {json : Json} {whole : Whole}
    (read : (layout.recordFrom least).decode? json = some whole) :
    ∃ members, layout.read? members = some whole := by
  cases json with
  | object members => exact ⟨members, read⟩
  | array items =>
      obtain ⟨members, -, hmembers⟩ := Option.bind_eq_some_iff.1 read
      exact ⟨members, hmembers⟩
  | _ => cases read

theorem ReviewRequest.apart_of_decode {json : Json} {request : ReviewRequest}
    (read : codec.decode? json = some request) :
    (∀ object, request.object = some object → object.Apart) ∧
      ∀ object, request.oldObject = some object → object.Apart := by
  obtain ⟨members, hmembers⟩ := Layout.read?_of_decode read
  have hobject {name : String} {given : Option Object}
      (hgiven : (Field.optional name Object.codec).get? members = some given) :
      ∀ object, given = some object → object.Apart := by
    rintro object rfl
    obtain ⟨json, hjson⟩ := Field.decode?_of_optional hgiven
    exact Object.apart_of_decode hjson
  simp only [layout, Layout.member, Layout.start, Option.bind_eq_bind,
    Option.bind_eq_some_iff, Option.pure_def, Option.some.injEq] at hmembers
  obtain ⟨_, ⟨_, ⟨_, ⟨_, ⟨_, ⟨_, ⟨_, ⟨_, ⟨_, ⟨_, ⟨_, ⟨_, ⟨_, ⟨_, ⟨_, rfl, _, -,
    rfl⟩, _, -, rfl⟩, _, -, rfl⟩, _, -, rfl⟩, _, -, rfl⟩, _, -, rfl⟩, _, -, rfl⟩,
    _, -, rfl⟩, _, -, rfl⟩, _, -, rfl⟩, _, -, rfl⟩, _, hnew, rfl⟩, _, hold, rfl⟩,
    _, -, rfl⟩, _, -, rfl⟩ := hmembers
  exact ⟨hobject hnew, hobject hold⟩

theorem Review.request_of_decode {json : Json} {review : Review}
    {request : ReviewRequest} (read : codec.decode? json = some review)
    (asked : review.request = some request) :
    ∃ json, ReviewRequest.codec.decode? json = some request := by
  obtain ⟨members, -, hmembers⟩ := Option.bind_eq_some_iff.1 read
  split at hmembers
  · simp only [layout, Layout.member, Layout.inline, Layout.start,
      Option.bind_eq_bind, Option.bind_eq_some_iff, Option.pure_def,
      Option.some.injEq] at hmembers
    obtain ⟨_, ⟨_, ⟨_, rfl, _, -, rfl⟩, _, hrequest, rfl⟩, _, -, rfl⟩ := hmembers
    cases asked
    exact Field.decode?_of_optional hrequest
  · cases hmembers

theorem ReviewRequest.apart_of_ofText {text : String} {review : Review}
    {request : ReviewRequest} (read : Review.codec.ofText text = .ok review)
    (asked : review.request = some request) {object : Object}
    (given : request.object = some object ∨ request.oldObject = some object) :
    object.Apart := by
  obtain ⟨json, hjson⟩ := Codec.decode?_of_ofText read
  obtain ⟨requestJson, hrequest⟩ := Review.request_of_decode hjson asked
  obtain ⟨hnew, hold⟩ := apart_of_decode hrequest
  exact given.elim (hnew object) (hold object)

/-! ## Models of objects in place -/

theorem OpsRequest.metadata_of_decode {members : Members} {request : OpsRequest}
    (read : codec.decode? (.object members) = some request) :
    Metadata.field.get? members = some request.metadata := by
  simp only [codec, Layout.record, Layout.recordFrom, Layout.decodeFrom?,
    layout, Layout.member, Layout.start, Option.bind_eq_bind,
    Option.bind_eq_some_iff, Option.pure_def, Option.some.injEq] at read
  obtain ⟨_, ⟨_, ⟨_, rfl, _, hmetadata, rfl⟩, _, -, rfl⟩, _, -, rfl⟩ := read
  exact hmetadata

theorem SchemaRequest.metadata_of_decode {members : Members}
    {request : SchemaRequest}
    (read : codec.decode? (.object members) = some request) :
    Metadata.field.get? members = some request.metadata := by
  simp only [codec, Layout.record, Layout.recordFrom, Layout.decodeFrom?,
    layout, Layout.member, Layout.start, Option.bind_eq_bind,
    Option.bind_eq_some_iff, Option.pure_def, Option.some.injEq] at read
  obtain ⟨_, ⟨_, ⟨_, rfl, _, hmetadata, rfl⟩, _, -, rfl⟩, _, -, rfl⟩ := read
  exact hmetadata

namespace ReviewRequest

/-- The names of an object, or else those of the request. -/
def Names (request : ReviewRequest) (object : Object) (metadata : Metadata) :
    Prop :=
  metadata.name = object.metadata.name.or
      (if request.name = "" then none else some request.name) ∧
    metadata.namespaceName =
      object.metadata.namespaceName.or request.namespaceName

theorem names_of_decode {Model : Type} {codec : Codec Model}
    {metadata : Model → Metadata}
    (hmetadata : ∀ members model, codec.decode? (.object members) = some model →
      Metadata.field.get? members = some (metadata model))
    {request : ReviewRequest} {object : Object} (apart : object.Apart)
    {model : Model}
    (read : codec.decode? (request.placed object).toJson.canonical =
      some model) :
    request.Names object (metadata model) := by
  have hwritten : (request.placed object).toJson.canonical =
      .object (sortEntries (Json.canonicalMembers object.typeMembers ++
        [("metadata", (Metadata.codec.encode
          (request.placed object).metadata).canonical)] ++
        Json.canonicalMembers object.data)) := by
    simp only [Object.toJson, Json.canonical, Json.canonicalMembers_eq_map,
      List.map_append]
    rfl
  have hdata : lookUp? "metadata" (Json.canonicalMembers object.data) = none := by
    rw [lookUp?_canonicalMembers, apart, Option.map_none]
  rw [hwritten] at read
  have hread := hmetadata _ _ read
  simp only [Field.get?, Metadata.field, Field.defaulted,
    lookUp?_sortEntries_last hdata] at hread
  obtain ⟨hname, hnamespace⟩ := Metadata.names_of_decode hread
  refine ⟨hname.trans ?_, hnamespace⟩
  simp [placed]

end ReviewRequest

end AdmissionGate
