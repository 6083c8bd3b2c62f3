import ClusterClient.Proofs.Json.Fields
import ClusterClient.Proofs.Materializer.Types
import Mathlib

namespace ClusterClient.Materializer

section

variable {α β ε : Type} {make : α → Except ε β} {items : List α}

theorem mapM_eq_ok_iff {results : List β} : items.mapM make = .ok results ↔
    List.Forall₂ (fun item result => make item = .ok result) items results := by
  induction items generalizing results with
  | nil =>
    rw [List.mapM_nil, List.forall₂_nil_left_iff]
    exact ⟨fun same => (Except.ok.inj same).symm, fun same => same ▸ rfl⟩
  | cons item rest ih =>
    rw [List.mapM_cons, List.forall₂_cons_left_iff]
    cases own : make item with
    | error error =>
      refine iff_of_false (fun same => by cases same) ?_
      rintro ⟨_, _, same, _⟩
      cases same
    | ok result =>
      cases others : rest.mapM make with
      | error error =>
        refine iff_of_false (fun same => by cases same) ?_
        rintro ⟨_, later, _, each, _⟩
        rw [ih.mpr each] at others
        cases others
      | ok later =>
        constructor
        · rintro same
          cases same
          exact ⟨result, later, rfl, ih.mp others, rfl⟩
        · rintro ⟨_, later', same, each, rfl⟩
          cases same
          rw [ih.mpr each] at others
          cases others
          rfl

/-- The first failure is the one that counts. -/
theorem mapM_eq_error_iff {error : ε} : items.mapM make = .error error ↔
    ∃ before item after, items = before ++ item :: after ∧
      (∀ earlier ∈ before, ∃ result, make earlier = .ok result) ∧ make item = .error error := by
  induction items with
  | nil =>
    refine iff_of_false (fun same => by cases same) ?_
    rintro ⟨before, item, after, split, -⟩
    exact absurd split.symm (List.append_ne_nil_of_right_ne_nil _ (List.cons_ne_nil _ _))
  | cons first rest ih =>
    rw [List.mapM_cons]
    cases own : make first with
    | error other =>
      constructor
      · intro same
        cases same
        exact ⟨[], first, rest, rfl, fun _ member => (List.not_mem_nil member).elim, own⟩
      · rintro ⟨before, item, after, split, fine, failed⟩
        cases before with
        | nil =>
          cases split
          exact congrArg Except.error (Except.error.inj (own.symm.trans failed))
        | cons head _ =>
          cases split
          obtain ⟨result, made⟩ := fine first List.mem_cons_self
          rw [own] at made
          cases made
    | ok result =>
      have later : (do
          let result ← Except.ok result
          let results ← rest.mapM make
          pure (result :: results) : Except ε (List β)) = .error error ↔
            rest.mapM make = .error error := by
        cases rest.mapM make <;> simp [bind, Except.bind, pure, Except.pure]
      rw [later, ih]
      constructor
      · rintro ⟨before, item, after, rfl, fine, failed⟩
        exact ⟨first :: before, item, after, rfl,
          List.forall_mem_cons.mpr ⟨⟨result, own⟩, fine⟩, failed⟩
      · rintro ⟨before, item, after, split, fine, failed⟩
        cases before with
        | nil =>
          cases split
          rw [own] at failed
          cases failed
        | cons _ before =>
          cases split
          exact ⟨before, item, after, rfl, (List.forall_mem_cons.mp fine).2, failed⟩

end

/-- What the envelope of a list hands down to items without a field of that name: its kind without
one `List` at the end, unless nothing is left, and its `apiVersion`. -/
inductive HandsDown (envelope : Json) : String → String → Prop where
  | itemKind {kind : String} (written : envelope.field? "kind" = some (.text (kind ++ "List")))
      (left : kind ≠ "") : HandsDown envelope "kind" kind
  | ownKind {kind : String} (written : envelope.field? "kind" = some (.text kind))
      (bare : ∀ stem, kind ≠ stem ++ "List") (left : kind ≠ "") : HandsDown envelope "kind" kind
  | apiVersion {version : String} (written : envelope.field? "apiVersion" = some (.text version)) :
      HandsDown envelope "apiVersion" version

/-- An item written out in full: an object has all that it has, whatever it is, and beside it what is
handed down. -/
inductive Completes (envelope : Json) : Json → Json → Prop where
  | object {fields full : Json.Fields} (found : ∀ name value, full.get? name = some value ↔
      fields.get? name = some value ∨ fields.get? name = none ∧
        ∃ text, value = .text text ∧ HandsDown envelope name text) :
      Completes envelope (.object fields) (.object full)
  | other {item : Json} (unfit : ∀ fields, item ≠ .object fields) : Completes envelope item item

/-- The items of a list. -/
inductive Lists (envelope : Json) : List Json → Prop where
  | listed {items : List Json} (written : envelope.field? "items" = some (.list items)) :
      Lists envelope items
  | nothing (unlisted : ∀ items, envelope.field? "items" ≠ some (.list items)) : Lists envelope []

section

variable {envelope item full : Json} {items : List Json} {kind name : String}

theorem Lists.rawItems (lists : Lists envelope items) : rawItems envelope = items := by
  rw [Materializer.rawItems]
  cases lists with
  | listed written => rw [written]; rfl
  | nothing unlisted =>
    cases found : envelope.field? "items" with
    | none => rfl
    | some value =>
      cases value with
      | list items => exact absurd found (unlisted items)
      | _ => rfl

theorem itemKind_of_text {text : String} (written : envelope.field? "kind" = some (.text text)) :
    itemKind envelope = (Text.beforeSuffix? "List" text).getD text := by
  rw [itemKind, written]
  rfl

theorem itemKind_of_no_text (missing : ∀ text, envelope.field? "kind" ≠ some (.text text)) :
    itemKind envelope = "" := by
  have nothing : (envelope.field? "kind").bind (·.text?) = none := by
    cases found : envelope.field? "kind" with
    | none => rfl
    | some value =>
      cases value with
      | text value => exact absurd found (missing value)
      | _ => rfl
  rw [itemKind, nothing]
  decide +kernel

theorem handsDown_kind_iff :
    HandsDown envelope "kind" kind ↔ itemKind envelope = kind ∧ kind ≠ "" := by
  constructor
  · intro handed
    generalize field : "kind" = name at handed
    cases handed with
    | apiVersion => exact absurd field (by decide)
    | itemKind written left =>
      rw [itemKind_of_text written, Text.beforeSuffix?_eq_some_iff.mpr rfl]
      exact ⟨rfl, left⟩
    | ownKind written bare left =>
      have whole : Text.beforeSuffix? "List" kind = none := by
        refine Option.eq_none_iff_forall_ne_some.mpr fun stem found => ?_
        exact bare stem (Text.beforeSuffix?_eq_some_iff.mp found)
      rw [itemKind_of_text written, whole]
      exact ⟨rfl, left⟩
  · rintro ⟨same, left⟩
    by_cases missing : ∀ text, envelope.field? "kind" ≠ some (.text text)
    · exact absurd (same.symm.trans (itemKind_of_no_text missing)) left
    · push Not at missing
      obtain ⟨text, written⟩ := missing
      rw [itemKind_of_text written] at same
      cases found : Text.beforeSuffix? "List" text with
      | some stem =>
        rw [found, Option.getD_some] at same
        subst same
        exact .itemKind (Text.beforeSuffix?_eq_some_iff.mp found ▸ written) left
      | none =>
        rw [found, Option.getD_none] at same
        subst same
        refine .ownKind written (fun stem split => ?_) left
        rw [Text.beforeSuffix?_eq_some_iff.mpr split] at found
        cases found

theorem handsDown_apiVersion_iff {version : String} : HandsDown envelope "apiVersion" version ↔
    (envelope.field? "apiVersion").bind (·.text?) = some version := by
  constructor
  · intro handed
    generalize field : "apiVersion" = name at handed
    cases handed with
    | apiVersion written => rw [written]; rfl
    | _ => exact absurd field (by decide)
  · intro found
    obtain ⟨value, written, text⟩ := Option.bind_eq_some_iff.mp found
    cases value with
    | text value =>
      cases text
      exact .apiVersion written
    | _ => cases text

theorem HandsDown.name_eq {text : String} (handed : HandsDown envelope name text) :
    name = "kind" ∨ name = "apiVersion" := by
  cases handed with
  | itemKind => exact Or.inl rfl
  | ownKind => exact Or.inl rfl
  | apiVersion => exact Or.inr rfl

/-- An object that inherits a field has it beside its own. -/
theorem inherit_object (field : String) (handed : Option String) (fields : Json.Fields) :
    ∃ full : Json.Fields, inherit field handed (.object fields) = .object full ∧
      (fields.IsOrdered → full.IsOrdered) ∧
      ∀ name value, full.get? name = some value ↔ fields.get? name = some value ∨
        fields.get? name = none ∧ name = field ∧ ∃ text, value = .text text ∧ handed = some text := by
  cases handed with
  | none =>
    refine ⟨fields, rfl, id, fun name value => (or_iff_left ?_).symm⟩
    rintro ⟨-, -, _, -, same⟩
    cases same
  | some text =>
    simp only [inherit]
    split
    · next has =>
      refine ⟨fields, rfl, id, fun name value => (or_iff_left ?_).symm⟩
      rintro ⟨missing, rfl, -⟩
      rw [Json.Fields.has, missing] at has
      cases has
    · next lacks =>
      have missing : fields.get? field = none := by simpa [Json.Fields.has] using lacks
      refine ⟨_, rfl, fun ordered => ordered.insert field _, fun name value => ?_⟩
      by_cases same : name = field
      · subst same
        simp [missing, eq_comm]
      · rw [Json.Fields.get?_insert_other _ _ same]
        simp [same]

theorem inherit_other (unfit : ∀ fields, item ≠ .object fields) (field : String)
    (handed : Option String) : inherit field handed item = item := by
  cases item with
  | object fields => exact absurd rfl (unfit fields)
  | _ => rfl

theorem handedKind_eq_some_iff :
    (if itemKind envelope = "" then none else some (itemKind envelope)) = some kind ↔
      HandsDown envelope "kind" kind := by
  rw [handsDown_kind_iff]
  split
  · next empty => exact iff_of_false (fun same => by cases same) fun ⟨same, left⟩ => left (same ▸ empty)
  · next left => exact ⟨fun same => Option.some.inj same ▸ ⟨rfl, left⟩, fun ⟨same, _⟩ => same ▸ rfl⟩

theorem inheritType_object (envelope : Json) (fields : Json.Fields) :
    ∃ full : Json.Fields, inheritType envelope (.object fields) = .object full ∧
      (fields.IsOrdered → full.IsOrdered) ∧
      ∀ name value, full.get? name = some value ↔ fields.get? name = some value ∨
        fields.get? name = none ∧ ∃ text, value = .text text ∧ HandsDown envelope name text := by
  obtain ⟨kinded, named, orderly, kindFound⟩ := inherit_object "kind"
    (if itemKind envelope = "" then none else some (itemKind envelope)) fields
  obtain ⟨full, made, keeps, found⟩ := inherit_object "apiVersion"
    ((envelope.field? "apiVersion").bind (·.text?)) kinded
  have whole : inheritType envelope (.object fields) = .object full := by
    rw [inheritType, named, made]
  refine ⟨full, whole, keeps ∘ orderly, fun name value => ?_⟩
  rw [found, kindFound]
  constructor
  · rintro ((own | ⟨missing, rfl, text, rfl, handed⟩) | ⟨missing, rfl, text, rfl, handed⟩)
    · exact Or.inl own
    · exact Or.inr ⟨missing, text, rfl, handedKind_eq_some_iff.mp handed⟩
    · refine Or.inr ⟨?_, text, rfl, handsDown_apiVersion_iff.mpr handed⟩
      refine Option.eq_none_iff_forall_ne_some.mpr fun value own => ?_
      rw [(kindFound _ value).mpr (Or.inl own)] at missing
      cases missing
  · rintro (own | ⟨missing, text, rfl, handed⟩)
    · exact Or.inl (Or.inl own)
    · rcases handed.name_eq with rfl | rfl
      · exact Or.inl (Or.inr ⟨missing, rfl, text, rfl, handedKind_eq_some_iff.mpr handed⟩)
      · refine Or.inr ⟨?_, rfl, text, rfl, handsDown_apiVersion_iff.mp handed⟩
        -- Inheriting a kind gives no `apiVersion`.
        refine Option.eq_none_iff_forall_ne_some.mpr fun value inherited => ?_
        rcases (kindFound _ value).mp inherited with own | ⟨-, same, -⟩
        · rw [missing] at own
          cases own
        · exact absurd same (by decide)

theorem inheritType_other (unfit : ∀ fields, item ≠ .object fields) :
    inheritType envelope item = item := by
  rw [inheritType, inherit_other unfit, inherit_other unfit]

/-- Filling in what an item lacks writes it out in full. -/
theorem inheritType_completes (envelope item : Json) :
    Completes envelope item (inheritType envelope item) := by
  by_cases unfit : ∀ fields, item ≠ .object fields
  · rw [inheritType_other unfit]
    exact .other unfit
  · push Not at unfit
    obtain ⟨fields, rfl⟩ := unfit
    obtain ⟨full, whole, -, found⟩ := inheritType_object envelope fields
    rw [whole]
    exact .object found

/-- Documents have their fields in order, so there is one way to write an item out in full. -/
theorem Completes.eq_inheritType (completes : Completes envelope item full)
    (ordered : item.IsOrdered) (ordered' : full.IsOrdered) : full = inheritType envelope item := by
  cases completes with
  | other unfit => rw [inheritType_other unfit]
  | @object fields written found =>
    obtain ⟨full, whole, keeps, found'⟩ := inheritType_object envelope fields
    cases ordered with
    | object ordered _ =>
      cases ordered' with
      | object ordered' _ =>
        have same : written = full := by
          refine ordered'.ext (keeps ordered) fun name value => ?_
          rw [found, found']
        rw [whole, same]

theorem Lists.isOrdered (lists : Lists envelope items) (ordered : envelope.IsOrdered) :
    ∀ item ∈ items, item.IsOrdered := by
  cases lists with
  | nothing => exact fun _ member => (List.not_mem_nil member).elim
  | listed written =>
    cases ordered.of_field? written with
    | list each => exact each

theorem materializeBody_eq {text : String} (materializer : Materializer)
    (read : Json.ofText? text = some full) :
    materializer.materializeBody text = materializer.materialize full := by
  rw [materializeBody, document, read]
  rfl

theorem materializeList_eq {body : String} (materializer : Materializer)
    (read : Json.ofText? body = some envelope) (lists : Lists envelope items) :
    (materializer.materializeList body).map (·.items) =
      items.mapM fun item => materializer.materialize (inheritType envelope item) := by
  rw [materializeList, document, read, ← lists.rawItems]
  dsimp only [bind, Except.bind]
  cases (rawItems envelope).mapM fun item => materializer.materialize (inheritType envelope item) <;> rfl

theorem ownText_inheritType {fields : Json.Fields} {text : String}
    (missing : fields.get? name = none) (handed : HandsDown envelope name text) :
    (inheritType envelope (.object fields)).ownText name = text := by
  obtain ⟨full, whole, -, found⟩ := inheritType_object envelope fields
  have inherited : full.get? name = some (.text text) :=
    (found name _).mpr (Or.inr ⟨missing, text, rfl, handed⟩)
  rw [whole, Json.ownText, Json.field?, inherited]

/-- A list is materialized item by item. It fails with the first item that does, and else holds what
its items are made into, one for one. An item is made into what it is when it is written out in full:
it keeps all that it has and inherits what it lacks, and so it is of the inherited type. -/
theorem materializeList_itemwise {body : String} (read : Json.ofText? body = some envelope)
    (lists : Lists envelope items) (materializer : Materializer) :
    let make := fun item => materializer.materialize (inheritType envelope item)
    ((∃ list, materializer.materializeList body = .ok list) ↔
      ∀ item ∈ items, ∃ resource, make item = .ok resource) ∧
    (∀ error, materializer.materializeList body = .error error ↔
      ∃ before item after, items = before ++ item :: after ∧
        (∀ earlier ∈ before, ∃ resource, make earlier = .ok resource) ∧
        make item = .error error) ∧
    (∀ list, materializer.materializeList body = .ok list →
      List.Forall₂ (fun item resource => make item = .ok resource) items list.items) ∧
    (∀ item ∈ items, Completes envelope item (inheritType envelope item) ∧
      ∀ text full, Json.ofText? text = some full → Completes envelope item full →
        materializer.materializeBody text = make item) ∧
    ∀ fields : Json.Fields, .object fields ∈ items → ∀ name text, fields.get? name = none →
      HandsDown envelope name text → (inheritType envelope (.object fields)).ownText name = text := by
  intro make
  have itemwise := materializeList_eq materializer read lists
  have failed_iff (error : Error) : materializer.materializeList body = .error error ↔
      ∃ before item after, items = before ++ item :: after ∧
        (∀ earlier ∈ before, ∃ resource, make earlier = .ok resource) ∧
        make item = .error error := by
    rw [← mapM_eq_error_iff, ← itemwise]
    cases materializer.materializeList body <;> simp [Except.map]
  have made (list : ResourceList) (listed : materializer.materializeList body = .ok list) :
      List.Forall₂ (fun item resource => make item = .ok resource) items list.items := by
    rw [← mapM_eq_ok_iff, ← itemwise, listed]
    rfl
  refine ⟨⟨?_, fun each => ?_⟩, failed_iff, made, fun item member => ?_,
    fun fields _ name text missing handed => ownText_inheritType missing handed⟩
  · rintro ⟨list, listed⟩
    have each := (made list listed).imp (S := fun item resource =>
      (∃ other, make item = .ok other) ∧ make item = .ok resource) fun _ _ own => ⟨⟨_, own⟩, own⟩
    exact ((List.forall₂_and_left _ _).mp each).1
  · cases listed : materializer.materializeList body with
    | ok list => exact ⟨list, rfl⟩
    | error error =>
      obtain ⟨before, item, after, rfl, -, failed⟩ := (failed_iff error).mp listed
      obtain ⟨resource, own⟩ := each item (List.mem_append_right _ List.mem_cons_self)
      rw [failed] at own
      cases own
  · refine ⟨inheritType_completes envelope item, fun text full written completes => ?_⟩
    have ordered := lists.isOrdered (Json.ofText?_isOrdered read) item member
    rw [materializeBody_eq materializer written,
      completes.eq_inheritType ordered (Json.ofText?_isOrdered written)]

end

/-- A list of two items: a kind that is null is there all the same, so only the second is a pod. -/
def podList : String :=
  "\x7b\"kind\":\"PodList\",\"apiVersion\":\"v1\",\"items\":[\x7b\"kind\":null\x7d,\x7b\x7d]\x7d"

def podEnvelope : Json :=
  .object [("apiVersion", .text "v1"), ("items", .list [.object [("kind", .null)], .object []]),
    ("kind", .text "PodList")]

/-- Makes nothing of pods. -/
def podRefuser : Materializer :=
  ofRegistrations [⟨"v1", "Pod", fun _ => .error (.configuration (.rejected "no"))⟩]

theorem materializeList_itemwise_pods :
    Json.ofText? podList = some podEnvelope ∧
      Lists podEnvelope [.object [("kind", .null)], .object []] ∧
      podRefuser.materializeList podList = .error (.configuration (.rejected "no")) ∧
      podRefuser.materializeBody "\x7b\"kind\":null,\"apiVersion\":\"v1\"\x7d"
        = .ok ⟨[("apiVersion", .text "v1"), ("kind", .null)]⟩ ∧
      (inheritType podEnvelope (.object [])).ownText "kind" = "Pod" := by
  have read : Json.ofText? podList = some podEnvelope := by cbv
  have lists : Lists podEnvelope [.object [("kind", .null)], .object []] := .listed rfl
  have handed : HandsDown podEnvelope "kind" "Pod" := .itemKind rfl (by decide)
  have whole : Json.ofText? "\x7b\"kind\":null,\"apiVersion\":\"v1\"\x7d"
      = some (inheritType podEnvelope (.object [("kind", .null)])) := by cbv
  have kept : podRefuser.materialize (inheritType podEnvelope (.object [("kind", .null)]))
      = .ok ⟨[("apiVersion", .text "v1"), ("kind", .null)]⟩ := by cbv
  have refused : podRefuser.materialize (inheritType podEnvelope (.object []))
      = .error (.configuration (.rejected "no")) := by cbv
  obtain ⟨-, failed_iff, -, completed, inherits⟩ := materializeList_itemwise read lists podRefuser
  have failed := (failed_iff (.configuration (.rejected "no"))).mpr ⟨[.object [("kind", .null)]],
    .object [], [], rfl, List.forall_mem_singleton.mpr ⟨_, kept⟩, refused⟩
  obtain ⟨completes, written⟩ := completed (.object [("kind", .null)]) List.mem_cons_self
  exact ⟨read, lists, failed, (written _ _ whole completes).trans kept,
    inherits [] (by simp) "kind" "Pod" rfl handed⟩

end ClusterClient.Materializer
