import KeyPlan.Action.Json
import KeyPlan.Proofs.JsonContent

/-!
# Actions that are read back

An action that was written as JSON is read back as it was. Of its kind, the field that names the
variant is read at once, and the other fields as values of any shape; these make up the kind again,
field by field. A key press is read from any list of modifiers, of which only the set matters.

## Main definitions

* `Action.writePress`: a key press with a list of modifiers

## Main results

* `KindType.reads_name`, `ActionKind.reads_fields`: the variant of a kind and its other fields
* `ActionKind.reads_write`: a kind is taken back
* `Action.read_back`: an action is read back
-/

namespace KeyPlan

open Json (Reads Fills Content readContent writeString ok_bind pure_ok reads_string
  reads_stringAs reads_content_string reads_content_null reads_content_word reads_content_list
  reads_content_object fills_contentMember)

/-! ## Fields as values of any shape -/

theorem Modifier.ofContent_name (m : Modifier) : Modifier.ofContent (.string m.name) = .ok m := by
  simp [Modifier.ofContent]

/-- **A list of the names of modifiers** makes up the set of these. -/
theorem ModifierSet.ofContent_names (ms : List Modifier) :
    ModifierSet.ofContent (.list (ms.map fun m => .string m.name)) =
      .ok (ModifierSet.ofList ms) := by
  have hnames : (ms.map fun m => Content.string m.name).mapM Modifier.ofContent =
      (.ok ms : Except Json.Error (List Modifier)) := by
    induction ms with
    | nil => rfl
    | cons m ms ih =>
      rw [List.map_cons, List.mapM_cons, Modifier.ofContent_name, ih]
      rfl
  simp [ModifierSet.ofContent, Content.asItems, hnames, ok_bind, pure_ok]

/-- The parts of a target as values of any shape. -/
def Target.content (t : Target) : Content :=
  .object [("bundle_id", t.bundleId.elim .null .string), ("name", .string t.name)]

theorem Target.ofContent_content (t : Target) : Target.ofContent t.content = .ok t := by
  rcases t with ⟨_ | id, name⟩ <;>
    simp [Target.ofContent, Target.content, TargetFields.add, fillSlot, Content.asOption,
      Content.asString, Json.require, Except.map, ok_bind, pure_ok]

theorem Target.reads_write (t : Target) (depth : Nat) :
    Reads (readContent (depth + 1)) t.write t.content := by
  have hid : Reads (readContent depth) (t.bundleId.elim "null".toList writeString)
      (t.bundleId.elim .null .string) := by
    cases t.bundleId with
    | none => exact reads_content_null depth
    | some id => exact reads_content_string depth id
  have hmembers : Fills (Json.contentMember (readContent depth)) []
      [("bundle_id", t.bundleId.elim "null".toList writeString), ("name", writeString t.name)]
      [("name", .string t.name), ("bundle_id", t.bundleId.elim .null .string)] :=
    fills_contentMember hid (fills_contentMember (reads_content_string depth t.name) (.nil _))
  exact reads_content_object hmembers

/-! ## Kinds -/

theorem KindType.reads_name (t : KindType) : Reads KindType.reader (writeString t.name) t := by
  have hname := reads_stringAs "variant identifier" t.name
  refine ⟨hname.starts, fun rest hrest => ?_⟩
  have hvariant : ofName t.name = .ok t := by cases t <;> rfl
  simp only [reader, hname.takes rest hrest, hvariant, ok_bind, pure_ok]

/-- The other fields of a kind are gathered as values of any shape, in the order of the text. -/
theorem fills_readKindMember {t : Option KindType}
    {fields : List (String × List Char × Content)} :
    ∀ before : List (String × Content),
      (∀ f ∈ fields, f.1 ≠ "type" ∧ Reads (readContent kindDepth) f.2.1 f.2.2) →
      Fills readKindMember (t, before) (fields.map fun f => (f.1, f.2.1))
        (t, before ++ fields.map fun f => (f.1, f.2.2)) := by
  induction fields with
  | nil =>
    intro before _
    rw [List.map_nil, List.map_nil, List.append_nil]
    exact .nil _
  | cons f fields ih =>
    intro before h
    obtain ⟨htype, hf⟩ := h f List.mem_cons_self
    have hhead : ∀ rest, Json.Stops rest →
        readKindMember (t, before) f.1 (':' :: (f.2.1 ++ rest)) =
          .ok ((t, before ++ [(f.1, f.2.2)]), rest) := by
      intro rest hrest
      simp only [readKindMember, htype, if_false, hf.memberValue hrest, ok_bind, pure_ok]
    have htail := ih (before ++ [(f.1, f.2.2)]) fun g hg => h g (List.mem_cons_of_mem f hg)
    rw [List.append_assoc] at htail
    exact .cons hhead htail

/-- **A kind is read** from its variant and its other fields, if the values of these make up the
kind. -/
theorem ActionKind.reads_fields {t : KindType} {fields : List (String × List Char × Content)}
    {kind : ActionKind}
    (h : ∀ f ∈ fields, f.1 ≠ "type" ∧ Reads (readContent kindDepth) f.2.1 f.2.2)
    (hkind : t.read (.object (fields.map fun f => (f.1, f.2.2))) = .ok kind) :
    Reads ActionKind.reader
      (Json.writeObject (("type", writeString t.name) :: fields.map fun f => (f.1, f.2.1)))
      kind := by
  have htype : ∀ rest, Json.Stops rest →
      readKindMember (none, []) "type" (':' :: (writeString t.name ++ rest)) =
        .ok ((some t, []), rest) := by
    intro rest hrest
    simp [readKindMember, t.reads_name.fill "type" hrest, ok_bind, pure_ok]
  have hfills := Fills.cons htype (fills_readKindMember [] h)
  have hrecord : Reads
      (Json.readRecord "internally tagged enum ActionKind" readKindItems readKindMembers)
      (Json.writeObject (("type", writeString t.name) :: fields.map fun f => (f.1, f.2.1)))
      (t, .object (fields.map fun f => (f.1, f.2.2))) := by
    refine Reads.record fun rest => ?_
    simp only [readKindMembers, hfills.readMembers rest, Json.require, ok_bind, pure_ok,
      List.nil_append]
  refine ⟨hrecord.starts, fun rest hrest => ?_⟩
  simp only [ActionKind.reader, hrecord.takes rest hrest, hkind, ok_bind, pure_ok]

/-- A kind with one field besides its variant. -/
theorem ActionKind.reads_oneField {t : KindType} {field : String} {text : List Char}
    {content : Content} {kind : ActionKind} (htype : field ≠ "type")
    (h : Reads (readContent kindDepth) text content)
    (hkind : t.read (.object [(field, content)]) = .ok kind) :
    Reads ActionKind.reader
      (Json.writeObject [("type", writeString t.name), (field, text)]) kind := by
  have hfields : ∀ f ∈ [(field, text, content)],
      f.1 ≠ "type" ∧ Reads (readContent kindDepth) f.2.1 f.2.2 :=
    List.forall_mem_singleton.mpr ⟨htype, h⟩
  exact reads_fields hfields hkind

/-- The JSON text of a key press whose modifiers are listed in any order, and maybe repeated. -/
def ActionKind.writePress (key : Char) (ms : List Modifier) : List Char :=
  Json.writeObject
    [("type", writeString KindType.keyPress.name), ("key", writeString (String.singleton key)),
      ("modifiers", Json.writeList (ms.map fun m => writeString m.name))]

theorem ActionKind.reads_writePress (key : Char) (ms : List Modifier) :
    Reads ActionKind.reader (writePress key ms) (.keyPress key (ModifierSet.ofList ms)) := by
  have hmodifiers : Reads (readContent kindDepth)
      (Json.writeList (ms.map fun m => writeString m.name))
      (.list (ms.map fun m => .string m.name)) :=
    reads_content_list fun m _ => reads_content_string _ m.name
  have hkind : KindType.keyPress.read (.object [("key", .string (String.singleton key)),
      ("modifiers", .list (ms.map fun m => .string m.name))]) =
        .ok (.keyPress key (ModifierSet.ofList ms)) := by
    simp [KindType.read, KindType.pressOf, KindType.PressFields.add, fillSlot, Content.asChar,
      ModifierSet.ofContent_names, Json.require, Except.map, ok_bind, pure_ok]
  have hfields : ∀ f ∈ [("key", writeString (String.singleton key),
        Content.string (String.singleton key)),
      ("modifiers", Json.writeList (ms.map fun m => writeString m.name),
        Content.list (ms.map fun m => .string m.name))],
      f.1 ≠ "type" ∧ Reads (readContent kindDepth) f.2.1 f.2.2 :=
    List.forall_mem_cons.mpr ⟨⟨show "key" ≠ "type" by decide, reads_content_string ..⟩,
      List.forall_mem_singleton.mpr ⟨show "modifiers" ≠ "type" by decide, hmodifiers⟩⟩
  exact reads_fields hfields hkind

/-- **A kind is taken back.** -/
theorem ActionKind.reads_write (k : ActionKind) : Reads ActionKind.reader k.write k := by
  cases k with
  | keyPress key modifiers =>
    -- the text lists the modifiers of the set once each
    have h := reads_writePress key modifiers.toList
    rwa [ModifierSet.ofList_toList] at h
  | typeText text =>
    refine reads_oneField (t := .typeText) (by decide) (reads_content_string kindDepth text) ?_
    simp [KindType.read, KindType.ofOneField, fillSlot, Content.asString, Json.require, Except.map,
      ok_bind, pure_ok]
  | delay ms =>
    refine reads_oneField (t := .delay) (by decide) (reads_content_word kindDepth ms) ?_
    simp [KindType.read, KindType.ofOneField, fillSlot, Content.asWord, Json.Number.word,
      Json.require, Except.map, ok_bind, pure_ok]
  | switchTo target =>
    -- the parts of the target have one container less around them than the field
    refine reads_oneField (t := .switchTo) (by decide) (target.reads_write 124) ?_
    simp [KindType.read, KindType.ofOneField, fillSlot, target.ofContent_content, Json.require,
      Except.map, ok_bind, pure_ok]

/-! ## Actions -/

/-- An action is taken back if its kind is. -/
theorem Action.read_writeObject {kind : ActionKind} {text : List Char}
    (h : Reads ActionKind.reader text kind) (description : String) :
    Action.read (String.ofList (Json.writeObject
      [("kind", text), ("description", writeString description)])) = .ok ⟨kind, description⟩ := by
  have hkind : ∀ rest, Json.Stops rest →
      ActionFields.add {} "kind" (':' :: (text ++ rest)) = .ok (⟨some kind, none⟩, rest) := by
    intro rest hrest
    simp [ActionFields.add, h.fill "kind" hrest, ok_bind, pure_ok]
  have hdescription : ∀ rest, Json.Stops rest →
      ActionFields.add ⟨some kind, none⟩ "description"
        (':' :: (writeString description ++ rest)) =
          .ok (⟨some kind, some description⟩, rest) := by
    intro rest hrest
    simp [ActionFields.add, (reads_string description).fill "description" hrest, ok_bind, pure_ok]
  have hfills := Fills.cons hkind (.cons hdescription (.nil _))
  have hrecord : Reads (Json.readRecord "struct Action" Action.readItems Action.readMembers)
      (Json.writeObject [("kind", text), ("description", writeString description)])
      ⟨kind, description⟩ := by
    refine Reads.record fun rest => ?_
    simp only [Action.readMembers, hfills.readMembers rest, Json.require, ok_bind, pure_ok]
  rw [Action.read, String.toList_ofList]
  exact hrecord.wholeText

/-- The JSON text of a key press whose modifiers are listed in any order, and maybe repeated. -/
def Action.writePress (key : Char) (ms : List Modifier) (description : String) : List Char :=
  Json.writeObject
    [("kind", ActionKind.writePress key ms), ("description", writeString description)]

/-- **An action is read back** as it was, in every field. A key press is read from any list of its
modifiers, in any order and with repetitions, as from the list of the set that they make up. -/
theorem Action.read_back :
    (∀ a : Action, Action.read (String.ofList a.write) = .ok a) ∧
      ∀ (key : Char) (ms : List Modifier) (description : String),
        let held := ModifierSet.ofList ms
        Action.read (String.ofList (writePress key ms description)) =
            .ok ⟨.keyPress key held, description⟩ ∧
          writePress key held.toList description =
            Action.write ⟨.keyPress key held, description⟩ ∧
          ∀ m, m ∈ held.toList ↔ m ∈ ms := by
  refine ⟨fun a => read_writeObject a.kind.reads_write a.description, ?_⟩
  intro key ms description held
  refine ⟨read_writeObject (ActionKind.reads_writePress key ms) description, rfl, fun m => ?_⟩
  simp [held]

end KeyPlan
