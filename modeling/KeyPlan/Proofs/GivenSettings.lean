import Mathlib.Logic.Function.Basic
import KeyPlan.Proofs.JsonObject
import KeyPlan.Proofs.SettingsText

/-!
# Settings that a file gives in part

A settings file may be written by hand: its object may have the fields in any order, leave some out
and have members that the program knows nothing about, whatever their values are. Each field that is
given goes into its own slot, and everything else changes no slot.

## Main definitions

* `Settings.Gives`: the fields that the members of an object give

## Main results

* `Settings.Fields.add_unknown`: a member with an unknown name
* `Settings.Fields.exists_fills`: all members of an object
* `Settings.load_saved_or_given`: settings that were saved are loaded, and so are those that are
  given in part
-/

namespace KeyPlan.Settings

open Json (Form MemberText ObjectText Fills Stops spaces_nil spelled_self ok_bind pure_ok)

/-! ## Fields -/

theorem Field.name_injective : Function.Injective Field.name := by
  intro a b h
  cases a <;> cases b <;> first | rfl | exact absurd h (by decide)

theorem Fields.get_set (f : Fields) (n : UInt64) (field other : Field) :
    (f.set n field).get other = if other = field then some n else f.get other := by
  cases field <;> cases other <;> rfl

/-- **A field that is left out has the value of the normal preset.** -/
theorem Fields.get_settings (f : Fields) (field : Field) :
    f.settings.get field = (f.get field).getD (normal.get field) := by
  cases field <;> rfl

/-- A member with another name changes nothing, whatever its value is. -/
theorem Fields.add_unknown {key : String} (h : ∀ field : Field, key ≠ field.name)
    {text : List Char} (htext : Form .value text) (f : Fields) {rest : List Char}
    (hrest : Stops rest) : f.add key (':' :: (text ++ rest)) = .ok (f, rest) := by
  have hskip : Json.skipMember (':' :: (text ++ rest)) = .ok rest := by
    rw [Json.skipMember, Json.readColon_colon, ok_bind]
    exact @Form.skipValue [] _ _ spaces_nil htext hrest
  have haction : key ≠ "action_delay_ms" := h .actionDelay
  have hswitch : key ≠ "app_switch_delay_ms" := h .appSwitchDelay
  have hkey : key ≠ "key_event_delay_us" := h .keyEventDelay
  have hcharacter : key ≠ "character_delay_us" := h .characterDelay
  simp [Fields.add, haction, hswitch, hkey, hcharacter, hskip, ok_bind, pure_ok]

/-! ## All members -/

/-- The texts of the values that stand under a name. -/
def valuesUnder (name : String) (ms : List (String × List Char)) : List (List Char) :=
  (ms.filter (·.1 == name)).map Prod.snd

/-- **The members give these fields**, each of them once and as a natural number. Members with
other names may stand among them. -/
def Gives (ms : List (String × List Char)) (given : Field → Option UInt64) : Prop :=
  ∀ field : Field,
    valuesUnder field.name ms = (given field).toList.map fun n => Json.writeNat n.toNat

theorem valuesUnder_cons (name key : String) (text : List Char) (ms : List (String × List Char)) :
    valuesUnder name ((key, text) :: ms) =
      if key = name then text :: valuesUnder name ms else valuesUnder name ms := by
  by_cases h : key = name <;> simp [valuesUnder, h]

/-- A member with another name gives nothing. -/
theorem Gives.of_cons_unknown {key : String} {text : List Char} {ms : List (String × List Char)}
    {given : Field → Option UInt64} (hkey : ∀ field : Field, key ≠ field.name)
    (h : Gives ((key, text) :: ms) given) : Gives ms given := by
  intro field
  rw [← h field, valuesUnder_cons, if_neg (hkey field)]

/-- The member of a field gives it, and the others give the other fields. -/
theorem Gives.of_cons_name {field : Field} {text : List Char} {ms : List (String × List Char)}
    {given : Field → Option UInt64} (h : Gives ((field.name, text) :: ms) given) :
    ∃ n, given field = some n ∧ text = Json.writeNat n.toNat ∧
      Gives ms (Function.update given field none) := by
  have hfield := h field
  rw [valuesUnder_cons, if_pos rfl] at hfield
  cases hgiven : given field with
  | none =>
    rw [hgiven] at hfield
    exact nomatch hfield
  | some n =>
    rw [hgiven] at hfield
    obtain ⟨htext, hmore⟩ := List.cons.inj hfield
    refine ⟨n, rfl, htext, fun other => ?_⟩
    by_cases hother : other = field
    · subst hother
      rw [hmore, Function.update_self]
      rfl
    · have hname : field.name ≠ other.name := fun heq => hother (Field.name_injective heq).symm
      have hvalues := h other
      rw [valuesUnder_cons, if_neg hname] at hvalues
      rw [hvalues, Function.update_of_ne hother]

/-- **All members of an object** are taken, by induction on them: each field that is given goes into
its slot, which has to be empty before, and the other slots stay as they are. -/
theorem Fields.exists_fills {ms : List (String × List Char)} :
    ∀ {f : Fields} {given : Field → Option UInt64}, (∀ m ∈ ms, Form .value m.2) →
      Gives ms given → (∀ field, (given field).isSome → f.get field = none) →
      ∃ last, Fills Fields.add f ms last ∧
        ∀ field, last.get field = (given field).or (f.get field) := by
  induction ms with
  | nil =>
    intro f given _ hgives _
    refine ⟨f, .nil f, fun field => ?_⟩
    have hnone : given field = none := by simpa [valuesUnder] using hgives field
    rw [hnone, Option.none_or]
  | cons m ms ih =>
    obtain ⟨key, text⟩ := m
    intro f given hforms hgives hempty
    obtain ⟨htext, hmore⟩ := List.forall_mem_cons.mp hforms
    by_cases hkey : ∃ field : Field, key = field.name
    · obtain ⟨field, rfl⟩ := hkey
      obtain ⟨n, hn, rfl, hothers⟩ := hgives.of_cons_name
      have hslot : f.get field = none := hempty field (hn ▸ rfl)
      have hempty' : ∀ other, (Function.update given field none other).isSome →
          (f.set n field).get other = none := by
        intro other hother
        by_cases hne : other = field
        · rw [hne, Function.update_self] at hother
          exact nomatch hother
        · rw [Function.update_of_ne hne] at hother
          rw [Fields.get_set, if_neg hne, hempty other hother]
      obtain ⟨last, hfills, hlast⟩ := ih hmore hothers hempty'
      refine ⟨last, .cons (fun rest hrest => add_name hslot n hrest) hfills, fun other => ?_⟩
      rw [hlast, Fields.get_set]
      by_cases hne : other = field
      · rw [hne, Function.update_self, if_pos rfl, hn]
        rfl
      · rw [Function.update_of_ne hne, if_neg hne]
    · have hunknown : ∀ field : Field, key ≠ field.name := fun field heq => hkey ⟨field, heq⟩
      obtain ⟨last, hfills, hlast⟩ := ih hmore (hgives.of_cons_unknown hunknown) hempty
      exact ⟨last, .cons (fun rest hrest => add_unknown hunknown htext f hrest) hfills, hlast⟩

/-! ## The file -/

/-- **Settings from a file that was saved or that gives some fields.** Saved settings are loaded as
they are. Any object that gives some of the fields is loaded as these, with the normal preset for
the others, whatever its layout and its other members are. -/
theorem load_saved_or_given :
    (∀ s : Settings, load (FileState.ofText s.write) = .ok s) ∧
      ∀ {text : List Char} {ms : List (String × List Char)} {given : Field → Option UInt64},
        ObjectText text ms → Gives ms given →
          ∃ s, load (FileState.ofText text) = .ok s ∧
            ∀ field, s.get field = (given field).getD (normal.get field) := by
  refine ⟨load_ofText_write, fun {text ms given} hobject hgives => ?_⟩
  have hempty : ∀ field, (given field).isSome → Fields.get {} field = none := by
    rintro (_ | _ | _ | _) _ <;> rfl
  obtain ⟨last, hfills, hlast⟩ := Fields.exists_fills hobject.form_value hgives hempty
  have hread : read text = .ok last.settings :=
    hobject.readWholeText_record Fields.ignoresSpaces_add hfills _ readItems Fields.settings
  refine ⟨last.settings, ?_, fun field => ?_⟩
  · rw [load_ofText, hread]
    rfl
  · rw [Fields.get_settings, hlast]
    cases given field with
    | none => cases field <;> rfl
    | some n => rfl

/-- The largest value and zero, among two notes of which one holds half a surrogate pair. The name
of the first field is written with an escape. -/
theorem load_saved_or_given_notes :
    let list := "[-2.5e+3, \"\\ud800\"]".toList
    let note := " \"note\" : ".toList ++ list ++ " ".toList
    let action := "\"\\u0061ction_delay_ms\":\t18446744073709551615\n".toList
    let other := "\"note\":\x7b \x7d".toList
    let character := "\"character_delay_us\" : 0".toList
    let members := note ++ ',' :: (action ++ ',' :: (other ++ ',' :: character))
    let text := "\n\x7b".toList ++ members ++ "\x7d\r\n".toList
    let ms := [("note", list), ("action_delay_ms", "18446744073709551615".toList),
      ("note", "\x7b \x7d".toList), ("character_delay_us", "0".toList)]
    let given : Field → Option UInt64 := fun
      | .actionDelay => some 18446744073709551615
      | .characterDelay => some 0
      | _ => none
    ObjectText text ms ∧ Gives ms given ∧
      load (FileState.ofText text) = .ok ⟨18446744073709551615, 500, 10000, 0⟩ := by
  intro list note action other character members text ms given
  have hdigit {d : Char} (h : d.isDigit = true) : Json.Digits [d] :=
    ⟨List.cons_ne_nil _ _, by simpa using h⟩
  have hnumber : Form .value "-2.5e+3".toList :=
    .number (@Json.Numeric.intro ['-'] ['2'] ".5".toList "e+3".toList (.inr rfl)
      (.inr ⟨hdigit rfl, by decide⟩) (.inr ⟨['5'], hdigit rfl, rfl⟩)
      (.inr ⟨'e', ['+'], ['3'], .inl rfl, .inr (.inl rfl), hdigit rfl, rfl⟩))
  have hstring : Form .value "\"\\ud800\"".toList := .string (.hex (by decide) .nil)
  have hlist : Form .value list :=
    @Form.container .list _ (.more (@Form.item [] _ [] spaces_nil hnumber spaces_nil)
      (.last (@Form.item [' '] _ [] (by decide) hstring spaces_nil)))
  have hnote : MemberText note ("note", list) :=
    @MemberText.intro [' '] "note".toList [' '] [' '] list [' '] "note" (by decide)
      (spelled_self (by decide)) (by decide) (by decide) hlist (by decide)
  have haction : MemberText action ("action_delay_ms", "18446744073709551615".toList) :=
    @MemberText.intro [] "\\u0061ction_delay_ms".toList [] ['\t'] _ ['\n'] "action_delay_ms"
      spaces_nil (.unit (by decide) (spelled_self (by decide))) spaces_nil (by decide)
      (.number (Json.numeric_writeNat 18446744073709551615)) (by decide)
  have hother : MemberText other ("note", "\x7b \x7d".toList) :=
    @MemberText.intro [] "note".toList [] [] _ [] "note" spaces_nil (spelled_self (by decide))
      spaces_nil spaces_nil (@Form.empty .object [' '] (by decide)) spaces_nil
  have hcharacter : MemberText character ("character_delay_us", "0".toList) :=
    @MemberText.intro [] "character_delay_us".toList [' '] [' '] _ [] "character_delay_us"
      spaces_nil (spelled_self (by decide)) (by decide) (by decide)
      (.number (Json.numeric_writeNat 0)) spaces_nil
  have hobject : ObjectText text ms :=
    @ObjectText.members ['\n'] members ['\r', '\n'] ms (by decide)
      (.more hnote (.more haction (.more hother (.last hcharacter)))) (by decide)
  have hgives : Gives ms given := by
    intro field
    cases field <;> decide
  obtain ⟨⟨a, b, c, d⟩, hload, hs⟩ := load_saved_or_given.2 hobject hgives
  refine ⟨hobject, hgives, ?_⟩
  obtain rfl : a = 18446744073709551615 := hs .actionDelay
  obtain rfl : b = 500 := hs .appSwitchDelay
  obtain rfl : c = 10000 := hs .keyEventDelay
  obtain rfl : d = 0 := hs .characterDelay
  exact hload

end KeyPlan.Settings
