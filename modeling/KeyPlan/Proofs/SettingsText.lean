import KeyPlan.Proofs.JsonObject
import KeyPlan.Proofs.Utf8
import KeyPlan.Settings.File

/-!
# Settings that are read back

Settings are written with one field per line, each as a natural number, and each of them comes back
into its own slot. So the file of written settings holds them.

## Main definitions

* `Settings.Field`: the fields, their names and their slots

## Main results

* `Json.reads_word`: a 64-bit natural number is taken back
* `Settings.Fields.ignoresSpaces_add`, `Settings.Fields.add_name`: one member
* `Settings.reads_write`: written settings are taken back
* `Settings.load_ofText_write`: the file of written settings holds them
-/

namespace KeyPlan

namespace Json

/-- **A 64-bit natural number is taken back.** -/
theorem reads_word (n : UInt64) : Reads readWord (writeNat n.toNat) n := by
  obtain ⟨d, ds, hd, hdigit, hspace⟩ := exists_writeNat_eq_cons n.toNat
  refine ⟨⟨d, ds, hd, hspace, ?_⟩, fun rest hrest => ?_⟩
  · rintro rfl
    exact absurd hdigit (by decide)
  · have hnumber := readNumber_writeNat n hrest
    rw [hd, List.cons_append] at hnumber ⊢
    rw [readWord, skipSpace_cons hspace]
    simp [hdigit, hnumber, Number.word, ok_bind, pure_ok]

end Json

/-- The file of a text has this text. -/
theorem FileState.text_ofText (s : List Char) : (FileState.ofText s).text = .ok s := by
  simp only [ofText, text, Text.decodeUtf8_encodeUtf8]

namespace Settings

open Json (Reads Fills IgnoresSpaces Stops spaces_nil ok_bind pure_ok)

/-! ## Fields -/

/-- **The fields of settings.** -/
inductive Field where
  | actionDelay
  | appSwitchDelay
  | keyEventDelay
  | characterDelay
  deriving DecidableEq, Repr

/-- The name of the field in a settings file. -/
def Field.name : Field → String
  | actionDelay => "action_delay_ms"
  | appSwitchDelay => "app_switch_delay_ms"
  | keyEventDelay => "key_event_delay_us"
  | characterDelay => "character_delay_us"

/-- The pause of the field. -/
def get (s : Settings) : Field → UInt64
  | .actionDelay => s.actionDelayMs
  | .appSwitchDelay => s.appSwitchDelayMs
  | .keyEventDelay => s.keyEventDelayUs
  | .characterDelay => s.characterDelayUs

/-- The slot of the field. -/
def Fields.get (f : Fields) : Field → Option UInt64
  | .actionDelay => f.actionDelayMs
  | .appSwitchDelay => f.appSwitchDelayMs
  | .keyEventDelay => f.keyEventDelayUs
  | .characterDelay => f.characterDelayUs

/-- The fields with a value in the slot of one of them. -/
def Fields.set (f : Fields) (n : UInt64) : Field → Fields
  | .actionDelay => { f with actionDelayMs := some n }
  | .appSwitchDelay => { f with appSwitchDelayMs := some n }
  | .keyEventDelay => { f with keyEventDelayUs := some n }
  | .characterDelay => { f with characterDelayUs := some n }

/-! ## One member -/

/-- **Blanks around the colon do not matter** to settings. -/
theorem Fields.ignoresSpaces_add : IgnoresSpaces Fields.add := by
  intro f key gap mid s hgap hmid
  have hfill := fun name slot =>
    Json.fill_append hgap (Json.readWord_append hmid) name slot s
  simp only [Fields.add, hfill, Json.skipMember_append hgap hmid]

/-- A field that is given for the first time goes into its slot. -/
theorem Fields.add_name {f : Fields} {field : Field} (h : f.get field = none) (n : UInt64)
    {rest : List Char} (hrest : Stops rest) :
    f.add field.name (':' :: (Json.writeNat n.toNat ++ rest)) = .ok (f.set n field, rest) := by
  have hfill (name : String) := (Json.reads_word n).fill name hrest
  cases field <;> simp only [Fields.get] at h <;>
    simp [Fields.add, Field.name, Fields.set, h, hfill, ok_bind, pure_ok]

/-! ## Written settings -/

/-- **Written settings are taken back.** -/
theorem reads_write (s : Settings) :
    Reads (Json.readRecord "struct ExecutionSettings" readItems readMembers) s.write s := by
  have hblank : Json.Spaces [' '] := by decide
  have hadd {f : Fields} {field : Field} (h : f.get field = none) (n : UInt64) :
      ∀ rest, Stops rest → f.add field.name (':' :: ((' ' :: Json.writeNat n.toNat) ++ rest)) =
        .ok (f.set n field, rest) := by
    intro rest hrest
    refine Eq.trans ?_ (Fields.add_name h n hrest)
    exact Fields.ignoresSpaces_add f field.name _ spaces_nil hblank
  obtain ⟨a, b, c, d⟩ := s
  -- one field after another, in the order in which they are written
  have hfills : Fills Fields.add {}
      [(Field.actionDelay.name, ' ' :: Json.writeNat a.toNat),
        (Field.appSwitchDelay.name, ' ' :: Json.writeNat b.toNat),
        (Field.keyEventDelay.name, ' ' :: Json.writeNat c.toNat),
        (Field.characterDelay.name, ' ' :: Json.writeNat d.toNat)]
      ⟨some a, some b, some c, some d⟩ :=
    .cons (hadd rfl a) (.cons (hadd rfl b) (.cons (hadd rfl c) (.cons (hadd rfl d) (.nil _))))
  refine Reads.indentedRecord fun rest => ?_
  rw [readMembers, Fills.readMembers_indented hfills rest, ok_bind]
  rfl

/-- The settings in the file of a text are those that are read from it. -/
theorem load_ofText (text : List Char) :
    load (FileState.ofText text) = (read text).mapError .json := by
  simp only [load, FileState.text_ofText]

/-- **The file of written settings holds them.** -/
theorem load_ofText_write (s : Settings) : load (FileState.ofText s.write) = .ok s := by
  have hread : read s.write = .ok s := (reads_write s).wholeText
  rw [load_ofText, hread]
  rfl

end Settings

end KeyPlan
