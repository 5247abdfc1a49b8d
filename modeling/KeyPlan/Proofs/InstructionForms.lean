import KeyPlan.Action.Instruction
import KeyPlan.Proofs.Trimming

/-!
# The forms of an instruction

Three forms start with a word and a colon, and one is the words that type the description. They
exclude each other, since no two of them start alike. An instruction switches, waits or types
exactly if it has one of these forms, and a switch or a delay that makes no sense is refused as such.

## Main definitions

* `ValueForm`: a start and a value, with blanks around both
* `TextForm`: a literal text, which keeps its blanks
* `InputForm`: the words that type the description
* `parsed`: what the action of an instruction does

## Main results

* `kind_of_switchForm`, `kind_of_delayForm`, `kind_of_textForm`, `kind_of_inputForm`: what an
  instruction of a form does
* `kind_cases`: an instruction has one of the forms, or is a shortcut
* `parse_forms`: what is read from the forms, and what is read only from them
-/

namespace KeyPlan.Instruction

open Text (Blank Solid Numeral trim trimStart trimEnd foldAscii cutStart?)

/-- **A start and a value** that has no blanks at its ends. The start may be in any ASCII letter
case, and there may be blanks around both. -/
def ValueForm (start raw value : List Char) : Prop :=
  ∃ before p gap after, raw = before ++ p ++ gap ++ value ++ after ∧ Blank before ∧ Blank gap ∧
    Blank after ∧ foldAscii p = foldAscii start ∧ trim value = value

/-- **A literal text** behind its start. Only blanks in front of the start do not belong to it. -/
def TextForm (raw text : List Char) : Prop :=
  ∃ before p, raw = before ++ p ++ text ∧ Blank before ∧ foldAscii p = foldAscii textStart

/-- **The words that type the description**, with blanks around them. -/
def InputForm (raw : List Char) : Prop :=
  ∃ before p after, raw = before ++ p ++ after ∧ Blank before ∧ Blank after ∧
    foldAscii p = foldAscii textInput

theorem solid_switchStart : Solid switchStart := ⟨⟨'S', rfl, by decide⟩, ⟨':', rfl, by decide⟩⟩

theorem solid_delayStart : Solid delayStart := ⟨⟨'D', rfl, by decide⟩, ⟨':', rfl, by decide⟩⟩

theorem solid_textStart : Solid textStart := ⟨⟨'T', rfl, by decide⟩, ⟨':', rfl, by decide⟩⟩

theorem solid_textInput : Solid textInput := ⟨⟨'t', rfl, by decide⟩, ⟨'t', rfl, by decide⟩⟩

theorem ValueForm.trim_eq {start raw value : List Char} (h : ValueForm start raw value) :
    trim value = value := by
  obtain ⟨_, _, _, _, -, -, -, -, -, htrim⟩ := h
  exact htrim

/-! ## The forms are what is looked for -/

/-- A start and a value are what is left when the start is cut and the rest is trimmed. -/
theorem valueForm_iff {start raw value : List Char} (hstart : Solid start) :
    ValueForm start raw value ↔
      ∃ rest, cutStart? start (trim raw) = some rest ∧ trim rest = value := by
  constructor
  · rintro ⟨before, p, gap, after, rfl, hbefore, hgap, hafter, hp, hvalue⟩
    -- the start keeps its place, and the blanks between it and the value are still there
    have htrim : trim (before ++ p ++ gap ++ value ++ after) = p ++ trimEnd (gap ++ value) := by
      have hends := Text.trim_of_blank hbefore hafter (p ++ (gap ++ value))
      rw [(hstart.of_foldAscii hp).trim_append] at hends
      simpa only [List.append_assoc] using hends
    refine ⟨trimEnd (gap ++ value), by rw [htrim, Text.cutStart?_append _ hp], ?_⟩
    have hgaps := Text.trim_of_blank hgap (List.forall_mem_nil _) value
    rw [List.append_nil] at hgaps
    rw [Text.trim_trimEnd, hgaps, hvalue]
  · rintro ⟨rest, hcut, rfl⟩
    obtain ⟨before, after, hraw, hbefore, hafter⟩ := Text.exists_trim raw
    obtain ⟨p, hp, hfold⟩ := Text.exists_of_cutStart? hcut
    -- what is trimmed at the end of the rest belongs to the blanks behind the value
    obtain ⟨gap, gap', hrest, hgap, hgap'⟩ := Text.exists_trim rest
    refine ⟨before, p, gap, gap' ++ after, ?_, hbefore, hgap, hgap'.append hafter, hfold,
      Text.trim_trim rest⟩
    calc raw = before ++ (p ++ rest) ++ after := by rw [← hp, ← hraw]
      _ = before ++ (p ++ (gap ++ trim rest ++ gap')) ++ after := by rw [← hrest]
      _ = before ++ p ++ gap ++ trim rest ++ (gap' ++ after) := by simp only [List.append_assoc]

theorem textForm_iff {raw text : List Char} :
    TextForm raw text ↔ cutStart? textStart (trimStart raw) = some text := by
  constructor
  · rintro ⟨before, p, rfl, hbefore, hp⟩
    rw [List.append_assoc, Text.trimStart_of_blank hbefore,
      (solid_textStart.of_foldAscii hp).trimStart_append, Text.cutStart?_append _ hp]
  · intro h
    obtain ⟨before, hraw, hbefore⟩ := Text.exists_trimStart raw
    obtain ⟨p, hp, hfold⟩ := Text.exists_of_cutStart? h
    exact ⟨before, p, by rw [List.append_assoc, ← hp, ← hraw], hbefore, hfold⟩

theorem inputForm_iff {raw : List Char} : InputForm raw ↔ foldAscii (trim raw) = textInput := by
  have hfold : foldAscii textInput = textInput := by decide
  constructor
  · rintro ⟨before, p, after, rfl, hbefore, hafter, hp⟩
    rw [Text.trim_of_blank hbefore hafter, (solid_textInput.of_foldAscii hp).trim_eq, hp, hfold]
  · intro h
    obtain ⟨before, after, hraw, hbefore, hafter⟩ := Text.exists_trim raw
    exact ⟨before, trim raw, after, hraw, hbefore, hafter, h.trans hfold.symm⟩

/-! ## The forms exclude each other -/

/-- The instruction starts with `start` in some letter case. -/
def StartsWith (start raw : List Char) : Prop := foldAscii start <+: foldAscii (trim raw)

theorem startsWith_of_trim {start raw p rest : List Char} (h : trim raw = p ++ rest)
    (hp : foldAscii p = foldAscii start) : StartsWith start raw := by
  rw [StartsWith, h, foldAscii, foldAscii, List.map_append]
  exact ⟨foldAscii rest, congrArg (· ++ foldAscii rest) hp.symm⟩

theorem startsWith_of_cutStart? {start raw rest : List Char}
    (h : cutStart? start (trim raw) = some rest) : StartsWith start raw := by
  obtain ⟨p, hp, hfold⟩ := Text.exists_of_cutStart? h
  exact startsWith_of_trim hp hfold

/-- A literal text may end with blanks, but its start does not. -/
theorem TextForm.startsWith {raw text : List Char} (h : TextForm raw text) :
    StartsWith textStart raw := by
  obtain ⟨before, p, rfl, hbefore, hp⟩ := h
  have htrim : trim (before ++ p ++ text) = p ++ trimEnd text := by
    rw [trim, List.append_assoc, Text.trimStart_of_blank hbefore]
    exact (solid_textStart.of_foldAscii hp).trim_append text
  exact startsWith_of_trim htrim hp

theorem InputForm.startsWith {raw : List Char} (h : InputForm raw) : StartsWith textInput raw := by
  rw [StartsWith, inputForm_iff.mp h]
  decide

/-- What starts with one word does not start with another one. -/
theorem not_startsWith {a b raw : List Char} (h : StartsWith b raw)
    (hab : ¬ foldAscii a <+: foldAscii b) (hba : ¬ foldAscii b <+: foldAscii a) :
    ¬ StartsWith a raw := by
  intro ha
  rcases List.prefix_or_prefix_of_prefix ha h with hp | hp
  · exact hab hp
  · exact hba hp

theorem cutStart?_eq_none {a b raw : List Char} (h : StartsWith b raw)
    (hab : ¬ foldAscii a <+: foldAscii b) (hba : ¬ foldAscii b <+: foldAscii a) :
    cutStart? a (trim raw) = none :=
  Option.eq_none_iff_forall_ne_some.mpr fun _ hcut =>
    not_startsWith h hab hba (startsWith_of_cutStart? hcut)

/-! ## What the forms do -/

section Kind

variable {raw : List Char} (description : List Char)

theorem kind_of_switchForm {name : List Char} (h : ValueForm switchStart raw name) :
    kind raw description = switchKind name := by
  obtain ⟨rest, hcut, rfl⟩ := (valueForm_iff solid_switchStart).mp h
  simp only [kind, hcut, switchKind, Text.trim_trim]

theorem kind_of_delayForm {value : List Char} (h : ValueForm delayStart raw value) :
    kind raw description = delayKind value := by
  obtain ⟨rest, hcut, rfl⟩ := (valueForm_iff solid_delayStart).mp h
  have hswitch : cutStart? switchStart (trim raw) = none :=
    cutStart?_eq_none (startsWith_of_cutStart? hcut) (by decide) (by decide)
  simp only [kind, hswitch, hcut, delayKind, Text.trim_trim]

theorem kind_of_textForm {text : List Char} (h : TextForm raw text) :
    kind raw description = textKind text := by
  have hswitch : cutStart? switchStart (trim raw) = none :=
    cutStart?_eq_none h.startsWith (by decide) (by decide)
  have hdelay : cutStart? delayStart (trim raw) = none :=
    cutStart?_eq_none h.startsWith (by decide) (by decide)
  simp only [kind, hswitch, hdelay, textForm_iff.mp h]

theorem kind_of_inputForm (h : InputForm raw) : kind raw description = inputKind description := by
  have hswitch : cutStart? switchStart (trim raw) = none :=
    cutStart?_eq_none h.startsWith (by decide) (by decide)
  have hdelay : cutStart? delayStart (trim raw) = none :=
    cutStart?_eq_none h.startsWith (by decide) (by decide)
  -- a literal text is looked for before the end is trimmed
  have htext : cutStart? textStart (trimStart raw) = none := by
    refine Option.eq_none_iff_forall_ne_some.mpr fun text hcut => ?_
    exact not_startsWith h.startsWith (by decide) (by decide) (textForm_iff.mpr hcut).startsWith
  simp only [kind, hswitch, hdelay, htext, if_pos (inputForm_iff.mp h)]

/-- **An instruction has one of the forms**, or it is a shortcut. -/
theorem kind_cases (raw description : List Char) :
    (∃ name, ValueForm switchStart raw name) ∨ (∃ value, ValueForm delayStart raw value) ∨
      (∃ text, TextForm raw text) ∨ InputForm raw ∨
      kind raw description = shortcutKind (trim raw) := by
  cases hswitch : cutStart? switchStart (trim raw) with
  | some rest => exact .inl ⟨_, (valueForm_iff solid_switchStart).mpr ⟨rest, hswitch, rfl⟩⟩
  | none =>
    cases hdelay : cutStart? delayStart (trim raw) with
    | some rest => exact .inr (.inl ⟨_, (valueForm_iff solid_delayStart).mpr ⟨rest, hdelay, rfl⟩⟩)
    | none =>
      cases htext : cutStart? textStart (trimStart raw) with
      | some text => exact .inr (.inr (.inl ⟨text, textForm_iff.mpr htext⟩))
      | none =>
        by_cases hinput : foldAscii (trim raw) = textInput
        · exact .inr (.inr (.inr (.inl (inputForm_iff.mpr hinput))))
        · simp only [kind, hswitch, hdelay, htext, if_neg hinput, or_true]

end Kind

/-! ## What is read -/

theorem ite_eq_ok_iff {c : Prop} [Decidable c] {e : Error} {a k : ActionKind} :
    (if c then .error e else .ok a : Except Error ActionKind) = .ok k ↔ ¬ c ∧ k = a := by
  split
  · next hc => exact ⟨nofun, fun h => absurd hc h.1⟩
  · next hc => exact ⟨fun h => ⟨hc, (Except.ok.inj h).symm⟩, fun h => congrArg _ h.2.symm⟩

theorem switchKind_eq_ok_iff {name : List Char} {k : ActionKind} (hname : trim name = name) :
    switchKind name = .ok k ↔ name ≠ [] ∧ k = .switchTo { name := String.ofList name } := by
  simp only [switchKind, hname, List.isEmpty_iff]
  exact ite_eq_ok_iff

theorem delayKind_eq_ok_iff {value : List Char} {k : ActionKind} (hvalue : trim value = value) :
    delayKind value = .ok k ↔ ∃ ms : UInt64, Numeral value ms.toNat ∧ k = .delay ms := by
  simp only [delayKind, hvalue, ← Text.readWord?_eq_some_iff]
  cases Text.readWord? value with
  | none => exact ⟨nofun, nofun⟩
  | some ms => simp [eq_comm]

theorem delayKind_eq_error {value : List Char} (hvalue : trim value = value)
    (h : ∀ n, Numeral value n → UInt64.size ≤ n) :
    delayKind value = .error (.invalidDelay (String.ofList value)) := by
  simp only [delayKind, hvalue, Text.readWord?_eq_none h]

theorem textKind_eq_ok_iff {text : List Char} {k : ActionKind} :
    textKind text = .ok k ↔ text ≠ [] ∧ k = .typeText (String.ofList text) := by
  simp only [textKind, List.isEmpty_iff]
  exact ite_eq_ok_iff

theorem inputKind_eq_ok_iff {description : List Char} {k : ActionKind} :
    inputKind description = .ok k ↔
      trim description ≠ [] ∧ k = .typeText (String.ofList (trim description)) := by
  simp only [inputKind, List.isEmpty_iff]
  exact ite_eq_ok_iff

/-- A shortcut presses a key. -/
theorem exists_of_shortcutKind {s : List Char} {k : ActionKind} (h : shortcutKind s = .ok k) :
    ∃ key modifiers, k = .keyPress key modifiers := by
  unfold shortcutKind at h
  cases hs : shortcut s with
  | error e => rw [hs] at h; exact nomatch h
  | ok p => rw [hs] at h; exact ⟨p.1, p.2, (Except.ok.inj h).symm⟩

/-- **What an instruction does tells its form.** -/
theorem form_of_kind {raw description : List Char} {k : ActionKind}
    (h : kind raw description = .ok k) :
    (∃ name, name ≠ [] ∧ ValueForm switchStart raw name ∧
      k = .switchTo { name := String.ofList name }) ∨
    (∃ value, ∃ ms : UInt64, ValueForm delayStart raw value ∧ Numeral value ms.toNat ∧
      k = .delay ms) ∨
    (∃ text, text ≠ [] ∧ (TextForm raw text ∨ InputForm raw ∧ text = trim description) ∧
      k = .typeText (String.ofList text)) ∨
    ∃ key modifiers, k = .keyPress key modifiers := by
  rcases kind_cases raw description with
    ⟨name, hform⟩ | ⟨value, hform⟩ | ⟨text, hform⟩ | hform | hshortcut
  · rw [kind_of_switchForm _ hform, switchKind_eq_ok_iff hform.trim_eq] at h
    exact .inl ⟨name, h.1, hform, h.2⟩
  · rw [kind_of_delayForm _ hform, delayKind_eq_ok_iff hform.trim_eq] at h
    obtain ⟨ms, hms, hk⟩ := h
    exact .inr (.inl ⟨value, ms, hform, hms, hk⟩)
  · rw [kind_of_textForm _ hform, textKind_eq_ok_iff] at h
    exact .inr (.inr (.inl ⟨text, h.1, .inl hform, h.2⟩))
  · rw [kind_of_inputForm _ hform, inputKind_eq_ok_iff] at h
    exact .inr (.inr (.inl ⟨_, h.1, .inr ⟨hform, rfl⟩, h.2⟩))
  · exact .inr (.inr (.inr (exists_of_shortcutKind (hshortcut.symm.trans h))))

section Read

variable {raw description : List Char}

theorem kind_eq_switchTo_iff {target : Target} :
    kind raw description = .ok (.switchTo target) ↔
      ∃ name, name ≠ [] ∧ ValueForm switchStart raw name ∧
        target = ⟨none, String.ofList name⟩ := by
  constructor
  · intro h
    rcases form_of_kind h with
      ⟨name, hne, hform, hk⟩ | ⟨_, _, -, -, hk⟩ | ⟨_, -, -, hk⟩ | ⟨_, _, hk⟩
    · exact ⟨name, hne, hform, ActionKind.switchTo.inj hk⟩
    all_goals exact nomatch hk
  · rintro ⟨name, hne, hform, rfl⟩
    rw [kind_of_switchForm _ hform]
    exact (switchKind_eq_ok_iff hform.trim_eq).mpr ⟨hne, rfl⟩

theorem kind_eq_delay_iff {ms : UInt64} :
    kind raw description = .ok (.delay ms) ↔
      ∃ value, ValueForm delayStart raw value ∧ Numeral value ms.toNat := by
  constructor
  · intro h
    rcases form_of_kind h with
      ⟨_, -, -, hk⟩ | ⟨value, ms', hform, hms, hk⟩ | ⟨_, -, -, hk⟩ | ⟨_, _, hk⟩
    · exact nomatch hk
    · obtain rfl := ActionKind.delay.inj hk
      exact ⟨value, hform, hms⟩
    all_goals exact nomatch hk
  · rintro ⟨value, hform, hms⟩
    rw [kind_of_delayForm _ hform]
    exact (delayKind_eq_ok_iff hform.trim_eq).mpr ⟨ms, hms, rfl⟩

theorem kind_eq_typeText_iff {text : String} :
    kind raw description = .ok (.typeText text) ↔
      text ≠ "" ∧ (TextForm raw text.toList ∨
        InputForm raw ∧ text.toList = trim description) := by
  constructor
  · intro h
    rcases form_of_kind h with
      ⟨_, -, -, hk⟩ | ⟨_, _, -, -, hk⟩ | ⟨cs, hne, hform, hk⟩ | ⟨_, _, hk⟩
    · exact nomatch hk
    · exact nomatch hk
    · obtain rfl := ActionKind.typeText.inj hk
      rw [String.toList_ofList]
      exact ⟨mt String.ofList_eq_empty_iff.mp hne, hform⟩
    · exact nomatch hk
  · rintro ⟨hne, hform | ⟨hform, htext⟩⟩
    · rw [kind_of_textForm _ hform, textKind_eq_ok_iff, String.ofList_toList]
      exact ⟨mt String.toList_eq_nil_iff.mp hne, rfl⟩
    · rw [kind_of_inputForm _ hform, inputKind_eq_ok_iff, ← htext, String.ofList_toList]
      exact ⟨mt String.toList_eq_nil_iff.mp hne, rfl⟩

end Read

/-- What the action of an instruction does. -/
def parsed (raw description : String) : Except Error ActionKind :=
  (parse raw description).map Action.kind

theorem parsed_eq (raw description : String) :
    parsed raw description = kind raw.toList description.toList := by
  unfold parsed parse
  cases kind raw.toList description.toList <;> rfl

/-- **What is read from the forms, and only from them.** A switch has the form of a switch with a
name, and without a name it is refused. A delay has the form of a delay with a numeral that fits, and
with anything else it is refused. A text is a literal one, which is kept as it is, or the trimmed
description behind the words for it. -/
theorem parse_forms (raw description : String) :
    (∀ target, parsed raw description = .ok (.switchTo target) ↔
      ∃ name, name ≠ [] ∧ ValueForm switchStart raw.toList name ∧
        target = ⟨none, String.ofList name⟩) ∧
    (ValueForm switchStart raw.toList [] →
      parsed raw description = .error .emptyApplicationName) ∧
    (∀ ms, parsed raw description = .ok (.delay ms) ↔
      ∃ value, ValueForm delayStart raw.toList value ∧ Numeral value ms.toNat) ∧
    (∀ value, ValueForm delayStart raw.toList value →
      (∀ n, Numeral value n → parsed raw description =
        if n < UInt64.size then .ok (.delay (.ofNat n))
        else .error (.invalidDelay (String.ofList value))) ∧
      ((∀ n, ¬ Numeral value n) →
        parsed raw description = .error (.invalidDelay (String.ofList value)))) ∧
    (∀ text, parsed raw description = .ok (.typeText text) ↔
      text ≠ "" ∧ (TextForm raw.toList text.toList ∨
        InputForm raw.toList ∧ text.toList = trim description.toList)) := by
  rw [parsed_eq]
  refine ⟨fun _ => kind_eq_switchTo_iff, fun hform => ?_, fun _ => kind_eq_delay_iff,
    fun value hform => ⟨fun n hn => ?_, fun hnone => ?_⟩, fun _ => kind_eq_typeText_iff⟩
  · rw [kind_of_switchForm _ hform]
    rfl
  · split
    · next hlt =>
      refine kind_eq_delay_iff.mpr ⟨value, hform, ?_⟩
      rwa [UInt64.toNat_ofNat_of_lt' hlt]
    · next hge =>
      rw [kind_of_delayForm _ hform]
      exact delayKind_eq_error hform.trim_eq fun m hm => hn.unique hm ▸ Nat.not_lt.mp hge
  · rw [kind_of_delayForm _ hform]
    exact delayKind_eq_error hform.trim_eq fun m hm => absurd hm (hnone m)

end KeyPlan.Instruction
